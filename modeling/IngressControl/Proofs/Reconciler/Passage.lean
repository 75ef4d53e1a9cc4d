import IngressControl.Proofs.Reconciler.History

/-!
# Passages through the stages of a reconciliation

What a reconciliation does to the world outside of it falls into stages with a fixed order. A `Passage`
is a way through some planned stages: those that were reached, each one run in the session that the one
before it left, and the failure that it ended with. It goes on behind a stage that has succeeded; only
behind a push it goes on in any case, as the figures are recorded whether or not the push was taken.

Passages are put together at their ends (`append`, `append_of_failed`), and what they show follows from
what one stage shows (`Runs.sees`, `Runs.last?`).
-/

namespace IngressControl

/-- A stage of a reconciliation. -/
inductive Stage where
  | expiry
  | info
  | certificate
  | dhParam
  | render
  | dryRun
  | write
  | signal
  | push
  | dropSeries
  | setEndpoints
deriving DecidableEq

namespace Stage

/-- All stages in their order. -/
def all : List Stage :=
  [.expiry, .info, .certificate, .dhParam, .render, .dryRun, .write, .signal, .push, .dropSeries,
    .setEndpoints]

/-- The stages up to this one. -/
def upTo (n : Stage) : List Stage := all.takeWhile (· ≠ n) ++ [n]

/-- The stage that an action belongs to. Counting reloads, sending events and telling what goes on are
none. -/
def of? : Action → Option Stage
  | .setCertificateExpiry _ => some .expiry
  | .setCertificateInfo _ => some .info
  | .storeCertificate _ => some .certificate
  | .storeDhParam _ => some .dhParam
  | .render _ => some .render
  | .beginDryRun _ => some .dryRun
  | .writeArtifact _ => some .write
  | .reload => some .signal
  | .configure _ _ _ => some .push
  | .dropSeries _ => some .dropSeries
  | .setBackendEndpoints _ => some .setEndpoints
  | _ => none

/-- The stages with the push as often as it was tried. -/
def tried (attempts : Nat) (ns : List Stage) : List Stage :=
  ns.flatMap fun n => List.replicate (if n = .push then attempts else 1) n

theorem tried_cons (attempts : Nat) (n : Stage) (ns : List Stage) :
    tried attempts (n :: ns) =
      List.replicate (if n = .push then attempts else 1) n ++ tried attempts ns :=
  List.flatMap_cons

theorem tried_of_notMem {attempts : Nat} {ns : List Stage} (noPush : .push ∉ ns) :
    tried attempts ns = ns := by
  induction ns with
  | nil => rfl
  | cons n ns ih =>
    obtain ⟨notHere, notThere⟩ := not_or.mp (List.mem_cons.not.mp noPush)
    rw [tried_cons, if_neg (Ne.symm notHere), ih notThere]
    rfl

theorem mem_of_mem_tried {attempts : Nat} {n : Stage} {ns : List Stage}
    (h : n ∈ tried attempts ns) : n ∈ ns := by
  obtain ⟨m, listed, shown⟩ := List.mem_flatMap.mp h
  rw [List.eq_of_mem_replicate shown]
  exact listed

theorem count_tried (attempts : Nat) {n : Stage} {ns : List Stage} (once : ns.Nodup) (listed : n ∈ ns)
    (noPush : n ≠ .push) : (tried attempts ns).count n = 1 := by
  induction ns with
  | nil => cases listed
  | cons m ns ih =>
    obtain ⟨new, others⟩ := List.nodup_cons.mp once
    rw [tried_cons, List.count_append, List.count_replicate]
    by_cases here : m = n
    · have later : (tried attempts ns).count n = 0 :=
        List.count_eq_zero.mpr fun h => new (here ▸ mem_of_mem_tried h)
      simp [here, noPush, later]
    · have there := (List.mem_cons.mp listed).resolve_left (Ne.symm here)
      simp [here, ih others there]

/-- What keeps to the order of the stages and ends with one of them does not go beyond it. -/
theorem sublist_upTo {ns : List Stage} {n : Stage} (ordered : ns.Sublist all)
    (last : ns.getLast? = some n) : ns.Sublist n.upTo := by
  obtain ⟨front, rfl⟩ := List.getLast?_eq_some_iff.mp last
  obtain ⟨before, behind, whole, earlier, rest⟩ := List.append_sublist_iff.mp ordered
  -- the last stage is in the second part, so it stands behind all of the first one
  have once : (before ++ behind).Nodup := whole ▸ (by decide : all.Nodup)
  have apart : ∀ m ∈ before, decide (m ≠ n) = true := by
    intro m hm
    have differs := (List.nodup_append.mp once).2.2 m hm n (rest.subset (List.mem_singleton.mpr rfl))
    simpa using differs
  rw [upTo, whole, List.takeWhile_append_of_pos apart, List.append_assoc]
  exact earlier.append (List.sublist_append_right _ _)

end Stage

/-- The stage that an outcome of this kind stands behind. -/
def OutcomeKind.last? : OutcomeKind → Option Stage
  | .staleSnapshot => none
  | .noChange => some .info
  | .certificateWriteFailed => some .certificate
  | .dhParamWriteFailed => some .dhParam
  | .renderFailed => some .render
  | .validationFailed => some .dryRun
  | .artifactWriteFailed => some .write
  | .reloadSignalFailed => some .signal
  | .success => some .setEndpoints
  | .dynamicPushFailed => some .setEndpoints

/-- The stages that an outcome of this kind can stand behind. -/
def OutcomeKind.stages (kind : OutcomeKind) : List Stage := (kind.last?.map Stage.upTo).getD []

example : OutcomeKind.dhParamWriteFailed.stages = [.expiry, .info, .certificate, .dhParam] := by decide

/-- The failure of a result. -/
def failureOf {ε α : Type} (as : ε → Failure) : Except ε α → Option Failure
  | .ok _ => none
  | .error e => some (as e)

namespace Session

variable {σ : Type}

/-- Nothing was done from one session to another but to wait and to tell what goes on. -/
structure Notes (s s' : Session σ) : Prop where
  tree : s'.tree = s.tree
  world : s'.world = s.world
  silent : Sees Stage.of? s s' []

theorem Notes.refl (s : Session σ) : s.Notes s := ⟨rfl, rfl, .of_same rfl⟩

theorem Notes.trans {s s₁ s' : Session σ} (h : s.Notes s₁) (h' : s₁.Notes s') : s.Notes s' :=
  ⟨h'.tree.trans h.tree, h'.world.trans h.world, h.silent.trans h'.silent⟩

theorem Notes.of_actions (s : Session σ) {as : List Action} (silent : as.filterMap Stage.of? = []) :
    s.Notes { s with actions := s.actions ++ as } :=
  ⟨rfl, rfl, as, rfl, silent⟩

end Session

namespace Reconciler

variable {σ : Type}

/-- A stage that is run from one session to another, and the failure that it ends with. The artifact is
the one that the rendering gives and the dry run and the write are about. -/
inductive Runs (c : Collaborators σ) (settings : ReconcilerSettings) (r : Reconciler)
    (snapshot : Snapshot) (artifact : String) :
    Stage → Session σ → Session σ → Option Failure → Prop
  | expiry {s : Session σ} : Runs c settings r snapshot artifact .expiry s
      (s.record (.setCertificateExpiry snapshot.servers)) none
  | info {s : Session σ} : Runs c settings r snapshot artifact .info s
      (s.record (.setCertificateInfo snapshot.servers)) none
  | certificate {s s' : Session σ} {x : Certificate} {result : Except Failure Unit}
      (has : snapshot.defaultCertificate = some x)
      (run : s.syncCertificate c settings.store x = (s', result)) :
      Runs c settings r snapshot artifact .certificate s s' (failureOf id result)
  | dhParam {s s' : Session σ} {x : DhParam} {result : Except Failure Unit}
      (has : snapshot.dhParam = some x)
      (run : s.syncDhParam c settings.store x = (s', result)) :
      Runs c settings r snapshot artifact .dhParam s s' (failureOf id result)
  | render {s s' : Session σ} {result : Except RenderError String}
      (run : s.renderArtifact c settings snapshot = (s', result))
      (gives : ∀ text, result = .ok text → text = artifact) :
      Runs c settings r snapshot artifact .render s s' (failureOf .render result)
  | dryRun {s s' : Session σ} {result : Except CommandError Unit}
      (run : s.dryRun c artifact = (s', result)) :
      Runs c settings r snapshot artifact .dryRun s s' (failureOf .validation result)
  | write {s s' : Session σ} {result : Except IoError Unit}
      (run : s.replaceArtifact c settings.configFile artifact = (s', result)) :
      Runs c settings r snapshot artifact .write s s'
        (failureOf (.artifactWrite settings.configFile) result)
  | signal {s s' : Session σ} {result : Except CommandError Unit}
      (run : s.signalReload c = (s', result)) :
      Runs c settings r snapshot artifact .signal s s' (failureOf .reloadSignal result)
  | push {s s' : Session σ} {result : Except ControlError Unit}
      (run : s.push c settings.backoff snapshot.structural r.applied.dynamic = (s', result)) :
      Runs c settings r snapshot artifact .push s s' (failureOf .dynamicPush result)
  | dropSeries {s : Session σ} : Runs c settings r snapshot artifact .dropSeries s
      (s.record (.dropSeries (r.dropped snapshot))) none
  | setEndpoints {s : Session σ} : Runs c settings r snapshot artifact .setEndpoints s
      (s.record (.setBackendEndpoints snapshot.backends)) none

/-- A way through planned stages: those that were reached, the sessions at both ends, and the failure that
it ended with. Nothing is done between two stages. -/
inductive Passage (c : Collaborators σ) (settings : ReconcilerSettings) (r : Reconciler)
    (snapshot : Snapshot) (artifact : String) : (planned reached : List Stage) →
    Session σ → Session σ → Option Failure → Prop
  | done {s s' : Session σ} (notes : s.Notes s') :
      Passage c settings r snapshot artifact [] [] s s' none
  /-- A stage has failed, and those behind it are not reached. -/
  | stopped {n : Stage} {ns : List Stage} {s s₁ s₂ s' : Session σ} {e : Failure}
      (before : s.Notes s₁) (run : Runs c settings r snapshot artifact n s₁ s₂ (some e))
      (stops : n ≠ .push) (after : s₂.Notes s') :
      Passage c settings r snapshot artifact (n :: ns) [n] s s' (some e)
  /-- A stage has succeeded, or it was the push. -/
  | passed {n : Stage} {ns reached : List Stage} {s s₁ s₂ s' : Session σ} {e e' : Option Failure}
      (before : s.Notes s₁) (run : Runs c settings r snapshot artifact n s₁ s₂ e)
      (goesOn : e = none ∨ n = .push)
      (rest : Passage c settings r snapshot artifact ns reached s₂ s' e') :
      Passage c settings r snapshot artifact (n :: ns) (n :: reached) s s' (e.or e')

variable {c : Collaborators σ} {settings : ReconcilerSettings} {r : Reconciler} {snapshot : Snapshot}
  {artifact : String} {n : Stage} {planned reached ns ms : List Stage} {s s₁ s₂ s' : Session σ}
  {e : Option Failure}

/-! ## One stage -/

/-- A stage shows in its own actions: one, or for the push as many as there were attempts. -/
theorem Runs.sees (h : Runs c settings r snapshot artifact n s s' e) :
    ∃ attempts, 0 < attempts ∧
      Session.Sees Stage.of? s s' (List.replicate (if n = .push then attempts else 1) n) := by
  cases h with
  | expiry => exact ⟨1, Nat.one_pos, _, rfl, rfl⟩
  | info => exact ⟨1, Nat.one_pos, _, rfl, rfl⟩
  | @certificate _ _ x result has run =>
    cases result with
    | ok u => exact ⟨1, Nat.one_pos, _, (Session.syncCertificate_ok run).2.2, rfl⟩
    | error e => exact ⟨1, Nat.one_pos, _, (Session.syncCertificate_error run).2.2, rfl⟩
  | @dhParam _ _ x result has run =>
    cases result with
    | ok u => exact ⟨1, Nat.one_pos, _, (Session.syncDhParam_ok run).2.2, rfl⟩
    | error e => exact ⟨1, Nat.one_pos, _, (Session.syncDhParam_error run).2.2, rfl⟩
  | render run gives => exact ⟨1, Nat.one_pos, _, (Session.renderArtifact_effect run).2, rfl⟩
  | dryRun run => exact ⟨1, Nat.one_pos, _, (Session.dryRun_effect run).2, rfl⟩
  | write run => exact ⟨1, Nat.one_pos, _, (Session.replaceArtifact_effect run).2, rfl⟩
  | signal run => exact ⟨1, Nat.one_pos, _, (Session.signalReload_effect run).2, rfl⟩
  | push run =>
    obtain ⟨_, times, once, acts⟩ := Session.push_effect run
    refine ⟨times.length, List.length_pos_iff.mpr once, _, acts, ?_⟩
    rw [List.filterMap_map, if_pos rfl]
    simp [Function.comp_def, Stage.of?, List.map_const']
  | dropSeries => exact ⟨1, Nat.one_pos, _, rfl, rfl⟩
  | setEndpoints => exact ⟨1, Nat.one_pos, _, rfl, rfl⟩

/-- The kind of a failure tells the stage that it comes from. -/
theorem Runs.last? {e : Failure} (h : Runs c settings r snapshot artifact n s s' (some e))
    (stops : n ≠ .push) : e.kind.last? = some n := by
  generalize hf : some e = f at h
  cases h with
  | @certificate _ _ x result has run =>
    cases result with
    | ok u => cases hf
    | error e' =>
      cases hf
      exact congrArg OutcomeKind.last? (Session.syncCertificate_error run).1
  | @dhParam _ _ x result has run =>
    cases result with
    | ok u => cases hf
    | error e' =>
      cases hf
      exact congrArg OutcomeKind.last? (Session.syncDhParam_error run).1
  | @render _ _ result run gives => cases result <;> cases hf; rfl
  | @dryRun _ _ result run => cases result <;> cases hf; rfl
  | @write _ _ result run => cases result <;> cases hf; rfl
  | @signal _ _ result run => cases result <;> cases hf; rfl
  | push run => exact absurd rfl stops
  | expiry => cases hf
  | info => cases hf
  | dropSeries => cases hf
  | setEndpoints => cases hf

/-! ## Passages -/

namespace Passage

theorem single (run : Runs c settings r snapshot artifact n s s' e) (stops : n ≠ .push) :
    Passage c settings r snapshot artifact [n] [n] s s' e := by
  cases e with
  | none => exact .passed (.refl s) run (Or.inl rfl) (.done (.refl s'))
  | some e => exact .stopped (.refl s) run stops (.refl s')

theorem behind (before : s.Notes s₁) (h : Passage c settings r snapshot artifact ns ms s₁ s' e) :
    Passage c settings r snapshot artifact ns ms s s' e := by
  cases h with
  | done notes => exact .done (before.trans notes)
  | stopped between run stops after => exact .stopped (before.trans between) run stops after
  | passed between run goesOn rest => exact .passed (before.trans between) run goesOn rest

theorem before (h : Passage c settings r snapshot artifact ns ms s s₁ e) (after : s₁.Notes s') :
    Passage c settings r snapshot artifact ns ms s s' e := by
  induction h with
  | done notes => exact .done (notes.trans after)
  | stopped before run stops between => exact .stopped before run stops (between.trans after)
  | passed before run goesOn rest ih => exact .passed before run goesOn (ih after)

/-- Behind a passage without a failure the next one begins. -/
theorem append (h : Passage c settings r snapshot artifact planned reached s s₁ none)
    (h' : Passage c settings r snapshot artifact ns ms s₁ s' e) :
    Passage c settings r snapshot artifact (planned ++ ns) (reached ++ ms) s s' e := by
  -- the second passage begins where the plan of the first one is at its end
  generalize ended : (none : Option Failure) = f at h
  induction h with
  | done notes => exact h'.behind notes
  | stopped => cases ended
  | passed before run goesOn rest ih =>
    obtain ⟨rfl, rfl⟩ := Option.or_eq_none_iff.mp ended.symm
    exact .passed before run goesOn (ih h' rfl)

/-- Behind a failure nothing more is reached. -/
theorem append_of_failed {f : Failure}
    (h : Passage c settings r snapshot artifact planned reached s s' (some f))
    (noPush : .push ∉ planned) (ns : List Stage) :
    Passage c settings r snapshot artifact (planned ++ ns) reached s s' (some f) := by
  generalize ended : some f = e at h
  induction h with
  | done => cases ended
  | stopped before run stops after => exact .stopped before run stops after
  | passed before run goesOn rest ih =>
    obtain ⟨notHere, notThere⟩ := not_or.mp (List.mem_cons.not.mp noPush)
    -- without a push the failure is that of a later stage
    rcases goesOn with rfl | rfl
    · exact .passed before run (Or.inl rfl) (ih notThere (by simpa using ended))
    · exact absurd rfl notHere

theorem isPrefix (h : Passage c settings r snapshot artifact planned reached s s' e) :
    reached <+: planned := by
  induction h with
  | done notes => exact List.prefix_rfl
  | @stopped n ns => exact ⟨ns, rfl⟩
  | passed before run goesOn rest ih => exact List.cons_prefix_cons.mpr ⟨rfl, ih⟩

/-- A passage that does not fail reaches all that was planned. -/
theorem complete (h : Passage c settings r snapshot artifact planned reached s s' none) :
    reached = planned := by
  generalize ended : (none : Option Failure) = f at h
  induction h with
  | done notes => rfl
  | stopped => cases ended
  | passed before run goesOn rest ih =>
    rw [ih (Option.or_eq_none_iff.mp ended.symm).2.symm]

/-- Where a passage has stopped is told by the kind of its failure. -/
theorem last? {f : Failure}
    (h : Passage c settings r snapshot artifact planned reached s s' (some f))
    (noPush : .push ∉ planned) : ∃ n, reached.getLast? = some n ∧ f.kind.last? = some n := by
  generalize ended : some f = e at h
  induction h with
  | done => cases ended
  | stopped before run stops after =>
    cases ended
    exact ⟨_, rfl, run.last? stops⟩
  | passed before run goesOn rest ih =>
    obtain ⟨notHere, notThere⟩ := not_or.mp (List.mem_cons.not.mp noPush)
    rcases goesOn with rfl | rfl
    · obtain ⟨n, last, kind⟩ := ih notThere (by simpa using ended)
      exact ⟨n, by rw [List.getLast?_cons, last]; rfl, kind⟩
    · exact absurd rfl notHere

/-- The actions of a passage are those of the stages that it reached. -/
theorem sees (h : Passage c settings r snapshot artifact planned reached s s' e)
    (once : reached.Nodup) : ∃ attempts, 0 < attempts ∧
      Session.Sees Stage.of? s s' (Stage.tried attempts reached) := by
  induction h with
  | done notes => exact ⟨1, Nat.one_pos, notes.silent⟩
  | stopped before run stops after =>
    obtain ⟨attempts, some, shown⟩ := run.sees
    refine ⟨attempts, some, ?_⟩
    simpa [Stage.tried] using (before.silent.trans shown).trans after.silent
  | @passed n ns reached _ _ _ _ _ _ before run goesOn rest ih =>
    obtain ⟨new, others⟩ := List.nodup_cons.mp once
    obtain ⟨attempts, some, shown⟩ := run.sees
    obtain ⟨attempts', some', shown'⟩ := ih others
    have both := (before.silent.trans shown).trans shown'
    by_cases push : n = .push
    · -- the stages behind the push are not pushes, so they show once however often it was tried
      rw [push] at new
      have same : Stage.tried attempts reached = Stage.tried attempts' reached :=
        (Stage.tried_of_notMem new).trans (Stage.tried_of_notMem new).symm
      refine ⟨attempts, some, ?_⟩
      rw [Stage.tried_cons, same]
      exact both
    · refine ⟨attempts', some', ?_⟩
      rw [Stage.tried_cons, if_neg push]
      rw [if_neg push] at both
      exact both

end Passage

end Reconciler

end IngressControl
