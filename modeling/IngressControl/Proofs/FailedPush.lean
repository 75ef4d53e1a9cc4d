import IngressControl.Proofs.SurfaceInStep

/-!
# What becomes of a failed push

When a push fails, nobody knows how much of it was taken. A reconciler remembers that by setting its
base to the empty configuration, so that the base is no longer the last applied one: the next
snapshot, even an equal one, is then pushed again, and in full.

The empty configuration says two things, though. It is also the base of a reconciler whose surface
took it, and of one that never pushed anything. When the last applied configuration is empty too, the
base is in sync with it in spite of the failure, and if the next snapshot is empty again it has
nothing to do. `failedPush_resent_iff` says that this is the only way to forget a failed push, and what
stands behind an answer that nothing had to be done.
-/

namespace IngressControl.Reconciler

variable {σ : Type} {c : Collaborators σ} {settings : ReconcilerSettings} {snapshot : Snapshot}

/-- What an attempt at the control surface hands over, and in the place of what. -/
def attempt? : Action → Option (Configuration × Configuration)
  | .configure _ new old => some (new, old)
  | _ => none

/-- The attempts at the control surface in a call. -/
def Call.attempts (k : Call σ) : List (Configuration × Configuration) :=
  k.actions.filterMap attempt?

/-! ## One reconciliation -/

section

variable {r r' : Reconciler} {s s' s₁ s₂ s₃ : Session σ} {o : Outcome}

/-- All attempts of a push are alike, and there is at least one. -/
structure Attempts (new old : Configuration) (attempts : List (Configuration × Configuration)) :
    Prop where
  once : attempts ≠ []
  alike : ∀ a ∈ attempts, a = (new, old)

/-- What a reconciliation hands to the control surface, and what it remembers of that. -/
inductive PushStep (r : Reconciler) (snapshot : Snapshot) :
    List (Configuration × Configuration) → Applied → OutcomeKind → Prop
  /-- Nothing was applied. -/
  | stopped {kind : OutcomeKind} (notApplied : kind.isApplied = false) :
      PushStep r snapshot [] r.applied kind
  | unchanged (equal : r.isUnchanged snapshot = true) :
      PushStep r snapshot [] ⟨some snapshot, r.applied.dynamic⟩ .noChange
  | taken {attempts : List (Configuration × Configuration)}
      (differs : r.isUnchanged snapshot = false)
      (pushes : Attempts snapshot.structural r.applied.dynamic attempts) :
      PushStep r snapshot attempts ⟨some snapshot, snapshot.structural⟩ .success
  | untaken {attempts : List (Configuration × Configuration)}
      (differs : r.isUnchanged snapshot = false)
      (pushes : Attempts snapshot.structural r.applied.dynamic attempts) :
      PushStep r snapshot attempts ⟨some snapshot, .empty⟩ .dynamicPushFailed

/-- Up to its push a reconciliation leaves the control surface alone. -/
theorem attempt?_preparing (a : Action) (preparing : ofPreparation a = true) : attempt? a = none := by
  cases a with
  | configure time new old => simp [ofPreparation, Session.ofReload] at preparing
  | _ => rfl

theorem prepared_silent {applied : Option Snapshot} {reloaded : Bool}
    (sync : (s.observeCertificates snapshot).syncMaterial c settings.store applied snapshot =
      (s₁, .ok ()))
    (prepared : Prepared c settings r snapshot s₁ reloaded s₂) : Session.Sees attempt? s s₂ [] :=
  (sync_sees_nothing attempt?_preparing sync).trans (prepared.sees_nothing attempt?_preparing)

theorem pushing_attempts {reloaded : Bool} {e : Except ControlError Unit} {new old : Configuration}
    {applied : Option Snapshot} {figures : List Action}
    (silent : figures.filterMap attempt? = [])
    (sync : (s.observeCertificates snapshot).syncMaterial c settings.store applied snapshot =
      (s₁, .ok ()))
    (prepared : Prepared c settings r snapshot s₁ reloaded s₂)
    (push : (r.beforePush settings s₂).push c settings.backoff new old = (s₃, e)) :
    ∃ attempts, Session.Sees attempt? s { s₃ with actions := s₃.actions ++ figures } attempts ∧
      Attempts new old attempts := by
  obtain ⟨_, times, once, sees⟩ := push_sees (f := attempt?) rfl silent push
  refine ⟨_, (prepared_silent sync prepared).trans sees, ?_⟩
  have attempts : (times.map fun time => Action.configure time new old).filterMap attempt? =
      times.map fun _ => (new, old) := by
    rw [List.filterMap_map]
    exact congrFun List.filterMap_eq_map times
  rw [attempts]
  exact ⟨by simpa using once, by simp⟩

theorem course_attempts (h : Course c settings r s snapshot r' s' o) :
    ∃ attempts, Session.Sees attempt? s s' attempts ∧
      PushStep r snapshot attempts r'.applied o.kind := by
  cases h with
  | stale old => exact ⟨[], .of_same rfl, .stopped rfl⟩
  | unsynced news sync =>
    exact ⟨[], (sync_sees_nothing attempt?_preparing sync).record rfl,
      .stopped (notApplied_of_unsynced sync)⟩
  | unchanged news sync same =>
    exact ⟨[], sync_sees_nothing attempt?_preparing sync, .unchanged same⟩
  | unloaded news sync calls load =>
    obtain ⟨_, course, _⟩ := Session.reloadAndReport_error load
    exact ⟨[], (sync_sees_nothing attempt?_preparing sync).trans
      (load_sees_nothing attempt?_preparing load), .stopped (notApplied_of_unloaded course)⟩
  | pushed news sync differs prepared push =>
    have silent : (r.pushFigures snapshot).filterMap attempt? = [] := rfl
    obtain ⟨attempts, sees, pushes⟩ := pushing_attempts silent sync prepared push
    exact ⟨attempts, sees, .taken differs pushes⟩
  | @unpushed s₁ s₂ s₃ reloaded e news sync differs prepared push =>
    have silent : (r.pushFigures snapshot ++ [pushWarning e]).filterMap attempt? = [] := rfl
    obtain ⟨attempts, sees, pushes⟩ := pushing_attempts silent sync prepared push
    exact ⟨attempts, sees, .untaken differs pushes⟩

end

theorem callOf_attempts (c : Collaborators σ) (settings : ReconcilerSettings)
    (p : Reconciler × Session σ) (x : Snapshot) :
    PushStep p.1 x (callOf c settings p x).attempts (callOf c settings p x).after.1.applied
      (callOf c settings p x).outcome.kind := by
  obtain ⟨attempts, sees, step⟩ := course_attempts (callOf_course c settings p x)
  have same : (callOf c settings p x).attempts = attempts := Call.filterMap_actions sees
  rwa [same]

/-! ## Whole runs -/

/-- The last call that pushed. -/
def lastPush (calls : List (Call σ)) : Option (Call σ) :=
  (calls.filter fun k => k.attempts ≠ []).getLast?

/-- What the surface is known to hold behind some calls: what it took last, unless it has failed to
take something since. -/
def knownHeld (calls : List (Call σ)) : Configuration :=
  match lastPush calls with
  | some k => if k.outcome.kind = .success then k.snapshot.structural else .empty
  | none => .empty

variable {calls : List (Call σ)} {k : Call σ} {xs : List Snapshot} {s₀ : Session σ}

theorem lastPush_snoc (calls : List (Call σ)) (k : Call σ) :
    lastPush (calls ++ [k]) = if k.attempts ≠ [] then some k else lastPush calls := by
  rw [lastPush, lastPush, List.filter_append]
  by_cases h : k.attempts = []
  · simp [h]
  · simp [h]

/-- The call that pushed last succeeded or failed to push, and the base tells which. -/
structure Remembered (handed : List Configuration) (calls : List (Call σ)) (applied : Applied) :
    Prop where
  known : applied.configuration ∈ Configuration.empty :: handed
  base : applied.dynamic = knownHeld calls
  ended : ∀ k, lastPush calls = some k →
    k.outcome.kind = .success ∨ k.outcome.kind = .dynamicPushFailed

theorem Remembered.step {handed : List Configuration} {r : Reconciler}
    (h : Remembered handed calls r.applied) (new : k.snapshot.structural ∈ handed)
    (step : PushStep r k.snapshot k.attempts k.after.1.applied k.outcome.kind) :
    Remembered handed (calls ++ [k]) k.after.1.applied := by
  have present : k.snapshot.structural ∈ Configuration.empty :: handed := List.mem_cons_of_mem _ new
  -- a call without a push leaves the last one as it is
  have quiet : k.attempts = [] → lastPush (calls ++ [k]) = lastPush calls := by
    intro none
    rw [lastPush_snoc, if_neg (by simp [none])]
  have pushed : k.attempts ≠ [] → lastPush (calls ++ [k]) = some k := by
    intro some
    rw [lastPush_snoc, if_pos some]
  generalize hattempts : k.attempts = attempts at step
  generalize hkind : k.outcome.kind = kind at step
  generalize k.after.1.applied = applied at step
  cases step with
  | stopped notApplied =>
    have same := quiet hattempts
    exact ⟨h.known, by rw [knownHeld, same]; exact h.base, by rw [same]; exact h.ended⟩
  | unchanged equal =>
    have same := quiet hattempts
    exact ⟨present, by rw [knownHeld, same]; exact h.base, by rw [same]; exact h.ended⟩
  | taken differs pushes =>
    have last := pushed (by rw [hattempts]; exact pushes.once)
    refine ⟨present, by rw [knownHeld, last]; simp [hkind], fun j hj => ?_⟩
    rw [last] at hj
    cases hj
    exact Or.inl hkind
  | untaken differs pushes =>
    have last := pushed (by rw [hattempts]; exact pushes.once)
    refine ⟨present, by rw [knownHeld, last]; simp [hkind], fun j hj => ?_⟩
    rw [last] at hj
    cases hj
    exact Or.inr hkind

theorem remembered_reached (c : Collaborators σ) (settings : ReconcilerSettings) (s₀ : Session σ)
    {handed : List Configuration} (new : ∀ x ∈ xs, x.structural ∈ handed) :
    Remembered handed (history c settings xs (start, s₀))
      (reached c settings xs (start, s₀)).1.applied := by
  refine history_induction (P := fun done q => Remembered handed done q.1.applied) ?_ xs ?_
  · exact ⟨List.mem_cons_self, rfl, by simp [lastPush]⟩
  · intro done q x hx h
    have step := callOf_attempts c settings q x
    exact h.step (k := callOf c settings q x) (new x hx) step

section

variable {handed : List Configuration} {r : Reconciler} {kind : OutcomeKind} {applied : Applied}
  {attempts : List (Configuration × Configuration)}

/-- With the empty base there is nothing to do just when nothing was routed before and nothing is to be
routed now. -/
theorem isUnchanged_iff_of_empty (distinguished : Distinguished handed)
    (known : r.applied.configuration ∈ Configuration.empty :: handed)
    (new : snapshot.structural ∈ handed) (base : r.applied.dynamic = .empty) :
    r.isUnchanged snapshot = true ↔ (r.reason snapshot).calls = false ∧
      r.applied.configuration = .empty ∧ snapshot.structural = .empty := by
  constructor
  · intro unchanged
    have same := dynamic_of_unchanged distinguished known new unchanged
    simp only [isUnchanged, inSync, Bool.and_eq_true, Bool.not_eq_true', decide_eq_true_eq]
      at unchanged
    exact ⟨unchanged.1.1, by rw [← unchanged.1.2, base], by rw [← same, base]⟩
  · rintro ⟨calls, last, empty⟩
    simp [isUnchanged, inSync, calls, base, last, empty]

/-- Behind a failed push, a call that is applied pushes in full or has nothing to do. -/
theorem Remembered.resent_iff (h : Remembered handed calls r.applied)
    (distinguished : Distinguished handed) (new : snapshot.structural ∈ handed)
    (step : PushStep r snapshot attempts applied kind) (last : lastPush calls = some k)
    (failed : k.outcome.kind = .dynamicPushFailed) (isApplied : kind.isApplied = true) :
    (kind ≠ .noChange ∧ Attempts snapshot.structural .empty attempts) ↔
      ¬((r.reason snapshot).calls = false ∧ r.applied.configuration = .empty ∧
        snapshot.structural = .empty) := by
  have base : r.applied.dynamic = .empty := by
    rw [h.base, knownHeld, last]
    simp [failed]
  rw [← isUnchanged_iff_of_empty distinguished h.known new base, ← base]
  -- the base is empty, so a push against the base is one in full
  cases step with
  | stopped notApplied => simp [notApplied] at isApplied
  | unchanged equal => simp [equal]
  | taken differs pushes => simp [differs, pushes]
  | untaken differs pushes => simp [differs, pushes]

/-- A call that has nothing to do stands behind a push of the same configuration, or the configuration
is empty. -/
theorem Remembered.of_noChange (h : Remembered handed calls r.applied)
    (distinguished : Distinguished handed) (new : snapshot.structural ∈ handed)
    (step : PushStep r snapshot attempts applied kind) (noChange : kind = .noChange) :
    snapshot.structural = r.applied.configuration ∧
      ((∃ j, lastPush calls = some j ∧ j.outcome.kind = .success ∧
          j.snapshot.structural = r.applied.configuration) ∨
        (r.applied.configuration = .empty ∧
          ∀ j, lastPush calls = some j → j.outcome.kind = .dynamicPushFailed)) := by
  cases step with
  | stopped notApplied =>
    rw [noChange] at notApplied
    simp [OutcomeKind.isApplied] at notApplied
  | taken differs pushes => simp at noChange
  | untaken differs pushes => simp at noChange
  | unchanged equal =>
    have same := dynamic_of_unchanged distinguished h.known new equal
    have inSync : r.applied.dynamic = r.applied.configuration := by
      simp only [isUnchanged, Reconciler.inSync, Bool.and_eq_true, decide_eq_true_eq] at equal
      exact equal.1.2
    refine ⟨same.symm.trans inSync, ?_⟩
    have base := h.base
    rw [inSync, knownHeld] at base
    cases last : lastPush calls with
    | none =>
      rw [last] at base
      exact Or.inr ⟨base, by simp⟩
    | some j =>
      rw [last] at base
      dsimp only at base
      rcases h.ended j last with success | failed
      · rw [if_pos success] at base
        exact Or.inl ⟨j, rfl, success, base.symm⟩
      · rw [if_neg (by simp [failed])] at base
        exact Or.inr ⟨base, fun i hi => by cases hi; exact failed⟩

end

/-- **When a failed push is made up for.** An applied call behind a failed push makes a full push just
when it has anything to do: when a reload is called for, or the last applied configuration or the new
one routes something. And a call that finds nothing to do has the last applied configuration before
it, which the last push has put in place or which is empty; in that case the last push may have
failed as well. -/
theorem failedPush_resent_iff {before later : List (Call σ)}
    (run : history c settings xs (start, s₀) = before ++ k :: later)
    (distinguished : Distinguished (configurations xs)) :
    (∀ j, lastPush before = some j → j.outcome.kind = .dynamicPushFailed →
        k.outcome.kind.isApplied = true →
        ((k.outcome.kind ≠ .noChange ∧ Attempts k.snapshot.structural .empty k.attempts) ↔
          ¬((k.before.1.reason k.snapshot).calls = false ∧
            k.before.1.applied.configuration = .empty ∧ k.snapshot.structural = .empty))) ∧
      (k.outcome.kind = .noChange → k.snapshot.structural = k.before.1.applied.configuration ∧
        ((∃ j, lastPush before = some j ∧ j.outcome.kind = .success ∧
            j.snapshot.structural = k.before.1.applied.configuration) ∨
          (k.before.1.applied.configuration = .empty ∧
            ∀ j, lastPush before = some j → j.outcome.kind = .dynamicPushFailed))) := by
  obtain ⟨ys, x, zs, rfl, rfl, rfl⟩ := history_split run
  have new : ∀ y ∈ ys ++ x :: zs, y.structural ∈ configurations (ys ++ x :: zs) :=
    fun y hy => List.mem_map_of_mem hy
  have remembered := remembered_reached c settings s₀ fun y hy => new y (List.mem_append_left _ hy)
  have step := callOf_attempts c settings (reached c settings ys (start, s₀)) x
  constructor
  · intro j last failed isApplied
    exact remembered.resent_iff distinguished (new x (by simp)) step last failed isApplied
  · exact remembered.of_noChange distinguished (new x (by simp)) step

/-- **Every failed push is made up for in a run whose snapshots all route something.** -/
theorem failedPush_resent {before later : List (Call σ)} {j : Call σ}
    (run : history c settings xs (start, s₀) = before ++ k :: later)
    (distinguished : Distinguished (configurations xs))
    (routes : ∀ x ∈ xs, x.structural ≠ .empty) (last : lastPush before = some j)
    (failed : j.outcome.kind = .dynamicPushFailed) (isApplied : k.outcome.kind.isApplied = true) :
    k.outcome.kind ≠ .noChange ∧ Attempts k.snapshot.structural .empty k.attempts := by
  obtain ⟨ys, x, zs, rfl, rfl, rfl⟩ := history_split run
  have new : ∀ y ∈ ys ++ x :: zs, y.structural ∈ configurations (ys ++ x :: zs) :=
    fun y hy => List.mem_map_of_mem hy
  have remembered := remembered_reached c settings s₀ fun y hy => new y (List.mem_append_left _ hy)
  have step := callOf_attempts c settings (reached c settings ys (start, s₀)) x
  refine (remembered.resent_iff distinguished (new x (by simp)) step last failed isApplied).mpr ?_
  exact fun nothing => routes x (by simp) nothing.2.2

/-- The second push is refused. -/
def refusedPush : Script where
  pushes := [none, some (.other "refused")]

/-- The calls of a backend and of its removal, whose push is refused. -/
def droppedCalls : List (Call Script) :=
  history Script.collaborators sampleSettings droppedBackend (start, opening refusedPush)

/-- The call behind them, of a snapshot that routes nothing either. -/
def callAfterDropped : Call Script :=
  callOf Script.collaborators sampleSettings
    (reached Script.collaborators sampleSettings droppedBackend (start, opening refusedPush))
    nothingMore

theorem droppedCalls_run : history Script.collaborators sampleSettings
    (droppedBackend ++ [nothingMore]) (start, opening refusedPush) =
      droppedCalls ++ callAfterDropped :: [] :=
  history_append droppedBackend [nothingMore] _

/-- The push of the second call has failed, and the third call has nothing to do. -/
theorem droppedCalls_kinds :
    (lastPush droppedCalls).map (·.outcome.kind) = some .dynamicPushFailed ∧
      callAfterDropped.outcome.kind = .noChange := by
  decide +kernel

/-- The law says of this run that the third call makes up for the failed push just when it has
anything to do. -/
theorem droppedCalls_resent_iff :
    (∃ j, lastPush droppedCalls = some j ∧ j.outcome.kind = .dynamicPushFailed) ∧
      callAfterDropped.outcome.kind.isApplied = true ∧
      ((callAfterDropped.outcome.kind ≠ .noChange ∧
          Attempts callAfterDropped.snapshot.structural .empty callAfterDropped.attempts) ↔
        ¬((callAfterDropped.before.1.reason callAfterDropped.snapshot).calls = false ∧
          callAfterDropped.before.1.applied.configuration = .empty ∧
          callAfterDropped.snapshot.structural = .empty)) := by
  obtain ⟨j, last, failed⟩ := Option.map_eq_some_iff.mp droppedCalls_kinds.1
  have isApplied : callAfterDropped.outcome.kind.isApplied = true := by
    rw [droppedCalls_kinds.2]
    rfl
  exact ⟨⟨j, last, failed⟩, isApplied, (failedPush_resent_iff droppedCalls_run
    droppedBackend_distinguished).1 j last failed isApplied⟩

/-- **A failed push can be forgotten.** The push that should have removed the backend was refused, and
the next call answers that nothing had to be done. -/
theorem failedPush_forgotten : ¬∀ (script : Script) (xs : List Snapshot)
      (before later : List (Call Script)) (j k : Call Script),
    history Script.collaborators sampleSettings xs (start, opening script) = before ++ k :: later →
    Distinguished (configurations xs) →
    lastPush before = some j → j.outcome.kind = .dynamicPushFailed →
    k.outcome.kind.isApplied = true →
      k.outcome.kind ≠ .noChange ∧ Attempts k.snapshot.structural .empty k.attempts := by
  intro law
  obtain ⟨j, last, failed⟩ := Option.map_eq_some_iff.mp droppedCalls_kinds.1
  have resent := law refusedPush (droppedBackend ++ [nothingMore]) droppedCalls [] j callAfterDropped
    droppedCalls_run droppedBackend_distinguished last failed (by rw [droppedCalls_kinds.2]; rfl)
  exact resent.1 droppedCalls_kinds.2

end IngressControl.Reconciler
