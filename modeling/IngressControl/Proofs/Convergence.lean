import IngressControl.Proofs.Accounting
import IngressControl.Proofs.Recovery
import IngressControl.Proofs.StaleCalls

/-!
# Callers converge

Callers that hand in snapshots at the same time are served one by one, in an order that nobody has
chosen. The order decides which calls are stale and which ones reload the proxy. It does not decide what
is remembered in the end: as long as no failure meets the calls, that is the newest of the snapshots, or
what was remembered before when none of them is newer.

`Settled` says so of a run of any length, and `Settled.stale` and `Settled.fresh` are its two steps. It
tells no order, only which snapshots were handed in, so all orders settle alike. What the proxy has loaded
may differ between two orders; that it covers the newest snapshot in each of them is a law of all runs.
-/

namespace IngressControl

namespace Snapshot

variable {x y : Snapshot} {xs ys : List Snapshot}

/-- A snapshot is newer than a generation, if there is one. -/
def NewerThan (x : Snapshot) (generation : Option Int64) : Prop :=
  ∀ g, generation = some g → g < x.generation

/-- A snapshot of the greatest generation among some. -/
structure Newest (x : Snapshot) (xs : List Snapshot) : Prop where
  mem : x ∈ xs
  above : ∀ y ∈ xs, y.generation ≤ x.generation

theorem Newest.perm (h : x.Newest xs) (same : xs.Perm ys) : x.Newest ys :=
  ⟨same.mem_iff.mp h.mem, fun y hy => h.above y (same.mem_iff.mpr hy)⟩

theorem Newest.generation_eq (h : x.Newest xs) (h' : y.Newest xs) : x.generation = y.generation :=
  Int64.le_antisymm (h'.above x h.mem) (h.above y h'.mem)

/-- Among snapshots of different generations there is one newest at most. -/
theorem Newest.eq (distinct : (xs.map (·.generation)).Nodup) (h : x.Newest xs) (h' : y.Newest xs) :
    x = y :=
  List.inj_on_of_nodup_map distinct h.mem h'.mem (h.generation_eq h')

end Snapshot

/-- The generation of the last applied snapshot. -/
def Applied.generation (a : Applied) : Option Int64 := a.snapshot.map (·.generation)

/-- What a run without failures makes of the memory: the newest of its snapshots has taken it over, or
none of them was newer than what was remembered. -/
inductive Settled (a : Applied) (handed : List Snapshot) : Applied → Prop
  | kept (old : ∀ x ∈ handed, ¬x.NewerThan a.generation) : Settled a handed a
  | moved {x : Snapshot} (newest : x.Newest handed) (newer : x.NewerThan a.generation) :
      Settled a handed (.of x)

namespace Settled

variable {a b : Applied} {handed : List Snapshot} {x y : Snapshot}

theorem not_newerThan_iff {generation : Option Int64} : ¬x.NewerThan generation ↔
    ∃ g, generation = some g ∧ x.generation ≤ g := by
  simp [Snapshot.NewerThan, Int64.not_lt]

/-- A snapshot is newer than what a run leaves when it is newer than all that came before it. -/
theorem newerThan_iff (h : Settled a handed b) : x.NewerThan b.generation ↔
    x.NewerThan a.generation ∧ ∀ y ∈ handed, y.generation < x.generation := by
  cases h with
  | kept old =>
    refine ⟨fun newer => ⟨newer, fun y hy => ?_⟩, And.left⟩
    -- the other one was not newer than the generation that this one is above
    obtain ⟨g, found, below⟩ := not_newerThan_iff.mp (old y hy)
    exact Int64.lt_of_le_of_lt below (newer g found)
  | @moved last newest newer =>
    have own : x.NewerThan (Applied.of last).generation ↔ last.generation < x.generation := by
      simp [Snapshot.NewerThan, Applied.generation, Applied.of]
    rw [own]
    constructor
    · intro above
      exact ⟨fun g found => Int64.lt_trans (newer g found) above,
        fun y hy => Int64.lt_of_le_of_lt (newest.above y hy) above⟩
    · intro both
      exact both.2 last newest.mem

/-- A stale snapshot changes nothing. -/
theorem stale (h : Settled a handed b) (old : ¬x.NewerThan b.generation) :
    Settled a (handed ++ [x]) b := by
  cases h with
  | kept earlier =>
    refine .kept fun y hy => ?_
    rcases List.mem_append.mp hy with hy | hy
    · exact earlier y hy
    · exact List.mem_singleton.mp hy ▸ old
  | @moved last newest newer =>
    refine .moved ⟨by simp [newest.mem], fun y hy => ?_⟩ newer
    rcases List.mem_append.mp hy with hy | hy
    · exact newest.above y hy
    · obtain ⟨g, found, below⟩ := not_newerThan_iff.mp old
      cases found
      exact List.mem_singleton.mp hy ▸ below

/-- A newer snapshot takes the memory over. -/
theorem fresh (h : Settled a handed b) (newer : x.NewerThan b.generation) :
    Settled a (handed ++ [x]) (.of x) := by
  obtain ⟨newer, above⟩ := h.newerThan_iff.mp newer
  refine .moved ⟨by simp, fun y hy => ?_⟩ newer
  rcases List.mem_append.mp hy with hy | hy
  · exact Int64.le_of_lt (above y hy)
  · exact List.mem_singleton.mp hy ▸ Int64.le_refl _

/-- Of snapshots of different generations the newest is remembered, if it was newer than what was. -/
theorem eq_of_newest (h : Settled a handed b) (distinct : (handed.map (·.generation)).Nodup)
    (newest : x.Newest handed) (newer : x.NewerThan a.generation) : b = .of x := by
  cases h with
  | kept old => exact absurd newer (old x newest.mem)
  | moved newest' newer' => rw [newest'.eq distinct newest]

theorem eq_of_old (h : Settled a handed b) (old : ∀ x ∈ handed, ¬x.NewerThan a.generation) :
    b = a := by
  cases h with
  | kept _ => rfl
  | moved newest newer => exact absurd newer (old _ newest.mem)

/-- The newest of the snapshots tells the generation that is left, by its own generation alone. -/
theorem generation_eq (h : Settled a handed b) (newest : x.Newest handed)
    (newer : x.NewerThan a.generation) : b.generation = some x.generation := by
  cases h with
  | kept old => exact absurd newer (old x newest.mem)
  | @moved last newest' newer' => exact congrArg some (newest'.generation_eq newest)

/-- When the newest of the snapshots is not newer than what is remembered, no other one is. -/
theorem eq_of_newest_old (h : Settled a handed b) (newest : x.Newest handed)
    (old : ¬x.NewerThan a.generation) : b = a :=
  h.eq_of_old fun y hy newer => old fun g found =>
    Int64.lt_of_lt_of_le (newer g found) (newest.above y hy)

/-- A run that has moved the memory leaves the two halves of it in step. -/
theorem dynamic_eq (h : Settled a handed b) (mem : x ∈ handed) (newer : x.NewerThan a.generation) :
    b.dynamic = b.configuration := by
  cases h with
  | kept old => exact absurd newer (old x mem)
  | moved newest newer => rfl

end Settled

namespace Reconciler

variable {σ : Type} {c : Collaborators σ} {settings : ReconcilerSettings} {s₀ : Session σ}

/-! ## One call -/

theorem isStale_iff (r : Reconciler) (x : Snapshot) :
    r.isStale x = true ↔ ¬x.NewerThan r.applied.generation := by
  rw [Settled.not_newerThan_iff, isStale, Applied.generation]
  cases r.applied.snapshot <;> simp

/-- A newer snapshot meets no failure just when its outcome carries none. -/
theorem Course.unhindered_iff {r r' : Reconciler} {s s' : Session σ} {x : Snapshot} {o : Outcome}
    (h : Course c settings r s x r' s' o) (news : r.isStale x = false) :
    Unhindered c settings r s x ↔ o.error = none := by
  constructor
  · intro free
    have carries := h.sound.carries
    rcases h.recovers news free with kind | kind <;> simpa [kind, OutcomeKind.isFailure] using carries
  · intro none
    cases h with
    | stale old => simp [old] at news
    | unsynced news sync => cases none
    | unchanged news sync same => exact .unchanged sync same
    | unloaded news sync calls load => cases none
    | pushed news sync differs prepared push =>
      obtain ⟨n, allowed, accepted⟩ := Session.push_ok_iff.mp (congrArg Prod.snd push)
      exact .pushed sync prepared allowed accepted
    | unpushed news sync differs prepared push => cases none

/-- No failure meets these calls. A stale one does nothing that could fail. -/
def Smooth (c : Collaborators σ) (settings : ReconcilerSettings) (calls : List (Call σ)) : Prop :=
  ∀ k ∈ calls, k.before.1.isStale k.snapshot = false →
    Unhindered c settings k.before.1 k.before.2 k.snapshot

theorem smooth_iff (xs : List Snapshot) (p : Reconciler × Session σ) :
    Smooth c settings (history c settings xs p) ↔
      ∀ o ∈ (run c settings xs p).2.2, o.error = none := by
  rw [run_eq_history]
  constructor
  · intro smooth o ho
    obtain ⟨k, hk, rfl⟩ := List.mem_map.mp ho
    obtain ⟨ys, x, _, rfl⟩ := history_mem hk
    cases stale : (reached c settings ys p).1.isStale x with
    | true =>
      rw [callOf_of_stale stale]
      rfl
    | false => exact ((callOf_course c settings _ x).unhindered_iff stale).mp (smooth _ hk stale)
  · intro none k hk news
    obtain ⟨ys, x, _, rfl⟩ := history_mem hk
    exact ((callOf_course c settings _ x).unhindered_iff news).mpr (none _ (List.mem_map_of_mem hk))

/-- A call that no failure meets is stale, or its snapshot takes the memory over. -/
inductive SmoothStep (a : Applied) (x : Snapshot) : OutcomeKind → Applied → Prop
  | stale (old : ¬x.NewerThan a.generation) : SmoothStep a x .staleSnapshot a
  | fresh {kind : OutcomeKind} (newer : x.NewerThan a.generation) (isApplied : kind.isApplied = true) :
      SmoothStep a x kind (.of x)

theorem callOf_smooth {xs : List Snapshot} {x : Snapshot} {handed : List Configuration}
    (distinguished : Distinguished handed) (earlier : ∀ y ∈ xs, y.structural ∈ handed)
    (new : x.structural ∈ handed)
    (smooth : (reached c settings xs (start, s₀)).1.isStale x = false →
      Unhindered c settings (reached c settings xs (start, s₀)).1
        (reached c settings xs (start, s₀)).2 x) :
    SmoothStep (reached c settings xs (start, s₀)).1.applied x
      (callOf c settings (reached c settings xs (start, s₀)) x).outcome.kind
      (reached c settings (xs ++ [x]) (start, s₀)).1.applied := by
  rw [reached_snoc]
  cases stale : (reached c settings xs (start, s₀)).1.isStale x with
  | true =>
    rw [callOf_of_stale stale]
    exact .stale ((isStale_iff _ x).mp stale)
  | false =>
    have newer : x.NewerThan (reached c settings xs (start, s₀)).1.applied.generation := by
      by_contra old
      simp [(isStale_iff _ x).mpr old] at stale
    have kind := (callOf_course c settings (reached c settings xs (start, s₀)) x).recovers stale
      (smooth stale)
    have applied : (callOf c settings (reached c settings xs (start, s₀)) x).outcome.kind.isApplied =
        true := by
      rcases kind with kind | kind <;> rw [kind] <;> rfl
    -- a call that is applied takes over its snapshot as a whole, and its push was taken
    cases callOf_atomic c settings s₀ distinguished earlier new with
    | left notApplied same nothing => simp [applied] at notApplied
    | moved isApplied last drops base =>
      have taken : baseBehind
          (callOf c settings (reached c settings xs (start, s₀)) x).outcome.kind x =
            x.structural := by
        rcases kind with kind | kind <;> simp [kind, baseBehind]
      rw [taken] at base
      have whole : (callOf c settings (reached c settings xs (start, s₀)) x).after.1.applied = .of x :=
        congrArg₂ Applied.mk last base
      rw [whole]
      exact .fresh newer applied

theorem SmoothStep.stale_iff {a b : Applied} {x : Snapshot} {kind : OutcomeKind}
    (h : SmoothStep a x kind b) : kind = .staleSnapshot ↔ ¬x.NewerThan a.generation := by
  cases h with
  | stale old => simp [old]
  | fresh newer isApplied =>
    have differs : kind ≠ .staleSnapshot := by
      rintro rfl
      cases isApplied
    simp [newer, differs]

/-! ## Whole runs -/

variable {xs order : List Snapshot} {handed : List Configuration}

theorem settled_reached (distinguished : Distinguished handed)
    (earlier : ∀ y ∈ xs, y.structural ∈ handed) (new : ∀ y ∈ order, y.structural ∈ handed)
    (smooth : Smooth c settings (history c settings order (reached c settings xs (start, s₀)))) :
    Settled (reached c settings xs (start, s₀)).1.applied order
      (reached c settings (xs ++ order) (start, s₀)).1.applied := by
  induction order using List.reverseRecOn with
  | nil =>
    rw [List.append_nil]
    exact .kept (by simp)
  | append_singleton order x ih =>
    rw [history_append, history, history, ← reached_append] at smooth
    have settled := ih (fun y hy => new y (by simp [hy]))
      fun k hk => smooth k (List.mem_append_left _ hk)
    have last := smooth _ (List.mem_append_right _ List.mem_cons_self)
    have before : ∀ y ∈ xs ++ order, y.structural ∈ handed :=
      List.forall_mem_append.mpr ⟨earlier, fun y hy => new y (by simp [hy])⟩
    have step := callOf_smooth distinguished before (new x (by simp)) last
    rw [← List.append_assoc]
    generalize (reached c settings (xs ++ order ++ [x]) (start, s₀)).1.applied = applied at step ⊢
    generalize (callOf c settings (reached c settings (xs ++ order) (start, s₀)) x).outcome.kind =
      kind at step
    cases step with
    | stale old => exact settled.stale old
    | fresh newer isApplied => exact settled.fresh newer

/-- Which calls are stale is told by the generations that came before them. -/
theorem stale_iff_of_smooth {before later : List (Call σ)} {k : Call σ}
    (distinguished : Distinguished handed) (earlier : ∀ y ∈ xs, y.structural ∈ handed)
    (new : ∀ y ∈ order, y.structural ∈ handed)
    (smooth : Smooth c settings (history c settings order (reached c settings xs (start, s₀))))
    (run : history c settings order (reached c settings xs (start, s₀)) = before ++ k :: later) :
    k.outcome.kind = .staleSnapshot ↔
      (∃ j ∈ before, k.snapshot.generation ≤ j.snapshot.generation) ∨
        ¬k.snapshot.NewerThan (reached c settings xs (start, s₀)).1.appliedGeneration := by
  obtain ⟨ys, x, zs, rfl, rfl, rfl⟩ := history_split run
  rw [run, ← reached_append] at smooth
  have before : Smooth c settings (history c settings ys (reached c settings xs (start, s₀))) :=
    fun k hk => smooth k (List.mem_append_left _ hk)
  have settled := settled_reached distinguished earlier (fun y hy => new y (by simp [hy])) before
  have known : ∀ y ∈ xs ++ ys, y.structural ∈ handed :=
    List.forall_mem_append.mpr ⟨earlier, fun y hy => new y (by simp [hy])⟩
  have step := callOf_smooth distinguished known (new x (by simp))
    (smooth _ (List.mem_append_right _ List.mem_cons_self))
  have handedIn : (∃ j ∈ history c settings ys (reached c settings xs (start, s₀)),
      x.generation ≤ j.snapshot.generation) ↔ ∃ y ∈ ys, x.generation ≤ y.generation := by
    have snapshots : (history c settings ys (reached c settings xs (start, s₀))).map (·.snapshot) =
        ys := map_snapshot_history ys _
    conv_rhs => rw [← snapshots]
    simp
  rw [← reached_append, step.stale_iff, settled.newerThan_iff, callOf_snapshot, handedIn, not_and_or,
    or_comm]
  simp only [not_forall, Int64.not_lt, exists_prop]
  rfl

/-- **Callers converge.** Snapshots of different generations are handed in at the same time, in any state
that a run can reach, and no failure meets their calls. Whatever the order in which they are served, the
newest of them is the last applied one then, if it is newer than what was remembered, and otherwise
nothing has changed. When any of them was applied, the surface has taken the configuration of the last
applied one. A call is stale just when something of its generation or a later one stood there before it.
And what the proxy was loaded for last, by any call of the whole history, has the ports and the
certificates of the last applied snapshot. -/
theorem callers_converge (c : Collaborators σ) (settings : ReconcilerSettings) (s₀ : Session σ)
    {xs batch order : List Snapshot} (served : order.Perm batch)
    (distinct : (batch.map (·.generation)).Nodup)
    (distinguished : Distinguished (configurations (xs ++ batch)))
    (smooth : Smooth c settings (history c settings order (reached c settings xs (start, s₀)))) :
    (∀ x, x.Newest batch →
        x.NewerThan (reached c settings xs (start, s₀)).1.appliedGeneration →
        (reached c settings (xs ++ order) (start, s₀)).1.applied.snapshot = some x) ∧
      ((∀ x ∈ batch, ¬x.NewerThan (reached c settings xs (start, s₀)).1.appliedGeneration) →
        (reached c settings (xs ++ order) (start, s₀)).1.applied.snapshot =
          (reached c settings xs (start, s₀)).1.applied.snapshot) ∧
      ((∃ k ∈ history c settings order (reached c settings xs (start, s₀)),
          k.outcome.kind.isApplied = true) →
        (reached c settings (xs ++ order) (start, s₀)).1.applied.dynamic =
          (reached c settings (xs ++ order) (start, s₀)).1.applied.configuration) ∧
      (∀ before k later,
        history c settings order (reached c settings xs (start, s₀)) = before ++ k :: later →
          (k.outcome.kind = .staleSnapshot ↔
            (∃ j ∈ before, k.snapshot.generation ≤ j.snapshot.generation) ∨
              ¬k.snapshot.NewerThan (reached c settings xs (start, s₀)).1.appliedGeneration)) ∧
      ∀ loaded, lastLoaded (history c settings (xs ++ order) (start, s₀)) = some loaded →
        ∃ last, (reached c settings (xs ++ order) (start, s₀)).1.applied.snapshot = some last ∧
          loaded.structural.listenerPorts = last.structural.listenerPorts ∧
          loaded.structural.certificateIdentities = last.structural.certificateIdentities := by
  have handed : ∀ y ∈ xs ++ order, y.structural ∈ configurations (xs ++ batch) :=
    fun y hy => List.mem_map_of_mem ((served.append_left xs).mem_iff.mp hy)
  obtain ⟨earlier, new⟩ := List.forall_mem_append.mp handed
  have settled := settled_reached distinguished earlier new smooth
  refine ⟨fun x newest newer => ?_, fun old => ?_, fun ⟨k, hk, isApplied⟩ => ?_,
    fun before k later => stale_iff_of_smooth distinguished earlier new smooth, fun loaded last => ?_⟩
  · have distinct' : (order.map (·.generation)).Nodup := (served.map _).nodup_iff.mpr distinct
    rw [settled.eq_of_newest distinct' (newest.perm served.symm) newer]
    rfl
  · rw [settled.eq_of_old fun x hx => old x (served.mem_iff.mp hx)]
  · -- a call that was applied was not stale, so its snapshot was newer than what was remembered
    obtain ⟨before, later, run⟩ := List.append_of_mem hk
    have newer : k.snapshot.NewerThan (reached c settings xs (start, s₀)).1.appliedGeneration := by
      by_contra old
      have kind := (stale_iff_of_smooth distinguished earlier new smooth run).mpr (Or.inr old)
      rw [kind] at isApplied
      cases isApplied
    have snapshots : (history c settings order (reached c settings xs (start, s₀))).map
        (·.snapshot) = order := map_snapshot_history order _
    have handedIn : k.snapshot ∈ order := snapshots ▸ List.mem_map_of_mem hk
    exact settled.dynamic_eq handedIn newer
  · have layered := layered_reached c settings s₀ (xs ++ order)
    rw [last] at layered
    obtain ⟨x, applied, covers⟩ := layered
    obtain ⟨ports, certificates, _⟩ := Configuration.isDynamicallyReachable_iff.mp covers.reachable
    exact ⟨x, applied, ports, certificates⟩

theorem served_distinguished : Distinguished [served.structural, servedElsewhere.structural] :=
  List.inj_on_of_nodup_map (by decide +kernel)

/-- The server as it stands, and the one on another port. -/
def twoCallers : List Snapshot := [served.renewed 2, servedElsewhere.renewed 3]

/-- Behind the first server the caller with the other port is served first, and the one that comes late is
stale. The law says what is remembered in the end. -/
theorem twoCallers_converge :
    twoCallers.reverse.Perm twoCallers ∧ (twoCallers.map (·.generation)).Nodup ∧
      Distinguished (configurations ([served] ++ twoCallers)) ∧
      Smooth Script.collaborators sampleSettings (history Script.collaborators sampleSettings
        twoCallers.reverse (reached Script.collaborators sampleSettings [served] (start, opening {}))) ∧
      (reached Script.collaborators sampleSettings ([served] ++ twoCallers.reverse)
        (start, opening {})).1.applied.snapshot = some (servedElsewhere.renewed 3) := by
  have perm : twoCallers.reverse.Perm twoCallers := List.reverse_perm _
  have distinct : (twoCallers.map (·.generation)).Nodup := by decide
  have distinguished : Distinguished (configurations ([served] ++ twoCallers)) :=
    served_distinguished.mono (by decide)
  have smooth : Smooth Script.collaborators sampleSettings (history Script.collaborators sampleSettings
      twoCallers.reverse (reached Script.collaborators sampleSettings [served] (start, opening {}))) :=
    (smooth_iff _ _).mpr (by decide +kernel)
  have newest : (servedElsewhere.renewed 3).Newest twoCallers := ⟨by decide, by decide⟩
  have before : (reached Script.collaborators sampleSettings [served]
      (start, opening {})).1.appliedGeneration = some 1 := by decide +kernel
  have law := callers_converge Script.collaborators sampleSettings (opening {}) perm distinct
    distinguished smooth
  refine ⟨perm, distinct, distinguished, smooth, law.1 _ newest fun g found => ?_⟩
  rw [before] at found
  cases found
  decide

end Reconciler

end IngressControl
