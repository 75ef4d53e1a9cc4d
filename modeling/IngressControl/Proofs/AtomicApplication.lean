import IngressControl.Proofs.Change
import IngressControl.Proofs.FailedPush

/-!
# A snapshot is applied as a whole or not at all

A reconciler remembers two things, the last applied snapshot and the base of its next push. Every
comparison that it makes later rests on them, so they have to move together. A call that is not applied
leaves both as they were and reports nothing as dropped. A call that is applied takes over its snapshot,
reports what that drops, and leaves the snapshot's configuration for the base, or the empty one when
the push was not taken.

A call that has nothing to do takes over its snapshot too, but neither sets the base nor looks for what
is dropped. That this comes to the same rests on its configuration being the last applied one, and it
knows that by fingerprint only.
-/

namespace IngressControl.Reconciler

variable {σ : Type} {c : Collaborators σ} {settings : ReconcilerSettings} {snapshot : Snapshot}

/-- The base that a call leaves when it is applied. -/
def baseBehind (kind : OutcomeKind) (snapshot : Snapshot) : Configuration :=
  if kind = .dynamicPushFailed then .empty else snapshot.structural

/-- What a call makes of the memory, and what it reports as dropped. -/
inductive Transition (r : Reconciler) (snapshot : Snapshot) (o : Outcome) (applied : Applied) : Prop
  | left (notApplied : o.kind.isApplied = false) (same : applied = r.applied)
      (nothing : o.removed = {})
  | moved (isApplied : o.kind.isApplied = true) (new : applied.snapshot = some snapshot)
      (drops : o.removed = Removed.between r.applied.configuration snapshot.structural)
      (base : applied.dynamic = baseBehind o.kind snapshot)

theorem course_atomic {handed : List Configuration} {r r' : Reconciler} {s s' : Session σ}
    {o : Outcome} (distinguished : Distinguished handed)
    (known : r.applied.configuration ∈ Configuration.empty :: handed)
    (new : snapshot.structural ∈ handed) (h : Course c settings r s snapshot r' s' o) :
    Transition r snapshot o r'.applied := by
  cases h with
  | stale old => exact .left rfl rfl rfl
  | unsynced news sync => exact .left (notApplied_of_unsynced sync) rfl rfl
  | unloaded news sync calls load =>
    obtain ⟨s₁, course, rfl⟩ := Session.reloadAndReport_error load
    exact .left (notApplied_of_unloaded course) rfl rfl
  | unchanged news sync same =>
    -- the configuration has not moved, so nothing is dropped and the base may stay
    have kept := configuration_of_unchanged distinguished known new same
    have base := dynamic_of_unchanged distinguished known new same
    refine .moved rfl rfl ?_ base
    rw [← kept, Removed.between_self]
    rfl
  | pushed news sync differs prepared push => exact .moved rfl rfl rfl rfl
  | unpushed news sync differs prepared push => exact .moved rfl rfl rfl rfl

/-! ## Whole runs -/

variable {xs : List Snapshot} {s₀ : Session σ}

/-- The base is empty, or the last applied configuration. -/
def BaseKept (a : Applied) : Prop := a.dynamic = .empty ∨ a.dynamic = a.configuration

theorem Transition.baseKept {r : Reconciler} {o : Outcome} {applied : Applied}
    (h : Transition r snapshot o applied) (before : BaseKept r.applied) : BaseKept applied := by
  cases h with
  | left notApplied same nothing => rwa [same]
  | moved isApplied new drops base =>
    rw [baseBehind] at base
    split at base
    · exact Or.inl base
    · refine Or.inr ?_
      rw [base, Applied.configuration, new]

theorem callOf_atomic (c : Collaborators σ) (settings : ReconcilerSettings) (s₀ : Session σ)
    {ys : List Snapshot} {x : Snapshot} {handed : List Configuration}
    (distinguished : Distinguished handed) (earlier : ∀ y ∈ ys, y.structural ∈ handed)
    (new : x.structural ∈ handed) :
    Transition (reached c settings ys (start, s₀)).1 x
      (callOf c settings (reached c settings ys (start, s₀)) x).outcome
      (callOf c settings (reached c settings ys (start, s₀)) x).after.1.applied :=
  course_atomic distinguished (remembered_reached c settings s₀ earlier).known new
    (callOf_course c settings _ x)

theorem baseKept_reached (c : Collaborators σ) (settings : ReconcilerSettings) (s₀ : Session σ)
    {handed : List Configuration} (distinguished : Distinguished handed)
    (new : ∀ x ∈ xs, x.structural ∈ handed) :
    BaseKept (reached c settings xs (start, s₀)).1.applied := by
  induction xs using List.reverseRecOn with
  | nil => exact Or.inl rfl
  | append_singleton ys x ih =>
    have earlier : ∀ y ∈ ys, y.structural ∈ handed := fun y hy => new y (by simp [hy])
    rw [reached_snoc]
    exact (callOf_atomic c settings s₀ distinguished earlier (new x (by simp))).baseKept (ih earlier)

/-- **Every call applies its snapshot as a whole or leaves the memory as it was.** So the base is always
empty or the last applied configuration. -/
theorem application_atomic (distinguished : Distinguished (configurations xs)) :
    (∀ k ∈ history c settings xs (start, s₀),
      (k.outcome.kind.isApplied = false ∧ k.after.1.applied = k.before.1.applied ∧
          k.outcome.removed.isEmpty = true) ∨
        (k.outcome.kind.isApplied = true ∧ k.after.1.applied.snapshot = some k.snapshot ∧
          k.outcome.removed =
            Removed.between k.before.1.applied.configuration k.snapshot.structural ∧
          k.after.1.applied.dynamic =
            if k.outcome.kind = .dynamicPushFailed then .empty else k.snapshot.structural)) ∧
      ((reached c settings xs (start, s₀)).1.applied.dynamic = .empty ∨
        (reached c settings xs (start, s₀)).1.applied.dynamic =
          (reached c settings xs (start, s₀)).1.applied.configuration) := by
  have new : ∀ x ∈ xs, x.structural ∈ configurations xs := fun x hx => List.mem_map_of_mem hx
  refine ⟨fun k hk => ?_, baseKept_reached c settings s₀ distinguished new⟩
  obtain ⟨before, later, run⟩ := List.append_of_mem hk
  obtain ⟨ys, x, zs, rfl, _, rfl⟩ := history_split run
  have earlier : ∀ y ∈ ys, y.structural ∈ configurations (ys ++ x :: zs) :=
    fun y hy => new y (by simp [hy])
  have step := callOf_atomic c settings s₀ distinguished earlier (new x (by simp))
  rw [callOf_before, callOf_snapshot]
  cases step with
  | left notApplied same nothing => exact Or.inl ⟨notApplied, same, by rw [nothing]; rfl⟩
  | moved isApplied new drops base => exact Or.inr ⟨isApplied, new, drops, base⟩

/-- The law says of the call behind a refused push that its snapshot is taken over as a whole. -/
theorem callAfterDropped_atomic :
    Distinguished (configurations (droppedBackend ++ [nothingMore])) ∧
      callAfterDropped ∈ history Script.collaborators sampleSettings
        (droppedBackend ++ [nothingMore]) (start, opening refusedPush) ∧
      callAfterDropped.outcome.kind = .noChange ∧
      callAfterDropped.after.1.applied.snapshot = some nothingMore ∧
      callAfterDropped.after.1.applied.dynamic = nothingMore.structural := by
  have run : callAfterDropped ∈ history Script.collaborators sampleSettings
      (droppedBackend ++ [nothingMore]) (start, opening refusedPush) :=
    callOf_mem_history droppedBackend nothingMore _
  have handed : callAfterDropped.snapshot = nothingMore := callOf_snapshot _ _ _ _
  have law := (application_atomic droppedBackend_distinguished).1 callAfterDropped run
  rw [droppedCalls_kinds.2, handed] at law
  rcases law with ⟨notApplied, _⟩ | ⟨_, new, _, base⟩
  · simp [OutcomeKind.isApplied] at notApplied
  · exact ⟨droppedBackend_distinguished, run, droppedCalls_kinds.2, new, by simpa using base⟩

end IngressControl.Reconciler
