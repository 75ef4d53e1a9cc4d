import IngressControl.Proofs.FailedPush
import Mathlib.Data.List.Chain

/-!
# The chain of pushes

A push names the configuration that its own one takes the place of. That is what the control surface
is known to hold, so each push goes on where the one before it left the surface: at the configuration
that was taken, or at the empty one, when it was not. Calls that do not push may stand between the two,
as many as there are; none of them loses the end of the chain.

The law needs nothing of fingerprints. A call that has nothing to do leaves the base alone, so it does
not matter here whether it was right.
-/

namespace IngressControl.Reconciler

variable {σ : Type} {c : Collaborators σ} {settings : ReconcilerSettings} {snapshot : Snapshot}
  {k : Call σ} {calls : List (Call σ)} {s₀ : Session σ}

/-- A push: what is handed over, in the place of what, and whether it was taken. -/
structure Push where
  new : Configuration
  old : Configuration
  taken : Bool
deriving DecidableEq

/-- The configuration that the surface is known to hold behind a push. -/
def Push.left (p : Push) : Configuration := if p.taken then p.new else .empty

/-- The push of a call. There is none without an attempt, as every push makes one. -/
def Call.push? (k : Call σ) : Option Push :=
  k.attempts.head?.map fun a => ⟨a.1, a.2, k.outcome.kind = .success⟩

/-- The pushes of some calls. -/
def pushes (calls : List (Call σ)) : List Push := calls.filterMap Call.push?

/-- A call makes this push, of its own snapshot. All its attempts belong to the push and are alike. -/
structure Push.MadeBy (c : Collaborators σ) (settings : ReconcilerSettings) (k : Call σ) (p : Push) :
    Prop where
  new : p.new = k.snapshot.structural
  attempts : Attempts p.new p.old k.attempts
  made : ∃ s s' result, Session.Sees attempt? k.before.2 s [] ∧
    s.push c settings.backoff p.new p.old = (s', result) ∧
    Session.Sees attempt? s' k.after.2 [] ∧ (p.taken = true ↔ result = .ok ())

/-! ## One call -/

section

variable {r r' : Reconciler} {s s' : Session σ} {o : Outcome}

/-- An outcome of a push stands behind a push of the snapshot against the base, and tells its result. -/
theorem Course.pushes (h : Course c settings r s snapshot r' s' o)
    (kind : o.kind = .success ∨ o.kind = .dynamicPushFailed) :
    ∃ s₁ s₂ result, Session.Sees attempt? s s₁ [] ∧
      s₁.push c settings.backoff snapshot.structural r.applied.dynamic = (s₂, result) ∧
      Session.Sees attempt? s₂ s' [] ∧ (o.kind = .success ↔ result = .ok ()) := by
  have noPush : ∀ {o : Outcome}, o.kind.isApplied = false →
      ¬(o.kind = .success ∨ o.kind = .dynamicPushFailed) := by
    rintro o notApplied (kind | kind) <;> simp [kind, OutcomeKind.isApplied] at notApplied
  have ready : ∀ {s₁ s₂ : Session σ} {reloaded : Bool},
      (s.observeCertificates snapshot).syncMaterial c settings.store r.applied.snapshot snapshot =
        (s₁, .ok ()) → Prepared c settings r snapshot s₁ reloaded s₂ →
      Session.Sees attempt? s (r.beforePush settings s₂) [] :=
    fun sync prepared => (prepared_silent sync prepared).trans (beforePush_sees rfl).1
  cases h with
  | stale old => simp [quiet] at kind
  | unsynced news sync => exact absurd kind (noPush (notApplied_of_unsynced sync))
  | unchanged news sync same => simp [quiet] at kind
  | unloaded news sync calls load =>
    obtain ⟨s₁, course, rfl⟩ := Session.reloadAndReport_error load
    exact absurd kind (noPush (notApplied_of_unloaded course))
  | pushed news sync differs prepared push =>
    exact ⟨_, _, _, ready sync prepared, push, ⟨r.pushFigures snapshot, rfl, rfl⟩, by simp [taken]⟩
  | @unpushed s₁ s₂ s₃ reloaded e news sync differs prepared push =>
    exact ⟨_, _, _, ready sync prepared, push, ⟨r.pushFigures snapshot ++ [pushWarning e], rfl, rfl⟩,
      by simp [untaken, failed, Failure.kind]⟩

end

/-- A call without attempts leaves the base alone. One with attempts makes them against the base, and its
kind tells what becomes of that. -/
theorem PushStep.attempted {r : Reconciler} {attempts : List (Configuration × Configuration)}
    {applied : Applied} {kind : OutcomeKind} (h : PushStep r snapshot attempts applied kind) :
    (attempts = [] ∧ applied.dynamic = r.applied.dynamic) ∨
      (Attempts snapshot.structural r.applied.dynamic attempts ∧
        (kind = .success ∧ applied.dynamic = snapshot.structural ∨
          kind = .dynamicPushFailed ∧ applied.dynamic = .empty)) := by
  cases h with
  | stopped notApplied => exact Or.inl ⟨rfl, rfl⟩
  | unchanged equal => exact Or.inl ⟨rfl, rfl⟩
  | taken differs alike => exact Or.inr ⟨alike, Or.inl ⟨rfl, rfl⟩⟩
  | untaken differs alike => exact Or.inr ⟨alike, Or.inr ⟨rfl, rfl⟩⟩

theorem push?_of_attempts {new old : Configuration} (attempts : Attempts new old k.attempts) :
    k.push? = some ⟨new, old, k.outcome.kind = .success⟩ := by
  obtain ⟨first, others, listed⟩ := List.exists_cons_of_ne_nil attempts.once
  have alike : first = (new, old) := attempts.alike first (by rw [listed]; exact List.mem_cons_self)
  rw [Call.push?, listed, alike]
  rfl

/-- The push of a call goes on at the base, and leaves its end there. -/
theorem callOf_push (c : Collaborators σ) (settings : ReconcilerSettings)
    (p : Reconciler × Session σ) (x : Snapshot) :
    ((callOf c settings p x).push? = none ∧
        (callOf c settings p x).after.1.applied.dynamic = p.1.applied.dynamic) ∨
      ∃ made, (callOf c settings p x).push? = some made ∧ made.old = p.1.applied.dynamic ∧
        (callOf c settings p x).after.1.applied.dynamic = made.left ∧
        made.MadeBy c settings (callOf c settings p x) := by
  rcases (callOf_attempts c settings p x).attempted with ⟨nothing, same⟩ | ⟨attempts, ended⟩
  · exact Or.inl ⟨by simp [Call.push?, nothing], same⟩
  · obtain ⟨s, s', result, before, push, after, ok⟩ :=
      (callOf_course c settings p x).pushes (ended.imp And.left And.left)
    refine Or.inr ⟨_, push?_of_attempts attempts, rfl, ?_, rfl, attempts, s, s', result, before, push,
      after, by simpa using ok⟩
    rcases ended with ⟨kind, base⟩ | ⟨kind, base⟩ <;> simp [Push.left, kind, base]

/-! ## Whole runs -/

theorem pushes_snoc (calls : List (Call σ)) (k : Call σ) :
    pushes (calls ++ [k]) = pushes calls ++ k.push?.toList := by
  rw [pushes, List.filterMap_append, pushes]
  cases h : k.push? <;> simp [h]

/-- What the surface is known to hold behind some pushes. -/
def leftBy (ps : List Push) : Configuration := (ps.getLast?.map Push.left).getD .empty

/-- Each push goes on where the one before it ended, and the base is the end of the last one. -/
structure Chained (ps : List Push) (dynamic : Configuration) : Prop where
  links : ps.IsChain fun p q => q.old = p.left
  first : ∀ p, ps.head? = some p → p.old = .empty
  base : dynamic = leftBy ps

theorem Chained.snoc {ps : List Push} {dynamic : Configuration} (h : Chained ps dynamic) (p : Push)
    (continues : p.old = dynamic) : Chained (ps ++ [p]) p.left := by
  refine ⟨List.isChain_append.mpr ⟨h.links, .singleton p, ?_⟩, ?_, by simp [leftBy]⟩
  · intro last hlast q hq
    cases hq
    rw [continues, h.base, leftBy, hlast]
    rfl
  · intro q hq
    -- the new push is the first one just when there was none before it
    cases ps with
    | nil =>
      cases hq
      exact continues.trans h.base
    | cons first others => exact h.first q hq

/-- One call keeps the chain: it leaves the base alone, or goes on there and sets it to its end. -/
theorem Chained.call {p : Reconciler × Session σ} (h : Chained (pushes calls) p.1.applied.dynamic)
    (x : Snapshot) : Chained (pushes (calls ++ [callOf c settings p x]))
      (callOf c settings p x).after.1.applied.dynamic := by
  rcases callOf_push c settings p x with ⟨nothing, same⟩ | ⟨made, found, continues, base, _⟩
  · rw [pushes_snoc, nothing, same]
    simpa using h
  · rw [pushes_snoc, found, base]
    exact h.snoc made continues

theorem chained_reached (c : Collaborators σ) (settings : ReconcilerSettings) (s₀ : Session σ)
    (xs : List Snapshot) : Chained (pushes (history c settings xs (start, s₀)))
      (reached c settings xs (start, s₀)).1.applied.dynamic := by
  refine history_induction (P := fun done q => Chained (pushes done) q.1.applied.dynamic) ?_ xs ?_
  · exact ⟨.nil, by simp [pushes], rfl⟩
  · exact fun done q x _ h => h.call x

/-- **The push chain is continuous.** The first push of a run goes on at the empty configuration, each
later one at the end of the push before it. All attempts of a push carry the same two configurations,
and the new one is that of the snapshot in hand. -/
theorem pushes_chained (c : Collaborators σ) (settings : ReconcilerSettings) (s₀ : Session σ)
    (xs : List Snapshot) :
    ((pushes (history c settings xs (start, s₀))).IsChain fun p q => q.old = p.left) ∧
      (∀ p, (pushes (history c settings xs (start, s₀))).head? = some p → p.old = .empty) ∧
      ∀ k ∈ history c settings xs (start, s₀), ∀ p, k.push? = some p → p.MadeBy c settings k := by
  have chained := chained_reached c settings s₀ xs
  refine ⟨chained.links, chained.first, fun k hk p hp => ?_⟩
  obtain ⟨ys, x, _, rfl⟩ := history_mem hk
  rcases callOf_push c settings (reached c settings ys (start, s₀)) x with
    ⟨nothing, _⟩ | ⟨made, found, _, _, madeBy⟩
  · rw [nothing] at hp
    cases hp
  · rw [found] at hp
    cases hp
    exact madeBy

/-- A backend, its removal, and the backend once more. -/
def returnedBackend : List Snapshot :=
  droppedBackend ++ [{ generation := 3, backends := [{ name := "web" }] }]

/-- The push of the removal is refused, so the last push starts at the empty configuration again. -/
theorem returnedBackend_chained :
    (pushes (history Script.collaborators sampleSettings returnedBackend
        (start, opening refusedPush))).map (fun p => (p.old.backends, p.taken)) =
      [([], true), ([{ name := "web" }], false), ([], true)] ∧
    (pushes (history Script.collaborators sampleSettings returnedBackend
        (start, opening refusedPush))).IsChain fun p q => q.old = p.left :=
  ⟨by decide +kernel, (pushes_chained Script.collaborators sampleSettings (opening refusedPush)
    returnedBackend).1⟩

end IngressControl.Reconciler
