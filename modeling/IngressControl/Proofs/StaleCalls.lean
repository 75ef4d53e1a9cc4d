import IngressControl.Proofs.PublishedStatus
import Mathlib.Data.List.Forall2

/-!
# Stale calls are invisible

A call is stale when its snapshot is not newer than the last applied one. It touches nothing: neither
the session nor the memory, only the published outcome becomes its own. The next call does not look at
what is published, so the calls behind a stale one go on as if it had not been made.

A run is therefore compared with the one that is left when its stale calls are taken out. Both make the
same calls (`Call.Alike`): each with the same outcome and actions, from the same session to the same
one. What is published between two of them may differ in the last outcome alone.
-/

namespace IngressControl.Reconciler

variable {σ : Type} {c : Collaborators σ} {settings : ReconcilerSettings}

/-- Whether the snapshot of a call was not newer than the last applied one. -/
def Call.isStale (k : Call σ) : Bool :=
  k.before.1.appliedGeneration.any fun g => k.snapshot.generation ≤ g

/-- The calls that were not stale. -/
def fresh (calls : List (Call σ)) : List (Call σ) := calls.filter fun k => !k.isStale

theorem callOf_isStale (c : Collaborators σ) (settings : ReconcilerSettings)
    (p : Reconciler × Session σ) (x : Snapshot) :
    (callOf c settings p x).isStale = p.1.isStale x := by
  rw [Call.isStale, callOf_before, callOf_snapshot, appliedGeneration, Reconciler.isStale]
  cases p.1.applied.snapshot <;> rfl

/-! ## A call looks at the memory and the session only -/

/-- Two states are told apart by what they have published, if at all. -/
structure Agree (p q : Reconciler × Session σ) : Prop where
  applied : p.1.applied = q.1.applied
  session : p.2 = q.2

/-- Two calls do the same, and stand in states that agree. What was published before them differs in
the last outcome at most. -/
structure Call.Alike (k j : Call σ) : Prop where
  snapshot : k.snapshot = j.snapshot
  outcome : k.outcome = j.outcome
  actions : k.actions = j.actions
  before : Agree k.before j.before
  published : k.before.1.status = { j.before.1.status with
    lastOutcome := k.before.1.status.lastOutcome }
  after : k.after = j.after

variable {p q : Reconciler × Session σ}

/-- From states that agree a snapshot is reconciled in the same way. -/
theorem Agree.reconcile (h : Agree p q) (c : Collaborators σ) (settings : ReconcilerSettings)
    (x : Snapshot) :
    p.1.reconcile c settings p.2 x = q.1.reconcile c settings q.2 x := by
  obtain ⟨⟨applied, status⟩, s⟩ := p
  obtain ⟨⟨applied', status'⟩, s'⟩ := q
  obtain ⟨rfl, rfl⟩ := h
  rfl

theorem Agree.alike (h : Agree p q) (c : Collaborators σ) (settings : ReconcilerSettings)
    (x : Snapshot)
    (published : p.1.status = { q.1.status with lastOutcome := p.1.status.lastOutcome }) :
    (callOf c settings p x).Alike (callOf c settings q x) := by
  have same := h.reconcile c settings x
  have after : (callOf c settings p x).after = (callOf c settings q x).after := by
    simp only [callOf, same]
  refine ⟨rfl, by simp only [callOf, same], ?_, h, published, after⟩
  rw [Call.actions, Call.actions, after, callOf_before, callOf_before, h.session]

/-- A stale call ends at once, and has published nothing but its outcome. -/
theorem callOf_of_stale {x : Snapshot} (old : p.1.isStale x = true) :
    callOf c settings p x = ⟨p, x, ((p.1.keep (quiet .staleSnapshot x)).1, p.2),
      quiet .staleSnapshot x⟩ := by
  simp only [callOf, Reconciler.reconcile, if_pos old]
  rfl

/-! ## Whole runs -/

/-- States that agree have published the same, up to the last outcome. -/
theorem Published.status_eq {calls calls' : List (Call σ)} (h : Published calls p.1)
    (h' : Published calls' q.1) (agree : Agree p q) :
    p.1.status = { q.1.status with lastOutcome := p.1.status.lastOutcome } := by
  rw [h.status, h'.status, appliedGeneration, appliedGeneration, agree.applied]

/-- The run without the stale calls goes along with the whole one. -/
structure GoesAlong (c : Collaborators σ) (settings : ReconcilerSettings) (s₀ : Session σ)
    (calls : List (Call σ)) (p : Reconciler × Session σ) : Prop where
  published : Published calls p.1
  alike : List.Forall₂ Call.Alike (fresh calls)
    (history c settings ((fresh calls).map (·.snapshot)) (start, s₀))
  agree : Agree p (reached c settings ((fresh calls).map (·.snapshot)) (start, s₀))

theorem GoesAlong.snoc {s₀ : Session σ} {calls : List (Call σ)} (h : GoesAlong c settings s₀ calls p)
    (x : Snapshot) : GoesAlong c settings s₀ (calls ++ [callOf c settings p x])
      (callOf c settings p x).after := by
  have published := h.published.snoc (callOf_publishes c settings p x)
  have stale := callOf_isStale c settings p x
  cases old : p.1.isStale x with
  | true =>
    have same : fresh (calls ++ [callOf c settings p x]) = fresh calls := by
      simp [fresh, stale, old]
    refine ⟨published, same ▸ h.alike, ?_⟩
    rw [same, callOf_of_stale old]
    exact ⟨h.agree.applied, h.agree.session⟩
  | false =>
    have more : fresh (calls ++ [callOf c settings p x]) =
        fresh calls ++ [callOf c settings p x] := by
      simp [fresh, stale, old]
    have alike := h.agree.alike c settings x
      (h.published.status_eq (published_reached c settings s₀ _) h.agree)
    refine ⟨published, ?_, ?_⟩
    · rw [more, List.map_append, history_append]
      exact List.rel_append h.alike (.cons alike .nil)
    · rw [more, List.map_append, List.map_singleton, callOf_snapshot, reached_snoc, alike.after]
      exact ⟨rfl, rfl⟩

theorem goesAlong_reached (c : Collaborators σ) (settings : ReconcilerSettings) (s₀ : Session σ)
    (xs : List Snapshot) : GoesAlong c settings s₀ (history c settings xs (start, s₀))
      (reached c settings xs (start, s₀)) :=
  history_induction ⟨published_start, .nil, rfl, rfl⟩ xs fun _ _ x _ before => before.snoc x

/-- **Stale calls are invisible.** When they are taken out of a run, the run that is left makes the other
calls alike, and ends with the same memory and in the same session. What a stale call leaves behind is
its outcome, published, and nothing else. -/
theorem staleCalls_invisible (c : Collaborators σ) (settings : ReconcilerSettings) (s₀ : Session σ)
    (xs : List Snapshot) :
    List.Forall₂ Call.Alike (fresh (history c settings xs (start, s₀)))
        (history c settings ((fresh (history c settings xs (start, s₀))).map (·.snapshot))
          (start, s₀)) ∧
      Agree (reached c settings xs (start, s₀))
        (reached c settings ((fresh (history c settings xs (start, s₀))).map (·.snapshot))
          (start, s₀)) ∧
      ∀ k ∈ history c settings xs (start, s₀), k.isStale = true →
        k.outcome.kind = .staleSnapshot ∧ k.actions = [] ∧ Agree k.after k.before ∧
          k.after.1.status = { k.before.1.status with lastOutcome := some k.outcome.summary } := by
  have along := goesAlong_reached c settings s₀ xs
  refine ⟨along.alike, along.agree, fun k hk stale => ?_⟩
  obtain ⟨ys, x, _, rfl⟩ := history_mem hk
  have before := (published_reached c settings s₀ ys).status
  rw [callOf_isStale] at stale
  rw [callOf_of_stale stale, before]
  exact ⟨rfl, List.drop_length, ⟨rfl, rfl⟩, rfl⟩

/-- The middle one of these calls is stale, and the one behind it goes on from the first. -/
example : (fresh (history Script.collaborators sampleSettings
    [{ generation := 2 }, { generation := 1 }, { generation := 3 }]
    (start, opening {}))).map (·.snapshot.generation) = [2, 3] := by
  decide +kernel

end IngressControl.Reconciler
