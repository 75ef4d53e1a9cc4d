import IngressControl.Reconciler.Push

/-!
# The attempts of a push

A push ends with its first attempt that is accepted, or with the last one that its schedule allows.
`attempts_eq` says which one that is, by the session before each attempt (`beforeAttempt`): the push is
nothing but that attempt, made there.
-/

namespace IngressControl.Session

variable {σ : Type} {c : Collaborators σ} {b : Backoff} {new old : Configuration}

/-- The session before the attempt behind `n` other ones, when none of these ends the push. They are
counted from `attempt` on. -/
def beforeAttempt (c : Collaborators σ) (b : Backoff) (new old : Configuration) :
    (n : Nat) → (attempt : UInt32) → Session σ → Session σ
  | 0, _, s => s
  | n + 1, attempt, s =>
    beforeAttempt c b new old n (attempt + 1) ((s.configure c new old).1.pause c b attempt)

/-- The attempt behind `n` other ones is accepted. -/
def Accepted (c : Collaborators σ) (b : Backoff) (new old : Configuration) (n : Nat)
    (attempt : UInt32) (s : Session σ) : Prop :=
  ((beforeAttempt c b new old n attempt s).configure c new old).2 = .ok ()

/-- What is made of the attempts is the first one that is accepted, or the last one. -/
theorem attempts_eq (c : Collaborators σ) (b : Backoff) (new old : Configuration) :
    ∀ (remaining : Nat) (attempt : UInt32) (s : Session σ), ∃ n ≤ remaining,
      attempts c b new old remaining attempt s =
          (beforeAttempt c b new old n attempt s).configure c new old ∧
        (∀ m < n, ¬Accepted c b new old m attempt s) ∧
        (n < remaining → Accepted c b new old n attempt s) := by
  intro remaining
  induction remaining with
  | zero => exact fun attempt s => ⟨0, Nat.le_refl 0, rfl, by simp, by simp⟩
  | succ remaining ih =>
    intro attempt s
    rw [attempts]
    split
    · rename_i s₁ accepted
      exact ⟨0, Nat.zero_le _, accepted.symm, by simp, fun _ => congrArg Prod.snd accepted⟩
    · rename_i s₁ e refused
      obtain ⟨n, within, same, before, ends⟩ := ih (attempt + 1) (s₁.pause c b attempt)
      -- behind the first attempt they are those of the session that it leaves
      have later : ∀ m, beforeAttempt c b new old (m + 1) attempt s =
          beforeAttempt c b new old m (attempt + 1) (s₁.pause c b attempt) := by
        intro m
        rw [beforeAttempt, refused]
      have shifted : ∀ m, Accepted c b new old (m + 1) attempt s ↔
          Accepted c b new old m (attempt + 1) (s₁.pause c b attempt) := by
        intro m
        rw [Accepted, Accepted, later]
      refine ⟨n + 1, Nat.succ_le_succ within, by rw [later, same], fun m hm => ?_, fun more => ?_⟩
      · cases m with
        | zero => simp [Accepted, beforeAttempt, refused]
        | succ m => exact fun accepted => before m (by omega) ((shifted m).mp accepted)
      · exact (shifted n).mpr (ends (by omega))

/-- A push is taken just when one of the attempts that its schedule allows is accepted. -/
theorem push_ok_iff {s : Session σ} : (s.push c b new old).2 = .ok () ↔
    ∃ n < max 1 b.steps.toNat, Accepted c b new old n 0 s := by
  obtain ⟨n, within, same, before, ends⟩ := attempts_eq c b new old (b.steps.toNat - 1) 0 s
  rw [push, same]
  constructor
  · exact fun accepted => ⟨n, by omega, accepted⟩
  · rintro ⟨m, allowed, accepted⟩
    have behind : n ≤ m := Nat.le_of_not_lt fun h => before m h accepted
    rcases Nat.lt_or_ge n (b.steps.toNat - 1) with more | last
    · exact ends more
    · have : n = m := by omega
      exact this ▸ accepted

end IngressControl.Session
