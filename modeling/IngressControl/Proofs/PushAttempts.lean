import IngressControl.Proofs.Reconciler.Attempts
import Mathlib.Data.ENat.Lattice

/-!
# How many attempts a push makes

A push makes one attempt behind another one until one is accepted, and as many as its schedule allows at
most; a schedule of no attempts allows one all the same. So the number of failures in front of the first
success (`failures`, which may be infinite) decides how many attempts there are and whether the push is
taken (`push_exact`). All attempts are made with the same two configurations. Between two of them it
waits, for the delay of the schedule with that number, and behind the last one it does not: no time
passes there (`Attempted`).

The loop ends by itself. It is told once more with its two counters of 32 bits, the attempts that have
failed and those that are left, giving up where a counter would leave its range (`counted`). It never
does: the two always add up to the attempts of the schedule.
-/

namespace IngressControl

/-- The sum of two numbers of 32 bits, when it is one. -/
def checkedAdd? (a b : UInt32) : Option UInt32 :=
  if a.toNat + b.toNat < UInt32.size then some (a + b) else none

/-- The difference of two numbers of 32 bits, when there is one. -/
def checkedSub? (a b : UInt32) : Option UInt32 := if b ≤ a then some (a - b) else none

namespace Session

variable {σ : Type}

/-! ## Failures in front of the first success -/

section

variable {answers : Nat → Except ControlError Unit}

open Classical in
/-- How many answers are failures before the first one that is not; all of them, when there is none. -/
noncomputable def failures (answers : Nat → Except ControlError Unit) : ℕ∞ :=
  if h : ∃ n, answers n = .ok () then (Nat.find h : ℕ∞) else ⊤

theorem failures_lt_iff {n : Nat} : failures answers < n ↔ ∃ m < n, answers m = .ok () := by
  classical
  unfold failures
  split
  · rename_i h
    rw [Nat.cast_lt, Nat.find_lt_iff]
  · rename_i none
    have never : ¬∃ m < n, answers m = .ok () := fun ⟨m, _, accepted⟩ => none ⟨m, accepted⟩
    simp [never]

/-- The first success among the answers allowed decides how many of them are asked for. -/
theorem min_failures {n limit : Nat} (within : n < limit) (before : ∀ m < n, answers m ≠ .ok ())
    (ends : n + 1 < limit → answers n = .ok ()) :
    ((n + 1 : ℕ) : ℕ∞) = min (failures answers + 1) limit := by
  have least : (n : ℕ∞) ≤ failures answers := by
    rw [← not_lt, failures_lt_iff]
    rintro ⟨m, earlier, accepted⟩
    exact before m earlier accepted
  rcases Nat.lt_or_ge (n + 1) limit with more | last
  · have most : failures answers < (n + 1 : ℕ) :=
      failures_lt_iff.mpr ⟨n, Nat.lt_succ_self n, ends more⟩
    rw [Nat.cast_add, Nat.cast_one, ENat.lt_add_one_iff (ENat.natCast_ne_top n)] at most
    rw [le_antisymm most least, min_eq_left (by exact_mod_cast more.le), Nat.cast_add, Nat.cast_one]
  · obtain rfl : limit = n + 1 := by omega
    rw [min_eq_right]
    simpa using add_le_add_left least 1

end

/-! ## The attempts and the delays between them -/

/-- So many attempts lie between two sessions: each hands over the same configuration in the place of
the same one. Between two of them a delay of the schedule passes, and no time behind the last one. -/
def Attempted (c : Collaborators σ) (b : Backoff) (new old : Configuration) (s : Session σ)
    (calls : Nat) (s' : Session σ) : Prop :=
  ∃ delays : List Nat, delays.length + 1 = calls ∧
    (∀ i (h : i < delays.length), ∃ world,
      delays[i] = b.delay (UInt32.ofNat i) (c.draw world b.jitter).1) ∧
    s'.actions = s.actions ++ (delays.scanl (fun time delay => time + sleepTime delay) s.now).map
      (fun time => .configure time new old) ∧
    s'.now = s.now + (delays.map sleepTime).sum

section

variable {c : Collaborators σ} {b : Backoff} {new old : Configuration}

/-- What the attempt behind `n` other ones leaves, when none of these ends the push. -/
theorem beforeAttempt_attempted (c : Collaborators σ) (b : Backoff) (new old : Configuration) :
    ∀ (n : Nat) (attempt : UInt32) (s : Session σ), ∃ delays : List Nat, delays.length = n ∧
      (∀ i (h : i < delays.length), ∃ world,
        delays[i] = b.delay (attempt + UInt32.ofNat i) (c.draw world b.jitter).1) ∧
      ((beforeAttempt c b new old n attempt s).configure c new old).1.actions =
        s.actions ++ (delays.scanl (fun time delay => time + sleepTime delay) s.now).map
          (fun time => .configure time new old) ∧
      ((beforeAttempt c b new old n attempt s).configure c new old).1.now =
        s.now + (delays.map sleepTime).sum := by
  intro n
  induction n with
  | zero => exact fun attempt s => ⟨[], rfl, by simp, rfl, rfl⟩
  | succ n ih =>
    intro attempt s
    let world := (s.configure c new old).1.world
    let delay := b.delay attempt (c.draw world b.jitter).1
    -- the first attempt is made now, and the others behind the delay
    have now : ((s.configure c new old).1.pause c b attempt).now = s.now + sleepTime delay := rfl
    have acts : ((s.configure c new old).1.pause c b attempt).actions =
        s.actions ++ [.configure s.now new old] := rfl
    obtain ⟨delays, count, scheduled, actions, later⟩ :=
      ih (attempt + 1) ((s.configure c new old).1.pause c b attempt)
    rw [now] at actions later
    rw [acts] at actions
    refine ⟨delay :: delays, by simp [count], fun i h => ?_, ?_, ?_⟩
    · cases i with
      | zero => exact ⟨world, by simp [delay]⟩
      | succ i =>
        obtain ⟨world, same⟩ := scheduled i (by simpa using h)
        have number : attempt + UInt32.ofNat (i + 1) = attempt + 1 + UInt32.ofNat i := by
          rw [UInt32.ofNat_add, UInt32.add_assoc, UInt32.add_comm (UInt32.ofNat i)]
          rfl
        exact ⟨world, by rw [List.getElem_cons_succ, same, number]⟩
    · rw [beforeAttempt, actions, List.scanl_cons, List.map_cons, List.append_assoc,
        List.singleton_append]
    · rw [beforeAttempt, later, List.map_cons, List.sum_cons, Nat.add_assoc]

/-! ## Counters of 32 bits -/

/-- A push told with its counters: the attempts that have failed so far, and how many are left. `none`
when one of them leaves its range, or when there is no end within `bound` turns. -/
def counted (c : Collaborators σ) (b : Backoff) (new old : Configuration) :
    (bound : Nat) → (failed : UInt32) → Session σ → Option (Session σ × Except ControlError Unit)
  | 0, _, _ => none
  | bound + 1, failed, s =>
    match s.configure c new old with
    | (s, .ok ()) => some (s, .ok ())
    | (s, .error e) => do
      let failed ← checkedAdd? failed 1
      let left ← checkedSub? (max b.steps 1) failed
      if left = 0 then some (s, .error e)
      else
        let last ← checkedSub? failed 1
        counted c b new old bound failed (s.pause c b last)

theorem checkedAdd?_one {a limit : UInt32} (h : a.toNat + 1 ≤ limit.toNat) :
    checkedAdd? a 1 = some (a + 1) ∧ (a + 1).toNat = a.toNat + 1 := by
  have size := limit.toNat_lt
  have small : a.toNat + 1 < UInt32.size := Nat.lt_of_le_of_lt h size
  refine ⟨if_pos small, ?_⟩
  rw [UInt32.toNat_add]
  exact Nat.mod_eq_of_lt small

theorem checkedSub?_of_le {a b : UInt32} (h : b.toNat ≤ a.toNat) :
    checkedSub? a b = some (a - b) ∧ (a - b).toNat = a.toNat - b.toNat := by
  have le : b ≤ a := UInt32.le_iff_toNat_le.mpr h
  exact ⟨if_pos le, UInt32.toNat_sub_of_le a b le⟩

/-- The two counters always add up to the attempts of the schedule. So the one that grows stays below
them, the other one does not fall below zero, and they meet when no attempt is left. -/
theorem counted_eq (c : Collaborators σ) (b : Backoff) (new old : Configuration) :
    ∀ (remaining : Nat) (failed : UInt32) (s : Session σ),
      failed.toNat + remaining + 1 = (max b.steps 1).toNat → ∀ bound > remaining,
      counted c b new old bound failed s = some (attempts c b new old remaining failed s) := by
  intro remaining
  induction remaining with
  | zero =>
    intro failed s total bound enough
    obtain ⟨bound, rfl⟩ := Nat.exists_eq_add_one_of_ne_zero (Nat.ne_of_gt enough)
    have room : failed.toNat + 1 ≤ (max b.steps 1).toNat := by omega
    obtain ⟨add, next⟩ := checkedAdd?_one room
    obtain ⟨sub, left⟩ := checkedSub?_of_le (a := max b.steps 1) (b := failed + 1) (by omega)
    have none : max b.steps 1 - (failed + 1) = 0 :=
      UInt32.toNat_inj.mp (by rw [left, next, UInt32.toNat_zero]; omega)
    rw [counted, attempts]
    rcases s.configure c new old with ⟨s₁, e | done⟩
    · simp [add, sub, none]
    · rfl
  | succ remaining ih =>
    intro failed s total bound enough
    obtain ⟨bound, rfl⟩ := Nat.exists_eq_add_one_of_ne_zero (Nat.ne_of_gt (Nat.zero_lt_of_lt enough))
    have room : failed.toNat + 1 ≤ (max b.steps 1).toNat := by omega
    obtain ⟨add, next⟩ := checkedAdd?_one room
    obtain ⟨sub, left⟩ := checkedSub?_of_le (a := max b.steps 1) (b := failed + 1) (by omega)
    have some : max b.steps 1 - (failed + 1) ≠ 0 := by
      intro none
      rw [none, next, UInt32.toNat_zero] at left
      omega
    obtain ⟨back, _⟩ := checkedSub?_of_le (a := failed + 1) (b := 1) (by rw [next]; simp)
    rw [counted, attempts]
    rcases s.configure c new old with ⟨s₁, e | done⟩
    · have later := ih (failed + 1) (s₁.pause c b failed) (by omega) bound (by omega)
      simp [add, sub, some, back, later]
    · rfl

end

/-! ## Pushes -/

/-- What the attempt behind `n` other ones answers, when none of these ends the push. -/
def answer (s : Session σ) (c : Collaborators σ) (b : Backoff) (new old : Configuration) (n : Nat) :
    Except ControlError Unit :=
  ((beforeAttempt c b new old n 0 s).configure c new old).2

/-- **A push makes exactly the attempts that it is allowed.** With so many failures in front of the first
success it makes one attempt more, unless that is more than its schedule allows; it is taken just when
that first success is among those allowed, and what it answers is what its last attempt did. Its
counters stay in their range, and it ends within as many turns as attempts are allowed. -/
theorem push_exact (s : Session σ) (c : Collaborators σ) (b : Backoff) (new old : Configuration) :
    (∃ calls : Nat, (calls : ℕ∞) =
          min (failures (s.answer c b new old) + 1) (max 1 b.steps.toNat : ℕ) ∧
        Attempted c b new old s calls (s.push c b new old).1 ∧
        (s.push c b new old).2 = s.answer c b new old (calls - 1)) ∧
      ((s.push c b new old).2 = .ok () ↔
        failures (s.answer c b new old) < (max 1 b.steps.toNat : ℕ)) ∧
      ∀ bound ≥ max 1 b.steps.toNat, counted c b new old bound 0 s = some (s.push c b new old) := by
  obtain ⟨n, within, same, before, ends⟩ := attempts_eq c b new old (b.steps.toNat - 1) 0 s
  refine ⟨⟨n + 1, ?_, ?_, ?_⟩, ?_, fun bound enough => ?_⟩
  · exact min_failures (by omega) before fun more => ends (by omega)
  · obtain ⟨delays, count, scheduled, actions, now⟩ := beforeAttempt_attempted c b new old n 0 s
    rw [push, same]
    exact ⟨delays, by rw [count], fun i h => by simpa using scheduled i h, actions, now⟩
  · rw [push, same]
    rfl
  · rw [push_ok_iff, failures_lt_iff]
    rfl
  · have total : (max b.steps 1).toNat = max 1 b.steps.toNat := by
      rw [UInt32.toNat_max]
      exact Nat.max_comm _ _
    exact counted_eq c b new old _ 0 s (by rw [total, UInt32.toNat_zero]; omega) bound (by omega)

end Session

end IngressControl
