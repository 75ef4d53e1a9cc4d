import IngressControl.Json.Shape
import Mathlib.Data.List.TakeDrop

/-!
# Scalars are read back as they were written

A reader reads a text as a value when it takes exactly that text off the front, whatever stands behind it
(`Reads`). Behind a number no further digit may stand; in a document a comma or a closing bracket does
(`Closed`), or the end.

Strings are read back with all their escapes, integers of 64 bits of either sign, and truth values.
-/

namespace IngressControl

namespace Hex

/-- A digit has the value that it was written for. -/
theorem value?_digit (n : Nat) : value? (digit n) = some (n % 16) := by
  have digits : ∀ m < 16, value? (Nat.digitChar m) = some m := by decide
  exact digits (n % 16) (Nat.mod_lt n (by decide))

end Hex

namespace Json

variable {α : Type}

/-- A value ends here: the text is at its end, or a comma or a closing bracket follows. -/
def Closed (rest : List Char) : Prop := ∀ c ∈ rest.head?, c = ',' ∨ c = '}' ∨ c = ']'

/-- A reader takes this text for the value, whatever follows it. -/
def Reads (reader : Reader α) (written : List Char) (a : α) : Prop :=
  ∀ rest, Closed rest → reader (written ++ rest) = .ok (a, rest)

theorem closed_nil : Closed [] := by
  intro c hc
  cases hc

theorem closed_cons {c : Char} {rest : List Char} (h : c = ',' ∨ c = '}' ∨ c = ']') :
    Closed (c :: rest) := by
  intro d hd
  cases hd
  exact h

theorem trimmed_cons {c : Char} {cs : List Char} (h : isSpace c = false) :
    trimmed (c :: cs) = c :: cs := by
  simp [trimmed, h]

/-- A text that begins like a value that is there: with no space, and not like `null`. -/
def Opens (written : List Char) : Prop :=
  ∃ c cs, written = c :: cs ∧ isSpace c = false ∧ c ≠ 'n'

/-- A text that begins like a value other than `null`. -/
def Begins (written : List Char) : Prop :=
  ∃ c cs, written = c :: cs ∧ (c ∈ ['-', 't', 'f', '"', '[', '{'] ∨ c.isDigit = true)

theorem begins_cons {c : Char} (cs : List Char) (h : c ∈ ['-', 't', 'f', '"', '[', '{']) :
    Begins (c :: cs) := ⟨c, cs, rfl, Or.inl h⟩

/-- No value begins with a closing bracket. -/
theorem Begins.opens {written : List Char} (h : Begins written) :
    Opens written ∧ ∃ c cs, written = c :: cs ∧ isSpace c = false ∧ c ≠ ']' := by
  obtain ⟨c, cs, rfl, front⟩ := h
  have kind : isSpace c = false ∧ c ≠ 'n' ∧ c ≠ ']' := by
    rcases front with named | digit
    · simp only [List.mem_cons, List.not_mem_nil, or_false] at named
      rcases named with rfl | rfl | rfl | rfl | rfl | rfl <;> decide
    · refine ⟨?_, ?_, ?_⟩
      · by_contra space
        simp only [isSpace, Bool.not_eq_false, Bool.or_eq_true, decide_eq_true_eq] at space
        rcases space with ((rfl | rfl) | rfl) | rfl <;> exact absurd digit (by decide)
      · rintro rfl
        exact absurd digit (by decide)
      · rintro rfl
        exact absurd digit (by decide)
  exact ⟨⟨c, cs, rfl, kind.1, kind.2.1⟩, c, cs, rfl, kind.1, kind.2.2⟩

/-! ## Strings -/

/-- A character stands for itself, or it is written as an escape and read back from that. -/
theorem escaped_cases (c : Char) :
    (escaped c = [c] ∧ c ≠ '"' ∧ c ≠ '\\' ∧ ¬c.toNat < 0x20) ∨
      ∃ code, escaped c = '\\' :: code ∧ ∀ rest, escape (code ++ rest) = .ok (c, rest) := by
  unfold escaped
  split
  · exact Or.inr ⟨_, rfl, fun rest => rfl⟩
  · exact Or.inr ⟨_, rfl, fun rest => rfl⟩
  · exact Or.inr ⟨_, rfl, fun rest => rfl⟩
  · exact Or.inr ⟨_, rfl, fun rest => rfl⟩
  · exact Or.inr ⟨_, rfl, fun rest => rfl⟩
  · exact Or.inr ⟨_, rfl, fun rest => rfl⟩
  · exact Or.inr ⟨_, rfl, fun rest => rfl⟩
  · rename_i noQuote noBackslash _ _ _ _ _
    split
    · rename_i low
      -- two of the four digits are zero, and a value this low is no surrogate
      refine Or.inr ⟨_, rfl, fun rest => ?_⟩
      have unit : codeUnit ('0' :: '0' :: Hex.digit (c.toNat / 16) :: Hex.digit c.toNat :: rest) =
          .ok (c.toNat, rest) := by
        have value : (c.toNat / 16 % 16) * 16 + c.toNat % 16 = c.toNat := by omega
        have zero : Hex.value? '0' = some 0 := by decide
        simp [codeUnit, List.mapM_cons, zero, Hex.value?_digit, value]
      have noLow : ¬(0xdc00 ≤ c.toNat ∧ c.toNat ≤ 0xdfff) := by omega
      have noHigh : ¬(0xd800 ≤ c.toNat ∧ c.toNat ≤ 0xdbff) := by omega
      simp only [List.cons_append, List.nil_append, escape, unit, bind, Except.bind, noLow, noHigh,
        if_false, Char.ofNat_toNat]
    · rename_i high
      exact Or.inl ⟨rfl, noQuote, noBackslash, high⟩

/-- The characters of a string are read back up to the quote behind them, when there are turns enough. -/
theorem characters_escaped (rest : List Char) : ∀ (cs bound taken : List Char),
    cs.length < bound.length →
      characters bound taken (cs.flatMap escaped ++ '"' :: rest) = .ok (taken.reverse ++ cs, rest) := by
  intro cs
  induction cs with
  | nil =>
    intro bound taken enough
    obtain ⟨_, bound, rfl⟩ := List.exists_cons_of_length_pos enough
    simp [characters]
  | cons c cs ih =>
    intro bound taken enough
    obtain ⟨_, bound, rfl⟩ := List.exists_cons_of_length_pos (Nat.zero_lt_of_lt enough)
    have later := ih bound (c :: taken) (by simpa using enough)
    rw [List.reverse_cons, List.append_assoc, List.singleton_append] at later
    rw [List.flatMap_cons, List.append_assoc]
    rcases escaped_cases c with ⟨plain, noQuote, noBackslash, high⟩ | ⟨code, written, read⟩
    · rw [plain, List.singleton_append, characters, if_neg noQuote, if_neg noBackslash, if_neg high]
      exact later
    · rw [written, List.cons_append, characters, if_neg (by decide), if_pos rfl, read]
      exact later

/-- No character is written as nothing. -/
theorem length_le_flatMap_escaped (cs : List Char) : cs.length ≤ (cs.flatMap escaped).length := by
  induction cs with
  | nil => exact Nat.le_refl _
  | cons c cs ih =>
    have one : 1 ≤ (escaped c).length := by
      rcases escaped_cases c with ⟨plain, _⟩ | ⟨code, written, _⟩
      · rw [plain]
        exact Nat.le_refl _
      · rw [written]
        exact Nat.succ_le_succ (Nat.zero_le _)
    rw [List.flatMap_cons, List.length_append, List.length_cons]
    omega

theorem string_escaped (s : String) (rest : List Char) :
    string (s.toList.flatMap escaped ++ '"' :: rest) = .ok (s, rest) := by
  have enough : s.toList.length < (s.toList.flatMap escaped ++ '"' :: rest).length := by
    have written := length_le_flatMap_escaped s.toList
    rw [List.length_append, List.length_cons]
    omega
  rw [string, characters_escaped rest _ _ _ enough]
  simp

theorem quoted_append (s : String) (rest : List Char) :
    quoted s ++ rest = '"' :: (s.toList.flatMap escaped ++ '"' :: rest) := by
  simp [quoted]

theorem quoted_opens (s : String) : Opens (quoted s) :=
  ⟨'"', s.toList.flatMap escaped ++ ['"'], rfl, by decide, by decide⟩

/-- A string is read back. -/
theorem reads_text (s : String) : Reads text (quoted s) s := by
  intro rest _
  rw [quoted_append, text, trimmed_cons (by decide)]
  exact string_escaped s rest

/-! ## Numbers -/

section

variable {ds rest : List Char}

/-- No digit follows, nor a fraction or an exponent. -/
structure NumberEnds (rest : List Char) : Prop where
  digit : ∀ c ∈ rest.head?, c.isDigit = false
  point : ∀ c ∈ rest.head?, c ≠ '.'
  exponent : ∀ c ∈ rest.head?, ¬(c = 'e' ∨ c = 'E')

theorem Closed.numberEnds (h : Closed rest) : NumberEnds rest := by
  refine ⟨fun c hc => ?_, fun c hc => ?_, fun c hc => ?_⟩ <;>
    rcases h c hc with rfl | rfl | rfl <;> decide

theorem digits_append (all : ∀ c ∈ ds, c.isDigit = true)
    (ends : ∀ c ∈ rest.head?, c.isDigit = false) : digits (ds ++ rest) = (ds, rest) := by
  have stop : rest.takeWhile Char.isDigit = [] ∧ rest.dropWhile Char.isDigit = rest := by
    cases rest with
    | nil => exact ⟨rfl, rfl⟩
    | cons c cs => simp [ends c rfl]
  rw [digits, List.span_eq_takeWhile_dropWhile, List.takeWhile_append_of_pos all,
    List.dropWhile_append_of_pos all, stop.1, stop.2, List.append_nil]

/-- The first digit of a number is zero only when it is the only one. -/
theorem ofNat_head (n : Nat) : ∃ c ds, Decimal.ofNat n = c :: ds ∧ (c = '0' → ds = []) := by
  induction n using Nat.strongRecOn with
  | ind n ih =>
    rw [Decimal.ofNat, Nat.toDigits_eq_if (by decide)]
    split
    · exact ⟨_, [], rfl, fun _ => rfl⟩
    · rename_i two
      obtain ⟨c, ds, written, leading⟩ := ih (n / 10) (by omega)
      rw [Decimal.ofNat] at written
      rw [written]
      refine ⟨c, ds ++ [(n % 10).digitChar], rfl, fun zero => ?_⟩
      -- the digits in front of the last one would stand for zero
      have value : Decimal.toNat (Decimal.ofNat (n / 10)) = 0 := by
        rw [Decimal.ofNat, written, zero, leading zero]
        rfl
      rw [Decimal.toNat_ofNat] at value
      omega

theorem wholeDigits_ofNat (n : Nat) (ends : NumberEnds rest) :
    wholeDigits (Decimal.ofNat n ++ rest) = .ok (Decimal.ofNat n, rest) := by
  obtain ⟨c, ds, written, leading⟩ := ofNat_head n
  have taken : digits (c :: ds ++ rest) = (c :: ds, rest) :=
    digits_append (fun d hd => Decimal.isDigit_of_mem_ofNat (n := n) (written ▸ hd)) ends.digit
  rw [written, List.cons_append, wholeDigits]
  rw [List.cons_append] at taken
  rw [taken]
  have fits : ¬(c :: ds = [] ∨ (c = '0' ∧ c :: ds ≠ ['0'])) := by
    rintro (none | ⟨zero, more⟩)
    · cases none
    · exact more (by rw [zero, leading zero])
  exact if_neg fits

theorem fractionDigits_of_ends (point : ∀ c ∈ rest.head?, c ≠ '.') :
    fractionDigits rest = .ok ([], rest) := by
  unfold fractionDigits
  split
  · exact absurd rfl (point '.' rfl)
  · rfl

theorem exponent_of_ends (ends : NumberEnds rest) : exponent rest = .ok (none, rest) := by
  cases rest with
  | nil => rfl
  | cons c cs => exact if_neg (ends.exponent c rfl)

theorem le_ofDigitChars (ds : List Char) : ∀ n, n ≤ Nat.ofDigitChars 10 ds n := by
  induction ds with
  | nil => exact fun n => Nat.le_refl _
  | cons c ds ih =>
    intro n
    rw [Nat.ofDigitChars_cons]
    have later := ih (10 * n + (c.toNat - '0'.toNat))
    omega

/-- Digits whose number is below the bound are all taken. -/
theorem gather_of_lt : ∀ (ds : List Char) (n taken : Nat),
    Nat.ofDigitChars 10 ds n < UInt64.size →
      gather n taken ds = (Nat.ofDigitChars 10 ds n, taken + ds.length) := by
  intro ds
  induction ds with
  | nil => exact fun n taken _ => rfl
  | cons c ds ih =>
    intro n taken small
    rw [Nat.ofDigitChars_cons] at small ⊢
    have next : 10 * n + Decimal.digit c < UInt64.size :=
      Nat.lt_of_le_of_lt (le_ofDigitChars ds _) small
    have later := ih (10 * n + Decimal.digit c) (taken + 1) small
    rw [gather, if_pos next, later, List.length_cons, Nat.add_right_comm, Nat.add_assoc]
    rfl

theorem gather_ofNat {n : Nat} (small : n < UInt64.size) :
    gather 0 0 (Decimal.ofNat n) = (n, (Decimal.ofNat n).length) := by
  have value : Nat.ofDigitChars 10 (Decimal.ofNat n) 0 = n := Decimal.toNat_ofNat n
  rw [gather_of_lt _ _ _ (value.symm ▸ small), value, Nat.zero_add]

/-- Behind its sign an integer is read back. -/
theorem number_parts (negative : Bool) {n : Nat} (small : n < UInt64.size)
    (fits : negative = true → 0 < n ∧ n ≤ 0x8000000000000000) :
    Number.ofParts negative (Decimal.ofNat n) [] none =
      some (.integer (if negative then -Int.ofNat n else Int.ofNat n)) := by
  simpa [Number.ofParts, gather_ofNat small] using fits

/-- An integer of 64 bits is read back as a number. -/
theorem number_ofInt {n : Int} (low : -0x8000000000000000 ≤ n) (high : n < 0x10000000000000000)
    (ends : NumberEnds rest) : number (Decimal.ofInt n ++ rest) = .ok (.integer n, rest) := by
  have size : UInt64.size = 0x10000000000000000 := rfl
  have parts := wholeDigits_ofNat n.natAbs ends
  unfold Decimal.ofInt
  split
  · rename_i negative
    have read := number_parts true (n := n.natAbs) (by omega) fun _ => by omega
    have value : -Int.ofNat n.natAbs = n := by
      rw [Int.ofNat_eq_natCast]
      omega
    simp only [if_true, value] at read
    simp [number, parts, fractionDigits_of_ends ends.point, exponent_of_ends ends, read, bind, Except.bind]
  · rename_i positive
    have read := number_parts false (n := n.natAbs) (by omega) (by simp)
    have value : Int.ofNat n.natAbs = n := by
      rw [Int.ofNat_eq_natCast]
      omega
    simp only [Bool.false_eq_true, if_false, value] at read
    -- the first digit is no minus sign
    obtain ⟨c, ds, written, _⟩ := ofNat_head n.natAbs
    have digit : c.isDigit = true :=
      Decimal.isDigit_of_mem_ofNat (n := n.natAbs) (written ▸ List.mem_cons_self)
    have unsigned : c ≠ '-' := by
      rintro rfl
      exact absurd digit (by decide)
    rw [written] at parts read ⊢
    rw [List.cons_append] at parts ⊢
    unfold number
    split
    rename_i negative cs' signed
    split at signed
    · rename_i minus
      exact absurd (List.cons.inj minus).1 unsigned
    · cases signed
      simp [parts, fractionDigits_of_ends ends.point, exponent_of_ends ends, read, bind, Except.bind]

end

theorem ofInt_front (n : Int) :
    ∃ c cs, Decimal.ofInt n = c :: cs ∧ (c = '-' ∨ c.isDigit = true) := by
  unfold Decimal.ofInt
  split
  · exact ⟨_, _, rfl, Or.inl rfl⟩
  · obtain ⟨c, ds, written, _⟩ := ofNat_head n.natAbs
    exact ⟨c, ds, written, Or.inr (Decimal.isDigit_of_mem_ofNat (n := n.natAbs)
      (written ▸ List.mem_cons_self))⟩

theorem ofInt_begins (n : Int) : Begins (Decimal.ofInt n) := by
  obtain ⟨c, cs, written, front⟩ := ofInt_front n
  exact ⟨c, cs, written, front.imp_left fun minus => by simp [minus]⟩

theorem ofInt_opens (n : Int) : Opens (Decimal.ofInt n) := (ofInt_begins n).opens.1

/-- An integer of a range within 64 bits is read back. -/
theorem reads_integer (range : IntegerRange α) {a : α}
    (low : -0x8000000000000000 ≤ range.toInt a) (high : range.toInt a < 0x10000000000000000) :
    Reads (integer range) (Decimal.ofInt (range.toInt a)) a := by
  intro rest closed
  have read := number_ofInt low high closed.numberEnds
  obtain ⟨c, cs, written, front⟩ := ofInt_front (range.toInt a)
  obtain ⟨d, ds, same, noSpace, _⟩ := ofInt_opens (range.toInt a)
  obtain ⟨rfl, rfl⟩ := List.cons.inj (written.symm.trans same)
  rw [written, List.cons_append] at read ⊢
  rw [integer, trimmed_cons noSpace]
  simp only [front, if_true, read, range.ofInt?_toInt]

/-! ## Literals -/

/-- A truth value is read back. -/
theorem reads_flag (b : Bool) : Reads flag (boolean b) b := by
  intro rest _
  cases b <;> rfl

end Json

end IngressControl
