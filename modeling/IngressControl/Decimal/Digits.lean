/-!
# Decimal text of whole numbers

A natural number is written with its decimal digits and no leading zero, an integer with a
minus sign in front of the digits of its absolute value. Reading a run of digits undoes
writing one.
-/

namespace IngressControl.Decimal

/-- The decimal digits of `n`. -/
def ofNat (n : Nat) : List Char := Nat.toDigits 10 n

/-- The decimal text of `n`, with a sign when it is negative. -/
def ofInt (n : Int) : List Char :=
  if n < 0 then '-' :: ofNat n.natAbs else ofNat n.natAbs

/-- The number that a run of digits stands for. -/
def toNat (digits : List Char) : Nat := Nat.ofDigitChars 10 digits 0

/-- The value of one digit. -/
def digit (c : Char) : Nat := c.toNat - '0'.toNat

/-- The number that a text stands for, when it is a run of one or more digits. -/
def toNat? (digits : List Char) : Option Nat :=
  if digits ≠ [] ∧ digits.all Char.isDigit then some (toNat digits) else none

@[simp] theorem toNat_ofNat (n : Nat) : toNat (ofNat n) = n := Nat.ofDigitChars_toDigits (by decide) (by decide)

theorem isDigit_of_mem_ofNat {n : Nat} {c : Char} (h : c ∈ ofNat n) : c.isDigit :=
  Nat.isDigit_of_mem_toDigits (by decide) (by decide) h

theorem ofNat_ne_nil (n : Nat) : ofNat n ≠ [] := Nat.toDigits_ne_nil

@[simp] theorem toNat?_ofNat (n : Nat) : toNat? (ofNat n) = some n := by
  have digits : (ofNat n).all Char.isDigit := List.all_eq_true.2 fun _ => isDigit_of_mem_ofNat
  simp [toNat?, ofNat_ne_nil, digits]

end IngressControl.Decimal
