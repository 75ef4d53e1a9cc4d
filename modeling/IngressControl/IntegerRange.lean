/-!
# Integers of a fixed width

A document's integers are unbounded at first. An `IntegerRange` says which of them a type holds,
and how the range is called in messages.
-/

namespace IngressControl

/-- The integers of a fixed width. -/
structure IntegerRange (α : Type) where
  /-- The name of the range in messages. -/
  name : String
  toInt : α → Int
  ofInt? : Int → Option α
  ofInt?_toInt : ∀ a, ofInt? (toInt a) = some a

/-- The 64-bit signed integers. -/
def IntegerRange.int64 : IntegerRange Int64 where
  name := "i64"
  toInt := Int64.toInt
  ofInt? n := if -0x8000000000000000 ≤ n ∧ n < 0x8000000000000000 then some (Int64.ofInt n) else none
  ofInt?_toInt a := by
    have low := Int64.le_toInt a
    have high := Int64.toInt_lt a
    rw [if_pos ⟨by simpa using low, by simpa using high⟩, Int64.ofInt_toInt]

/-- The 16-bit unsigned integers. -/
def IntegerRange.uint16 : IntegerRange UInt16 where
  name := "u16"
  toInt a := a.toNat
  ofInt? n := if 0 ≤ n ∧ n < 0x10000 then some (UInt16.ofNat n.toNat) else none
  ofInt?_toInt a := by
    have high := a.toNat_lt
    rw [if_pos (by omega)]
    simp

/-- The 32-bit unsigned integers. -/
def IntegerRange.uint32 : IntegerRange UInt32 where
  name := "u32"
  toInt a := a.toNat
  ofInt? n := if 0 ≤ n ∧ n < 0x100000000 then some (UInt32.ofNat n.toNat) else none
  ofInt?_toInt a := by
    have high := a.toNat_lt
    rw [if_pos (by omega)]
    simp

/-- The 64-bit unsigned integers. -/
def IntegerRange.uint64 : IntegerRange UInt64 where
  name := "u64"
  toInt a := a.toNat
  ofInt? n := if 0 ≤ n ∧ n < 0x10000000000000000 then some (UInt64.ofNat n.toNat) else none
  ofInt?_toInt a := by
    have high := a.toNat_lt
    rw [if_pos (by omega)]
    simp

end IngressControl
