import IngressControl.Text.Hex
import IngressControl.Text.Split

/-!
# Tables of characters

Properties of characters are kept as texts of hexadecimal code points, with words between blanks. A
word of a set is a code point or a range with a dash between its ends.
-/

namespace IngressControl

/-- The number that hexadecimal digits stand for. -/
def hexValue (digits : List Char) : Nat :=
  digits.foldl (fun n c => 16 * n + (Hex.value? c).getD 0) 0

/-- A set of characters as ranges of code points. -/
structure CodePoints where
  ranges : List (Nat × Nat)

namespace CodePoints

/-- The words of a table. -/
def words (table : String) : List (List Char) :=
  (splitAt ' ' (table.toList.map fun c => if c = '\n' then ' ' else c)).filter (· ≠ [])

/-- The range of a word. -/
def range (word : List Char) : Nat × Nat :=
  match splitAt '-' word with
  | [first, last] => (hexValue first, hexValue last)
  | _ => (hexValue word, hexValue word)

/-- The set of a table. -/
def ofTable (table : String) : CodePoints := ⟨(words table).map range⟩

/-- Whether a character is in the set. -/
def contains (s : CodePoints) (c : Char) : Bool :=
  s.ranges.any fun (first, last) => first ≤ c.toNat && c.toNat ≤ last

end CodePoints

end IngressControl
