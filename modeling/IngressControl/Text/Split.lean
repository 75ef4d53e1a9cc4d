/-!
# Pieces of texts

A text is cut at every separator, so there is one piece more than separators. White space is told by
the Unicode property `White_Space`.
-/

namespace IngressControl

/-- Whether a character is white space. -/
def isBlank (c : Char) : Bool :=
  let n := c.toNat
  (0x9 ≤ n && n ≤ 0xd) || n = 0x20 || n = 0x85 || n = 0xa0 || n = 0x1680 ||
    (0x2000 ≤ n && n ≤ 0x200a) || n = 0x2028 || n = 0x2029 || n = 0x202f || n = 0x205f ||
    n = 0x3000

/-- Whether a text has no character that is not white space. -/
def isBlankText (s : String) : Bool := s.toList.all isBlank

/-- The pieces of a text between separators. -/
def splitAt (separator : Char) : List Char → List (List Char)
  | [] => [[]]
  | c :: cs =>
    if c = separator then [] :: splitAt separator cs
    else
      match splitAt separator cs with
      | [] => [[c]]
      | piece :: pieces => (c :: piece) :: pieces

/-- The pieces with a separator between any two. -/
def joinWith (separator : Char) : List (List Char) → List Char
  | [] => []
  | [piece] => piece
  | piece :: pieces => piece ++ separator :: joinWith separator pieces

theorem splitAt_ne_nil (separator : Char) (cs : List Char) : splitAt separator cs ≠ [] := by
  cases cs with
  | nil => simp [splitAt]
  | cons c cs =>
    simp only [splitAt]
    split
    · simp
    · split <;> simp

theorem splitAt_append (separator : Char) (bs : List Char) : ∀ as : List Char,
    splitAt separator (as ++ separator :: bs) = splitAt separator as ++ splitAt separator bs := by
  intro as
  induction as with
  | nil => simp [splitAt]
  | cons a as ih =>
    rw [List.cons_append, splitAt, splitAt, ih]
    split
    · rfl
    · cases pieces : splitAt separator as with
      | nil => exact absurd pieces (splitAt_ne_nil _ _)
      | cons piece pieces => rfl

/-- A text without a separator is one piece. -/
theorem splitAt_of_notMem {separator : Char} : ∀ {cs : List Char}, separator ∉ cs →
    splitAt separator cs = [cs] := by
  intro cs
  induction cs with
  | nil => exact fun _ => rfl
  | cons c cs ih =>
    intro none
    rw [List.mem_cons, not_or] at none
    rw [splitAt, if_neg (Ne.symm none.1), ih none.2]

/-- The lines of a text: the pieces between line feeds, without a carriage return at their end. A
line feed at the end of the text ends its last line and begins no other. -/
def linesOf (s : String) : List (List Char) :=
  let pieces := splitAt '\n' s.toList
  let lines := if pieces.getLast? = some [] then pieces.dropLast else pieces
  lines.map fun line => if line.getLast? = some '\r' then line.dropLast else line

end IngressControl
