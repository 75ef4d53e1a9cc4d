import IngressControl.Decimal.Digits

/-!
# Punycode

A label with characters beyond ASCII is written in ASCII: first its ASCII characters, then, behind a
dash, where the others are put in. They are put in by ascending code point, and each is given by the
number of places and code points that are passed from the one before, in digits whose weights adapt
to the size of the numbers.
-/

namespace IngressControl.Punycode

/-- The character of a digit below thirty-six. -/
def digitChar (d : Nat) : Char := if d < 26 then .ofNat (97 + d) else .ofNat (22 + d)

/-- The value of a digit. -/
def digit? (c : Char) : Option Nat :=
  let n := c.toNat
  if 97 ≤ n ∧ n ≤ 122 then some (n - 97)
  else if 65 ≤ n ∧ n ≤ 90 then some (n - 65)
  else if 48 ≤ n ∧ n ≤ 57 then some (n - 22)
  else none

/-- A digit below the threshold of its position ends a number. -/
def threshold (bias position : Nat) : Nat := min 26 (max 1 (position - bias))

theorem threshold_pos (bias position : Nat) : 1 ≤ threshold bias position := by
  unfold threshold; omega

/-- Cuts a number down to at most 455, and counts thirty-six for each cut. -/
def scale (delta count : Nat) : Nat × Nat :=
  if 455 < delta then scale (delta / 35) (count + 36) else (delta, count)
termination_by delta

/-- The bias behind a number, where so many characters have been put in. -/
def adapt (delta length : Nat) (isFirst : Bool) : Nat :=
  let delta := if isFirst then delta / 700 else delta / 2
  let (delta, count) := scale (delta + delta / length) 0
  count + 36 * delta / (delta + 38)

/-- The bias of the first number. -/
def firstBias : Nat := 72

/-- The code point from which on characters are put in. -/
def firstCode : Nat := 128

/-! ## Reading -/

/-- Takes a number off the front. -/
def number (bias position weight value : Nat) : List Char → Option (Nat × List Char)
  | [] => none
  | c :: cs =>
    match digit? c with
    | none => none
    | some d =>
      let t := threshold bias position
      if d < t then some (value + d * weight, cs)
      else number bias (position + 36) (weight * (36 - t)) (value + d * weight) cs

/-- Puts characters into a text, the first of them behind `code` and `place`. -/
def putIn : (bound : List Char) → (code place bias : Nat) → (text : List Char) → List Char →
    Option (List Char)
  | _, _, _, _, text, [] => some text
  | [], _, _, _, _, _ :: _ => none
  | _ :: bound, code, place, bias, text, cs =>
    match number bias 36 1 0 cs with
    | none => none
    | some (delta, rest) =>
      let length := text.length + 1
      let code := code + (place + delta) / length
      let here := (place + delta) % length
      if code.isValidChar then
        putIn bound code (here + 1) (adapt delta length (place = 0))
          (text.take here ++ Char.ofNat code :: text.drop here) rest
      else none

/-- The label that a text stands for. -/
def decode? (cs : List Char) : Option (List Char) :=
  let behind := (cs.reverse.takeWhile (· ≠ '-')).reverse
  let basic := cs.take (cs.length - behind.length - 1)
  if basic.all fun c => c.toNat < firstCode then putIn behind firstCode 0 firstBias basic behind
  else none

/-! ## Writing -/

/-- The digits of a number. -/
def digits (bias position n : Nat) : List Char :=
  let t := threshold bias position
  if n < t then [digitChar n]
  else digitChar (t + (n - t) % (36 - t)) :: digits bias (position + 36) ((n - t) / (36 - t))
termination_by n
decreasing_by
  have := threshold_pos bias position
  exact Nat.lt_of_le_of_lt (Nat.div_le_self _ _) (by omega)

/-- A label that is being written: what has been passed since the last number, the bias of the next
one, how many characters have been put in, and the digits so far. -/
structure Writing where
  delta : Nat
  bias : Nat
  count : Nat
  out : List Char

/-- Passes a character of the label in the round of a code point. -/
def Writing.pass (basic code : Nat) (w : Writing) (c : Char) : Writing :=
  if c.toNat < code then { w with delta := w.delta + 1 }
  else if c.toNat = code then
    { delta := 0, bias := adapt w.delta (w.count + 1) (w.count = basic), count := w.count + 1
      out := w.out ++ digits w.bias 36 w.delta }
  else w

/-- Goes through the rounds of some ascending code points, from a given one on. -/
def Writing.rounds (label : List Char) (basic : Nat) : (from' : Nat) → List Nat → Writing → Writing
  | _, [], w => w
  | from', code :: codes, w =>
    let w := { w with delta := w.delta + (code - from') * (w.count + 1) }
    let w := label.foldl (Writing.pass basic code) w
    Writing.rounds label basic (code + 1) codes { w with delta := w.delta + 1 }

/-- The text of a label. -/
def encode (label : List Char) : List Char :=
  let basic := label.filter fun c => c.toNat < firstCode
  let codes := ((label.map Char.toNat).filter (firstCode ≤ ·)).mergeSort.eraseDups
  let w := Writing.rounds label basic.length firstCode codes ⟨0, firstBias, basic.length, []⟩
  (if basic = [] then [] else basic ++ ['-']) ++ w.out

end IngressControl.Punycode
