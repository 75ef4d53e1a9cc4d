import IngressControl.Json.Reader

/-!
# JSON numbers

A number without fraction and exponent is an integer when it lies between the least 64-bit signed
and the greatest 64-bit unsigned integer; negative zero is not one. Any other number is a double:
the leading digits that fit in 64 bits, scaled by a power of ten in one multiplication or
division. A number too large for a double is refused.
-/

namespace IngressControl.Json

/-- The value of a number. -/
inductive Number where
  | integer (n : Int)
  | float (x : Float)

/-- The value as something found where another type was wanted. -/
def Number.found : Number → Found
  | .integer n => .integer n
  | .float x => .float x

/-- Takes digits into `n` while the result is below `2 ^ 64`, and counts those taken. -/
def gather (n taken : Nat) : List Char → Nat × Nat
  | [] => (n, taken)
  | c :: cs =>
    let next := 10 * n + Decimal.digit c
    if next < UInt64.size then gather next (taken + 1) cs else (n, taken)

/-- The double `x * 10 ^ exponent`; powers beyond the three hundred and eighth are applied in
parts. `none` when it is too large. -/
def scaled (x : Float) (exponent : Int) : Option Float :=
  if exponent.natAbs ≤ 308 then
    let power := Float.ofScientific 1 false exponent.natAbs
    if exponent < 0 then some (x / power)
    else if (x * power).isInf then none else some (x * power)
  else if x == 0.0 then some x
  else if 0 ≤ exponent then none
  else scaled (x / 1e308) (exponent + 308)
termination_by exponent.natAbs

/-- Takes a run of digits off the front. -/
def digits (cs : List Char) : List Char × List Char := cs.span Char.isDigit

/-- Takes the digits of a whole number off the front: one zero, or digits that begin with none. -/
def wholeDigits : Reader (List Char)
  | [] => .error .truncated
  | cs@(c :: _) =>
    let (whole, rest) := digits cs
    if whole = [] ∨ (c = '0' ∧ whole ≠ ['0']) then .error .malformed else .ok (whole, rest)

/-- Takes the digits of a fraction off the front; without a point there are none. -/
def fractionDigits : Reader (List Char)
  | '.' :: cs =>
    match digits cs with
    | ([], []) => .error .truncated
    | ([], _ :: _) => .error .malformed
    | (fraction, rest) => .ok (fraction, rest)
  | cs => .ok ([], cs)

/-- Takes an exponent off the front, if one stands there. -/
def exponent : Reader (Option Int)
  | [] => .ok (none, [])
  | c :: cs =>
    if c = 'e' ∨ c = 'E' then
      let (negative, cs) :=
        match cs with
        | '+' :: cs => (false, cs)
        | '-' :: cs => (true, cs)
        | cs => (false, cs)
      match digits cs with
      | ([], []) => .error .truncated
      | ([], _ :: _) => .error .malformed
      | (ds, rest) =>
        let n := Int.ofNat (Decimal.toNat ds)
        .ok (some (if negative then -n else n), rest)
    else .ok (none, c :: cs)

/-- The value of a number with the given sign and parts. -/
def Number.ofParts (negative : Bool) (whole fraction : List Char) (exponent : Option Int) :
    Option Number :=
  let (significand, taken) := gather 0 0 whole
  let excess := whole.length - taken
  if fraction = [] ∧ exponent = none ∧ excess = 0 ∧
      (!negative ∨ (0 < significand ∧ significand ≤ 0x8000000000000000)) then
    some (.integer (if negative then -Int.ofNat significand else Int.ofNat significand))
  else
    let (significand, places) := gather significand 0 fraction
    let power := Int.ofNat excess - Int.ofNat places + exponent.getD 0
    (scaled (Float.ofNat significand) power).map fun x => .float (if negative then -x else x)

/-- Takes a number off the front. -/
def number : Reader Number := fun cs => do
  let (negative, cs) :=
    match cs with
    | '-' :: cs => (true, cs)
    | cs => (false, cs)
  let (whole, cs) ← wholeDigits cs
  let (fraction, cs) ← fractionDigits cs
  let (exponent, cs) ← exponent cs
  match Number.ofParts negative whole fraction exponent with
  | some n => .ok (n, cs)
  | none => .error .malformed

/-- Describes what stands at the front of a text where a value of another type was wanted. Only
the opening bracket of a list or an object is looked at. -/
def found : List Char → Except Problem Found
  | [] => .error .truncated
  | 'n' :: cs => (word ['u', 'l', 'l'] cs).map fun _ => .null
  | 't' :: cs => (word ['r', 'u', 'e'] cs).map fun _ => .boolean true
  | 'f' :: cs => (word ['a', 'l', 's', 'e'] cs).map fun _ => .boolean false
  | '"' :: cs => (string cs).map fun (s, _) => .text s
  | '[' :: _ => .ok .sequence
  | '{' :: _ => .ok .map
  | cs => (number cs).map fun (n, _) => n.found

/-- Refuses the value at the front of a text. -/
def refuse (expected : String) (cs : List Char) : Except Problem α :=
  match found cs with
  | .ok f => .error (.mismatch (.invalidType f expected))
  | .error e => .error e

end IngressControl.Json
