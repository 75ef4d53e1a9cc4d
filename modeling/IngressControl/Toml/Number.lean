import IngressControl.Decimal.Doubles
import IngressControl.Toml.Item
import IngressControl.Toml.Text

/-!
# Numbers, dates and times of TOML

Digits may have single underscores between them. An integer is signed and has 64 bits; without a
sign it may be written in another base. A number with a fraction or an exponent is the nearest
double, where positive infinity can only be had by its name. Dates and times are checked, but their
values are not kept.
-/

namespace IngressControl.Toml

/-! ## Digits -/

/-- Takes the digits behind a first one. -/
def moreDigits (isDigit : Char → Bool) : Reader (List Char)
  | '_' :: c :: cs =>
    if isDigit c then (moreDigits isDigit cs).map fun (ds, rest) => (c :: ds, rest) else none
  | ['_'] => none
  | c :: cs =>
    if isDigit c then (moreDigits isDigit cs).map fun (ds, rest) => (c :: ds, rest)
    else some ([], c :: cs)
  | [] => some ([], [])

/-- Takes one digit or more. -/
def someDigits (isDigit : Char → Bool) : Reader (List Char)
  | c :: cs =>
    if isDigit c then (moreDigits isDigit cs).map fun (ds, rest) => (c :: ds, rest) else none
  | [] => none

/-- Takes the digits of a whole number: a single zero, or digits that begin with none. -/
def wholeDigits : Reader (List Char)
  | '0' :: cs => some (['0'], cs)
  | cs => someDigits Char.isDigit cs

/-- Takes a sign, if there is one; the result tells whether it is a minus. -/
def sign : List Char → Bool × List Char
  | '+' :: cs => (false, cs)
  | '-' :: cs => (true, cs)
  | cs => (false, cs)

/-! ## Numbers -/

/-- An integer, if it has 64 bits. -/
def integer64 (n : Int) : Option Item :=
  if -0x8000000000000000 ≤ n ∧ n < 0x8000000000000000 then some (.integer n) else none

/-- Takes the digits of an integer in some base. -/
def inBase (base : Nat) : Reader Item := fun cs =>
  let isDigit (c : Char) : Bool := (Hex.value? c).any (· < base)
  match someDigits isDigit cs with
  | none => none
  | some (digits, rest) =>
    let n := digits.foldl (fun n c => base * n + (Hex.value? c).getD 0) 0
    (integer64 (Int.ofNat n)).map (·, rest)

/-- Takes a fraction, if there is one. -/
def fraction : Reader (Option (List Char))
  | '.' :: cs => (someDigits Char.isDigit cs).map fun (ds, rest) => (some ds, rest)
  | cs => some (none, cs)

/-- Takes an exponent, if there is one. -/
def exponent : Reader (Option Int) := fun cs =>
  match cs with
  | [] => some (none, [])
  | c :: rest =>
    if c = 'e' ∨ c = 'E' then
      let (negative, rest) := sign rest
      (someDigits Char.isDigit rest).map fun (ds, rest) =>
        let n := Int.ofNat (Decimal.toNat ds)
        (some (if negative then -n else n), rest)
    else some (none, cs)

/-- The value of a decimal number with the given parts. -/
def decimalValue (negative : Bool) (whole : List Char) (fraction : Option (List Char))
    (exponent : Option Int) : Option Item :=
  if fraction = none ∧ exponent = none then
    let n := Int.ofNat (Decimal.toNat whole)
    integer64 (if negative then -n else n)
  else
    let places := fraction.getD []
    let x := Decimal.nearest (Decimal.toNat (whole ++ places))
      (exponent.getD 0 - Int.ofNat places.length)
    if negative then some (.float (-x)) else if x.isInf then none else some (.float x)

/-- Takes a number. -/
def number : Reader Item
  | '0' :: 'x' :: cs => inBase 16 cs
  | '0' :: 'o' :: cs => inBase 8 cs
  | '0' :: 'b' :: cs => inBase 2 cs
  | cs =>
    match sign cs with
    | (negative, 'i' :: 'n' :: 'f' :: rest) =>
      let x := Float.ofBits 0x7ff0000000000000
      some (.float (if negative then -x else x), rest)
    | (negative, 'n' :: 'a' :: 'n' :: rest) =>
      let x := Float.ofBits 0x7ff8000000000000
      some (.float (if negative then -x else x), rest)
    | (negative, cs) => do
      let (whole, cs) ← wholeDigits cs
      let (fraction, cs) ← fraction cs
      let (exponent, cs) ← exponent cs
      let v ← decimalValue negative whole fraction exponent
      return (v, cs)

/-! ## Dates and times -/

/-- Takes a number of `count` digits in a range. -/
def field (count least greatest : Nat) : Reader Nat := fun cs =>
  match Decimal.toNat? (cs.take count) with
  | none => none
  | some n =>
    if (cs.take count).length = count ∧ least ≤ n ∧ n ≤ greatest then some (n, cs.drop count)
    else none

/-- The text behind a given character. -/
def behind (c : Char) : List Char → Option (List Char)
  | [] => none
  | d :: cs => if d = c then some cs else none

/-- The number of days in a month. -/
def daysInMonth (year month : Nat) : Nat :=
  if month = 2 then
    if year % 4 = 0 ∧ (year % 100 ≠ 0 ∨ year % 400 = 0) then 29 else 28
  else if month = 4 ∨ month = 6 ∨ month = 9 ∨ month = 11 then 30
  else 31

/-- The text behind a date. -/
def date (cs : List Char) : Option (List Char) := do
  let (year, cs) ← field 4 0 9999 cs
  let cs ← behind '-' cs
  let (month, cs) ← field 2 1 12 cs
  let cs ← behind '-' cs
  let (_, cs) ← field 2 1 (daysInMonth year month) cs
  return cs

/-- The text behind a fraction of a second. -/
def secondFraction : List Char → List Char
  | '.' :: c :: cs => if c.isDigit then cs.dropWhile Char.isDigit else '.' :: c :: cs
  | cs => cs

/-- Takes the hour of a time of day and the colon behind it. -/
def hour (cs : List Char) : Option (List Char) := do
  let (_, cs) ← field 2 0 23 cs
  behind ':' cs

/-- The text behind the minutes and seconds of a time of day. -/
def minutes (cs : List Char) : Option (List Char) := do
  let (_, cs) ← field 2 0 59 cs
  let cs ← behind ':' cs
  let (_, cs) ← field 2 0 60 cs
  return secondFraction cs

/-- The text behind the offset of a time from that of Greenwich, if there is one. -/
def offset : List Char → Option (List Char)
  | [] => some []
  | c :: cs =>
    if c = 'Z' ∨ c = 'z' then some cs
    else if c = '+' ∨ c = '-' then do
      let cs ← hour cs
      let (_, cs) ← field 2 0 59 cs
      return cs
    else some (c :: cs)

/-- The text behind the time of day that may follow a date. -/
def timeOfDate : List Char → Option (List Char)
  | [] => some []
  | c :: cs =>
    if c = 'T' ∨ c = 't' ∨ c = ' ' then
      match hour cs with
      | none => some (c :: cs)
      | some cs => (minutes cs).bind offset
    else some (c :: cs)

/-- Takes what begins with a sign or a digit. A dash behind four digits tells a date, and a colon
behind two a time. -/
def numberOrMoment : Reader Item := fun cs =>
  if ((field 4 0 9999 cs).bind fun (_, cs) => behind '-' cs).isSome then
    ((date cs).bind timeOfDate).map (.moment, ·)
  else
    match hour cs with
    | some cs => (minutes cs).map (.moment, ·)
    | none => number cs

end IngressControl.Toml
