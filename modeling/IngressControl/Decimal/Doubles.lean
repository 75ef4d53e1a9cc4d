import IngressControl.Decimal.Digits

/-!
# Doubles in decimal text

A finite positive double is `m * 2 ^ q`. The reals that round to it form an interval around it,
with both ends in it exactly when `m` is even. Of all decimals in that interval the shortest is
chosen, and of those with the fewest digits the one nearest to the number, an exact tie going to
the even last digit. The search walks the decimal grids from one digit up: if a point of a grid
lies in the interval, one of the number's two neighbours on that grid does. A `FloatLayout` says how
the digits are laid out: up to which exponents all places are written, and what stands for an exponent
otherwise.

A decimal `m * 10 ^ e` is a quotient of natural numbers. The double nearest to it has the greatest
significand below `2 ^ 53` on a grid of powers of two, the coarsest of which end at the least
positive double; a tie goes to the even significand. What rounds beyond the greatest double is
infinite.
-/

namespace IngressControl.Decimal

/-! ## The shortest decimal -/

/-- The number `d.ddd * 10 ^ exponent`, with its digits from the first that is not zero. -/
structure Scientific where
  digits : List Char
  exponent : Int

/-- A finite double without its sign: `significand * 2 ^ exponent`. -/
structure Binary where
  significand : Nat
  exponent : Int

/-- The bit in front of the fraction, which is not stored and which only the least numbers lack. -/
def Binary.leadingBit : Nat := 0x10000000000000

/-- The significand and the exponent held in the 64 bits of a finite double. -/
def Binary.ofFloat (x : Float) : Binary :=
  let bits := x.toBits.toNat
  let fraction := bits % leadingBit
  let biased := bits / leadingBit % 2048
  if biased = 0 then ⟨fraction, -1074⟩ else ⟨fraction + leadingBit, Int.ofNat biased - 1075⟩

/-- The double `number / unit`, with the ends of the interval of reals that round to it. -/
structure RoundingInterval where
  low : Nat
  number : Nat
  high : Nat
  unit : Nat
  closed : Bool

/-- Below a power of two the doubles are twice as dense, so that the lower end is nearer there. -/
def Binary.roundingInterval (b : Binary) : RoundingInterval :=
  let dense := b.significand = leadingBit ∧ b.exponent ≠ -1074
  let scale := Nat.pow 2 (b.exponent - 2).toNat
  { low := (4 * b.significand - if dense then 1 else 2) * scale
    number := 4 * b.significand * scale
    high := (4 * b.significand + 2) * scale
    unit := Nat.pow 2 (2 - b.exponent).toNat
    closed := b.significand % 2 = 0 }

/-- Whether `point * 10 ^ grid` rounds to the double. -/
def RoundingInterval.contains (i : RoundingInterval) (grid : Int) (point : Nat) : Bool :=
  let value := point * Nat.pow 10 grid.toNat * i.unit
  let down := Nat.pow 10 (-grid).toNat
  if i.closed then i.low * down ≤ value && value ≤ i.high * down
  else i.low * down < value && value < i.high * down

/-- The nearer of the double's two neighbours on the grid of step `10 ^ grid` that round to it. -/
def RoundingInterval.nearest? (i : RoundingInterval) (grid : Int) : Option Nat :=
  let number := i.number * Nat.pow 10 (-grid).toNat
  let step := i.unit * Nat.pow 10 grid.toNat
  let below := number / step
  match i.contains grid below, i.contains grid (below + 1) with
  | true, false => some below
  | false, true => some (below + 1)
  | false, false => none
  | true, true =>
    match compare (2 * (number % step)) step with
    | .lt => some below
    | .gt => some (below + 1)
    | .eq => some (if below % 2 = 0 then below else below + 1)

/-- The exponent of the first digit of `number / unit`. -/
def RoundingInterval.leading (i : RoundingInterval) : Int :=
  let guess := Int.ofNat (ofNat i.number).length - Int.ofNat (ofNat i.unit).length
  if i.number * Nat.pow 10 (-guess).toNat < i.unit * Nat.pow 10 guess.toNat then guess - 1 else guess

/-- Walks the grids of `count`, `count + 1`, … digits. -/
def RoundingInterval.search (i : RoundingInterval) (leading : Int) : (tries count : Nat) → Scientific
  | 0, _ => ⟨['0'], 0⟩
  | tries + 1, count =>
    let grid := leading + 1 - Int.ofNat count
    match i.nearest? grid with
    | none => i.search leading tries (count + 1)
    | some point =>
      let digits := ofNat point
      ⟨(digits.reverse.dropWhile (· = '0')).reverse, grid + Int.ofNat digits.length - 1⟩

/-- The shortest decimal that reads back as the absolute value of a finite double that is not zero;
seventeen digits always suffice. -/
def shortest (x : Float) : Scientific :=
  let i := (Binary.ofFloat x).roundingInterval
  i.search i.leading 17 1

/-! ## Layouts -/

/-- How the digits of a double become text. -/
structure FloatLayout where
  /-- Whether a number whose first digit has this exponent is written with all its places. -/
  positional : Int → Bool
  /-- The text of a number that is not a number. -/
  nan : String
  /-- The text of positive infinity. -/
  infinity : String

/-- All places of `digits * 10 ^ (exponent - …)`, with at least one digit on both sides of the point. -/
def Scientific.positional (s : Scientific) : List Char :=
  if s.exponent < 0 then
    ['0', '.'] ++ List.replicate (-s.exponent - 1).toNat '0' ++ s.digits
  else
    let whole := s.exponent.toNat + 1
    let fraction := s.digits.drop whole
    s.digits.take whole ++ List.replicate (whole - s.digits.length) '0' ++ ['.'] ++
      (if fraction = [] then ['0'] else fraction)

/-- One digit, the others behind a point, and the exponent with its sign and two digits or more. -/
def Scientific.withExponent (s : Scientific) : List Char :=
  let fraction := s.digits.drop 1
  let exponent := ofNat s.exponent.natAbs
  s.digits.take 1 ++ (if fraction = [] then [] else '.' :: fraction) ++ ['e'] ++
    [if s.exponent < 0 then '-' else '+'] ++ List.replicate (2 - exponent.length) '0' ++ exponent

/-- The text of a double. -/
def FloatLayout.text (layout : FloatLayout) (x : Float) : List Char :=
  if x.isNaN then layout.nan.toList
  else
    let magnitude :=
      if x.isInf then layout.infinity.toList
      else if x == 0.0 then ['0', '.', '0']
      else
        let s := shortest x
        if layout.positional s.exponent then s.positional else s.withExponent
    if x.toBits >>> 63 = 1 then '-' :: magnitude else magnitude

/-! ## The nearest double -/

/-- `n / d` rounded to a whole number, a tie to the even one. -/
def roundedQuotient (n d : Nat) : Nat :=
  let below := n / d
  match compare (2 * (n % d)) d with
  | .lt => below
  | .gt => below + 1
  | .eq => if below % 2 = 0 then below else below + 1

/-- The exponent of the grid on which `n / d` has 53 binary digits, or that of the finest grid. -/
def gridExponent (n d : Nat) : Int :=
  let guess := Int.ofNat n.log2 - Int.ofNat d.log2 - 52
  let reached := d * Nat.pow 2 (guess + 52).toNat ≤ n * Nat.pow 2 (-(guess + 52)).toNat
  max (-1074) (if reached then guess else guess - 1)

/-- The bits of the double nearest to `n / d`. -/
def nearestBits (n d : Nat) : Nat :=
  let q := gridExponent n d
  let significand := roundedQuotient (n * Nat.pow 2 (-q).toNat) (d * Nat.pow 2 q.toNat)
  let bits :=
    if significand < Binary.leadingBit then significand
    else (q + 1075).toNat * Binary.leadingBit + (significand - Binary.leadingBit)
  min bits (0x7ff * Binary.leadingBit)

/-- The double nearest to `m * 10 ^ e`. Numbers that are far out of range are not expanded. -/
def nearest (m : Nat) (e : Int) : Float :=
  let size := Int.ofNat (ofNat m).length + e
  if m = 0 ∨ size < -400 then 0.0
  else if 400 < size then Float.ofBits 0x7ff0000000000000
  else Float.ofBits (.ofNat (nearestBits (m * Nat.pow 10 e.toNat) (Nat.pow 10 (-e).toNat)))

end IngressControl.Decimal
