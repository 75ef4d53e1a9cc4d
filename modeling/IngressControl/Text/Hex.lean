import IngressControl.Text.Utf8

/-!
# Hexadecimal text

Two lower-case digits for each byte, and the value of a digit of either case.

In percent encoding a byte is written as a percent sign and two upper-case digits. Reading takes either
case, and leaves a percent sign without two digits behind it as it is. Control characters and all that
is not ASCII are always encoded; which other characters are depends on the part of the URL.
-/

namespace IngressControl.Hex

/-- The lower-case digit of a value below sixteen. -/
def digit (n : Nat) : Char := Nat.digitChar (n % 16)

/-- The value of a digit, of either case. -/
def value? (c : Char) : Option Nat :=
  let n := c.toNat
  if 48 ≤ n && n ≤ 57 then some (n - 48)
  else if 97 ≤ n && n ≤ 102 then some (n - 87)
  else if 65 ≤ n && n ≤ 70 then some (n - 55)
  else none

/-- The digits of one byte. -/
def ofByte (b : UInt8) : List Char := [digit (b.toNat / 16), digit b.toNat]

/-- The digits of all bytes in order. -/
def ofBytes (bytes : List UInt8) : String := String.ofList (bytes.flatMap ofByte)

/-- The bytes that a text of digit pairs stands for. -/
def toBytes? : List Char → Option (List UInt8)
  | [] => some []
  | [_] => none
  | a :: b :: rest => do
    let high ← value? a
    let low ← value? b
    let bytes ← toBytes? rest
    return UInt8.ofNat (16 * high + low) :: bytes

end IngressControl.Hex

namespace IngressControl.Percent

/-- The encoding of one byte. -/
def ofByte (b : UInt8) : List Char := '%' :: (Hex.ofByte b).map Char.toUpper

/-- The bytes of one character. -/
def bytesOf (c : Char) : Bytes := Utf8.encode c.toString

/-- Encodes the characters that are not printable ASCII, and those of a given class. -/
def encode (reserved : Char → Bool) (cs : List Char) : List Char :=
  cs.flatMap fun c =>
    if ' ' ≤ c ∧ c < '\x7f' ∧ !reserved c then [c] else (bytesOf c).flatMap ofByte

/-- The bytes that a text stands for. -/
def decode : List Char → Bytes
  | [] => []
  | '%' :: a :: b :: rest =>
    match Hex.value? a, Hex.value? b with
    | some high, some low => UInt8.ofNat (16 * high + low) :: decode rest
    | _, _ => bytesOf '%' ++ decode (a :: b :: rest)
  | c :: rest => bytesOf c ++ decode rest

end IngressControl.Percent
