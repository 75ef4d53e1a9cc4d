import IngressControl.Decimal.Digits
import IngressControl.Text.Hex

/-!
# Addresses

An IP address of the fourth version is four octets, one of the sixth is eight groups of sixteen bits. In
text the longest row of two or more zero groups, the first of equally long ones, is left out.

A socket address is an IP address and a port with a colon between them, as in `127.0.0.1:80` and `[::1]:80`. Octets have
no leading zeros, groups have up to four hexadecimal digits, and ports have any number of digits. An
address of the sixth version may name its zone by number, and may end in one of the fourth version.
-/

namespace IngressControl

/-- An IP address. -/
inductive IpAddress where
  | v4 (octets : List UInt8)
  | v6 (groups : List UInt16)
deriving DecidableEq

namespace IpAddress

/-- The length of the row of zeros at the front. -/
def zeroRun (groups : List UInt16) : Nat := (groups.takeWhile (· = 0)).length

/-- The first of the longest rows of zeros: the groups in front of it, and its length. -/
def longestZeros : List UInt16 → Nat × Nat
  | [] => (0, 0)
  | g :: groups =>
    let (start, length) := longestZeros groups
    let here := zeroRun (g :: groups)
    if length ≤ here then (0, here) else (start + 1, length)

/-- Groups with colons between them. -/
def colonText (groups : List UInt16) : String :=
  ":".intercalate (groups.map fun g => String.ofList (Nat.toDigits 16 g.toNat))

/-- The text of an address. -/
def text : IpAddress → String
  | .v4 octets => ".".intercalate (octets.map fun o => String.ofList (Decimal.ofNat o.toNat))
  | .v6 groups =>
    let (start, length) := longestZeros groups
    if length < 2 then colonText groups
    else colonText (groups.take start) ++ "::" ++ colonText (groups.drop (start + length))

end IpAddress

/-- Where a server listens. -/
structure SocketAddress where
  ip : IpAddress
  port : UInt16
  /-- The number of the zone of an address of the sixth version. -/
  zone : UInt32 := 0
deriving DecidableEq

namespace SocketAddress

/-- Takes a part of an address off the front of a text. -/
abbrev Reader (α : Type) := List Char → Option (α × List Char)

/-- The text behind a given character. -/
def behind (c : Char) : List Char → Option (List Char)
  | [] => none
  | d :: cs => if d = c then some cs else none

/-- Takes a decimal number up to a greatest one. -/
def number (greatest : Nat) : Reader Nat := fun cs =>
  match Decimal.toNat? (cs.takeWhile Char.isDigit) with
  | none => none
  | some n => if n ≤ greatest then some (n, cs.dropWhile Char.isDigit) else none

/-- Takes an octet: three digits at most, and no zero in front of others. -/
def octet : Reader UInt8 := fun cs =>
  let digits := cs.takeWhile Char.isDigit
  if 3 < digits.length ∨ (digits.head? = some '0' ∧ 1 < digits.length) then none
  else (number 255 cs).map fun (n, rest) => (.ofNat n, rest)

/-- Takes octets with points between them. -/
def octets : (count : Nat) → Reader (List UInt8)
  | 0, cs => some ([], cs)
  | 1, cs => (octet cs).map fun (o, rest) => ([o], rest)
  | count + 1, cs => do
    let (o, cs) ← octet cs
    let cs ← behind '.' cs
    let (os, cs) ← octets count cs
    return (o :: os, cs)

/-- Takes a group: four hexadecimal digits at most. -/
def group : Reader UInt16 := fun cs =>
  let digits := cs.takeWhile fun c => (Hex.value? c).isSome
  if digits = [] ∨ 4 < digits.length then none
  else
    let n := digits.foldl (fun n c => 16 * n + (Hex.value? c).getD 0) 0
    some (.ofNat n, cs.drop digits.length)

/-- Takes an address of the fourth version as two groups. -/
def octetGroups : Reader (List UInt16) := fun cs =>
  match octets 4 cs with
  | some ([a, b, c, d], rest) =>
    some ([256 * a.toUInt16 + b.toUInt16, 256 * c.toUInt16 + d.toUInt16], rest)
  | _ => none

/-- The groups at the front of a text. -/
structure Groups where
  taken : List UInt16
  /-- Whether the last two of them are written as an address of the fourth version. -/
  endsInOctets : Bool
  rest : List Char

/-- Takes up to `left` groups with colons between them, as many as there are. Octets need room for
two groups, and end the row. -/
def groups : (left : Nat) → (first : Bool) → List Char → Groups
  | 0, _, cs => ⟨[], false, cs⟩
  | left + 1, first, cs =>
    match if first then some cs else behind ':' cs with
    | none => ⟨[], false, cs⟩
    | some body =>
      match if left = 0 then none else octetGroups body with
      | some (pair, rest) => ⟨pair, true, rest⟩
      | none =>
        match group body with
        | none => ⟨[], false, cs⟩
        | some (g, rest) =>
          let more := groups left false rest
          { more with taken := g :: more.taken }

/-- Takes the groups of an address of the sixth version; two colons stand for one zero group or
more. -/
def eightGroups : Reader (List UInt16) := fun cs =>
  let head := groups 8 true cs
  if head.taken.length = 8 then some (head.taken, head.rest)
  else if head.endsInOctets then none
  else
    match head.rest with
    | ':' :: ':' :: rest =>
      let tail := groups (7 - head.taken.length) true rest
      let zeros := List.replicate (8 - head.taken.length - tail.taken.length) 0
      some (head.taken ++ zeros ++ tail.taken, tail.rest)
    | _ => none

/-- Takes the number of a zone, if there is one. -/
def zoneNumber (cs : List Char) : Nat × List Char :=
  match (behind '%' cs).bind (number (UInt32.size - 1)) with
  | some taken => taken
  | none => (0, cs)

/-- The port that makes up the rest of a text, behind a colon. -/
def portOf (cs : List Char) : Option UInt16 := do
  let cs ← behind ':' cs
  let (n, rest) ← number (UInt16.size - 1) cs
  if rest = [] then some (.ofNat n) else none

/-- The address that a text stands for. -/
def parse? (s : String) : Option SocketAddress :=
  match s.toList with
  | '[' :: cs => do
    let (gs, cs) ← eightGroups cs
    let (zone, cs) := zoneNumber cs
    let cs ← behind ']' cs
    let port ← portOf cs
    return { ip := .v6 gs, port, zone := .ofNat zone }
  | cs => do
    let (os, cs) ← octets 4 cs
    let port ← portOf cs
    return { ip := .v4 os, port }

end SocketAddress

end IngressControl
