/-!
# UTF-8

The bytes of a text, and the text of bytes. Bytes that encode no text are cut into the characters
they do hold and *maximal invalid parts*: the longest beginnings of a character's encoding that
the next byte does not continue, or single bytes that begin none. Reading strictly fails at the
first such part, reading leniently puts one U+FFFD in its place.
-/

namespace IngressControl

/-- A byte string. -/
abbrev Bytes := List UInt8

namespace Utf8

/-- The encoding of a text. -/
def encode (s : String) : Bytes := s.toUTF8.data.toList

/-- No two texts have the same encoding. -/
theorem encode_injective {a b : String} (h : encode a = encode b) : a = b := by
  have arrays : a.toByteArray.data = b.toByteArray.data := Array.toList_inj.mp h
  exact String.toByteArray_inj.mp (ByteArray.ext arrays)

/-- What a first byte announces: its share of the code point, and the range of each byte that
has to follow. Shorter forms are the only ones, and surrogates have none. -/
def announced? (b : UInt8) : Option (Nat × List (UInt8 × UInt8)) :=
  let any := (0x80, 0xbf)
  if b ≤ 0x7f then some (b.toNat, [])
  else if 0xc2 ≤ b ∧ b ≤ 0xdf then some (b.toNat % 32, [any])
  else if b = 0xe0 then some (0, [(0xa0, 0xbf), any])
  else if b = 0xed then some (13, [(0x80, 0x9f), any])
  else if 0xe1 ≤ b ∧ b ≤ 0xef then some (b.toNat % 16, [any, any])
  else if b = 0xf0 then some (0, [(0x90, 0xbf), any, any])
  else if 0xf1 ≤ b ∧ b ≤ 0xf3 then some (b.toNat % 8, [any, any, any])
  else if b = 0xf4 then some (4, [(0x80, 0x8f), any, any])
  else none

/-- Takes the bytes that follow a first byte; a byte out of its range is left in place. -/
def follow (code : Nat) : List (UInt8 × UInt8) → Bytes → Option Char × Bytes
  | [], rest => (some (Char.ofNat code), rest)
  | _ :: _, [] => (none, [])
  | (low, high) :: ranges, b :: rest =>
    if low ≤ b ∧ b ≤ high then follow (code * 64 + b.toNat % 64) ranges rest
    else (none, b :: rest)

/-- Cuts bytes into characters and maximal invalid parts (`none`). The bytes themselves bound the
number of pieces. -/
def pieces : (bound : Bytes) → Bytes → List (Option Char)
  | _ :: bound, b :: rest =>
    match announced? b with
    | none => none :: pieces bound rest
    | some (code, ranges) =>
      let (piece, rest) := follow code ranges rest
      piece :: pieces bound rest
  | _, _ => []

/-- The text that the bytes encode, if they encode one. -/
def decode? (bytes : Bytes) : Option String :=
  ((pieces bytes bytes).mapM id).map String.ofList

/-- The text of the bytes, with U+FFFD for each maximal invalid part. -/
def decodeLossy (bytes : Bytes) : String :=
  String.ofList ((pieces bytes bytes).map (·.getD '\uFFFD'))

end Utf8

end IngressControl
