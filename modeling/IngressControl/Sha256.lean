import IngressControl.Text.Utf8

/-!
# SHA-256

The hash function of FIPS 180-4 on byte strings. A message is padded to whole blocks of sixteen
words; each block is mixed into the chaining value in sixty-four rounds.
-/

namespace IngressControl.Sha256

/-- The chaining value: eight words. -/
structure State where
  a : UInt32
  b : UInt32
  c : UInt32
  d : UInt32
  e : UInt32
  f : UInt32
  g : UInt32
  h : UInt32

/-- The chaining value before the first block. -/
def State.start : State :=
  ⟨0x6a09e667, 0xbb67ae85, 0x3c6ef372, 0xa54ff53a, 0x510e527f, 0x9b05688c, 0x1f83d9ab, 0x5be0cd19⟩

/-- One constant for each round. -/
def roundConstants : List UInt32 :=
  [0x428a2f98, 0x71374491, 0xb5c0fbcf, 0xe9b5dba5, 0x3956c25b, 0x59f111f1, 0x923f82a4, 0xab1c5ed5,
    0xd807aa98, 0x12835b01, 0x243185be, 0x550c7dc3, 0x72be5d74, 0x80deb1fe, 0x9bdc06a7, 0xc19bf174,
    0xe49b69c1, 0xefbe4786, 0x0fc19dc6, 0x240ca1cc, 0x2de92c6f, 0x4a7484aa, 0x5cb0a9dc, 0x76f988da,
    0x983e5152, 0xa831c66d, 0xb00327c8, 0xbf597fc7, 0xc6e00bf3, 0xd5a79147, 0x06ca6351, 0x14292967,
    0x27b70a85, 0x2e1b2138, 0x4d2c6dfc, 0x53380d13, 0x650a7354, 0x766a0abb, 0x81c2c92e, 0x92722c85,
    0xa2bfe8a1, 0xa81a664b, 0xc24b8b70, 0xc76c51a3, 0xd192e819, 0xd6990624, 0xf40e3585, 0x106aa070,
    0x19a4c116, 0x1e376c08, 0x2748774c, 0x34b0bcb5, 0x391c0cb3, 0x4ed8aa4a, 0x5b9cca4f, 0x682e6ff3,
    0x748f82ee, 0x78a5636f, 0x84c87814, 0x8cc70208, 0x90befffa, 0xa4506ceb, 0xbef9a3f7, 0xc67178f2]

/-- Rotation to the right, for amounts between 1 and 31. -/
def rotate (x n : UInt32) : UInt32 := (x >>> n) ||| (x <<< (32 - n))

/-- The word sixteen places on in the message schedule, from the sixteen words in front of it. -/
def nextWord : List UInt32 → UInt32
  | [w0, w1, _, _, _, _, _, _, _, w9, _, _, _, _, w14, _] =>
    let near := rotate w1 7 ^^^ rotate w1 18 ^^^ (w1 >>> 3)
    let far := rotate w14 17 ^^^ rotate w14 19 ^^^ (w14 >>> 10)
    w0 + near + w9 + far
  | _ => 0

/-- One round, with the round's constant and word of the message schedule already added. -/
def State.round (s : State) (input : UInt32) : State :=
  let sum1 := rotate s.e 6 ^^^ rotate s.e 11 ^^^ rotate s.e 25
  let choice := (s.e &&& s.f) ^^^ ((~~~ s.e) &&& s.g)
  let first := s.h + sum1 + choice + input
  let sum0 := rotate s.a 2 ^^^ rotate s.a 13 ^^^ rotate s.a 22
  let majority := (s.a &&& s.b) ^^^ (s.a &&& s.c) ^^^ (s.b &&& s.c)
  { a := first + (sum0 + majority), b := s.a, c := s.b, d := s.c
    e := s.d + first, f := s.e, g := s.f, h := s.g }

/-- The rounds for the given constants, over the next sixteen words of the message schedule. -/
def State.rounds (s : State) : (constants window : List UInt32) → State
  | k :: constants, w :: window =>
    (s.round (k + w)).rounds constants (window ++ [nextWord (w :: window)])
  | _, _ => s

/-- The word by word sum of two chaining values. -/
def State.add (s t : State) : State :=
  ⟨s.a + t.a, s.b + t.b, s.c + t.c, s.d + t.d, s.e + t.e, s.f + t.f, s.g + t.g, s.h + t.h⟩

/-- Mixes one block of sixteen words into the chaining value. -/
def State.absorb (s : State) (block : List UInt32) : State :=
  s.add (s.rounds roundConstants block)

/-- Mixes words into the chaining value, sixteen at a time. -/
def State.absorbAll (s : State) : List UInt32 → State
  | w0 :: w1 :: w2 :: w3 :: w4 :: w5 :: w6 :: w7 :: w8 :: w9 :: w10 :: w11 :: w12 :: w13 :: w14 ::
      w15 :: rest =>
    (s.absorb [w0, w1, w2, w3, w4, w5, w6, w7, w8, w9, w10, w11, w12, w13, w14, w15]).absorbAll rest
  | _ => s

/-- The bytes of a word, the most significant first. -/
def wordBytes (w : UInt32) : Bytes :=
  [(w >>> 24).toUInt8, (w >>> 16).toUInt8, (w >>> 8).toUInt8, w.toUInt8]

/-- The words that four bytes each stand for. -/
def words : Bytes → List UInt32
  | b0 :: b1 :: b2 :: b3 :: rest =>
    (b0.toUInt32 <<< 24 ||| b1.toUInt32 <<< 16 ||| b2.toUInt32 <<< 8 ||| b3.toUInt32) :: words rest
  | _ => []

/-- The message, a bit that is set, zeros up to a whole number of blocks, and the message's length
in bits as the last two words. -/
def padded (message : Bytes) : List UInt32 :=
  let bits := 8 * message.length
  let zeros := (119 - message.length % 64) % 64
  words (message ++ 0x80 :: List.replicate zeros 0) ++
    [UInt32.ofNat (bits / UInt32.size), UInt32.ofNat bits]

/-- The hash of a byte string: thirty-two bytes. -/
def digest (message : Bytes) : Bytes :=
  let s := State.start.absorbAll (padded message)
  [s.a, s.b, s.c, s.d, s.e, s.f, s.g, s.h].flatMap wordBytes

end IngressControl.Sha256
