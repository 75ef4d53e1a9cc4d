import IngressControl.Snapshot.Format

/-!
# Fingerprints

A fingerprint stands for a structural configuration: the first eight bytes, most significant
first, of the SHA-256 hash of its JSON text. It is sensitive to the order of all lists.
-/

namespace IngressControl

/-- A 64-bit hash of a configuration. -/
structure Fingerprint where
  value : UInt64
deriving DecidableEq

namespace Fingerprint

/-- The number that bytes stand for, the most significant first. -/
def number (bytes : Bytes) : Nat := bytes.foldl (fun n b => 256 * n + b.toNat) 0

/-- The fingerprint of a configuration. -/
def of (c : Configuration) : Fingerprint :=
  ⟨UInt64.ofNat (number ((Sha256.digest (Utf8.encode c.render)).take 8))⟩

/-- The decimal text of a fingerprint. -/
def text (f : Fingerprint) : List Char := Decimal.ofNat f.value.toNat

/-- The double nearest to a fingerprint, as a gauge shows it. -/
def gauge (f : Fingerprint) : Float := Float.ofNat f.value.toNat

end Fingerprint

end IngressControl
