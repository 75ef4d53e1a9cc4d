import Mathlib.Data.Nat.Digits.Defs
import IngressControl.Fingerprint
import IngressControl.Proofs.SnapshotText

/-!
# What a fingerprint stands for

A reload is skipped when the fingerprint is the old one, so a fingerprint that two configurations share
is worth knowing about. Up to the hash function nothing is lost: the text that is hashed tells the
configuration, its encoding tells the text, and the number tells the eight bytes it was made from. What
is left is that the hash function takes different byte strings to digests with the same first eight
bytes (`Fingerprint.preimage_injective`).
-/

namespace IngressControl

theorem Sha256.length_digest (message : Bytes) : (digest message).length = 32 := rfl

namespace Fingerprint

/-! ## The number that bytes stand for -/

/-- The digits of the number are the bytes, the least significant first. -/
theorem number_eq (bytes : Bytes) :
    number bytes = Nat.ofDigits 256 (bytes.reverse.map UInt8.toNat) := by
  rw [Nat.ofDigits_eq_foldr, List.foldr_map, List.foldr_reverse, number]
  simp only [Nat.cast_id, Nat.add_comm]

theorem digits_lt (bytes : Bytes) : ∀ d ∈ bytes.reverse.map UInt8.toNat, d < 256 := by
  intro d hd
  obtain ⟨b, _, rfl⟩ := List.mem_map.mp hd
  exact b.toNat_lt

theorem number_lt (bytes : Bytes) : number bytes < 256 ^ bytes.length := by
  have bound := Nat.ofDigits_lt_base_pow_length (by decide) (digits_lt bytes)
  rwa [← number_eq, List.length_map, List.length_reverse] at bound

/-- Byte strings of one length stand for different numbers. -/
theorem number_injective {as bs : Bytes} (length : as.length = bs.length)
    (h : number as = number bs) : as = bs := by
  rw [number_eq, number_eq] at h
  have digits := Nat.ofDigits_inj_of_len_eq (by decide) (by simpa using length) (digits_lt as)
    (digits_lt bs) h
  exact List.reverse_inj.mp ((List.map_inj_right fun _ _ => UInt8.toNat_inj.mp).mp digits)

/-! ## Fingerprints -/

/-- Two fingerprints are equal just when the digests have the same first eight bytes. -/
theorem of_eq_iff {a b : Configuration} : of a = of b ↔
    (Sha256.digest (Utf8.encode a.render)).take 8 = (Sha256.digest (Utf8.encode b.render)).take 8 := by
  have length : ∀ c : Configuration, ((Sha256.digest (Utf8.encode c.render)).take 8).length = 8 := by
    intro c
    rw [List.length_take, Sha256.length_digest]
    rfl
  -- eight bytes fit into the fingerprint
  have fits : ∀ c : Configuration,
      number ((Sha256.digest (Utf8.encode c.render)).take 8) < UInt64.size := by
    intro c
    have bound := number_lt ((Sha256.digest (Utf8.encode c.render)).take 8)
    rwa [length c] at bound
  constructor
  · intro same
    have numbers := congrArg (fun f : Fingerprint => f.value.toNat) same
    simp only [of, UInt64.toNat_ofNat_of_lt' (fits a), UInt64.toNat_ofNat_of_lt' (fits b)] at numbers
    exact number_injective ((length a).trans (length b).symm) numbers
  · intro same
    rw [of, of, same]

/-- **The text that is hashed tells the configuration.** So two configurations share a fingerprint only
when the hash function takes different byte strings to digests with the same first eight bytes. Of two
snapshots the texts are the same just when they differ in nothing but their bookkeeping and the material
served by default, and these do not enter the fingerprint. -/
theorem preimage_injective (a b : Configuration) (s t : Snapshot) :
    (a.render = b.render ↔ a = b) ∧
      (of a = of b ∧ a ≠ b ↔
        Utf8.encode a.render ≠ Utf8.encode b.render ∧
          (Sha256.digest (Utf8.encode a.render)).take 8 =
            (Sha256.digest (Utf8.encode b.render)).take 8) ∧
      (s.structural.render = t.structural.render ↔
        ∃ generation sourceChecksum defaultCertificate dhParam,
          t = { s with generation, sourceChecksum, defaultCertificate, dhParam }) ∧
      ∀ generation sourceChecksum defaultCertificate dhParam,
        of { s with generation, sourceChecksum, defaultCertificate, dhParam : Snapshot }.structural =
          of s.structural := by
  have texts : ∀ a b : Configuration, a.render = b.render ↔ a = b :=
    fun a b => ⟨Configuration.render_injective, congrArg Configuration.render⟩
  refine ⟨texts a b, ?_, ?_, fun _ _ _ _ => rfl⟩
  · have bytes : Utf8.encode a.render = Utf8.encode b.render ↔ a = b :=
      ⟨fun same => (texts a b).mp (Utf8.encode_injective same), fun same => by rw [same]⟩
    rw [of_eq_iff, ne_eq, ne_eq, bytes, and_comm]
  · rw [texts]
    constructor
    · intro same
      obtain ⟨backends, servers, tcp, udp⟩ := Configuration.mk.inj same
      refine ⟨t.generation, t.sourceChecksum, t.defaultCertificate, t.dhParam, ?_⟩
      rw [backends, servers, tcp, udp]
    · rintro ⟨generation, sourceChecksum, defaultCertificate, dhParam, rfl⟩
      rfl

end Fingerprint

end IngressControl
