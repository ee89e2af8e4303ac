import Groth16.Proofs.Verification.KeyEncoding
import Groth16.Proofs.Verification.KeyReads

/-!
# The format of keys is exact

The byte strings that decoding accepts are those of the stated format: a header of four points
other than the identity, the number of input points, and as many points. Each of them is the byte
form of the key that it is decoded to, so no two byte strings denote one key.
-/

namespace Groth16

namespace VerifyingKey

/-- The format of keys. The numbers of the input points in the bytes start from zero. -/
structure IsEncoding (bytes : List UInt8) : Prop where
  length_eq : bytes.length = 452 + 64 * declaredCount bytes
  one_le_count : 1 ≤ declaredCount bytes
  count_le : declaredCount bytes ≤ 65
  alpha : ∃ P : G1.Affine,
    AffinePoint.ofBytes? (Bytes.slice bytes 0 64) = .ok P ∧ P.isIdentity = false
  beta : ∃ P : G2.Affine,
    AffinePoint.ofBytes? (Bytes.slice bytes 64 128) = .ok P ∧ P.isIdentity = false
  gamma : ∃ P : G2.Affine,
    AffinePoint.ofBytes? (Bytes.slice bytes 192 128) = .ok P ∧ P.isIdentity = false
  delta : ∃ P : G2.Affine,
    AffinePoint.ofBytes? (Bytes.slice bytes 320 128) = .ok P ∧ P.isIdentity = false
  ic : ∀ number < declaredCount bytes, ∃ P : G1.Affine,
    AffinePoint.ofBytes? (Bytes.slice bytes (452 + number * 64) 64) = .ok P

/-- The keys that have a byte form: valid points, of which those of the header are not the
identity, and a bounded number of inputs. -/
structure IsEncodable (key : VerifyingKey) : Prop where
  isValid : key.IsValid
  isFinite : key.IsFinite
  length_ic_le : key.ic.length ≤ 65

/-- The pieces that hold the input points of a key. -/
theorem chunks_ic_eq (bytes : List UInt8) :
    Bytes.chunks 64 (declaredCount bytes) (bytes.drop headerSize) =
      (List.range (declaredCount bytes)).map fun number =>
        Bytes.slice bytes (452 + number * 64) 64 := by
  rw [Bytes.chunks_eq_map_slice]
  apply List.map_congr_left
  intro number _
  rw [Bytes.slice_drop, headerSize]

/-- The byte strings of the format are those in which decoding finds a key. -/
theorem exists_isDecoded_iff
    {bytes : List UInt8} :
    (∃ key, IsDecoded bytes key) ↔ IsEncoding bytes := by
  constructor
  · rintro ⟨key, decoded⟩
    have length := decoded.length_eq
    rw [encodedSize, headerSize, Nat.mul_comm] at length
    refine ⟨length, decoded.count_pos, decoded.count_le, ⟨_, decoded.alpha, decoded.isFinite.alpha⟩,
      ⟨_, decoded.beta, decoded.isFinite.beta⟩, ⟨_, decoded.gamma, decoded.isFinite.gamma⟩,
      ⟨_, decoded.delta, decoded.isFinite.delta⟩, ?_⟩
    have pieces := Checks.exists_forall₂_iff.mp ⟨_, decoded.ic⟩
    rw [chunks_ic_eq, List.forall_mem_map] at pieces
    exact fun number below => pieces number (List.mem_range.mpr below)
  · intro encoding
    obtain ⟨alpha, readAlpha, alphaFinite⟩ := encoding.alpha
    obtain ⟨beta, readBeta, betaFinite⟩ := encoding.beta
    obtain ⟨gamma, readGamma, gammaFinite⟩ := encoding.gamma
    obtain ⟨delta, readDelta, deltaFinite⟩ := encoding.delta
    have pieces : ∀ piece ∈ Bytes.chunks 64 (declaredCount bytes) (bytes.drop headerSize),
        ∃ P : G1.Affine, AffinePoint.ofBytes? piece = .ok P := by
      rw [chunks_ic_eq, List.forall_mem_map]
      intro number member
      exact encoding.ic number (List.mem_range.mp member)
    obtain ⟨ic, readIc⟩ := Checks.exists_forall₂_iff.mpr pieces
    have length := encoding.length_eq
    rw [Nat.mul_comm] at length
    exact ⟨⟨alpha, beta, gamma, delta, ic⟩, encoding.one_le_count, encoding.count_le, length,
      readAlpha, readBeta, readGamma, readDelta,
      ⟨alphaFinite, betaFinite, gammaFinite, deltaFinite⟩, readIc⟩

/-- Bytes in which decoding finds a key are its byte form. -/
theorem IsDecoded.toBytes_eq
    {bytes : List UInt8}
    {key : VerifyingKey}
    (decoded : IsDecoded bytes key) :
    key.toBytes = bytes := by
  have length := decoded.length_eq
  rw [encodedSize] at length
  have count : Bytes.ofNat 4 key.ic.length = Bytes.slice bytes 448 4 := by
    have header : 452 ≤ bytes.length := length.ge.trans' (Nat.le_add_right _ _)
    rw [decoded.length_ic, declaredCount]
    exact Bytes.ofNat_toNat_slice header
  have points : key.ic.flatMap AffinePoint.toBytes = bytes.drop headerSize := by
    have pieces : key.ic.map AffinePoint.toBytes =
        Bytes.chunks 64 (declaredCount bytes) (bytes.drop headerSize) := by
      rw [← List.forall₂_eq_eq_eq, List.forall₂_map_left_iff]
      exact (decoded.ic.imp fun _ _ => AffinePoint.toBytes_of_ofBytes?).flip
    rw [List.flatMap_def, pieces]
    apply Bytes.flatten_chunks
    rw [List.length_drop, length, Nat.add_sub_cancel_left]
  rw [toBytes, AffinePoint.toBytes_of_ofBytes? decoded.alpha,
    AffinePoint.toBytes_of_ofBytes? decoded.beta, AffinePoint.toBytes_of_ofBytes? decoded.gamma,
    AffinePoint.toBytes_of_ofBytes? decoded.delta, count, points, Bytes.slice_append_slice,
    Bytes.slice_append_slice, Bytes.slice_append_slice, Bytes.slice_append_slice,
    Bytes.slice_zero]
  exact List.take_append_drop headerSize bytes

/-- Decoding accepts exactly the byte strings of the format; these are the byte forms of the keys
that have one, each decoded to the key that it is the byte form of; and no byte string makes
decoding take a range out of bounds. -/
theorem ofBytes?_exact :
    (∀ bytes, (∃ key, ofBytes? bytes = .ok key) ↔ IsEncoding bytes) ∧
      (∀ bytes key, ofBytes? bytes = .ok key ↔ key.IsEncodable ∧ key.toBytes = bytes) ∧
      ∀ bytes, ofRanges? bytes = .total (ofBytes? bytes) := by
  refine ⟨?_, ?_, ofRanges?_eq⟩
  · intro bytes
    rw [← exists_isDecoded_iff]
    exact exists_congr fun key => ofBytes?_eq_ok_iff
  · intro bytes key
    constructor
    · intro accepted
      obtain ⟨valid, bounded⟩ := isValid_of_ofBytes? accepted
      have decoded := ofBytes?_eq_ok_iff.mp accepted
      exact ⟨⟨valid, decoded.isFinite, bounded⟩, decoded.toBytes_eq⟩
    · rintro ⟨encodable, rfl⟩
      exact ofBytes?_toBytes encodable.isValid encodable.isFinite encodable.length_ic_le

end VerifyingKey
end Groth16
