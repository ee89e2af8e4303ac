import Groth16.Proofs.Verification.KeyEncoding

/-!
# The format of proofs is exact

The byte strings that decoding accepts have 256 bytes whose three parts are valid points other than
the identity. Each of them is the byte form of the proof that it is decoded to, so no two byte
strings denote one proof.
-/

namespace Groth16

/-- Decoding accepts exactly the byte strings of the format, and these are the byte forms of the
values that have one, each decoded to the value that it is the byte form of. -/
structure IsExactFormat
    {Value : Type}
    (decode : List UInt8 → Except VerifyError Value)
    (encode : Value → List UInt8)
    (IsEncoding : List UInt8 → Prop)
    (IsEncodable : Value → Prop) : Prop where
  exists_decode_eq_ok_iff : ∀ bytes, (∃ value, decode bytes = .ok value) ↔ IsEncoding bytes
  decode_eq_ok_iff : ∀ bytes value,
    decode bytes = .ok value ↔ IsEncodable value ∧ encode value = bytes

namespace Proof

/-- The format of proofs. -/
structure IsEncoding (bytes : List UInt8) : Prop where
  length_eq : bytes.length = 256
  a : ∃ P : G1.Affine,
    AffinePoint.ofBytes? (Bytes.slice bytes 0 64) = .ok P ∧ P.IsValid ∧ P.isIdentity = false
  b : ∃ P : G2.Affine,
    AffinePoint.ofBytes? (Bytes.slice bytes 64 128) = .ok P ∧ P.IsValid ∧ P.isIdentity = false
  c : ∃ P : G1.Affine,
    AffinePoint.ofBytes? (Bytes.slice bytes 192 64) = .ok P ∧ P.IsValid ∧ P.isIdentity = false

/-- The three points of a proof are not the identity. -/
structure IsFinite (proof : Proof) : Prop where
  a : proof.a.isIdentity = false
  b : proof.b.isIdentity = false
  c : proof.c.isIdentity = false

/-- The proofs that have a byte form. -/
structure IsEncodable (proof : Proof) : Prop where
  isValid : proof.IsValid
  isFinite : proof.IsFinite

/-- Decoding finds the points of the proof in the bytes. -/
structure IsDecoded (bytes : List UInt8) (proof : Proof) : Prop where
  length_eq : bytes.length = 256
  a : AffinePoint.ofBytes? (Bytes.slice bytes 0 64) = .ok proof.a
  b : AffinePoint.ofBytes? (Bytes.slice bytes 64 128) = .ok proof.b
  c : AffinePoint.ofBytes? (Bytes.slice bytes 192 64) = .ok proof.c
  isFinite : proof.IsFinite

variable {bytes : List UInt8} {proof : Proof}

/-- Decoding accepts the bytes in which it finds the points of a proof, and gives this proof. -/
theorem ofBytes?_eq_ok_iff : ofBytes? bytes = .ok proof ↔ IsDecoded bytes proof := by
  unfold ofBytes?
  constructor
  · intro accepted
    obtain ⟨length, accepted⟩ := Checks.guard_eq_ok.mp accepted
    obtain ⟨a, readA, accepted⟩ := Checks.bind_eq_ok.mp accepted
    obtain ⟨b, readB, accepted⟩ := Checks.bind_eq_ok.mp accepted
    obtain ⟨c, readC, accepted⟩ := Checks.bind_eq_ok.mp accepted
    obtain ⟨finite, equal⟩ := Checks.guard_eq_ok.mp accepted
    cases equal
    rw [Bool.not_eq_true, Bool.or_eq_false_iff, Bool.or_eq_false_iff] at finite
    obtain ⟨⟨finiteA, finiteB⟩, finiteC⟩ := finite
    exact ⟨not_not.mp length, Checks.mapError_eq_ok.mp readA, Checks.mapError_eq_ok.mp readB,
      Checks.mapError_eq_ok.mp readC, finiteA, finiteB, finiteC⟩
  · intro decoded
    have finite : ¬(proof.a.isIdentity || proof.b.isIdentity || proof.c.isIdentity) = true := by
      rw [decoded.isFinite.a, decoded.isFinite.b, decoded.isFinite.c]
      exact Bool.false_ne_true
    exact Checks.guard_eq_ok.mpr ⟨not_not_intro decoded.length_eq,
      Checks.bind_eq_ok.mpr ⟨_, Checks.mapError_eq_ok.mpr decoded.a,
      Checks.bind_eq_ok.mpr ⟨_, Checks.mapError_eq_ok.mpr decoded.b,
      Checks.bind_eq_ok.mpr ⟨_, Checks.mapError_eq_ok.mpr decoded.c,
      Checks.guard_eq_ok.mpr ⟨finite, rfl⟩⟩⟩⟩⟩

/-- The byte strings of the format are those in which decoding finds a proof. -/
theorem exists_isDecoded_iff : (∃ proof, IsDecoded bytes proof) ↔ IsEncoding bytes := by
  constructor
  · rintro ⟨proof, decoded⟩
    exact ⟨decoded.length_eq,
      ⟨_, decoded.a, AffinePoint.isValid_of_ofBytes? decoded.a, decoded.isFinite.a⟩,
      ⟨_, decoded.b, AffinePoint.isValid_of_ofBytes? decoded.b, decoded.isFinite.b⟩,
      ⟨_, decoded.c, AffinePoint.isValid_of_ofBytes? decoded.c, decoded.isFinite.c⟩⟩
  · intro encoding
    obtain ⟨a, readA, -, finiteA⟩ := encoding.a
    obtain ⟨b, readB, -, finiteB⟩ := encoding.b
    obtain ⟨c, readC, -, finiteC⟩ := encoding.c
    exact ⟨⟨a, b, c⟩, encoding.length_eq, readA, readB, readC, finiteA, finiteB, finiteC⟩

theorem length_toBytes (proof : Proof) : proof.toBytes.length = 256 := by
  rw [toBytes, List.length_append, List.length_append, AffinePoint.length_toBytes,
    AffinePoint.length_toBytes, AffinePoint.length_toBytes]
  rfl

/-- The pieces of the byte form are found at their offsets. -/
theorem slice_toBytes (proof : Proof) :
    Bytes.slice proof.toBytes 0 64 = proof.a.toBytes ∧
      Bytes.slice proof.toBytes 64 128 = proof.b.toBytes ∧
      Bytes.slice proof.toBytes 192 64 = proof.c.toBytes := by
  have first : ([] : List UInt8).length = 0 := rfl
  have a : proof.a.toBytes.length = 64 := AffinePoint.length_toBytes _
  have b : proof.b.toBytes.length = 128 := AffinePoint.length_toBytes _
  have c : proof.c.toBytes.length = 64 := AffinePoint.length_toBytes _
  refine ⟨?_, ?_, ?_⟩
  · rw [toBytes, List.append_assoc]
    exact Bytes.slice_append first a
  · rw [toBytes, List.append_assoc]
    exact Bytes.slice_append a b
  · rw [Bytes.slice_of_add_eq (length_toBytes proof).symm, toBytes]
    exact List.drop_left' (by rw [List.length_append, a, b])

/-- Decoding finds a proof in its byte form and nowhere else. -/
theorem isDecoded_iff : IsDecoded bytes proof ↔ proof.IsEncodable ∧ proof.toBytes = bytes := by
  constructor
  · intro decoded
    refine ⟨⟨⟨AffinePoint.isValid_of_ofBytes? decoded.a, AffinePoint.isValid_of_ofBytes? decoded.b,
      AffinePoint.isValid_of_ofBytes? decoded.c⟩, decoded.isFinite⟩, ?_⟩
    rw [toBytes, AffinePoint.toBytes_of_ofBytes? decoded.a,
      AffinePoint.toBytes_of_ofBytes? decoded.b, AffinePoint.toBytes_of_ofBytes? decoded.c,
      Bytes.slice_append_slice, Bytes.slice_append_slice, Bytes.slice_zero]
    exact List.take_of_length_le decoded.length_eq.le
  · rintro ⟨⟨isValid, isFinite⟩, rfl⟩
    obtain ⟨a, b, c⟩ := slice_toBytes proof
    refine ⟨length_toBytes proof, ?_, ?_, ?_, isFinite⟩
    · rw [a]
      exact AffinePoint.ofBytes?_eq_ok_iff_isValid.mpr ⟨isValid.a, rfl⟩
    · rw [b]
      exact AffinePoint.ofBytes?_eq_ok_iff_isValid.mpr ⟨isValid.b, rfl⟩
    · rw [c]
      exact AffinePoint.ofBytes?_eq_ok_iff_isValid.mpr ⟨isValid.c, rfl⟩

/-- The format of proofs is exact. -/
theorem isExactFormat : IsExactFormat ofBytes? toBytes IsEncoding IsEncodable where
  exists_decode_eq_ok_iff bytes := by
    rw [← exists_isDecoded_iff]
    exact exists_congr fun proof => ofBytes?_eq_ok_iff
  decode_eq_ok_iff bytes proof := ofBytes?_eq_ok_iff.trans isDecoded_iff

end Proof
end Groth16
