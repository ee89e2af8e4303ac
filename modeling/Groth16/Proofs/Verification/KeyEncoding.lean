import Groth16.Proofs.Checks
import Groth16.Proofs.Verification.Equation

/-!
# Byte form of keys

The keys that decoding accepts have valid points and a bounded number of inputs, and every
such key is the one that its bytes encode.
-/

namespace Groth16

namespace VerifyingKey

theorem readG1_eq_ok_iff
    {field : String}
    {bytes : List UInt8}
    {P : G1.Affine} :
    readG1 field bytes = .ok P ↔ AffinePoint.ofBytes? bytes = .ok P :=
  Checks.mapError_eq_ok

theorem readFiniteG1_eq_ok_iff
    {field : String}
    {bytes : List UInt8}
    {P : G1.Affine} :
    readFiniteG1 field bytes = .ok P ↔
      AffinePoint.ofBytes? bytes = .ok P ∧ P.isIdentity = false := by
  unfold readFiniteG1
  rw [Checks.bind_eq_ok]
  constructor
  · rintro ⟨Q, read, checked⟩
    obtain ⟨finite, equal⟩ := Checks.guard_eq_ok.mp checked
    cases equal
    exact ⟨readG1_eq_ok_iff.mp read, Bool.eq_false_of_not_eq_true finite⟩
  · rintro ⟨accepted, finite⟩
    exact ⟨P, readG1_eq_ok_iff.mpr accepted,
      Checks.guard_eq_ok.mpr ⟨Bool.not_eq_true _ ▸ finite, rfl⟩⟩

theorem readFiniteG2_eq_ok_iff
    {field : String}
    {bytes : List UInt8}
    {P : G2.Affine} :
    readFiniteG2 field bytes = .ok P ↔
      AffinePoint.ofBytes? bytes = .ok P ∧ P.isIdentity = false := by
  unfold readFiniteG2
  rw [Checks.bind_eq_ok]
  constructor
  · rintro ⟨Q, read, checked⟩
    obtain ⟨finite, equal⟩ := Checks.guard_eq_ok.mp checked
    cases equal
    exact ⟨Checks.mapError_eq_ok.mp read, Bool.eq_false_of_not_eq_true finite⟩
  · rintro ⟨accepted, finite⟩
    exact ⟨P, Checks.mapError_eq_ok.mpr accepted,
      Checks.guard_eq_ok.mpr ⟨Bool.not_eq_true _ ▸ finite, rfl⟩⟩

/-- The four points of the header are not the identity. -/
structure IsFinite (key : VerifyingKey) : Prop where
  alpha : key.alpha.isIdentity = false
  beta : key.beta.isIdentity = false
  gamma : key.gamma.isIdentity = false
  delta : key.delta.isIdentity = false

/-- The number of input points that the bytes of a key declare. -/
def declaredCount (bytes : List UInt8) : Nat := Bytes.toNat (Bytes.slice bytes 448 4)

/-- Decoding finds the points of the key in the bytes. -/
structure IsDecoded (bytes : List UInt8) (key : VerifyingKey) : Prop where
  count_pos : 0 < declaredCount bytes
  count_le : declaredCount bytes ≤ maxPublicInputs + 1
  length_eq : bytes.length = encodedSize (declaredCount bytes)
  alpha : AffinePoint.ofBytes? (Bytes.slice bytes 0 64) = .ok key.alpha
  beta : AffinePoint.ofBytes? (Bytes.slice bytes 64 128) = .ok key.beta
  gamma : AffinePoint.ofBytes? (Bytes.slice bytes 192 128) = .ok key.gamma
  delta : AffinePoint.ofBytes? (Bytes.slice bytes 320 128) = .ok key.delta
  isFinite : key.IsFinite
  ic : List.Forall₂ (fun piece P => AffinePoint.ofBytes? piece = .ok P)
    (Bytes.chunks 64 (declaredCount bytes) (bytes.drop headerSize)) key.ic

/-- Decoding accepts the bytes in which it finds the points of a key, and gives this key. -/
theorem ofBytes?_eq_ok_iff
    {bytes : List UInt8}
    {key : VerifyingKey} :
    ofBytes? bytes = .ok key ↔ IsDecoded bytes key := by
  unfold ofBytes?
  constructor
  · intro accepted
    obtain ⟨-, accepted⟩ := Checks.guard_eq_ok.mp accepted
    obtain ⟨positive, accepted⟩ := Checks.guard_eq_ok.mp accepted
    obtain ⟨bounded, accepted⟩ := Checks.guard_eq_ok.mp accepted
    obtain ⟨size, accepted⟩ := Checks.guard_eq_ok.mp accepted
    obtain ⟨alpha, readAlpha, accepted⟩ := Checks.bind_eq_ok.mp accepted
    obtain ⟨beta, readBeta, accepted⟩ := Checks.bind_eq_ok.mp accepted
    obtain ⟨gamma, readGamma, accepted⟩ := Checks.bind_eq_ok.mp accepted
    obtain ⟨delta, readDelta, accepted⟩ := Checks.bind_eq_ok.mp accepted
    obtain ⟨ic, readIc, equal⟩ := Checks.bind_eq_ok.mp accepted
    cases equal
    obtain ⟨alphaDecoded, alphaFinite⟩ := readFiniteG1_eq_ok_iff.mp readAlpha
    obtain ⟨betaDecoded, betaFinite⟩ := readFiniteG2_eq_ok_iff.mp readBeta
    obtain ⟨gammaDecoded, gammaFinite⟩ := readFiniteG2_eq_ok_iff.mp readGamma
    obtain ⟨deltaDecoded, deltaFinite⟩ := readFiniteG2_eq_ok_iff.mp readDelta
    exact ⟨Nat.pos_of_ne_zero positive, Nat.le_of_not_lt bounded, not_not.mp size, alphaDecoded,
      betaDecoded, gammaDecoded, deltaDecoded,
      ⟨alphaFinite, betaFinite, gammaFinite, deltaFinite⟩,
      (Checks.mapM_eq_ok_iff.mp readIc).imp fun _ _ => readG1_eq_ok_iff.mp⟩
  · intro decoded
    have header : ¬bytes.length < headerSize := by
      rw [decoded.length_eq, encodedSize]
      omega
    have points : (Bytes.chunks 64 (declaredCount bytes) (bytes.drop headerSize)).mapM
        (readG1 "ic") = .ok key.ic :=
      Checks.mapM_eq_ok_iff.mpr (decoded.ic.imp fun _ _ => readG1_eq_ok_iff.mpr)
    refine Checks.guard_eq_ok.mpr ⟨header, Checks.guard_eq_ok.mpr ⟨decoded.count_pos.ne',
      Checks.guard_eq_ok.mpr ⟨Nat.not_lt.mpr decoded.count_le,
      Checks.guard_eq_ok.mpr ⟨not_not_intro decoded.length_eq, ?_⟩⟩⟩⟩
    exact Checks.bind_eq_ok.mpr ⟨_, readFiniteG1_eq_ok_iff.mpr
        ⟨decoded.alpha, decoded.isFinite.alpha⟩,
      Checks.bind_eq_ok.mpr ⟨_, readFiniteG2_eq_ok_iff.mpr
        ⟨decoded.beta, decoded.isFinite.beta⟩,
      Checks.bind_eq_ok.mpr ⟨_, readFiniteG2_eq_ok_iff.mpr
        ⟨decoded.gamma, decoded.isFinite.gamma⟩,
      Checks.bind_eq_ok.mpr ⟨_, readFiniteG2_eq_ok_iff.mpr
        ⟨decoded.delta, decoded.isFinite.delta⟩,
      Checks.bind_eq_ok.mpr ⟨_, points, rfl⟩⟩⟩⟩⟩

theorem IsDecoded.length_ic
    {bytes : List UInt8}
    {key : VerifyingKey}
    (decoded : IsDecoded bytes key) :
    key.ic.length = declaredCount bytes := by
  rw [← decoded.ic.length_eq, Bytes.length_chunks]

/-- The keys that decoding accepts have valid points and a bounded number of inputs. -/
theorem isValid_of_ofBytes?
    {bytes : List UInt8}
    {key : VerifyingKey}
    (accepted : ofBytes? bytes = .ok key) :
    key.IsValid ∧ key.ic.length ≤ maxPublicInputs + 1 := by
  have decoded := ofBytes?_eq_ok_iff.mp accepted
  refine ⟨⟨AffinePoint.isValid_of_ofBytes? decoded.alpha,
    AffinePoint.isValid_of_ofBytes? decoded.beta, AffinePoint.isValid_of_ofBytes? decoded.gamma,
    AffinePoint.isValid_of_ofBytes? decoded.delta, ?_, ?_⟩, ?_⟩
  · intro P member
    obtain ⟨piece, -, read⟩ := Checks.exists_of_forall₂ decoded.ic member
    exact AffinePoint.isValid_of_ofBytes? read
  · apply List.ne_nil_of_length_pos
    rw [decoded.length_ic]
    exact decoded.count_pos
  · rw [decoded.length_ic]
    exact decoded.count_le

variable {key : VerifyingKey}

theorem length_toBytes_g1 (P : G1.Affine) : P.toBytes.length = 64 :=
  AffinePoint.length_toBytes P

/-- The pieces of the byte form are found at their offsets. -/
theorem slice_toBytes (key : VerifyingKey) :
    Bytes.slice key.toBytes 0 64 = key.alpha.toBytes ∧
      Bytes.slice key.toBytes 64 128 = key.beta.toBytes ∧
      Bytes.slice key.toBytes 192 128 = key.gamma.toBytes ∧
      Bytes.slice key.toBytes 320 128 = key.delta.toBytes ∧
      Bytes.slice key.toBytes 448 4 = Bytes.ofNat 4 key.ic.length := by
  have first : ([] : List UInt8).length = 0 := rfl
  have alpha : key.alpha.toBytes.length = 64 := AffinePoint.length_toBytes _
  have beta : key.beta.toBytes.length = 128 := AffinePoint.length_toBytes _
  have gamma : key.gamma.toBytes.length = 128 := AffinePoint.length_toBytes _
  have delta : key.delta.toBytes.length = 128 := AffinePoint.length_toBytes _
  have count : (Bytes.ofNat 4 key.ic.length).length = 4 := Bytes.length_ofNat 4 _
  unfold toBytes
  refine ⟨?_, ?_, ?_, ?_, ?_⟩
  · rw [List.append_assoc, List.append_assoc, List.append_assoc, List.append_assoc]
    exact Bytes.slice_append first alpha
  · rw [List.append_assoc, List.append_assoc, List.append_assoc, List.append_assoc]
    exact Bytes.slice_append alpha beta
  · rw [List.append_assoc, List.append_assoc, List.append_assoc]
    exact Bytes.slice_append (by rw [List.length_append, alpha, beta]) gamma
  · rw [List.append_assoc, List.append_assoc]
    exact Bytes.slice_append (by simp only [List.length_append, alpha, beta, gamma]) delta
  · rw [List.append_assoc]
    exact Bytes.slice_append (by simp only [List.length_append, alpha, beta, gamma, delta]) count

theorem drop_toBytes (key : VerifyingKey) :
    key.toBytes.drop headerSize = key.ic.flatMap AffinePoint.toBytes := by
  unfold toBytes
  apply List.drop_left'
  simp only [List.length_append, AffinePoint.length_toBytes, Bytes.length_ofNat]
  rfl

theorem length_toBytes (key : VerifyingKey) :
    key.toBytes.length = encodedSize key.ic.length := by
  unfold toBytes
  rw [List.length_append, Bytes.length_flatMap_of_size length_toBytes_g1]
  simp only [List.length_append, AffinePoint.length_toBytes, Bytes.length_ofNat]
  rfl

/-- Every key of valid points is the one that its bytes encode. -/
theorem ofBytes?_toBytes
    (valid : key.IsValid)
    (finite : key.IsFinite)
    (bounded : key.ic.length ≤ maxPublicInputs + 1) :
    ofBytes? key.toBytes = .ok key := by
  obtain ⟨alpha, beta, gamma, delta, count⟩ := slice_toBytes key
  have number : declaredCount key.toBytes = key.ic.length := by
    rw [declaredCount, count, Bytes.toNat_ofNat]
    exact Nat.mod_eq_of_lt (by unfold maxPublicInputs at bounded; omega)
  apply ofBytes?_eq_ok_iff.mpr
  constructor
  · rw [number]
    exact List.length_pos_of_ne_nil valid.ic_ne_nil
  · rw [number]
    exact bounded
  · rw [number, length_toBytes]
  · rw [alpha]
    exact AffinePoint.ofBytes?_eq_ok_iff_isValid.mpr ⟨valid.alpha, rfl⟩
  · rw [beta]
    exact AffinePoint.ofBytes?_eq_ok_iff_isValid.mpr ⟨valid.beta, rfl⟩
  · rw [gamma]
    exact AffinePoint.ofBytes?_eq_ok_iff_isValid.mpr ⟨valid.gamma, rfl⟩
  · rw [delta]
    exact AffinePoint.ofBytes?_eq_ok_iff_isValid.mpr ⟨valid.delta, rfl⟩
  · exact finite
  · rw [number, drop_toBytes, Bytes.chunks_flatMap length_toBytes_g1, List.forall₂_map_left_iff,
      List.forall₂_same]
    intro P member
    exact AffinePoint.ofBytes?_eq_ok_iff_isValid.mpr ⟨valid.ic P member, rfl⟩

/-- The key without inputs whose points are the generators. -/
def generators : VerifyingKey where
  alpha := .ofPoint G1.generatorPoint
  beta := .ofPoint G2.generatorPoint
  gamma := .ofPoint G2.generatorPoint
  delta := .ofPoint G2.generatorPoint
  ic := [.ofPoint G1.generatorPoint]

theorem ofBytes?_generators : ofBytes? generators.toBytes = .ok generators := by
  have left := G1.isValid_ofPoint G1.generatorPoint
  have right := G2.isValid_ofPoint G2.generatorPoint_mem
  have leftFinite := AffinePoint.isIdentity_ofPoint_eq_false.mpr G1.generatorPoint_ne_zero
  have rightFinite := AffinePoint.isIdentity_ofPoint_eq_false.mpr G2.generatorPoint_ne_zero
  apply ofBytes?_toBytes
  · exact ⟨left, right, right, right, by simpa [generators] using left, List.cons_ne_nil _ _⟩
  · exact ⟨leftFinite, rightFinite, rightFinite, rightFinite⟩
  · exact Nat.le_add_left 1 _

end VerifyingKey
end Groth16
