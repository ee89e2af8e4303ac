import Groth16.Proofs.Verification.ProofFormat
import Groth16.Reputation.Envelope

/-!
# The format of envelopes is exact

The byte strings that decoding accepts have 328 bytes that begin with the number of a kind, the
version and a threshold of at most 100. What follows may be any bytes: decoding keeps the proof in
an envelope as it is. Each of them is the byte form of the envelope that it is decoded to, so no two
byte strings denote one envelope.
-/

namespace Groth16

theorem ProofKind.ofByte?_eq_ok_iff
    {byte : UInt8}
    {kind : ProofKind} :
    ofByte? byte = .ok kind ↔ byte = kind.toByte := by
  constructor
  · intro accepted
    unfold ofByte? at accepted
    split at accepted <;> cases accepted <;> rfl
  · rintro rfl
    cases kind <;> rfl

namespace Envelope

/-- The format of envelopes. -/
structure IsEncoding (bytes : List UInt8) : Prop where
  length_eq : bytes.length = 328
  kind : bytes[0]? = some 0 ∨ bytes[0]? = some 1 ∨ bytes[0]? = some 2
  version : bytes[1]? = some 1
  threshold_le : Bytes.toNat (Bytes.slice bytes 2 2) ≤ 100

/-- Decoding finds the parts of the envelope in the bytes. -/
structure IsDecoded (bytes : List UInt8) (envelope : Envelope) : Prop where
  length_eq : bytes.length = 328
  kind : bytes.getD 0 0 = envelope.kind.toByte
  version_eq : bytes.getD 1 0 = version
  threshold : Bytes.toNat (Bytes.slice bytes 2 2) = envelope.threshold.toNat
  threshold_le : envelope.threshold.toNat ≤ 100
  timestamp : Bytes.toNat (Bytes.slice bytes 4 4) = envelope.timestamp.toNat
  agent : Bytes.slice bytes 8 32 = envelope.agent.val
  commitment : Bytes.slice bytes 40 32 = envelope.commitment.val
  proof : Bytes.slice bytes 72 256 = envelope.proof.val

variable {bytes : List UInt8} {envelope : Envelope}

theorem checkThreshold_eq (threshold : UInt16) :
    checkThreshold threshold =
      if threshold.toNat ≤ 100 then .ok ()
      else .error (.outOfRange (.scoreOutOfRange threshold.toNat)) := by
  rw [checkThreshold, checkScore, maxScore]
  by_cases small : threshold.toNat ≤ 100
  · rw [if_pos small, if_neg (Nat.not_lt.mpr small)]
    rfl
  · rw [if_neg small, if_pos (Nat.not_le.mp small)]
    rfl

theorem checkThreshold_eq_ok_iff {threshold : UInt16} :
    checkThreshold threshold = .ok () ↔ threshold.toNat ≤ 100 := by
  rw [checkThreshold_eq]
  split_ifs with small
  · exact iff_of_true rfl small
  · exact iff_of_false nofun small

theorem toNat_threshold (bytes : List UInt8) :
    (UInt16.ofNat (Bytes.toNat (Bytes.slice bytes 2 2))).toNat =
      Bytes.toNat (Bytes.slice bytes 2 2) :=
  UInt16.toNat_ofNat_of_lt' (Bytes.toNat_slice_lt bytes 2 2)

theorem toNat_timestamp (bytes : List UInt8) :
    (UInt32.ofNat (Bytes.toNat (Bytes.slice bytes 4 4))).toNat =
      Bytes.toNat (Bytes.slice bytes 4 4) :=
  UInt32.toNat_ofNat_of_lt' (Bytes.toNat_slice_lt bytes 4 4)

/-- Decoding accepts the bytes in which it finds the parts of an envelope, and gives this
envelope. -/
theorem ofBytes?_eq_ok_iff : ofBytes? bytes = .ok envelope ↔ IsDecoded bytes envelope := by
  unfold ofBytes?
  by_cases length : bytes.length = encodedSize
  swap
  · rw [dif_neg length]
    exact iff_of_false nofun fun decoded => length decoded.length_eq
  rw [dif_pos length]
  constructor
  · intro accepted
    obtain ⟨kind, readKind, accepted⟩ := Checks.bind_eq_ok.mp accepted
    obtain ⟨versionEq, accepted⟩ := Checks.guard_eq_ok.mp accepted
    obtain ⟨⟨⟩, inRange, equal⟩ := Checks.bind_eq_ok.mp accepted
    cases equal
    exact {
      length_eq := length
      kind := ProofKind.ofByte?_eq_ok_iff.mp (Checks.mapError_eq_ok.mp readKind)
      version_eq := not_not.mp versionEq
      threshold := (toNat_threshold bytes).symm
      threshold_le := checkThreshold_eq_ok_iff.mp inRange
      timestamp := (toNat_timestamp bytes).symm
      agent := rfl
      commitment := rfl
      proof := rfl }
  · intro decoded
    have threshold : UInt16.ofNat (Bytes.toNat (Bytes.slice bytes 2 2)) = envelope.threshold := by
      rw [decoded.threshold, UInt16.ofNat_toNat]
    have timestamp : UInt32.ofNat (Bytes.toNat (Bytes.slice bytes 4 4)) = envelope.timestamp := by
      rw [decoded.timestamp, UInt32.ofNat_toNat]
    refine Checks.bind_eq_ok.mpr ⟨envelope.kind,
      Checks.mapError_eq_ok.mpr (ProofKind.ofByte?_eq_ok_iff.mpr decoded.kind),
      Checks.guard_eq_ok.mpr ⟨not_not_intro decoded.version_eq, Checks.bind_eq_ok.mpr ⟨(), ?_, ?_⟩⟩⟩
    · rw [threshold]
      exact checkThreshold_eq_ok_iff.mpr decoded.threshold_le
    · -- Both envelopes agree in every part.
      obtain ⟨kind, _, _, agent, commitment, proof⟩ := envelope
      congr 2
      · exact Subtype.ext decoded.agent
      · exact Subtype.ext decoded.commitment
      · exact Subtype.ext decoded.proof

/-- Bytes of the right size begin with the numbers of a kind and of a version. -/
theorem exists_cons_of_length
    (length : bytes.length = 328) :
    ∃ kind version rest, bytes = kind :: version :: rest := by
  obtain _ | ⟨kind, _ | ⟨version, rest⟩⟩ := bytes
  · cases length
  · cases length
  · exact ⟨kind, version, rest, rfl⟩

/-- The byte strings of the format are those in which decoding finds an envelope. -/
theorem exists_isDecoded_iff : (∃ envelope, IsDecoded bytes envelope) ↔ IsEncoding bytes := by
  constructor
  · rintro ⟨envelope, decoded⟩
    obtain ⟨first, second, rest, rfl⟩ := exists_cons_of_length decoded.length_eq
    obtain rfl : first = envelope.kind.toByte := decoded.kind
    obtain rfl : second = version := decoded.version_eq
    refine ⟨decoded.length_eq, ?_, rfl, decoded.threshold.trans_le decoded.threshold_le⟩
    cases envelope.kind with
    | reputation => exact Or.inl rfl
    | payment => exact Or.inr (Or.inl rfl)
    | inference => exact Or.inr (Or.inr rfl)
  · intro encoding
    have length := encoding.length_eq
    obtain ⟨kind, kindEq⟩ : ∃ kind : ProofKind, bytes[0]? = some kind.toByte := by
      obtain zero | one | two := encoding.kind
      · exact ⟨.reputation, zero⟩
      · exact ⟨.payment, one⟩
      · exact ⟨.inference, two⟩
    let envelope : Envelope := {
      kind
      threshold := .ofNat (Bytes.toNat (Bytes.slice bytes 2 2))
      timestamp := .ofNat (Bytes.toNat (Bytes.slice bytes 4 4))
      agent := .slice bytes 8 32 (by omega)
      commitment := .slice bytes 40 32 (by omega)
      proof := .slice bytes 72 256 (by omega) }
    exact ⟨envelope, {
      length_eq := length
      kind := by
        rw [List.getD_eq_getElem?_getD, kindEq]
        rfl
      version_eq := by
        rw [List.getD_eq_getElem?_getD, encoding.version]
        rfl
      threshold := (toNat_threshold bytes).symm
      threshold_le := (toNat_threshold bytes).trans_le encoding.threshold_le
      timestamp := (toNat_timestamp bytes).symm
      agent := rfl
      commitment := rfl
      proof := rfl }⟩

theorem length_toBytes (envelope : Envelope) : envelope.toBytes.length = 328 := by
  simp only [toBytes, List.length_append, List.length_cons, List.length_nil, Bytes.length_ofNat,
    envelope.agent.property, envelope.commitment.property, envelope.proof.property]

/-- The pieces of the byte form are found at their offsets. -/
theorem slice_toBytes (envelope : Envelope) :
    Bytes.slice envelope.toBytes 2 2 = Bytes.ofNat 2 envelope.threshold.toNat ∧
      Bytes.slice envelope.toBytes 4 4 = Bytes.ofNat 4 envelope.timestamp.toNat ∧
      Bytes.slice envelope.toBytes 8 32 = envelope.agent.val ∧
      Bytes.slice envelope.toBytes 40 32 = envelope.commitment.val ∧
      Bytes.slice envelope.toBytes 72 256 = envelope.proof.val := by
  have threshold := Bytes.length_ofNat 2 envelope.threshold.toNat
  have timestamp := Bytes.length_ofNat 4 envelope.timestamp.toNat
  have agent := envelope.agent.property
  have commitment := envelope.commitment.property
  refine ⟨?_, ?_, ?_, ?_, ?_⟩
  · rw [toBytes, List.append_assoc, List.append_assoc, List.append_assoc, List.append_assoc]
    exact Bytes.slice_append rfl threshold
  · rw [toBytes, List.append_assoc, List.append_assoc, List.append_assoc]
    exact Bytes.slice_append (by rw [List.length_append, threshold]; rfl) timestamp
  · rw [toBytes, List.append_assoc, List.append_assoc]
    exact Bytes.slice_append (by simp only [List.length_append, threshold, timestamp]; rfl) agent
  · rw [toBytes, List.append_assoc]
    exact Bytes.slice_append (by simp only [List.length_append, threshold, timestamp, agent]; rfl)
      commitment
  · rw [Bytes.slice_of_add_eq (length_toBytes envelope).symm, toBytes]
    exact List.drop_left'
      (by simp only [List.length_append, threshold, timestamp, agent, commitment]; rfl)

/-- Decoding finds an envelope in its byte form and nowhere else. -/
theorem isDecoded_iff :
    IsDecoded bytes envelope ↔ envelope.threshold.toNat ≤ 100 ∧ envelope.toBytes = bytes := by
  constructor
  · intro decoded
    refine ⟨decoded.threshold_le, ?_⟩
    have length := decoded.length_eq
    have header : [envelope.kind.toByte, version] = Bytes.slice bytes 0 2 := by
      obtain ⟨first, second, rest, rfl⟩ := exists_cons_of_length length
      rw [← decoded.kind, ← decoded.version_eq]
      rfl
    rw [toBytes, header, ← decoded.threshold, ← decoded.timestamp, ← decoded.agent,
      ← decoded.commitment, ← decoded.proof, Bytes.ofNat_toNat_slice (by omega),
      Bytes.ofNat_toNat_slice (by omega), Bytes.slice_append_slice, Bytes.slice_append_slice,
      Bytes.slice_append_slice, Bytes.slice_append_slice, Bytes.slice_append_slice,
      Bytes.slice_zero]
    exact List.take_of_length_le length.le
  · rintro ⟨threshold_le, rfl⟩
    obtain ⟨threshold, timestamp, agent, commitment, proof⟩ := slice_toBytes envelope
    refine ⟨length_toBytes envelope, rfl, rfl, ?_, threshold_le, ?_, agent, commitment, proof⟩
    · rw [threshold, Bytes.toNat_ofNat, Nat.mod_eq_of_lt envelope.threshold.toNat_lt]
    · rw [timestamp, Bytes.toNat_ofNat, Nat.mod_eq_of_lt envelope.timestamp.toNat_lt]

/-- The format of envelopes is exact. -/
theorem isExactFormat :
    IsExactFormat ofBytes? toBytes IsEncoding fun envelope => envelope.threshold.toNat ≤ 100 where
  exists_decode_eq_ok_iff bytes := by
    rw [← exists_isDecoded_iff]
    exact exists_congr fun envelope => ofBytes?_eq_ok_iff
  decode_eq_ok_iff bytes envelope := ofBytes?_eq_ok_iff.trans isDecoded_iff

end Envelope

/-- The formats of proofs and of envelopes are exact. -/
theorem isExactFormat_proof_envelope :
    IsExactFormat Proof.ofBytes? Proof.toBytes Proof.IsEncoding Proof.IsEncodable ∧
      IsExactFormat Envelope.ofBytes? Envelope.toBytes Envelope.IsEncoding
        fun envelope => envelope.threshold.toNat ≤ 100 :=
  ⟨Proof.isExactFormat, Envelope.isExactFormat⟩

end Groth16
