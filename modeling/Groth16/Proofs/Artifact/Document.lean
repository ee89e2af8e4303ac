import Groth16.Proofs.Artifact.Coordinates
import Groth16.Proofs.Verification.KeyFormat
import Groth16.Proofs.Verification.ProofFormat

/-!
# Keys and proofs as documents

The bytes of a document that writes a key or a proof are its byte form: coordinates are decimal
numerals, a pair of them gives the real part first, and a third coordinate tells the identity from
the other points. Whatever a document gives is the byte form of a key or of a proof.
-/

namespace Groth16

open CoordinateFormat

/-- The list writes a point of `G1`. The third coordinate of the identity is zero, whatever the
others are. -/
inductive WritesG1 : List String → G1.Affine → Prop
  | identity (x y : String) : WritesG1 [x, y, "0"] .identity
  | finite
    {x y : String}
    {px py : Fq}
    (writesX : Numeral.IsDecimal x px.canonical.toNat)
    (writesY : Numeral.IsDecimal y py.canonical.toNat) :
    WritesG1 [x, y, "1"] (.finite px py)

/-- The pair writes an element of the quadratic extension, the real part first. -/
inductive WritesFq2 : List String → Fq2 → Prop
  | pair
    {c0 c1 : String}
    {x : Fq2}
    (real : Numeral.IsDecimal c0 x.c0.canonical.toNat)
    (imaginary : Numeral.IsDecimal c1 x.c1.canonical.toNat) :
    WritesFq2 [c0, c1] x

/-- The list writes a point of `G2`, in the same way. -/
inductive WritesG2 : List (List String) → G2.Affine → Prop
  | identity (x0 x1 y0 y1 : String) : WritesG2 [[x0, x1], [y0, y1], ["0", "0"]] .identity
  | finite
    {x y : List String}
    {px py : Fq2}
    (writesX : WritesFq2 x px)
    (writesY : WritesFq2 y py) :
    WritesG2 [x, y, ["1", "0"]] (.finite px py)

/-- The usual list that writes a point of `G1`. -/
def coordinatesOfG1 : G1.Affine → List String
  | .identity => ["0", "1", "0"]
  | .finite x y => [toString x.canonical.toNat, toString y.canonical.toNat, "1"]

/-- The usual pair that writes an element of the quadratic extension. -/
def coordinatesOfFq2 (x : Fq2) : List String :=
  [toString x.c0.canonical.toNat, toString x.c1.canonical.toNat]

/-- The usual list that writes a point of `G2`. -/
def coordinatesOfG2 : G2.Affine → List (List String)
  | .identity => [["0", "0"], ["1", "0"], ["0", "0"]]
  | .finite x y => [coordinatesOfFq2 x, coordinatesOfFq2 y, ["1", "0"]]

theorem writesG1_coordinatesOfG1 (P : G1.Affine) : WritesG1 (coordinatesOfG1 P) P := by
  cases P with
  | identity => exact .identity _ _
  | finite x y => exact .finite (Numeral.isDecimal_toString _) (Numeral.isDecimal_toString _)

theorem writesFq2_coordinatesOfFq2 (x : Fq2) : WritesFq2 (coordinatesOfFq2 x) x :=
  .pair (Numeral.isDecimal_toString _) (Numeral.isDecimal_toString _)

theorem writesG2_coordinatesOfG2 (P : G2.Affine) : WritesG2 (coordinatesOfG2 P) P := by
  cases P with
  | identity => exact .identity _ _ _ _
  | finite x y => exact .finite (writesFq2_coordinatesOfFq2 x) (writesFq2_coordinatesOfFq2 y)

theorem parse_of_isDecimal
    {text : String}
    {x : Fq}
    (decimal : Numeral.IsDecimal text x.canonical.toNat) :
    Numeral.parse text = .ok ⟨x.toBytes, FieldElement.length_toBytes x⟩ := by
  have small : x.canonical.toNat < 2 ^ 256 := x.canonical.toNat_lt
  rw [decimal.parse_eq small]
  exact congrArg Except.ok ((Scalar.ofNat_eq_iff small).mpr (FieldElement.toNat_toBytes x).symm)

theorem WritesG1.bytes_eq
    {coordinates : List String}
    {P : G1.Affine}
    (writes : WritesG1 coordinates P) :
    g1BytesOfCoordinates coordinates = .ok P.toBytes := by
  cases writes with
  | identity x y => rfl
  | finite writesX writesY =>
      have nonzero : isZeroNumeral "1" = false := by decide
      rw [g1BytesOfCoordinates, nonzero, if_neg Bool.false_ne_true]
      dsimp only
      rw [parse_of_isDecimal writesX, parse_of_isDecimal writesY]
      rfl

/-- The parts of both coordinates change places. -/
theorem WritesG2.bytes_eq
    {coordinates : List (List String)}
    {P : G2.Affine}
    (writes : WritesG2 coordinates P) :
    g2BytesOfCoordinates coordinates = .ok P.toBytes := by
  cases writes with
  | identity x0 x1 y0 y1 => rfl
  | finite writesX writesY =>
      obtain ⟨realX, imaginaryX⟩ := writesX
      obtain ⟨realY, imaginaryY⟩ := writesY
      have nonzero : (isZeroNumeral "1" && isZeroNumeral "0") = false := by decide
      rw [g2BytesOfCoordinates, nonzero, if_neg Bool.false_ne_true]
      dsimp only
      rw [parse_of_isDecimal imaginaryX, parse_of_isDecimal realX,
        parse_of_isDecimal imaginaryY, parse_of_isDecimal realY]
      exact congrArg Except.ok (List.append_assoc _ _ _)

theorem length_of_g1BytesOfCoordinates
    {coordinates : List String}
    {bytes : List UInt8}
    (written : g1BytesOfCoordinates coordinates = .ok bytes) :
    bytes.length = 64 :=
  (isReader_g1.eq_ok_iff isLawful_g1 |>.mp written).length_eq isLawful_g1

theorem length_of_g2BytesOfCoordinates
    {coordinates : List (List String)}
    {bytes : List UInt8}
    (written : g2BytesOfCoordinates coordinates = .ok bytes) :
    bytes.length = 128 :=
  (isReader_g2.eq_ok_iff isLawful_g2 |>.mp written).length_eq isLawful_g2

/-- The names of the proof system and of the curve, if there are any, are known. -/
structure IsScheme (protocol curve : Option String) : Prop where
  protocol : protocol = none ∨ protocol = some "groth16"
  curve : curve = none ∨ curve = some "bn128" ∨ curve = some "bn254"

theorem IsScheme.checkScheme_eq
    {protocol curve : Option String}
    (isScheme : IsScheme protocol curve) :
    checkScheme protocol curve = .ok () := by
  obtain ⟨rfl | rfl, rfl | rfl | rfl⟩ := isScheme <;> rfl

namespace KeyDocument

/-- The document writes the key. -/
structure Writes (document : KeyDocument) (key : VerifyingKey) : Prop where
  isScheme : IsScheme document.protocol document.curve
  publicInputs : document.publicInputs.toNat = key.ic.length - 1
  alpha : WritesG1 document.alpha key.alpha
  beta : WritesG2 document.beta key.beta
  gamma : WritesG2 document.gamma key.gamma
  delta : WritesG2 document.delta key.delta
  ic : List.Forall₂ WritesG1 document.ic key.ic

/-- The usual document that writes a key. -/
def ofKey (key : VerifyingKey) : KeyDocument where
  protocol := some "groth16"
  curve := some "bn128"
  publicInputs := .ofNat (key.ic.length - 1)
  alpha := coordinatesOfG1 key.alpha
  beta := coordinatesOfG2 key.beta
  gamma := coordinatesOfG2 key.gamma
  delta := coordinatesOfG2 key.delta
  ic := key.ic.map coordinatesOfG1

variable {document : KeyDocument} {key : VerifyingKey}

theorem writes_ofKey
    (bounded : key.ic.length ≤ 65) :
    (ofKey key).Writes key where
  isScheme := ⟨Or.inr rfl, Or.inr (Or.inl rfl)⟩
  publicInputs := UInt64.toNat_ofNat_of_lt' (show key.ic.length - 1 < 2 ^ 64 by omega)
  alpha := writesG1_coordinatesOfG1 _
  beta := writesG2_coordinatesOfG2 _
  gamma := writesG2_coordinatesOfG2 _
  delta := writesG2_coordinatesOfG2 _
  ic := by
    rw [ofKey, List.forall₂_map_left_iff, List.forall₂_same]
    exact fun P _ => writesG1_coordinatesOfG1 P

theorem Writes.encode_eq (writes : document.Writes key) : document.encode = .ok key.toBytes := by
  have points : document.ic.mapM g1BytesOfCoordinates = .ok (key.ic.map AffinePoint.toBytes) := by
    rw [Checks.mapM_eq_ok_iff, List.forall₂_map_right_iff]
    exact writes.ic.imp fun _ _ => WritesG1.bytes_eq
  rw [encode, writes.alpha.bytes_eq, writes.beta.bytes_eq, writes.gamma.bytes_eq,
    writes.delta.bytes_eq, points, writes.ic.length_eq]
  rfl

/-- A document that writes a key gives its byte form. -/
theorem Writes.toBytes_eq
    (writes : document.Writes key)
    (encodable : key.IsEncodable) :
    document.toBytes = .ok key.toBytes := by
  have positive := List.length_pos_of_ne_nil encodable.isValid.ic_ne_nil
  have count : ¬document.publicInputs.toNat + 1 ≠ document.ic.length := by
    rw [writes.publicInputs, writes.ic.length_eq]
    omega
  have decoded : VerifyingKey.ofBytes? key.toBytes = .ok key :=
    VerifyingKey.ofBytes?_toBytes encodable.isValid encodable.isFinite encodable.length_ic_le
  exact Checks.bind_eq_ok.mpr ⟨(), writes.isScheme.checkScheme_eq,
    Checks.guard_eq_ok.mpr ⟨count, Checks.bind_eq_ok.mpr ⟨_, writes.encode_eq,
    Checks.bind_eq_ok.mpr ⟨key, Checks.mapError_eq_ok.mpr decoded, rfl⟩⟩⟩⟩

/-- The bytes of a document have room for as many input points as it lists. -/
theorem length_of_encode
    {bytes : List UInt8}
    (encoded : document.encode = .ok bytes) :
    bytes.length = 452 + 64 * document.ic.length := by
  unfold encode at encoded
  obtain ⟨alpha, writtenAlpha, encoded⟩ := Checks.bind_eq_ok.mp encoded
  obtain ⟨beta, writtenBeta, encoded⟩ := Checks.bind_eq_ok.mp encoded
  obtain ⟨gamma, writtenGamma, encoded⟩ := Checks.bind_eq_ok.mp encoded
  obtain ⟨delta, writtenDelta, encoded⟩ := Checks.bind_eq_ok.mp encoded
  obtain ⟨ic, writtenIc, equal⟩ := Checks.bind_eq_ok.mp encoded
  cases equal
  have each : ic.map List.length = List.replicate document.ic.length 64 := by
    rw [List.eq_replicate_iff, List.length_map, Checks.length_eq_of_mapM_eq_ok writtenIc,
      List.forall_mem_map]
    refine ⟨rfl, fun point member => ?_⟩
    obtain ⟨coordinates, -, written⟩ :=
      Checks.exists_of_forall₂ (Checks.mapM_eq_ok_iff.mp writtenIc) member
    exact length_of_g1BytesOfCoordinates written
  simp only [List.length_append, List.length_flatten, Bytes.length_ofNat, each,
    List.sum_replicate, length_of_g1BytesOfCoordinates writtenAlpha,
    length_of_g2BytesOfCoordinates writtenBeta, length_of_g2BytesOfCoordinates writtenGamma,
    length_of_g2BytesOfCoordinates writtenDelta, smul_eq_mul]
  omega

/-- What a document gives is decoded to a key with an input point for each public input and one
more. -/
theorem exists_of_toBytes
    {bytes : List UInt8}
    (written : document.toBytes = .ok bytes) :
    document.ic.length = document.publicInputs.toNat + 1 ∧
      ∃ key, VerifyingKey.ofBytes? bytes = .ok key ∧
        key.ic.length = document.publicInputs.toNat + 1 := by
  unfold toBytes at written
  obtain ⟨⟨⟩, -, written⟩ := Checks.bind_eq_ok.mp written
  obtain ⟨count, written⟩ := Checks.guard_eq_ok.mp written
  obtain ⟨encoded, encodes, written⟩ := Checks.bind_eq_ok.mp written
  obtain ⟨key, read, equal⟩ := Checks.bind_eq_ok.mp written
  cases equal
  have accepted := Checks.mapError_eq_ok.mp read
  have decoded := VerifyingKey.ofBytes?_eq_ok_iff.mp accepted
  have length := decoded.length_eq
  rw [length_of_encode encodes, ← decoded.length_ic, VerifyingKey.encodedSize,
    VerifyingKey.headerSize] at length
  exact ⟨by omega, key, accepted, by omega⟩

end KeyDocument

namespace ProofDocument

/-- The document writes the proof. -/
structure Writes (document : ProofDocument) (proof : Proof) : Prop where
  isScheme : IsScheme document.protocol document.curve
  a : WritesG1 document.a proof.a
  b : WritesG2 document.b proof.b
  c : WritesG1 document.c proof.c

/-- The usual document that writes a proof. -/
def ofProof (proof : Proof) : ProofDocument where
  a := coordinatesOfG1 proof.a
  b := coordinatesOfG2 proof.b
  c := coordinatesOfG1 proof.c
  protocol := some "groth16"
  curve := some "bn128"

theorem writes_ofProof (proof : Proof) : (ofProof proof).Writes proof where
  isScheme := ⟨Or.inr rfl, Or.inr (Or.inl rfl)⟩
  a := writesG1_coordinatesOfG1 _
  b := writesG2_coordinatesOfG2 _
  c := writesG1_coordinatesOfG1 _

variable {document : ProofDocument} {proof : Proof}

/-- A document that writes a proof gives its byte form. -/
theorem Writes.toBytes_eq
    (writes : document.Writes proof)
    (encodable : proof.IsEncodable) :
    document.toBytes = .ok proof.toBytes := by
  have encoded : document.encode = .ok proof.toBytes := by
    rw [encode, writes.a.bytes_eq, writes.b.bytes_eq, writes.c.bytes_eq]
    rfl
  have decoded : Proof.ofBytes? proof.toBytes = .ok proof :=
    (Proof.isExactFormat.decode_eq_ok_iff _ _).mpr ⟨encodable, rfl⟩
  exact Checks.bind_eq_ok.mpr ⟨(), writes.isScheme.checkScheme_eq,
    Checks.bind_eq_ok.mpr ⟨_, encoded,
    Checks.bind_eq_ok.mpr ⟨proof, Checks.mapError_eq_ok.mpr decoded, rfl⟩⟩⟩

/-- What a document gives is decoded to a proof. -/
theorem exists_of_toBytes
    {bytes : List UInt8}
    (written : document.toBytes = .ok bytes) :
    ∃ proof, Proof.ofBytes? bytes = .ok proof := by
  unfold toBytes at written
  obtain ⟨⟨⟩, -, written⟩ := Checks.bind_eq_ok.mp written
  obtain ⟨encoded, -, written⟩ := Checks.bind_eq_ok.mp written
  obtain ⟨proof, read, equal⟩ := Checks.bind_eq_ok.mp written
  cases equal
  exact ⟨proof, Checks.mapError_eq_ok.mp read⟩

end ProofDocument

/-- There are documents that write a key or a proof with a byte form, and all of them give this
byte form. Conversely, what a document gives is decoded to a key or a proof; such a key has an
input point for each public input of the document and one more. -/
theorem documents_toBytes_faithful :
    (∀ key : VerifyingKey, key.IsEncodable →
        (∃ document : KeyDocument, document.Writes key) ∧
          ∀ document : KeyDocument, document.Writes key → document.toBytes = .ok key.toBytes) ∧
      (∀ proof : Proof, proof.IsEncodable →
        (∃ document : ProofDocument, document.Writes proof) ∧
          ∀ document : ProofDocument, document.Writes proof →
            document.toBytes = .ok proof.toBytes) ∧
      (∀ (document : KeyDocument) bytes, document.toBytes = .ok bytes →
        document.ic.length = document.publicInputs.toNat + 1 ∧
          ∃ key, VerifyingKey.ofBytes? bytes = .ok key ∧
            key.ic.length = document.publicInputs.toNat + 1) ∧
      ∀ (document : ProofDocument) bytes, document.toBytes = .ok bytes →
        ∃ proof, Proof.ofBytes? bytes = .ok proof := by
  refine ⟨?_, ?_, ?_, ?_⟩
  · intro key encodable
    exact ⟨⟨_, KeyDocument.writes_ofKey encodable.length_ic_le⟩,
      fun document writes => writes.toBytes_eq encodable⟩
  · intro proof encodable
    exact ⟨⟨_, ProofDocument.writes_ofProof proof⟩,
      fun document writes => writes.toBytes_eq encodable⟩
  · intro document bytes written
    exact KeyDocument.exists_of_toBytes written
  · intro document bytes written
    exact ProofDocument.exists_of_toBytes written

/-- A key with one public input that does not matter, since its input point is the identity. -/
def VerifyingKey.ignoringInput : VerifyingKey :=
  { generators with ic := [.ofPoint G1.generatorPoint, .identity] }

theorem VerifyingKey.isEncodable_ignoringInput : ignoringInput.IsEncodable := by
  have valid := (isValid_of_ofBytes? ofBytes?_generators).1
  have finite := (ofBytes?_eq_ok_iff.mp ofBytes?_generators).isFinite
  refine ⟨⟨valid.alpha, valid.beta, valid.gamma, valid.delta, ?_, List.cons_ne_nil _ _⟩,
    ⟨finite.alpha, finite.beta, finite.gamma, finite.delta⟩, by decide⟩
  exact List.forall_mem_cons.mpr ⟨G1.isValid_ofPoint G1.generatorPoint,
    List.forall_mem_singleton.mpr (G1.isValid_ofPoint 0)⟩

theorem documents_toBytes_faithful_ignoringInput :
    let key := VerifyingKey.ignoringInput
    let proof : Proof := ⟨key.alpha, key.beta, key.alpha⟩
    (KeyDocument.ofKey key).toBytes = .ok key.toBytes ∧
      (ProofDocument.ofProof proof).toBytes = .ok proof.toBytes ∧
      (∃ decoded, VerifyingKey.ofBytes? key.toBytes = .ok decoded ∧ decoded.ic.length = 2) ∧
      ∃ decoded, Proof.ofBytes? proof.toBytes = .ok decoded := by
  intro key proof
  have encodable : key.IsEncodable := VerifyingKey.isEncodable_ignoringInput
  have encodableProof : proof.IsEncodable :=
    ⟨⟨encodable.isValid.alpha, encodable.isValid.beta, encodable.isValid.alpha⟩,
      ⟨encodable.isFinite.alpha, encodable.isFinite.beta, encodable.isFinite.alpha⟩⟩
  obtain ⟨writesKey, writesProof, readsKey, readsProof⟩ := documents_toBytes_faithful
  have keyBytes := (writesKey key encodable).2 _ (KeyDocument.writes_ofKey (by decide))
  have proofBytes := (writesProof proof encodableProof).2 _ (ProofDocument.writes_ofProof proof)
  exact ⟨keyBytes, proofBytes, (readsKey _ _ keyBytes).2, readsProof _ _ proofBytes⟩

end Groth16
