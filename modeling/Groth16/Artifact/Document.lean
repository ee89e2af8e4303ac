import Groth16.Artifact.Numeral
import Groth16.Json.Decode
import Groth16.Key
import Groth16.Proof

/-!
# Keys, proofs and inputs as JSON

Circuit tools write keys and proofs as JSON documents in which a point is a list of
coordinates in decimal, with a third coordinate that is zero for the identity. Coordinates
in the quadratic extension are pairs with the real part first, while the byte form has the
imaginary part first. What a document gives is accepted only if it is a valid key or proof.
-/

namespace Groth16

/-- Whether a coordinate is written as zero: no digits but zeros, after any number of `0x`. -/
def isZeroNumeral (value : String) : Bool :=
  (dropMarks (Text.trim value.toList)).all (· == '0')
where
  /-- The text without the marks `0x` at its start. -/
  dropMarks : List Char → List Char
    | '0' :: 'x' :: rest => dropMarks rest
    | rest => rest

/-- The bytes of the point of `G1` with the given coordinates. -/
def g1BytesOfCoordinates (coordinates : List String) : Except ArtifactError (List UInt8) :=
  let finite (x y : String) : Except ArtifactError (List UInt8) := do
    return (← Numeral.parse x).val ++ (← Numeral.parse y).val
  match coordinates with
  | [x, y] => finite x y
  | [x, y, z] => if isZeroNumeral z then .ok (List.replicate 64 0) else finite x y
  | _ => .error (.size "G1 coordinate list" 3 coordinates.length)

/-- The bytes of the point of `G2` with the given coordinates. -/
def g2BytesOfCoordinates (coordinates : List (List String)) : Except ArtifactError (List UInt8) :=
  let finite (x0 x1 y0 y1 : String) : Except ArtifactError (List UInt8) := do
    return (← Numeral.parse x1).val ++ (← Numeral.parse x0).val ++
      (← Numeral.parse y1).val ++ (← Numeral.parse y0).val
  match coordinates with
  | [[x0, x1], [y0, y1]] => finite x0 x1 y0 y1
  | [[x0, x1], [y0, y1], [z0, z1]] =>
    if isZeroNumeral z0 && isZeroNumeral z1 then .ok (List.replicate 128 0)
    else finite x0 x1 y0 y1
  | _ => .error (.size "G2 coordinate list" 3 coordinates.length)

/-- Refuses every proof system and every curve but ours, where they are named. -/
def checkScheme (protocol curve : Option String) : Except ArtifactError Unit := do
  if let some name := protocol then
    if name ≠ "groth16" then throw (.unsupported s!"protocol {name}")
  if let some name := curve then
    if name ≠ "bn128" ∧ name ≠ "bn254" then throw (.unsupported s!"curve {name}")

/-- A verifying key as a document. -/
structure KeyDocument where
  protocol : Option String
  curve : Option String
  publicInputs : UInt64
  alpha : List String
  beta : List (List String)
  gamma : List (List String)
  delta : List (List String)
  ic : List (List String)
  deriving DecidableEq, Repr

namespace KeyDocument

instance : OfJson KeyDocument where
  ofJson? value := do
    let fields ← JsonFields.ofJson? ["protocol", "curve", "nPublic", "vk_alpha_1", "vk_beta_2",
      "vk_gamma_2", "vk_delta_2", "IC"] value
    return {
      protocol := ← fields.optional "protocol"
      curve := ← fields.optional "curve"
      publicInputs := ← fields.required "nPublic"
      alpha := ← fields.required "vk_alpha_1"
      beta := ← fields.required "vk_beta_2"
      gamma := ← fields.required "vk_gamma_2"
      delta := ← fields.required "vk_delta_2"
      ic := ← fields.required "IC" }

/-- The document that a text denotes. -/
def parse (text : String) : Except ArtifactError KeyDocument :=
  match OfJson.parse? text with
  | some document => .ok document
  | none => .error .json

/-- The number of input points that goes with the number of public inputs, at most the
largest word. -/
def expectedIcCount (document : KeyDocument) : Nat :=
  min (document.publicInputs.toNat + 1) (2 ^ 64 - 1)

/-- The bytes of the points, in the order of the byte form. -/
def encode (document : KeyDocument) : Except ArtifactError (List UInt8) := do
  let alpha ← g1BytesOfCoordinates document.alpha
  let beta ← g2BytesOfCoordinates document.beta
  let gamma ← g2BytesOfCoordinates document.gamma
  let delta ← g2BytesOfCoordinates document.delta
  let ic ← document.ic.mapM g1BytesOfCoordinates
  return alpha ++ beta ++ gamma ++ delta ++ Bytes.ofNat 4 document.ic.length ++ ic.flatten

/-- The bytes of the key. -/
def toBytes (document : KeyDocument) : Except ArtifactError (List UInt8) := do
  checkScheme document.protocol document.curve
  if document.publicInputs.toNat + 1 ≠ document.ic.length then
    throw (.size "IC" document.expectedIcCount document.ic.length)
  let bytes ← document.encode
  let _ ← (VerifyingKey.ofBytes? bytes).mapError fun error => .verify (.keyLoadFailed error)
  return bytes

end KeyDocument

/-- A proof as a document. -/
structure ProofDocument where
  a : List String
  b : List (List String)
  c : List String
  protocol : Option String
  curve : Option String
  deriving DecidableEq, Repr

namespace ProofDocument

instance : OfJson ProofDocument where
  ofJson? value := do
    let fields ← JsonFields.ofJson? ["pi_a", "pi_b", "pi_c", "protocol", "curve"] value
    return {
      a := ← fields.required "pi_a"
      b := ← fields.required "pi_b"
      c := ← fields.required "pi_c"
      protocol := ← fields.optional "protocol"
      curve := ← fields.optional "curve" }

/-- The document that a text denotes. -/
def parse (text : String) : Except ArtifactError ProofDocument :=
  match OfJson.parse? text with
  | some document => .ok document
  | none => .error .json

/-- The bytes of the points, in the order of the byte form. -/
def encode (document : ProofDocument) : Except ArtifactError (List UInt8) := do
  let a ← g1BytesOfCoordinates document.a
  let b ← g2BytesOfCoordinates document.b
  let c ← g1BytesOfCoordinates document.c
  return a ++ b ++ c

/-- The bytes of the proof. -/
def toBytes (document : ProofDocument) : Except ArtifactError (List UInt8) := do
  checkScheme document.protocol document.curve
  let bytes ← document.encode
  let _ ← (Proof.ofBytes? bytes).mapError .verify
  return bytes

end ProofDocument

/-- The bytes of the key that a JSON text denotes. -/
def keyBytesOfJson (text : String) : Except ArtifactError (List UInt8) := do
  (← KeyDocument.parse text).toBytes

/-- The bytes of the proof that a JSON text denotes. -/
def proofBytesOfJson (text : String) : Except ArtifactError (List UInt8) := do
  (← ProofDocument.parse text).toBytes

/-- The scalar that a numeral denotes. -/
def scalarOfNumeral (value : String) : Except ArtifactError Scalar := do
  let scalar ← Numeral.parse value
  Numeral.checkScalar value scalar
  return scalar

/-- The public inputs that a JSON text denotes. -/
def inputsOfJson (text : String) : Except ArtifactError (List Scalar) :=
  match (OfJson.parse? text : Option (List String)) with
  | some values => values.mapM scalarOfNumeral
  | none => .error .json

end Groth16
