import Groth16.Artifact.Document
import Groth16.Host.Access
import Groth16.Host.Path
import Groth16.Reputation.Envelope

/-!
# Artifacts in files

The extension of a file tells how its content is written: as JSON, as hexadecimal text, or
as plain bytes. Keys and JSON proofs are checked in full; of other proofs only the size is,
since their points are checked when they are verified.
-/

namespace Groth16

/-- How the content of a file is written. -/
inductive ArtifactFormat where
  | json
  | hex
  | binary
  deriving DecidableEq, Repr

namespace ArtifactFormat

/-- The format of a file of the given path, by its extension in any case. -/
def ofPath (path : String) : ArtifactFormat :=
  match (Path.extension? path.toList).map fun extension => extension.map Char.toLower with
  | some ['j', 's', 'o', 'n'] => json
  | some ['h', 'e', 'x'] => hex
  | _ => binary

/-- The name of the format. -/
def name : ArtifactFormat → String
  | json => "Json"
  | hex => "Hex"
  | binary => "Binary"

end ArtifactFormat

/-- A computation with access to files that may be refused an artifact. -/
abbrev ArtifactM := ExceptT ArtifactError HostM

namespace Artifact

/-- The text of a file. -/
def readText (path : String) : ArtifactM String :=
  ExceptT.mk ((·.mapError (.unreadable path)) <$> HostM.readText path)

/-- The bytes of a file. -/
def readBytes (path : String) : ArtifactM (List UInt8) :=
  ExceptT.mk ((·.mapError (.unreadable path)) <$> HostM.readBytes path)

/-- The bytes that hexadecimal text spells. -/
def decodeHex (text : String) : Except ArtifactError (List UInt8) :=
  (Hex.decodeText text.toList).mapError .hex

/-- The bytes that the text of a file spells. -/
def readHex (path : String) : ArtifactM (List UInt8) := do
  let text ← readText path
  decodeHex text

/-- Bytes that are a valid key. -/
def checkKey (bytes : List UInt8) : Except ArtifactError (List UInt8) :=
  match VerifyingKey.ofBytes? bytes with
  | .ok _ => .ok bytes
  | .error error => .error (.verify (.keyLoadFailed error))

/-- Bytes that have the size of a proof. -/
def checkProofSize (bytes : List UInt8) : Except ArtifactError (Bytes.Fixed 256) :=
  match Bytes.Fixed.ofList? bytes with
  | some bytes => .ok bytes
  | none => .error (.size "proof" Proof.encodedSize bytes.length)

/-- The bytes of the key in a file. -/
def loadKey (path : String) : ArtifactM (List UInt8) :=
  match ArtifactFormat.ofPath path with
  | .json => do
    let text ← readText path
    keyBytesOfJson text
  | .hex => do
    let bytes ← readHex path
    checkKey bytes
  | .binary => do
    let bytes ← readBytes path
    checkKey bytes

/-- The bytes of the proof in a file. -/
def loadProof (path : String) : ArtifactM (List UInt8) :=
  match ArtifactFormat.ofPath path with
  | .json => do
    let text ← readText path
    proofBytesOfJson text
  | .hex => do
    let bytes ← readHex path
    return (← checkProofSize bytes).val
  | .binary => do
    let bytes ← readBytes path
    return (← checkProofSize bytes).val

/-- The scalar of 32 bytes, which must be below the modulus. -/
def scalarOfChunk (chunk : List UInt8) : Except ArtifactError Scalar := do
  let scalar := Scalar.ofNat (Bytes.toNat chunk)
  Numeral.checkScalar (Bytes.toHex chunk) scalar
  return scalar

/-- The public inputs that are encoded one after the other. -/
def inputsOfBytes (bytes : List UInt8) : Except ArtifactError (List Scalar) :=
  let count := bytes.length / 32
  if bytes.length % 32 ≠ 0 then
    .error (.size "public inputs" (32 * (count + 1)) bytes.length)
  else (Bytes.chunks 32 count bytes).mapM scalarOfChunk

/-- The public inputs in a file. -/
def loadInputs (path : String) : ArtifactM (List Scalar) :=
  match ArtifactFormat.ofPath path with
  | .json => do
    let text ← readText path
    inputsOfJson text
  | .hex => do
    let bytes ← readHex path
    inputsOfBytes bytes
  | .binary => do
    let bytes ← readBytes path
    inputsOfBytes bytes

/-- The bytes in a file that is not JSON. -/
def loadBytes (path : String) : ArtifactM (List UInt8) :=
  match ArtifactFormat.ofPath path with
  | .json => throw (.unsupported s!"{Text.quoted path}: expected hex or binary")
  | .hex => readHex path
  | .binary => readBytes path

/-- A reputation envelope around a proof. -/
def sealEnvelope
    (threshold : UInt16)
    (timestamp : UInt32)
    (agent commitment : Bytes.Fixed 32)
    (proof : List UInt8) : Except ArtifactError Envelope := do
  let proof ← checkProofSize proof
  (Envelope.make? threshold timestamp agent commitment proof).mapError .verify

/-- The envelope that the bytes encode. -/
def openEnvelope (bytes : List UInt8) : Except ArtifactError Envelope :=
  (Envelope.ofBytes? bytes).mapError .verify

end Artifact
end Groth16
