import Groth16.Proof
import Groth16.Reputation.Tier

/-!
# Proof envelopes

An envelope states which threshold an agent claims to reach, since when, and under which
commitment, together with the proof of it. Its byte form has a fixed size and carries a
version.
-/

namespace Groth16

/-- What an envelope states. -/
inductive ProofKind where
  | reputation
  | payment
  | inference
  deriving DecidableEq, Repr, Inhabited

namespace ProofKind

/-- The number of the kind in an envelope. -/
def toByte : ProofKind → UInt8
  | reputation => 0
  | payment => 1
  | inference => 2

/-- The kind of the given number. -/
def ofByte? (byte : UInt8) : Except ProofError ProofKind :=
  match byte with
  | 0 => .ok reputation
  | 1 => .ok payment
  | 2 => .ok inference
  | other => .error (.unknownKind other.toNat)

/-- The name of the kind. -/
def name : ProofKind → String
  | reputation => "Reputation"
  | payment => "Payment"
  | inference => "Inference"

end ProofKind

/-- An envelope. -/
structure Envelope where
  kind : ProofKind
  threshold : UInt16
  /-- Seconds since 1970. -/
  timestamp : UInt32
  agent : Bytes.Fixed 32
  commitment : Bytes.Fixed 32
  proof : Bytes.Fixed 256
  deriving DecidableEq

namespace Envelope

/-- The number of bytes of an envelope. -/
def encodedSize : Nat := 328

/-- The version that envelopes carry. -/
def version : UInt8 := 1

/-- Refuses a threshold above 100. -/
def checkThreshold (threshold : UInt16) : Except VerifyError Unit :=
  ((checkScore threshold.toNat).mapError .outOfRange).map fun _ => ()

/-- A reputation envelope. -/
def make?
    (threshold : UInt16)
    (timestamp : UInt32)
    (agent commitment : Bytes.Fixed 32)
    (proof : Bytes.Fixed 256) : Except VerifyError Envelope := do
  checkThreshold threshold
  return ⟨.reputation, threshold, timestamp, agent, commitment, proof⟩

/-- The envelope that the bytes encode. -/
def ofBytes? (bytes : List UInt8) : Except VerifyError Envelope :=
  if size : bytes.length = encodedSize then do
    let kind ← (ProofKind.ofByte? (bytes.getD 0 0)).mapError .proof
    if bytes.getD 1 0 ≠ version then
      throw (.proof (.unsupportedVersion (bytes.getD 1 0).toNat))
    let threshold := UInt16.ofNat (Bytes.toNat (Bytes.slice bytes 2 2))
    checkThreshold threshold
    return {
      kind
      threshold
      timestamp := .ofNat (Bytes.toNat (Bytes.slice bytes 4 4))
      agent := .slice bytes 8 32 (by simp [size, encodedSize])
      commitment := .slice bytes 40 32 (by simp [size, encodedSize])
      proof := .slice bytes 72 256 (by simp [size, encodedSize]) }
  else .error (.proof (.invalidSize encodedSize bytes.length))

/-- The bytes of the envelope. -/
def toBytes (envelope : Envelope) : List UInt8 :=
  [envelope.kind.toByte, version] ++ Bytes.ofNat 2 envelope.threshold.toNat ++
    Bytes.ofNat 4 envelope.timestamp.toNat ++ envelope.agent.val ++ envelope.commitment.val ++
    envelope.proof.val

/-- The public inputs of the proof: the threshold and the commitment. -/
def publicInputs (envelope : Envelope) : List (List UInt8) :=
  [Bytes.ofNat 32 envelope.threshold.toNat, envelope.commitment.val]

end Envelope
end Groth16
