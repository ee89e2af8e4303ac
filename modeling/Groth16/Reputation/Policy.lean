import Groth16.Engine
import Groth16.Reputation.Envelope
import Groth16.Reputation.ExclusionTree

/-!
# Reputation policies

A relying party accepts an envelope if it meets the demand and the policy. The checks run
from the cheapest to the most expensive, the proof itself last, and the first one that
fails gives the reason of the rejection. Malformed parts are errors and not rejections.
-/

namespace Groth16

/-- What a relying party always demands. -/
structure Policy where
  /-- The most seconds since the timestamp of an envelope, zero for no limit. -/
  maxProofAge : UInt32
  minThreshold : UInt16
  /-- The root of the blacklist, if agents must show that they are not on it. -/
  blacklistRoot : Option (Bytes.Fixed 32)
  deriving DecidableEq

/-- What a relying party demands of one envelope. -/
structure Demand where
  expectedCommitment : Bytes.Fixed 32
  threshold : UInt16
  /-- The present time in seconds since 1970. -/
  now : UInt64
  /-- The path from the agent's slot to the root of the blacklist. -/
  exclusionPath : Option (List UInt8)

/-- Why an envelope was rejected. -/
inductive Rejection where
  | wrongKind (kind : ProofKind)
  | commitmentMismatch
  | belowThreshold (proven required : UInt16)
  | expired (timestamp : UInt32) (now : UInt64)
  | blacklisted
  | proofRejected
  deriving DecidableEq, Repr

namespace Rejection

/-- The wording of the reason. -/
def message : Rejection → String
  | wrongKind kind => s!"not a reputation proof ({kind.name})"
  | commitmentMismatch => "commitment mismatch"
  | belowThreshold proven required => s!"threshold {proven} below required {required}"
  | expired timestamp now => s!"proof from {timestamp} expired at {now}"
  | blacklisted => "agent is blacklisted"
  | proofRejected => "proof rejected"

/-- The reason with its parts named. -/
def describe : Rejection → String
  | wrongKind kind => s!"WrongKind({kind.name})"
  | commitmentMismatch => "CommitmentMismatch"
  | belowThreshold proven required =>
    s!"BelowThreshold \x7b proven: {proven}, required: {required} \x7d"
  | expired timestamp now => s!"Expired \x7b timestamp: {timestamp}, now: {now} \x7d"
  | blacklisted => "Blacklisted"
  | proofRejected => "ProofRejected"

end Rejection

/-- The decision on an envelope. -/
inductive Verdict where
  | accepted
  | rejected (reason : Rejection)
  deriving DecidableEq, Repr

/-- A verifying key of the reputation statement with a policy. -/
structure RelyingParty where
  key : VerifyingKey
  policy : Policy

namespace RelyingParty

/-- The public inputs of the reputation statement: the threshold and the commitment. -/
def publicInputs : Nat := 2

/-- A relying party, if the policy's threshold is in range and the key fits the statement. -/
def make? (key : VerifyingKey) (policy : Policy) : Except VerifyError RelyingParty := do
  Envelope.checkThreshold policy.minThreshold
  if key.publicInputs ≠ publicInputs then throw (.badInputs publicInputs key.publicInputs)
  return ⟨key, policy⟩

/-- Whether the envelope is too old at the given time. -/
def isExpired (policy : Policy) (timestamp : UInt32) (now : UInt64) : Bool :=
  policy.maxProofAge ≠ 0 && timestamp.toNat + policy.maxProofAge.toNat < now.toNat

/-- Whether the agent is shown not to be on the blacklist, where there is one. -/
def isCleared
    (policy : Policy)
    (agent : Bytes.Fixed 32)
    (path : Option (List UInt8)) : Except VerifyError Bool :=
  match policy.blacklistRoot, path with
  | none, _ => .ok true
  | some _, none => .ok false
  | some root, some path => ExclusionTree.verifyAbsent root.val agent.val path

/-- The first reason, of those found without looking at the proof, to reject the envelope. -/
def screen
    (policy : Policy)
    (envelope : Envelope)
    (demand : Demand) : Except VerifyError (Option Rejection) := do
  if envelope.kind ≠ .reputation then return some (.wrongKind envelope.kind)
  if envelope.commitment ≠ demand.expectedCommitment then return some .commitmentMismatch
  if envelope.threshold < demand.threshold then
    return some (.belowThreshold envelope.threshold demand.threshold)
  if envelope.threshold < policy.minThreshold then
    return some (.belowThreshold envelope.threshold policy.minThreshold)
  if isExpired policy envelope.timestamp demand.now then
    return some (.expired envelope.timestamp demand.now)
  if !(← isCleared policy envelope.agent demand.exclusionPath) then return some .blacklisted
  return none

/-- The decision on an envelope. -/
def verify
    (party : RelyingParty)
    (envelope : Envelope)
    (demand : Demand)
    (nanoseconds : Nat) : EngineM Verdict := do
  Envelope.checkThreshold envelope.threshold
  Envelope.checkThreshold demand.threshold
  match ← screen party.policy envelope demand with
  | some reason => return .rejected reason
  | none =>
    let holds ←
      Engine.verify party.key envelope.proof.val envelope.publicInputs nanoseconds
    return if holds then .accepted else .rejected .proofRejected

end RelyingParty
end Groth16
