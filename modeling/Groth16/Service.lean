import Groth16.Engine
import Groth16.Reputation.Commitment

/-!
# The verification service

The service must be started before keys are loaded or proofs verified. Stopping it clears
the statistics and gives up the scratch space; keys that were loaded stay usable.
-/

namespace Groth16

/-- The service: its engine and whether it is started. -/
structure Service where
  engine : Engine
  started : Bool

/-- A call of the service, which may fail. -/
abbrev ServiceM := ExceptT VerifyError (StateM Service)

namespace Service

/-- The service before it is started. -/
def initial : Service := ⟨.initial, false⟩

/-- Starts the service. -/
def start (service : Service) : Service := { service with started := true }

/-- Stops the service. -/
def stop (service : Service) : Service where
  engine := { scratch := service.engine.scratch.release, statistics := {} }
  started := false

/-- Runs a call of the engine, provided the service is started. -/
def gated {α : Type} (body : EngineM α) : ServiceM α := fun service =>
  if service.started then
    let (result, engine) := body.run service.engine
    (result, { service with engine })
  else (.error .notInitialized, service)

/-- Reads a key. -/
def loadKey (bytes : List UInt8) : ServiceM VerifyingKey :=
  gated ((VerifyingKey.ofBytes? bytes).mapError .keyLoadFailed : Except VerifyError VerifyingKey)

/-- Verifies one proof. -/
def verify
    (key : VerifyingKey)
    (proof : List UInt8)
    (inputs : List (List UInt8))
    (nanoseconds : Nat) : ServiceM Bool :=
  gated (Engine.verify key proof inputs nanoseconds)

/-- Verifies many proofs under one key. -/
def verifyBatch
    (key : VerifyingKey)
    (proofs : List (List UInt8))
    (inputs : List (List (List UInt8)))
    (config : EngineConfig)
    (weights : Nat → Weight) : ServiceM (List Batch.Outcome) :=
  gated (Engine.verifyBatch ⟨0, key⟩ proofs inputs config weights)

/-- The commitment to a score, whether or not the service is started. -/
def commit (score : Nat) (secret : List UInt8) : Except VerifyError (List UInt8) :=
  (commitToScore score secret).mapError .outOfRange

/-- The tier of a threshold, whether or not the service is started. -/
def tierOf (threshold : Nat) : Except VerifyError Tier :=
  (Tier.ofThreshold? threshold).mapError .outOfRange

end Service
end Groth16
