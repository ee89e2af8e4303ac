import Groth16.Engine

/-!
# Verifiers

A verifier has a slot for one key. A key that cannot be read empties the slot, so that no
earlier key stays in force.
-/

namespace Groth16

/-- A verifier with its key, if one is loaded. -/
structure Verifier where
  config : EngineConfig
  key : Option VerifyingKey

namespace Verifier

/-- A verifier without a key. -/
def make (config : EngineConfig) : Verifier := ⟨config, none⟩

/-- Reads a key into the slot and gives the number of its input points. -/
def loadKey (bytes : List UInt8) : StateM Verifier (Except VerifyError Nat) := fun verifier =>
  match VerifyingKey.ofBytes? bytes with
  | .ok key => (.ok key.ic.length, { verifier with key := some key })
  | .error error => (.error (.keyLoadFailed error), { verifier with key := none })

/-- Puts a key into the slot. -/
def setKey (key : VerifyingKey) (verifier : Verifier) : Verifier :=
  { verifier with key := some key }

/-- Empties the slot. -/
def unload (verifier : Verifier) : Verifier := { verifier with key := none }

/-- The loaded key. -/
def loadedKey (verifier : Verifier) : Except VerifyError VerifyingKey :=
  match verifier.key with
  | some key => .ok key
  | none => .error .keyNotLoaded

/-- The number of input points of the loaded key, or zero. -/
def icLength (verifier : Verifier) : Nat :=
  match verifier.key with
  | some key => key.ic.length
  | none => 0

/-- Verifies one proof under the loaded key. -/
def verify
    (verifier : Verifier)
    (proof : List UInt8)
    (inputs : List (List UInt8))
    (nanoseconds : Nat) : EngineM Bool := do
  let key ← verifier.loadedKey
  Engine.verify key proof inputs nanoseconds

/-- Verifies many proofs under the loaded key. -/
def verifyBatch
    (verifier : Verifier)
    (proofs : List (List UInt8))
    (inputs : List (List (List UInt8)))
    (weights : Nat → Weight) : EngineM (List Batch.Outcome) := do
  let key ← verifier.loadedKey
  Engine.verifyBatch ⟨0, key⟩ proofs inputs verifier.config weights

end Verifier
end Groth16
