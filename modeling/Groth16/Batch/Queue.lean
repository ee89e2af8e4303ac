import Groth16.Engine

/-!
# Batch queues

A queue collects encoded proofs under one key up to its capacity and verifies them all at
once. An entry that cannot be decoded takes its place as well.
-/

namespace Groth16

/-- A queue of entries. -/
structure BatchQueue where
  shared : SharedKey
  config : EngineConfig
  capacity : Nat
  entries : Batch.Entries Batch.Item

namespace BatchQueue

/-- An empty queue of the given capacity. -/
def make?
    (shared : SharedKey)
    (capacity : Nat)
    (config : EngineConfig) : Except VerifyError BatchQueue :=
  if capacity = 0 ∨ Batch.maxSize < capacity then
    .error (.batch (.invalidCapacity capacity Batch.maxSize))
  else .ok ⟨shared, config, capacity, .empty⟩

/-- The number of entries. -/
def length (queue : BatchQueue) : Nat := queue.entries.length

/-- Whether no further entry is taken. -/
def isFull (queue : BatchQueue) : Bool := queue.capacity ≤ queue.length

/-- Adds an entry and gives its index, or the reason for which it could not be decoded. -/
def add
    (proof : List UInt8)
    (inputs : List (List UInt8)) : StateM BatchQueue (Except VerifyError Nat) := fun queue =>
  if queue.isFull then (.error (.batch (.full queue.capacity)), queue)
  else
    let decoded := Batch.Item.ofBytes? queue.shared proof inputs
    (decoded.map fun _ => queue.length, { queue with entries := queue.entries.push decoded })

/-- Verifies all entries. -/
def verify (queue : BatchQueue) (weights : Nat → Weight) : EngineM (List Batch.Outcome) :=
  Engine.verifyEntries queue.entries queue.config weights

/-- The queue without its entries. -/
def reset (queue : BatchQueue) : BatchQueue := { queue with entries := .empty }

end BatchQueue
end Groth16
