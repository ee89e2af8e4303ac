import Groth16.Arena.Scratch
import Groth16.Batch.Aggregate
import Groth16.Batch.Outcome
import Groth16.Statistics

/-!
# The verification engine

Verification calls with their surroundings: the scratch space they share and the
statistics they leave behind.
-/

namespace Groth16

/-- How batches are run. -/
structure EngineConfig where
  /-- The least capacity of the scratch arena. -/
  scratchCapacity : Nat := Scratch.defaultCapacity
  /-- The smallest batch that is checked at once. -/
  minBatchSize : Nat := 4
  /-- Whether released scratch bytes are set to zero. -/
  zeroOnRestore : Bool := false
  deriving DecidableEq, Repr, Inhabited

/-- The scratch space and the statistics. -/
structure Engine where
  scratch : Scratch
  statistics : Statistics

/-- A call of the engine, which may fail. What it recorded before a failure stays recorded. -/
abbrev EngineM := ExceptT VerifyError (StateM Engine)

namespace Engine

/-- The engine before its first call. -/
def initial : Engine := ⟨.empty, {}⟩

/-- Changes the statistics. -/
def record (change : Statistics → Statistics) : StateM Engine Unit :=
  modify fun engine => { engine with statistics := change engine.statistics }

/-- Runs an arena computation in the scratch space. -/
def inScratch
    {α : Type}
    (capacity : Nat)
    (zeroOnRestore : Bool)
    (body : ExceptT VerifyError (StateM Arena) α) : EngineM α := fun engine =>
  let (outcome, scratch) := Scratch.useArena capacity zeroOnRestore body.run engine.scratch
  ((outcome.mapError .allocationFailed).bind id, { engine with scratch })

/-- Verifies one proof and records the call; whatever is not accepted counts as failed. -/
def verify
    (key : VerifyingKey)
    (proof : List UInt8)
    (inputs : List (List UInt8))
    (nanoseconds : Nat) : EngineM Bool := do
  let result := key.verifyBytes proof inputs
  let accepted := match result with
    | .ok holds => holds
    | .error _ => false
  record (.countCall accepted nanoseconds)
  result

/-- Verifies decoded items in scratch space and records the batch. -/
def verifyItems
    (items : List Batch.Item)
    (config : EngineConfig)
    (weights : Nat → Weight) : EngineM (List Bool) := do
  let capacity := max config.scratchCapacity (Batch.workingSpace items.length)
  let verdicts ← inScratch capacity config.zeroOnRestore
    (Batch.verify items config.minBatchSize weights)
  record (.countBatch items.length)
  for verdict in verdicts do record (.countOutcome verdict)
  if let some peak := (← getThe Engine).scratch.peak then record (.notePeak peak)
  return verdicts

/-- Verifies the items of all entries; each entry without an item counts as failed. -/
def verifyEntries
    (entries : Batch.Entries Batch.Item)
    (config : EngineConfig)
    (weights : Nat → Weight) : EngineM (List Batch.Outcome) := do
  let verdicts ← verifyItems entries.items config weights
  for _ in List.range entries.malformedCount do record (.countOutcome false)
  return entries.outcomes verdicts

/-- Verifies encoded proofs for encoded public inputs, all under one key. -/
def verifyBatch
    (shared : SharedKey)
    (proofs : List (List UInt8))
    (inputs : List (List (List UInt8)))
    (config : EngineConfig)
    (weights : Nat → Weight) : EngineM (List Batch.Outcome) := do
  if proofs.length ≠ inputs.length then
    throw (.batch (.lengthMismatch proofs.length inputs.length))
  verifyEntries (.ofList (proofs.zipWith (Batch.Item.ofBytes? shared) inputs)) config weights

end Engine
end Groth16
