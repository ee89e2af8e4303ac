import Groth16.Batch.Queue
import Groth16.CommandLine.Session

/-!
# Verification of many proofs

The command that verifies the proofs in many files under one key, some at a time. Each pair
of files has one outcome under its own number: what kept it from being loaded, or the outcome
of its entry in the batch.
-/

namespace Groth16

/-- What became of a pair of files. -/
inductive FileOutcome where
  | verified (outcome : Batch.Outcome)
  | unreadable (reason : ArtifactError)
  deriving DecidableEq, Repr

namespace FileOutcome

/-- The wording of an outcome. -/
def describe : FileOutcome → String
  | verified .valid => "valid"
  | verified .rejected => "rejected"
  | verified (.malformed reason) => s!"malformed: {reason.message}"
  | unreadable reason => s!"unreadable: {reason.message}"

/-- Whether the proof holds. -/
def isValid : FileOutcome → Bool
  | verified outcome => outcome.isValid
  | unreadable _ => false

end FileOutcome

/-- The encoded proof and the encoded public inputs of a pair of files. -/
abbrev LoadedProof := List UInt8 × List Scalar

namespace BatchQueue

/-- Adds the proofs that were loaded. -/
def addLoaded
    (queue : BatchQueue)
    (files : List (Except ArtifactError LoadedProof)) : BatchQueue :=
  (files.filterMap Except.toOption).foldl
    (fun queue (proof, inputs) => (queue.add proof (inputs.map (·.val))).run.2) queue

/-- The outcomes of all files, given those of the files that were loaded. -/
def assign : List (Except ArtifactError LoadedProof) → List Batch.Outcome → List FileOutcome
  | [], _ => []
  | .error reason :: files, outcomes => .unreadable reason :: assign files outcomes
  | .ok _ :: files, outcome :: outcomes => .verified outcome :: assign files outcomes
  | .ok _ :: files, [] => .verified .rejected :: assign files []

/-- Verifies files that fit into the queue at once. -/
def verifyFiles
    (queue : BatchQueue)
    (files : List (Except ArtifactError LoadedProof))
    (weights : Nat → Weight) : EngineM (List FileOutcome) := do
  let queue := queue.reset.addLoaded files
  let outcomes ← if queue.entries.isEmpty then pure [] else queue.verify weights
  return assign files outcomes

/-- Verifies files, as many at once as the queue takes. The limit bounds the number of
batches. -/
def verifyAll
    (queue : BatchQueue)
    (weights : Nat → Weight) :
    (limit : Nat) → List (Except ArtifactError LoadedProof) → EngineM (List FileOutcome)
  | 0, _ => return []
  | _, [] => return []
  | limit + 1, files => do
    let outcomes ← queue.verifyFiles (files.take queue.capacity) weights
    let others ← queue.verifyAll (fun i => weights (i + Batch.maxSize)) limit
      (files.drop queue.capacity)
    return outcomes ++ others

end BatchQueue

/-- The files of a batch. -/
structure BatchOptions where
  proofs : List String
  inputs : List String
  chunkSize : Nat
  deriving DecidableEq, Repr

namespace BatchOptions

/-- The arguments of the command. -/
def grammar : ArgumentGrammar where
  options := CommonOptions.specs ++
    [⟨"proof", none, .many⟩, ⟨"public-inputs", none, .many⟩, ⟨"chunk-size", none, .one⟩]
  positionals := 0

/-- The paths of an option that must be given. -/
def paths (given : Arguments) (name : String) : Except Halt (List String) := do
  let _ ← given.require name
  (given.values name).mapM (readPath name)

/-- The command of the given arguments. -/
def read (given : Arguments) : Except Halt BatchOptions := do
  let proofs ← paths given "proof"
  let inputs ← paths given "public-inputs"
  let chunkSize ← readNumber "chunk-size" (2 ^ 64 - 1) false
    ((given.value? "chunk-size").getD "256")
  return ⟨proofs, inputs, chunkSize⟩

/-- The number of files that are verified at once. -/
def batchSize (options : BatchOptions) : Nat := min (max options.chunkSize 1) Batch.maxSize

/-- The content of a pair of files. -/
def loadPair (proofPath inputsPath : String) : ArtifactM LoadedProof := do
  let proof ← Artifact.loadProof proofPath
  let inputs ← Artifact.loadInputs inputsPath
  return (proof, inputs)

/-- The content of each pair of files. -/
def loadPairs : List (String × String) → HostM (List (Except ArtifactError LoadedProof))
  | [] => return []
  | (proofPath, inputsPath) :: pairs => do
    let loaded ← (loadPair proofPath inputsPath).run
    return loaded :: (← loadPairs pairs)

/-- The numbers of the files that do not hold. -/
def failedIndices (outcomes : List FileOutcome) : List Nat :=
  (outcomes.zipIdx.filter fun (outcome, _) => !outcome.isValid).map (·.2)

/-- Prints the outcomes for programs. -/
def printRecord
    (options : BatchOptions)
    (outcomes : List FileOutcome)
    (nanoseconds : Nat) : CommandM Unit :=
  Session.printRecord [
    ("total", .ofNat options.proofs.length),
    ("valid", .ofNat (outcomes.countP FileOutcome.isValid)),
    ("failed_indices", .array ((failedIndices outcomes).map .ofNat)),
    ("elapsed_us", .ofNat (nanoseconds / 1000)),
    ("results", .array ((outcomes.zip options.proofs).map fun (outcome, path) =>
      .record [("proof", .ofString path), ("status", .ofString outcome.describe)]))]

/-- Prints the outcomes for people: only those of the files that do not hold. -/
def printLines
    (options : BatchOptions)
    (outcomes : List FileOutcome)
    (nanoseconds : Nat) : CommandM Unit := do
  let total := options.proofs.length
  let failed := (outcomes.zip options.proofs).zipIdx.filter fun ((outcome, _), _) =>
    !outcome.isValid
  if failed.isEmpty then CommandM.printLine s!"✓ All {total} proofs verified"
  else
    CommandM.printLine s!"✗ {failed.length} of {total} proofs failed"
    failed.forM fun ((outcome, path), index) =>
      CommandM.printLine s!"  [{index}] {Text.quoted path}: {outcome.describe}"
  CommandM.printLine s!"\n  Time: {durationText nanoseconds}"

/-- Verifies the files. -/
def run (options : BatchOptions) (session : Session) : CommandM Unit := do
  let total := options.proofs.length
  if total ≠ options.inputs.length then
    throw { headline := s!"Got {total} proofs but {options.inputs.length} public input files" }
  let key ← session.loadKey
  if session.isChatty then CommandM.printLine s!"→ Batch verifying {total} proofs...\n"
  let queue ← CommandM.ofExcept (BatchQueue.make? ⟨0, key⟩ options.batchSize session.engine)
  let start ← CommandM.host HostM.nanoseconds
  let files ← CommandM.host (loadPairs (options.proofs.zip options.inputs))
  let outcomes ← Session.runEngine (queue.verifyAll session.surroundings.weights total files)
  let stop ← CommandM.host HostM.nanoseconds
  if session.json then printRecord options outcomes (stop - start)
  else if !session.quiet then printLines options outcomes (stop - start)
  let failed := (failedIndices outcomes).length
  if failed ≠ 0 then
    throw { headline := s!"{failed} of {total} proofs failed verification" }

end BatchOptions
end Groth16
