import Groth16.Arena.Basic
import Groth16.Curve.Encoding

/-!
# Errors of verification

The reasons for which keys, proofs, envelopes, batches and verification requests are
refused. A proof that was checked and found wrong is not among them: that is an answer.
-/

namespace Groth16

/-- Why bytes were refused as a verifying key. -/
inductive KeyError where
  | tooShort (min actual : Nat)
  | invalidSize (expected actual : Nat)
  | tooManyPublicInputs (count max : Nat)
  | emptyIc
  | invalidPoint (field : String) (source : PointError)
  deriving DecidableEq, Repr

/-- The wording of a key error. -/
def KeyError.message : KeyError → String
  | tooShort min actual => s!"VK too short: need at least {min} bytes, got {actual}"
  | invalidSize expected actual => s!"Invalid VK size: expected {expected}, got {actual}"
  | tooManyPublicInputs count max =>
    s!"VK declares {count} IC points, at most {max} are supported"
  | emptyIc => "VK has an empty IC vector"
  | invalidPoint field source => s!"Invalid VK point {field}: {source.message}"

/-- The short name of a key error. -/
def KeyError.kind : KeyError → String
  | tooShort .. => "TooShort"
  | invalidSize .. => "InvalidSize"
  | tooManyPublicInputs .. => "TooManyPublicInputs"
  | emptyIc => "EmptyIc"
  | invalidPoint .. => "InvalidPoint"

/-- The reasons behind a key error. -/
def KeyError.causes : KeyError → List String
  | invalidPoint _ source => [source.message]
  | _ => []

instance : Refusal KeyError where
  kind := KeyError.kind
  message := KeyError.message
  causes := KeyError.causes

/-- Why bytes were refused as a proof, an envelope or a tree path. -/
inductive ProofError where
  | invalidSize (expected actual : Nat)
  | unsupportedVersion (version : Nat)
  | unknownKind (kind : Nat)
  | invalidExclusionPath (length : Nat)
  deriving DecidableEq, Repr

/-- The wording of a proof error. -/
def ProofError.message : ProofError → String
  | invalidSize expected actual => s!"Invalid proof size: expected {expected}, got {actual}"
  | unsupportedVersion version => s!"Unsupported envelope version {version}"
  | unknownKind kind => s!"Unknown proof kind {kind}"
  | invalidExclusionPath length =>
    s!"Invalid exclusion path length {length} (must be a multiple of 33)"

/-- The short name of a proof error. -/
def ProofError.kind : ProofError → String
  | invalidSize .. => "InvalidSize"
  | unsupportedVersion _ => "UnsupportedVersion"
  | unknownKind _ => "UnknownKind"
  | invalidExclusionPath _ => "InvalidExclusionPath"

instance : Refusal ProofError where
  kind := ProofError.kind
  message := ProofError.message

/-- Why a batch could not be made or extended. -/
inductive BatchError where
  | full (capacity : Nat)
  | invalidCapacity (capacity max : Nat)
  | lengthMismatch (proofs inputs : Nat)
  deriving DecidableEq, Repr

/-- The wording of a batch error. -/
def BatchError.message : BatchError → String
  | full capacity => s!"Batch is full ({capacity} proofs)"
  | invalidCapacity capacity max => s!"Invalid batch capacity {capacity} (max {max})"
  | lengthMismatch proofs inputs => s!"Got {proofs} proofs but {inputs} public input sets"

/-- The short name of a batch error. -/
def BatchError.kind : BatchError → String
  | full _ => "Full"
  | invalidCapacity .. => "InvalidCapacity"
  | lengthMismatch .. => "LengthMismatch"

instance : Refusal BatchError where
  kind := BatchError.kind
  message := BatchError.message

/-- Why a verification request could not be answered. -/
inductive VerifyError where
  | outOfRange (source : FieldError)
  | invalidPoint (source : PointError)
  | badInputs (expected actual : Nat)
  | keyNotLoaded
  | keyLoadFailed (source : KeyError)
  | proof (source : ProofError)
  | allocationFailed (source : ArenaError)
  | batch (source : BatchError)
  | notInitialized
  deriving DecidableEq, Repr

/-- The wording of a verification error. -/
def VerifyError.message : VerifyError → String
  | outOfRange source => s!"Value out of range: {source.message}"
  | invalidPoint source => s!"Invalid point: {source.message}"
  | badInputs expected actual => s!"Expected {expected} public inputs, got {actual}"
  | keyNotLoaded => "No verifying key loaded"
  | keyLoadFailed source => s!"Key load failed: {source.message}"
  | proof source => s!"Proof error: {source.message}"
  | allocationFailed source => s!"Allocation failed: {source.message}"
  | batch source => s!"Batch error: {source.message}"
  | notInitialized => "Engine not initialized (call init first)"

/-- The short name of a verification error. -/
def VerifyError.kind : VerifyError → String
  | outOfRange _ => "OutOfRange"
  | invalidPoint _ => "InvalidPoint"
  | badInputs .. => "BadInputs"
  | keyNotLoaded => "VkNotInitialized"
  | keyLoadFailed _ => "KeyLoadFailed"
  | proof _ => "Proof"
  | allocationFailed _ => "AllocationFailed"
  | batch _ => "Batch"
  | notInitialized => "NotInitialized"

/-- The reasons behind a verification error. -/
def VerifyError.causes : VerifyError → List String
  | outOfRange source => [source.message]
  | invalidPoint source => [source.message]
  | keyLoadFailed source => Refusal.chain source
  | proof source => [source.message]
  | allocationFailed source => [source.message]
  | batch source => [source.message]
  | badInputs .. | keyNotLoaded | notInitialized => []

instance : Refusal VerifyError where
  kind := VerifyError.kind
  message := VerifyError.message
  causes := VerifyError.causes

end Groth16
