import Groth16.Error
import Groth16.Host.Access
import Groth16.Text.Hex

/-!
# Errors of artifacts

The reasons for which files and documents with keys, proofs and public inputs are refused.
-/

namespace Groth16

/-- Why a text is not a number of 256 bits, or the number is not a scalar. -/
inductive NumeralError where
  | empty
  | notDecimal
  | tooLarge
  | notScalar
  deriving DecidableEq, Repr

/-- The wording of a numeral error. -/
def NumeralError.message : NumeralError → String
  | empty => "empty"
  | notDecimal => "not a decimal number"
  | tooLarge => "exceeds 256 bits"
  | notScalar => "not below the scalar field modulus"

/-- Why an artifact was refused. -/
inductive ArtifactError where
  | unreadable (path : String) (source : FileError)
  | json
  | hex (source : HexError)
  | fieldElement (value : String) (reason : NumeralError)
  | size (what : String) (expected actual : Nat)
  | unsupported (what : String)
  | verify (source : VerifyError)
  deriving DecidableEq, Repr

namespace ArtifactError

/-- The wording of what is wrong with a JSON document. -/
def jsonReason : String := "the document is malformed"

/-- The wording of an artifact error. -/
def message : ArtifactError → String
  | unreadable path source => s!"Failed to read {Text.quoted path}: {source.message}"
  | json => s!"Invalid JSON: {jsonReason}"
  | hex source => s!"Invalid hex: {source.message}"
  | fieldElement value reason =>
    s!"Invalid field element {Text.quoted value}: {reason.message}"
  | size what expected actual => s!"Invalid {what} size: expected {expected}, got {actual}"
  | unsupported what => s!"Unsupported artifact: {what}"
  | verify source => s!"Verification error: {source.message}"

/-- The short name of an artifact error. -/
def kind : ArtifactError → String
  | unreadable .. => "Io"
  | json => "Json"
  | hex _ => "Hex"
  | fieldElement .. => "InvalidFieldElement"
  | size .. => "InvalidSize"
  | unsupported _ => "Unsupported"
  | verify _ => "Verify"

/-- The reasons behind an artifact error. -/
def causes : ArtifactError → List String
  | unreadable _ source => [source.message]
  | json => [jsonReason]
  | hex source => [source.message]
  | verify source => Refusal.chain source
  | fieldElement .. | size .. | unsupported _ => []

end ArtifactError

instance : Refusal ArtifactError where
  kind := ArtifactError.kind
  message := ArtifactError.message
  causes := ArtifactError.causes

end Groth16
