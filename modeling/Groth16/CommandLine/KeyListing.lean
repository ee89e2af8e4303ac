import Groth16.CommandLine.Report
import Groth16.Artifact.Load

/-!
# Key listings

The command that turns the JSON document of a verifying key into its bytes: as they are, in
hexadecimal, or as a Rust source file with the key as a constant, to be compiled into other
programs.
-/

namespace Groth16

namespace KeyListing

/-- Whether a name is a constant's: capital letters, digits and underscores, where no digit
comes first. -/
def isConstantName (name : String) : Bool :=
  match name.toList with
  | [] => false
  | first :: rest =>
    (first.isUpper || first == '_') && rest.all fun c => c.isUpper || c.isDigit || c == '_'

/-- The number of bytes in a line of the array. -/
def lineWidth : Nat := 16

/-- A byte of the array. -/
def byteText (byte : UInt8) : String := "0x" ++ Bytes.toHex [byte] ++ ","

/-- The bytes line by line. -/
def byteLines (bytes : List UInt8) : List (List UInt8) :=
  let full := bytes.length / lineWidth
  let rest := bytes.drop (full * lineWidth)
  Bytes.chunks lineWidth full bytes ++ if rest.isEmpty then [] else [rest]

/-- The first line of a source file. -/
def header (source : String) : String := s!"// Generated by vk-codegen from {source}. Do not edit."

/-- The other lines of the source file of a key. -/
def body
    (bytes : List UInt8)
    (publicInputs : Nat)
    (constant : String) : List String :=
  ["",
    "/// Number of public inputs the key was generated for",
    s!"pub const {constant}_NUM_PUBLIC_INPUTS: usize = {publicInputs};",
    "",
    "/// Groth16 verifying key, wire format",
    s!"pub const {constant}: [u8; {bytes.length}] = ["] ++
  (byteLines bytes).map (fun line => "    " ++ String.intercalate " " (line.map byteText)) ++
  ["];"]

/-- The source file of a key. -/
def render
    (bytes : List UInt8)
    (publicInputs : Nat)
    (constant source : String) : String :=
  String.join ((header source :: body bytes publicInputs constant).map (· ++ "\n"))

end KeyListing

/-- How a key is listed. -/
inductive ListingFormat where
  | binary
  | hex
  | source
  deriving DecidableEq, Repr

/-- A key to list. -/
structure ListingOptions where
  input : String
  format : ListingFormat
  output : Option String
  constant : String
  deriving DecidableEq, Repr

namespace ListingOptions

/-- The arguments of the command. -/
def grammar : ArgumentGrammar where
  options := [⟨"format", some 'f', .one⟩, ⟨"output", some 'o', .one⟩, ⟨"const-name", none, .one⟩]
  positionals := 1

/-- The command of the given arguments. -/
def read (given : Arguments) : Except Halt ListingOptions := do
  let format ← readWord "format"
    [("bin", ListingFormat.binary), ("hex", .hex), ("rust", .source)]
    ((given.value? "format").getD "rust")
  let output ← (given.value? "output").mapM (readPath "output")
  let constant := (given.value? "const-name").getD "VK_BYTES"
  match given.positionals with
  | input :: _ => return ⟨← readPath "input" input, format, output, constant⟩
  | [] => throw (.required "input")

/-- The name under which the listing mentions its document. -/
def sourceName (options : ListingOptions) : String :=
  match Path.fileName? options.input.toList with
  | some name => String.ofList name
  | none => options.input

/-- The listing of a key. -/
def content
    (options : ListingOptions)
    (bytes : List UInt8)
    (publicInputs : Nat) : CommandM (List UInt8) :=
  match options.format with
  | .binary =>
    if options.output.isNone then throw { headline := "Binary output needs --output" }
    else return bytes
  | .hex => return Hex.encodedBytes (Bytes.hexDigits bytes ++ ['\n'])
  | .source =>
    let text := KeyListing.render bytes publicInputs options.constant options.sourceName
    return Hex.encodedBytes text.toList

/-- Lists the key. -/
def run (options : ListingOptions) : CommandM Unit := do
  if !KeyListing.isConstantName options.constant then
    throw { headline :=
      s!"--const-name must be SCREAMING_SNAKE_CASE, got {Text.quoted options.constant}" }
  let text ← CommandM.during s!"Failed to read {Text.quoted options.input}"
    (← CommandM.host (HostM.readText options.input))
  let bytes ← CommandM.during "Failed to convert verification key" (keyBytesOfJson text)
  let key ← CommandM.during "Converted key failed validation" (VerifyingKey.ofBytes? bytes)
  let content ← options.content bytes key.publicInputs
  match options.output with
  | some path =>
    CommandM.during s!"Failed to write {Text.quoted path}"
      (← CommandM.host (HostM.writeBytes path content))
  | none => CommandM.print ((HostM.decodeText content).toOption.getD "")

end ListingOptions
end Groth16
