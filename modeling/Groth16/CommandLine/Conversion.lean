import Groth16.CommandLine.Session

/-!
# Conversion of documents

The command that converts a JSON document with a key, a proof or public inputs into the
bytes that stand for it, as they are or in hexadecimal.
-/

namespace Groth16

/-- What a document holds. -/
inductive DocumentKind where
  | key
  | proof
  | inputs
  deriving DecidableEq, Repr

namespace DocumentKind

/-- The name of the kind in records. -/
def name : DocumentKind → String
  | key => "vk"
  | proof => "proof"
  | inputs => "public"

/-- The name of the kind as a title. -/
def title : DocumentKind → String
  | key => "Vk"
  | proof => "Proof"
  | inputs => "Public"

/-- The kind of a document: a list holds public inputs, and certain fields mark the others. -/
def detect? : JsonValue → Option DocumentKind
  | .array _ => some inputs
  | .object fields =>
    if fields.any (·.1 == some "IC") then some key
    else if fields.any (·.1 == some "pi_a") then some proof
    else none
  | _ => none

/-- The bytes that a document stands for. -/
def convert (kind : DocumentKind) (text : String) : Except ArtifactError (List UInt8) :=
  match kind with
  | key => keyBytesOfJson text
  | proof => proofBytesOfJson text
  | inputs => (inputsOfJson text).map fun scalars => scalars.flatMap (·.val)

end DocumentKind

/-- How bytes are written to a file. -/
inductive ByteEncoding where
  | hex
  | binary
  deriving DecidableEq, Repr

/-- The content of a file with the bytes. -/
def ByteEncoding.encode (encoding : ByteEncoding) (bytes : List UInt8) : List UInt8 :=
  match encoding with
  | hex => Hex.encodedBytes (Bytes.hexDigits bytes ++ ['\n'])
  | binary => bytes

/-- A document to convert. -/
structure ConvertOptions where
  input : String
  kind : Option DocumentKind
  encoding : ByteEncoding
  output : Option String
  deriving DecidableEq, Repr

namespace ConvertOptions

/-- The arguments of the command. -/
def grammar : ArgumentGrammar where
  options := CommonOptions.specs ++
    [⟨"kind", none, .one⟩, ⟨"format", none, .one⟩, ⟨"out", some 'O', .one⟩]
  positionals := 1

/-- The command of the given arguments. -/
def read (given : Arguments) : Except Halt ConvertOptions := do
  let kind ← (given.value? "kind").mapM
    (readWord "kind" [("vk", DocumentKind.key), ("proof", .proof), ("public", .inputs)])
  let encoding ← readWord "format" [("hex", ByteEncoding.hex), ("bin", .binary)]
    ((given.value? "format").getD "hex")
  match given.positionals with
  | input :: _ => return ⟨← readPath "input" input, kind, encoding, given.value? "out"⟩
  | [] => throw (.required "input")

/-- The kind of the document that the arguments name, or that the document shows. -/
def documentKind (options : ConvertOptions) (text : String) : CommandM DocumentKind :=
  match options.kind with
  | some kind => return kind
  | none =>
    match JsonValue.parseModest? text with
    | none => throw ⟨"Input is not valid JSON", [ArtifactError.jsonReason]⟩
    | some value =>
      match DocumentKind.detect? value with
      | some kind => return kind
      | none => throw { headline := "Could not detect artifact kind; pass --kind" }

/-- Writes the bytes to a file. -/
def writeTo
    (options : ConvertOptions)
    (session : Session)
    (kind : DocumentKind)
    (bytes : List UInt8)
    (output : String) : CommandM Unit := do
  let path := Path.expandHome session.surroundings.home output
  let written ← CommandM.host (HostM.writeBytes path (options.encoding.encode bytes))
  CommandM.during s!"Failed to write {Text.quoted path}" written
  if session.json then
    Session.printRecord [("kind", .ofString kind.name), ("bytes", .ofNat bytes.length),
      ("output", .ofString path)]
  else if !session.quiet then
    CommandM.printLine
      s!"✓ Wrote {kind.title} ({bytes.length} bytes) to {Text.quoted path}"

/-- Converts the document. -/
def run (options : ConvertOptions) (session : Session) : CommandM Unit := do
  let text ← CommandM.during s!"Failed to read {Text.quoted options.input}"
    (← CommandM.host (HostM.readText options.input))
  let kind ← options.documentKind text
  let bytes ← CommandM.ofExcept (kind.convert text)
  match options.output, options.encoding with
  | some output, _ => options.writeTo session kind bytes output
  | none, .hex =>
    if session.json then
      Session.printRecord [("kind", .ofString kind.name), ("bytes", .ofNat bytes.length),
        ("hex", .ofString (Bytes.toHex bytes))]
    else CommandM.printLine (Bytes.toHex bytes)
  | none, .binary => throw { headline := "Binary output needs --out" }

end ConvertOptions
end Groth16
