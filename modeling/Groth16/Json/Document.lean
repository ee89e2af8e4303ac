import Groth16.Json.Token

/-!
# Reading JSON

A machine takes the tokens of a document one by one. It keeps a stack of the arrays and
objects that are open, so that documents may be nested without a limit, and knows what may
come next.
-/

namespace Groth16
namespace JsonValue

/-- An array or an object that is open. What was read comes last one first. -/
inductive Frame where
  | items (read : List JsonValue)
  | members (read : List (JsonText × JsonValue))
  /-- An object in which the value of a field is missing. -/
  | member (read : List (JsonText × JsonValue)) (name : JsonText)

/-- What may come next. -/
inductive Expected where
  | value
  /-- An item, or the end of the array that was opened just now. -/
  | firstItem
  | name
  /-- A name, or the end of the object that was opened just now. -/
  | firstName
  | colon
  /-- A comma, or the end of what was opened last. -/
  | separator
  /-- Nothing: the document is complete. -/
  | nothing (document : JsonValue)

/-- The state of the machine. -/
structure Machine where
  frames : List Frame
  expected : Expected

namespace Machine

/-- Before the first token. -/
def start : Machine := ⟨[], .value⟩

/-- After a value that is complete. -/
def complete (value : JsonValue) : List Frame → Option Machine
  | [] => some ⟨[], .nothing value⟩
  | .items read :: frames => some ⟨.items (value :: read) :: frames, .separator⟩
  | .member read name :: frames => some ⟨.members ((name, value) :: read) :: frames, .separator⟩
  | .members _ :: _ => none

/-- After the first token of a value. -/
def beginValue (frames : List Frame) : JsonToken → Option Machine
  | .atom value => complete value frames
  | .openArray => some ⟨.items [] :: frames, .firstItem⟩
  | .openObject => some ⟨.members [] :: frames, .firstName⟩
  | _ => none

/-- After the end of what was opened last. -/
def close (token : JsonToken) : List Frame → Option Machine
  | .items read :: frames =>
    match token with
    | .closeArray => complete (.array read.reverse) frames
    | _ => none
  | .members read :: frames =>
    match token with
    | .closeObject => complete (.object read.reverse) frames
    | _ => none
  | _ => none

/-- After the name of a field. -/
def beginMember (token : JsonToken) : List Frame → Option Machine
  | .members read :: frames =>
    match token with
    | .atom (.string name) => some ⟨.member read name :: frames, .colon⟩
    | _ => none
  | _ => none

/-- After a comma. -/
def continueFrame (frames : List Frame) : Option Machine :=
  match frames with
  | .items _ :: _ => some ⟨frames, .value⟩
  | .members _ :: _ => some ⟨frames, .name⟩
  | _ => none

/-- After one more token. -/
def step (machine : Machine) (token : JsonToken) : Option Machine :=
  match machine.expected, token with
  | .value, token => beginValue machine.frames token
  | .firstItem, .closeArray => close .closeArray machine.frames
  | .firstItem, token => beginValue machine.frames token
  | .name, token => beginMember token machine.frames
  | .firstName, .closeObject => close .closeObject machine.frames
  | .firstName, token => beginMember token machine.frames
  | .colon, .colon => some { machine with expected := .value }
  | .separator, .comma => continueFrame machine.frames
  | .separator, token => close token machine.frames
  | _, _ => none

/-- The document, if it is complete. -/
def document? (machine : Machine) : Option JsonValue :=
  match machine.expected with
  | .nothing document => some document
  | _ => none

end Machine

/-- The document of a text. -/
def parse? (text : String) : Option JsonValue := do
  let machine ← (← JsonToken.ofText? text).foldlM Machine.step Machine.start
  machine.document?

/-- How deep a document that is read as a whole may be nested. -/
def maxDepth : Nat := 127

/-- The document of a text that is read as a whole: modest in depth, strings and numbers. -/
def parseModest? (text : String) : Option JsonValue :=
  (parse? text).filter (isModest maxDepth)

end JsonValue
end Groth16
