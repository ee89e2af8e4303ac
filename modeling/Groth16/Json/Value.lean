import Groth16.Json.Number

/-!
# JSON values

JSON documents and how they are written: without blanks, and with the fields of records in
the order of their names.
-/

namespace Groth16

/-- The text of a JSON string, or nothing if its escapes do not name characters. -/
abbrev JsonText := Option String

/-- A JSON document. -/
inductive JsonValue where
  | null
  | bool (value : Bool)
  | number (value : JsonNumber)
  | string (text : JsonText)
  | array (items : List JsonValue)
  | object (fields : List (JsonText × JsonValue))
  deriving Inhabited

namespace JsonValue

/-- A string. -/
def ofString (text : String) : JsonValue := .string (some text)

/-- A natural number. -/
def ofNat (n : Nat) : JsonValue := .number (.ofNat n)

/-- An object with its fields in the order of their names. -/
def record (fields : List (String × JsonValue)) : JsonValue :=
  .object ((fields.mergeSort fun a b => a.1 ≤ b.1).map fun (name, value) => (some name, value))

/-- The four hexadecimal digits of a small number. -/
def fourDigits (n : Nat) : List Char :=
  let digits := Nat.toDigits 16 n
  List.replicate (4 - digits.length) '0' ++ digits

/-- A character as it stands in a JSON string. -/
def escapeChar (c : Char) : List Char :=
  if c = '"' then ['\\', '"']
  else if c = '\\' then ['\\', '\\']
  else if c.toNat = 8 then ['\\', 'b']
  else if c.toNat = 12 then ['\\', 'f']
  else if c = '\n' then ['\\', 'n']
  else if c = '\r' then ['\\', 'r']
  else if c = '\t' then ['\\', 't']
  else if c.toNat < 0x20 then ['\\', 'u'] ++ fourDigits c.toNat
  else [c]

/-- A JSON string with its quotes. -/
def renderText (text : JsonText) : List Char :=
  ['"'] ++ (text.getD "").toList.flatMap escapeChar ++ ['"']

mutual

/-- The text of a document. -/
def renderChars : JsonValue → List Char
  | null => "null".toList
  | bool value => (if value then "true" else "false").toList
  | number value => value.render
  | string text => renderText text
  | array items => ['['] ++ renderItems items ++ [']']
  | object fields => ['\x7b'] ++ renderFields fields ++ ['\x7d']

/-- The items of an array, separated by commas. -/
def renderItems : List JsonValue → List Char
  | [] => []
  | [item] => renderChars item
  | item :: items => renderChars item ++ [','] ++ renderItems items

/-- The fields of an object, separated by commas. -/
def renderFields : List (JsonText × JsonValue) → List Char
  | [] => []
  | [(name, value)] => renderText name ++ [':'] ++ renderChars value
  | (name, value) :: fields =>
    renderText name ++ [':'] ++ renderChars value ++ [','] ++ renderFields fields

end

/-- The text of a document. -/
def render (value : JsonValue) : String := String.ofList (renderChars value)

mutual

/-- Whether arrays and objects are nested at most so deep, all strings have a text and all
numbers fit a double. -/
def isModest : (depth : Nat) → JsonValue → Bool
  | _, null => true
  | _, bool _ => true
  | _, number value => value.isFinite
  | _, string text => text.isSome
  | 0, array _ => false
  | 0, object _ => false
  | depth + 1, array items => areModest depth items
  | depth + 1, object fields => areModestFields depth fields

/-- Whether all items are modest. -/
def areModest : (depth : Nat) → List JsonValue → Bool
  | _, [] => true
  | depth, item :: items => isModest depth item && areModest depth items

/-- Whether the names have a text and all values are modest. -/
def areModestFields : (depth : Nat) → List (JsonText × JsonValue) → Bool
  | _, [] => true
  | depth, (name, value) :: fields =>
    name.isSome && isModest depth value && areModestFields depth fields

end

end JsonValue
end Groth16
