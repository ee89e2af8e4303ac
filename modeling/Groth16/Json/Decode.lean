import Groth16.Json.Document

/-!
# Values from JSON

How a document is read as a value of a given type. A structure is an object with the
declared fields, of which none may come twice and others do not count, or an array of the
fields in the order of declaration, where fields at the end may be missing.
-/

namespace Groth16

/-- A type whose values can be read from JSON. -/
class OfJson (α : Type) where
  /-- The value that a document denotes. -/
  ofJson? : JsonValue → Option α

export OfJson (ofJson?)

instance : OfJson String := ⟨fun
  | .string text => text
  | _ => none⟩

instance : OfJson UInt64 := ⟨fun
  | .number number => number.toWord?
  | _ => none⟩

instance {α : Type} [OfJson α] : OfJson (List α) := ⟨fun
  | .array items => items.mapM ofJson?
  | _ => none⟩

instance {α : Type} [OfJson α] : OfJson (Option α) := ⟨fun
  | .null => some none
  | value => (ofJson? value).map some⟩

/-- The declared fields of a structure that are present. -/
structure JsonFields where
  present : List (String × JsonValue)

namespace JsonFields

/-- The fields of a structure with the given field names. -/
def ofJson? (names : List String) : JsonValue → Option JsonFields
  | .object fields => do
    let named ← fields.mapM fun (name, value) => name.map (·, value)
    let declared := named.filter fun (name, _) => names.contains name
    if (declared.map (·.1)).Nodup then some ⟨declared⟩ else none
  | .array items => if items.length ≤ names.length then some ⟨names.zip items⟩ else none
  | _ => none

/-- The value of a field that must be present. -/
def required {α : Type} [OfJson α] (fields : JsonFields) (name : String) : Option α :=
  (fields.present.lookup name).bind OfJson.ofJson?

/-- The value of a field that may be missing or null. -/
def optional {α : Type} [OfJson α] (fields : JsonFields) (name : String) : Option (Option α) :=
  match fields.present.lookup name with
  | some value => OfJson.ofJson? value
  | none => some none

end JsonFields

/-- The value that a text denotes. -/
def OfJson.parse? {α : Type} [OfJson α] (text : String) : Option α :=
  (JsonValue.parse? text).bind ofJson?

end Groth16
