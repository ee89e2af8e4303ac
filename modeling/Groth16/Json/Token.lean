import Groth16.Json.Value

/-!
# JSON tokens

A document as a list of tokens: brackets, commas and colons, and the values that need no
brackets. Strings are read character by character; what is neither string nor bracket is a
word, which has to be a number, `null`, `true` or `false`.
-/

namespace Groth16

/-- A token of a JSON document. -/
inductive JsonToken where
  | openArray
  | closeArray
  | openObject
  | closeObject
  | comma
  | colon
  /-- A string, a number, a truth value or null. -/
  | atom (value : JsonValue)

namespace JsonToken

/-- The characters of a string that were read, the last one first. -/
structure Reading where
  /-- Nothing once an escape named no character. -/
  read : Option (List Char)
  /-- The first half of a surrogate pair, waiting for the second. -/
  half : Option Nat

namespace Reading

/-- Before the first character. -/
def start : Reading := ⟨some [], none⟩

/-- After one more character. A half that was waiting stays without partner. -/
def push (reading : Reading) (c : Char) : Reading :=
  match reading.half with
  | none => { reading with read := reading.read.map (c :: ·) }
  | some _ => ⟨none, none⟩

/-- After an escape for a unit of sixteen bits. -/
def pushUnit (reading : Reading) (unit : Nat) : Reading :=
  let isLow := 0xdc00 ≤ unit ∧ unit ≤ 0xdfff
  match reading.half with
  | some high =>
    if isLow then
      let c := Char.ofNat (0x10000 + (high - 0xd800) * 0x400 + (unit - 0xdc00))
      ⟨reading.read.map (c :: ·), none⟩
    else ⟨none, none⟩
  | none =>
    if isLow then ⟨none, none⟩
    else if 0xd800 ≤ unit ∧ unit ≤ 0xdbff then { reading with half := some unit }
    else reading.push (Char.ofNat unit)

/-- The text that was read. -/
def text (reading : Reading) : JsonText :=
  match reading.half with
  | none => reading.read.map fun chars => String.ofList chars.reverse
  | some _ => none

end Reading

/-- Where in a string the reader stands. -/
inductive Mode where
  | plain
  /-- After a backslash. -/
  | escape
  /-- Within the digits of an escaped unit. -/
  | unit (left : Nat) (value : Nat)

/-- The value of a hexadecimal digit. -/
def hexDigit? (c : Char) : Option Nat :=
  if c.isDigit then some (c.toNat - 48)
  else if 'a' ≤ c ∧ c ≤ 'f' then some (c.toNat - 87)
  else if 'A' ≤ c ∧ c ≤ 'F' then some (c.toNat - 55)
  else none

/-- The character that an escape of one letter names. -/
def escaped? (c : Char) : Option Char :=
  if c = '"' ∨ c = '\\' ∨ c = '/' then some c
  else if c = 'b' then some (Char.ofNat 8)
  else if c = 'f' then some (Char.ofNat 12)
  else if c = 'n' then some '\n'
  else if c = 'r' then some '\r'
  else if c = 't' then some '\t'
  else none

/-- Reads a string up to its closing quote and gives what follows. -/
def readText (mode : Mode) (reading : Reading) : List Char → Option (JsonText × List Char)
  | [] => none
  | c :: rest =>
    match mode with
    | .plain =>
      if c = '"' then some (reading.text, rest)
      else if c = '\\' then readText .escape reading rest
      else if c.toNat < 0x20 then none
      else readText .plain (reading.push c) rest
    | .escape =>
      if c = 'u' then readText (.unit 3 0) reading rest
      else
        match escaped? c with
        | some c => readText .plain (reading.push c) rest
        | none => none
    | .unit left value =>
      match hexDigit? c, left with
      | none, _ => none
      | some digit, 0 => readText .plain (reading.pushUnit (16 * value + digit)) rest
      | some digit, left + 1 => readText (.unit left (16 * value + digit)) reading rest

theorem length_of_readText
    {mode : Mode}
    {reading : Reading}
    {input : List Char}
    {text : JsonText}
    {rest : List Char}
    (read : readText mode reading input = some (text, rest)) : rest.length < input.length := by
  fun_induction readText mode reading input <;> grind

/-- Whether a character may stand between tokens. -/
def isSpace (c : Char) : Bool := c = ' ' || c = '\n' || c = '\t' || c = '\r'

/-- Whether a character may stand in a word. -/
def isWordChar (c : Char) : Bool := c.isAlphanum || c = '+' || c = '-' || c = '.'

/-- The value of a word. -/
def ofWord? (word : List Char) : Option JsonValue :=
  if word = "null".toList then some .null
  else if word = "true".toList then some (.bool true)
  else if word = "false".toList then some (.bool false)
  else (JsonNumber.parse? word).map .number

/-- The token of one character, if it has one. -/
def ofMark? (c : Char) : Option JsonToken :=
  if c = '[' then some openArray
  else if c = ']' then some closeArray
  else if c = '\x7b' then some openObject
  else if c = '\x7d' then some closeObject
  else if c = ',' then some comma
  else if c = ':' then some colon
  else none

/-- The tokens of a text, after those that were read, the last one first. -/
def readAll (tokens : List JsonToken) (input : List Char) : Option (List JsonToken) :=
  match input with
  | [] => some tokens.reverse
  | c :: rest =>
    if isSpace c then readAll tokens rest
    else if c = '"' then
      match _ : readText .plain .start rest with
      | some (text, rest) => readAll (atom (.string text) :: tokens) rest
      | none => none
    else
      match ofMark? c with
      | some mark => readAll (mark :: tokens) rest
      | none =>
        match ofWord? (c :: rest.takeWhile isWordChar) with
        | some value => readAll (atom value :: tokens) (rest.dropWhile isWordChar)
        | none => none
termination_by input.length
decreasing_by
  · simp
  · have := length_of_readText (by assumption)
    simp only [List.length_cons]
    omega
  · simp
  · have := (List.dropWhile_sublist isWordChar (l := rest)).length_le
    simp only [List.length_cons]
    omega

/-- The tokens of a text. -/
def ofText? (text : String) : Option (List JsonToken) := readAll [] text.toList

end JsonToken
end Groth16
