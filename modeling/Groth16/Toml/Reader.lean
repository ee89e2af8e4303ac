import Groth16.Toml.Number

/-!
# Reading TOML

A document is read line by line: headers open tables, and names get values in the table that
was opened last. Arrays and inline tables may be nested only so deep. Where reading repeats
a step, the number of repetitions is bounded by the length of the text.
-/

namespace Groth16
namespace Toml

/-- A step of reading, which may fail. -/
abbrev Reader := StateT (List Char) Option

namespace Reader

/-- The next character, if there is one. -/
def peek? : Reader (Option Char) := return (← get).head?

/-- Takes the next character. -/
def next : Reader Char := do
  match ← get with
  | [] => failure
  | c :: rest => do
    set rest
    return c

/-- Takes the given character. -/
def expect (c : Char) : Reader Unit := do
  if (← next) = c then return else failure

/-- Takes the given text if it comes next, and tells whether it does. -/
def accept (text : List Char) : Reader Bool := do
  let input ← get
  if text.isPrefixOf input then
    set (input.drop text.length)
    return true
  return false

/-- Takes the longest text of such characters. -/
def takeAll (accepted : Char → Bool) : Reader (List Char) := do
  let input ← get
  set (input.dropWhile accepted)
  return input.takeWhile accepted

/-- Skips all such characters. -/
def skipAll (skipped : Char → Bool) : Reader Unit := modify (·.dropWhile skipped)

end Reader

open Reader

/-- Whether a character may separate the parts of a line. -/
def isBlank (c : Char) : Bool := c == ' ' || c == '\t'

/-- Whether a character may stand in a comment or in a string of one line. -/
def isPrintable (c : Char) : Bool := c == '\t' || (0x20 ≤ c.toNat && c.toNat != 0x7f)

/-- Skips a comment. -/
def skipComment : Reader Unit := do
  if ← accept ['#'] then skipAll isPrintable

/-- Ends a line. -/
def endLine : Reader Unit := do
  skipAll isBlank
  skipComment
  match ← get with
  | [] => return
  | _ => expect '\n'

/-- The character of the given number of hexadecimal digits. -/
def escapedCode (digits : Nat) : Reader Char := do
  let text := (← get).take digits
  modify (·.drop digits)
  let n := numberOf 16 text
  if text.length = digits ∧ text.all (isDigitOf 16) ∧ n.isValidChar then return Char.ofNat n
  failure

/-- The character that is written after a backslash. -/
def escapedChar : Reader Char := do
  match ← next with
  | 'b' => return Char.ofNat 8
  | 't' => return '\t'
  | 'n' => return '\n'
  | 'f' => return Char.ofNat 12
  | 'r' => return '\r'
  | '"' => return '"'
  | '\\' => return '\\'
  | 'u' => escapedCode 4
  | 'U' => escapedCode 8
  | _ => failure

/-- The rest of a string of one line that the given quote ends. Only double quotes know
escapes. -/
def stringRest (quote : Char) : (limit : Nat) → List Char → Reader String
  | 0, _ => failure
  | limit + 1, read => do
    let c ← next
    if c = quote then return String.ofList read.reverse
    if c = '\\' ∧ quote = '"' then stringRest quote limit ((← escapedChar) :: read)
    else if isPrintable c then stringRest quote limit (c :: read)
    else failure

/-- Whether a backslash at the end of a line comes next. -/
def continuesLine (input : List Char) : Bool := (input.dropWhile isBlank).head? == some '\n'

/-- The rest of a string of many lines. Up to two quotes may come before the three that end
it. -/
def linesRest (quote : Char) : (limit : Nat) → List Char → Reader String
  | 0, _ => failure
  | limit + 1, read => do
    let quotes := (← get).takeWhile (· == quote)
    if 3 ≤ quotes.length then
      let kept := min (quotes.length - 3) 2
      modify (·.drop (kept + 3))
      return String.ofList (read.reverse ++ List.replicate kept quote)
    let c ← next
    if c = '\\' ∧ quote = '"' then
      if continuesLine (← get) then
        skipAll fun c => isBlank c || c == '\n'
        linesRest quote limit read
      else linesRest quote limit ((← escapedChar) :: read)
    else if isPrintable c ∨ c = '\n' then linesRest quote limit (c :: read)
    else failure

/-- A string of one line. -/
def lineString (quote : Char) : Reader String := do
  expect quote
  stringRest quote ((← get).length + 1) []

/-- A string of one or of many lines. -/
def anyString (quote : Char) : Reader String := do
  if ← accept [quote, quote, quote] then
    let _ ← accept ['\n']
    linesRest quote ((← get).length + 1) []
  else lineString quote

/-- Whether a character may stand in a name without quotes. -/
def isNameChar (c : Char) : Bool := c.isAlphanum || c == '_' || c == '-'

/-- One part of a name. -/
def namePart : Reader String := do
  match ← peek? with
  | some '"' => lineString '"'
  | some '\'' => lineString '\''
  | _ =>
    let name ← takeAll isNameChar
    if name = [] then failure
    return String.ofList name

/-- How deep arrays and inline tables may be nested, and how many parts a name may have. -/
def maxDepth : Nat := 79

/-- A name with its parts separated by dots. -/
def dottedName : (limit : Nat) → Reader (List String)
  | 0 => failure
  | limit + 1 => do
    skipAll isBlank
    let part ← namePart
    skipAll isBlank
    if ← accept ['.'] then return part :: (← dottedName limit)
    return [part]

/-- A name. -/
def name : Reader (List String) := dottedName maxDepth

/-- Whether a character may stand in a word. -/
def isWordChar (c : Char) : Bool :=
  c.isAlphanum || c == '+' || c == '-' || c == '_' || c == '.' || c == ':'

/-- A value of one word. A date may be followed by a blank and a time. -/
def wordValue : Reader Toml := do
  let word ← takeAll isWordChar
  let input ← get
  let startsTime : Bool := match input with
    | ' ' :: c :: _ => c.isDigit
    | _ => false
  if isDate word && startsTime then
    let _ ← next
    if isZonedTime (← takeAll isWordChar) then return .moment
    failure
  match ofWord? word with
  | some value => return value
  | none => failure

/-- Skips blanks, ends of lines and comments. -/
def skipLines : (limit : Nat) → Reader Unit
  | 0 => return
  | limit + 1 => do
    skipAll fun c => isBlank c || c == '\n'
    if (← peek?) = some '#' then
      skipComment
      expect '\n'
      skipLines limit

mutual

/-- A value, where arrays and inline tables may be nested so deep. -/
def valueWithin : (limit depth : Nat) → Reader Toml
  | 0, _ => failure
  | limit + 1, depth => do
    match ← peek? with
    | some '"' => return .string (← anyString '"')
    | some '\'' => return .string (← anyString '\'')
    | some '[' =>
      match depth with
      | 0 => failure
      | depth + 1 => do
        expect '['
        return .array (← itemsWithin limit depth)
    | some '\x7b' =>
      match depth with
      | 0 => failure
      | depth + 1 => do
        expect '\x7b'
        skipAll isBlank
        if ← accept ['\x7d'] then return .table .inline []
        return .table .inline (← pairsWithin limit depth [])
    | _ => wordValue

/-- The items of an array up to its end. -/
def itemsWithin : (limit depth : Nat) → Reader (List Toml)
  | 0, _ => failure
  | limit + 1, depth => do
    skipLines (← get).length
    if ← accept [']'] then return []
    let item ← valueWithin limit depth
    skipLines (← get).length
    if ← accept [','] then return item :: (← itemsWithin limit depth)
    expect ']'
    return [item]

/-- The pairs of an inline table up to its end. -/
def pairsWithin : (limit depth : Nat) → Entries → Reader Entries
  | 0, _, _ => failure
  | limit + 1, depth, entries => do
    let names ← name
    expect '='
    skipAll isBlank
    let value ← valueWithin limit depth
    skipAll isBlank
    let some entries := define names value .inline entries | failure
    if ← accept [','] then pairsWithin limit depth entries
    else
      expect '\x7d'
      return entries

end

/-- A value. -/
def value : Reader Toml := do valueWithin (2 * (← get).length + 2) maxDepth

/-- A document that is being read. -/
structure Draft where
  entries : Entries
  /-- The names of the header of the present table. -/
  header : List String

/-- The document after a change of its root. -/
def Draft.apply (document : Draft) (change : Change) : Reader Draft :=
  match change .header document.entries with
  | some entries => return { document with entries }
  | none => failure

/-- Reads a header, after its first bracket, or a name with its value. -/
def line (document : Draft) : Reader Draft := do
  if ← accept ['[', '['] then
    let names ← name
    expect ']'
    expect ']'
    return { (← document.apply (atLast openRow names)) with header := names }
  if ← accept ['['] then
    let names ← name
    expect ']'
    return { (← document.apply (atLast openTable names)) with header := names }
  let names ← name
  expect '='
  skipAll isBlank
  let value ← value
  document.apply (within .implied (define names value) document.header)

/-- Reads the lines of a document. -/
def readLines : (limit : Nat) → Draft → Reader Draft
  | 0, document => return document
  | limit + 1, document => do
    skipAll fun c => isBlank c || c == '\n'
    match ← peek? with
    | none => return document
    | some '#' =>
      endLine
      readLines limit document
    | some _ =>
      let document ← line document
      endLine
      readLines limit document

/-- The text in which each line ends with one character. -/
def withPlainLineEnds : List Char → List Char
  | '\r' :: '\n' :: rest => '\n' :: withPlainLineEnds rest
  | c :: rest => c :: withPlainLineEnds rest
  | [] => []

/-- The entries of the document that a text denotes. A byte order mark does not count. -/
def parse? (text : String) : Option Entries := do
  let input := match withPlainLineEnds text.toList with
    | '\ufeff' :: rest => rest
    | rest => rest
  let (document, _) ← (readLines (input.length + 1) ⟨[], []⟩).run input
  return document.entries

end Toml
end Groth16
