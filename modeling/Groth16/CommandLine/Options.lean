/-!
# Options

The arguments of a command: options with long names and perhaps a letter, and positional
arguments. A value follows its option as the next argument or after an equals sign; letters
may be joined. What begins with a hyphen is no value of the argument before it. After `--`
every argument is positional. Only options for many values may come twice.
-/

namespace Groth16

/-- How many values an option takes. -/
inductive Arity where
  | none
  | one
  | many
  deriving DecidableEq, Repr

/-- An option of a command. -/
structure OptionSpec where
  name : String
  letter : Option Char := none
  arity : Arity := .one
  deriving DecidableEq, Repr

/-- The arguments that a command knows. -/
structure ArgumentGrammar where
  options : List OptionSpec
  /-- The most positional arguments. -/
  positionals : Nat

/-- Why arguments do not lead to a command. -/
inductive Halt where
  | help
  | version
  | noCommand
  | unknownCommand (name : String)
  | unexpected (argument : String)
  | missingValue (option : String)
  | superfluousValue (option : String)
  | repeated (option : String)
  | invalidValue (option value : String)
  | required (argument : String)
  | conflict (first second : String)
  deriving DecidableEq, Repr

namespace Halt

/-- The wording of what is wrong with the arguments. -/
def message : Halt → String
  | help | version => ""
  | noCommand => "a command is required"
  | unknownCommand name => s!"unknown command '{name}'"
  | unexpected argument => s!"unexpected argument '{argument}'"
  | missingValue option => s!"a value is required for '{option}'"
  | superfluousValue option => s!"'{option}' takes no value"
  | repeated option => s!"'{option}' cannot be used multiple times"
  | invalidValue option value => s!"invalid value '{value}' for '{option}'"
  | required argument => s!"'{argument}' is required"
  | conflict first second => s!"'{first}' cannot be used with '{second}'"

/-- The exit code: success if something was asked for, and two for misuse. -/
def exitCode : Halt → UInt32
  | help | version => 0
  | _ => 2

end Halt

/-- The arguments that were given. -/
structure Arguments where
  /-- The values of each option, in the order in which the options came. -/
  options : List (String × List String) := []
  positionals : List String := []
  deriving DecidableEq, Repr

namespace Arguments

/-- Whether an option was given. -/
def has (given : Arguments) (name : String) : Bool := given.options.any (·.1 == name)

/-- All values of an option. -/
def values (given : Arguments) (name : String) : List String :=
  given.options.flatMap fun (option, values) => if option = name then values else []

/-- The value of an option. -/
def value? (given : Arguments) (name : String) : Option String := (given.values name).head?

/-- The value of an option that must be given. -/
def require (given : Arguments) (name : String) : Except Halt String :=
  match given.value? name with
  | some value => .ok value
  | none => .error (.required name)

/-- Adds an option with its values. -/
def add (given : Arguments) (option : OptionSpec) (values : List String) : Except Halt Arguments :=
  if given.has option.name ∧ option.arity ≠ .many then .error (.repeated option.name)
  else .ok { given with options := given.options ++ [(option.name, values)] }

/-- A reader of arguments on its way. -/
structure Scan where
  given : Arguments := {}
  /-- The option that takes values at present, and those that it took. -/
  pending : Option (OptionSpec × List String) := none
  /-- Whether all further arguments are positional. -/
  onlyPositionals : Bool := false

namespace Scan

/-- Ends the option that takes values at present, which must have taken one. -/
def settle (scan : Scan) : Except Halt Scan :=
  match scan.pending with
  | none => .ok scan
  | some (option, []) => .error (.missingValue option.name)
  | some (option, values) => do
    return { scan with given := ← scan.given.add option values, pending := none }

/-- Takes an option with the values that belong to it. -/
def take (scan : Scan) (option : OptionSpec) (values : List String) : Except Halt Scan := do
  let scan ← scan.settle
  return { scan with given := ← scan.given.add option values }

/-- Takes an option whose values are to come. -/
def await (scan : Scan) (option : OptionSpec) : Except Halt Scan := do
  return { (← scan.settle) with pending := some (option, []) }

/-- Takes a positional argument. -/
def takePositional
    (scan : Scan)
    (grammar : ArgumentGrammar)
    (argument : String) : Except Halt Scan := do
  let scan ← scan.settle
  if grammar.positionals ≤ scan.given.positionals.length then throw (.unexpected argument)
  return { scan with given.positionals := scan.given.positionals ++ [argument] }

/-- Takes an argument that is no option. -/
def takeValue
    (scan : Scan)
    (grammar : ArgumentGrammar)
    (argument : String) : Except Halt Scan :=
  match scan.pending with
  | some (option, values) =>
    if option.arity = .many then
      .ok { scan with pending := some (option, values ++ [argument]) }
    else { scan with pending := none }.take option [argument]
  | none => scan.takePositional grammar argument

/-- Takes an option by its long name, which an equals sign and a value may follow. -/
def takeLong (scan : Scan) (grammar : ArgumentGrammar) (text : List Char) : Except Halt Scan := do
  let name := String.ofList (text.takeWhile (· != '='))
  let attached := match text.dropWhile (· != '=') with
    | [] => none
    | _ :: value => some (String.ofList value)
  match grammar.options.find? (·.name == name) with
  | some option =>
    match option.arity, attached with
    | .none, none => scan.take option []
    | .none, some _ => throw (.superfluousValue name)
    | _, some value => scan.take option [value]
    | _, none => scan.await option
  | none =>
    if name = "help" then throw .help
    if name = "version" then throw .version
    throw (.unexpected s!"--{name}")

/-- Takes options by their letters. What follows the letter of an option with values is its
value. -/
def takeLetters (scan : Scan) (grammar : ArgumentGrammar) : List Char → Except Halt Scan
  | [] => .ok scan
  | letter :: rest => do
    match grammar.options.find? (·.letter == some letter) with
    | some option =>
      match option.arity, rest with
      | .none, rest => (← scan.take option []).takeLetters grammar rest
      | _, [] => scan.await option
      | _, '=' :: value => scan.take option [String.ofList value]
      | _, value => scan.take option [String.ofList value]
    | none =>
      if letter = 'h' then throw .help
      if letter = 'V' then throw .version
      throw (.unexpected s!"-{letter}")

/-- Takes the next argument. -/
def step (grammar : ArgumentGrammar) (scan : Scan) (argument : String) : Except Halt Scan :=
  if scan.onlyPositionals then scan.takePositional grammar argument
  else
    match argument.toList with
    | ['-', '-'] => .ok { scan with onlyPositionals := true }
    | '-' :: '-' :: text => scan.takeLong grammar text
    | '-' :: letter :: rest => scan.takeLetters grammar (letter :: rest)
    | _ => scan.takeValue grammar argument

end Scan

/-- The arguments that were given. -/
def parse (grammar : ArgumentGrammar) (arguments : List String) : Except Halt Arguments := do
  let scan ← arguments.foldlM (Scan.step grammar) {}
  return (← scan.settle).given

end Arguments

/-- The number of at most `max` that an argument denotes. A plus sign may come first, and a
minus sign before zero if the argument may be signed. -/
def readNumber? (max : Nat) (signed : Bool) (text : String) : Option Nat :=
  let (negative, digits) := match text.toList with
    | '+' :: digits => (false, digits)
    | '-' :: digits => if signed then (true, digits) else (false, '-' :: digits)
    | digits => (false, digits)
  let n := digits.foldl (fun n c => 10 * n + (c.toNat - 48)) 0
  if digits ≠ [] ∧ digits.all Char.isDigit ∧ n ≤ max ∧ (negative → n = 0) then some n else none

/-- The number that the argument of an option denotes. -/
def readNumber (option : String) (max : Nat) (signed : Bool) (text : String) : Except Halt Nat :=
  match readNumber? max signed text with
  | some n => .ok n
  | none => .error (.invalidValue option text)

/-- The meaning of an argument that must be one of the given words. -/
def readWord
    {α : Type}
    (option : String)
    (words : List (String × α))
    (text : String) : Except Halt α :=
  match words.lookup text with
  | some meaning => .ok meaning
  | none => .error (.invalidValue option text)

/-- A path, which must not be empty. -/
def readPath (option path : String) : Except Halt String :=
  if path = "" then .error (.invalidValue option path) else .ok path

end Groth16
