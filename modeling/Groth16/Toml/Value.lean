/-!
# TOML documents

The values of a TOML document and the rules by which its lines build up tables. A table may
be opened by a header once; tables that were only implied by the header of a table below
them may still be opened, and tables made by dotted names may only grow by dotted names.
-/

namespace Groth16

/-- What made a table. -/
inductive Toml.Origin where
  | header
  /-- The header of a table below it. -/
  | implied
  | dotted
  | inline
  deriving DecidableEq, Repr

/-- A value of a TOML document. Numbers with a point and moments in time are not kept. -/
inductive Toml where
  | string (text : String)
  | integer (value : Int)
  | boolean (value : Bool)
  | float
  | moment
  | array (items : List Toml)
  | table (origin : Toml.Origin) (entries : List (String × Toml))
  /-- An array of tables made by headers, the last one first. -/
  | tables (rows : List (List (String × Toml)))
  deriving Inhabited

namespace Toml

/-- The entries of a table. -/
abbrev Entries := List (String × Toml)

/-- The entries in which the value of a name is replaced. -/
def replace (entries : Entries) (name : String) (value : Toml) : Entries :=
  entries.map fun entry => if entry.1 = name then (name, value) else entry

/-- A change of the table of the given origin. -/
abbrev Change := Origin → Entries → Option Entries

/-- Whether a way of the given origin may lead through a table. -/
def admits (way origin : Origin) : Bool :=
  match origin with
  | .inline => false
  | .header => way == .implied
  | .implied | .dotted => true

/-- The change of the table at the end of a path. Tables on the way are made as needed, with
the given origin, which is `implied` for headers and `dotted` for names. -/
def within (way : Origin) (change : Change) : List String → Change
  | [], origin, entries => change origin entries
  | name :: path, _, entries =>
    match entries.lookup name with
    | none => do
      let inner ← within way change path way []
      return entries ++ [(name, .table way inner)]
    | some (.table origin inner) => do
      if !admits way origin then none
      let inner ← within way change path origin inner
      return replace entries name (.table origin inner)
    | some (.tables (row :: rows)) => do
      let row ← within way change path .header row
      return replace entries name (.tables (row :: rows))
    | some _ => none

/-- Gives a fresh name a value. -/
def addEntry (name : String) (value : Toml) : Change := fun _ entries =>
  if (entries.lookup name).isSome then none else some (entries ++ [(name, value)])

/-- Gives the last of a list of names a value, in tables made by dotted names. -/
def define (names : List String) (value : Toml) : Change :=
  match names.reverse with
  | [] => fun _ _ => none
  | [name] => addEntry name value
  | name :: path => within .dotted
      (fun origin entries => if origin = .dotted then addEntry name value origin entries else none)
      path.reverse

/-- Opens the table of the given name. -/
def openTable (name : String) : Change := fun _ entries =>
  match entries.lookup name with
  | none => some (entries ++ [(name, .table .header [])])
  | some (.table .implied inner) => some (replace entries name (.table .header inner))
  | some _ => none

/-- Adds a table to the array of the given name. -/
def openRow (name : String) : Change := fun _ entries =>
  match entries.lookup name with
  | none => some (entries ++ [(name, .tables [[]])])
  | some (.tables rows) => some (replace entries name (.tables ([] :: rows)))
  | some _ => none

/-- Applies a change for the last of a list of names in the table of the others. -/
def atLast (change : String → Change) (names : List String) : Change :=
  match names.reverse with
  | [] => fun _ _ => none
  | name :: path => within .implied (change name) path.reverse

end Toml
end Groth16
