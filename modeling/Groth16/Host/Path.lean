/-!
# Paths

A path is a list of parts between slashes. Its file name is its last part, where slashes and
single dots at the end do not count; the extension is what follows the last dot of the file
name, unless that dot comes first.
-/

namespace Groth16
namespace Path

/-- The parts of a text between the separators. There is always at least one. -/
def splitAt (separator : Char) : List Char → List (List Char)
  | [] => [[]]
  | c :: rest =>
    if c = separator then [] :: splitAt separator rest
    else
      match splitAt separator rest with
      | [] => [[c]]
      | part :: parts => (c :: part) :: parts

/-- The parts of a path. -/
def parts (path : List Char) : List (List Char) := splitAt '/' path

/-- Whether a part stays where it is. -/
def stays (part : List Char) : Bool := part == [] || part == ['.']

/-- The file name of a path, if the path does not end by going up. -/
def fileName? (path : List Char) : Option (List Char) :=
  match (parts path).reverse.dropWhile stays with
  | [] => none
  | name :: _ => if name = ['.', '.'] then none else some name

/-- The extension of a file name. -/
def extensionOfName? (name : List Char) : Option (List Char) :=
  match (splitAt '.' name).reverse with
  | last :: previous :: others =>
    if previous = [] ∧ others = [] then none else some last
  | _ => none

/-- The extension of a path. -/
def extension? (path : List Char) : Option (List Char) := (fileName? path).bind extensionOfName?

/-- A path seen from a base directory. -/
def join (base path : String) : String :=
  if path.startsWith "/" then path
  else if base.endsWith "/" then base ++ path
  else base ++ "/" ++ path

/-- The path in which a leading `~/` stands for the home directory. -/
def expandHome (home path : String) : String :=
  match path.toList with
  | '~' :: '/' :: rest => join home (String.ofList rest)
  | _ => path

end Path
end Groth16
