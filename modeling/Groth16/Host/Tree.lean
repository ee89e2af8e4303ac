import Groth16.Host.Access
import Groth16.Host.Path

/-!
# File trees

A finite set of files, seen from a working directory. A directory exists if a file or the
working directory is below it.
-/

namespace Groth16

/-- The files of a host, and the directory in which a program runs. -/
structure FileTree where
  /-- The parts of the path of the working directory. -/
  workingDirectory : List String
  /-- The parts of the path of each file and its content. -/
  files : List (List String × List UInt8)

/-- What is at a place of a file tree. -/
inductive FileTree.Entry where
  | directory
  | file (content : List UInt8)

namespace FileTree

/-- What is at a place, if anything. -/
def entry? (tree : FileTree) (place : List String) : Option Entry :=
  match tree.files.lookup place with
  | some content => some (.file content)
  | none =>
    if place.isPrefixOf tree.workingDirectory
        ∨ tree.files.any fun (parts, _) => place.isPrefixOf parts then some .directory
    else none

/-- The longest part of a path, in bytes. -/
def maxNameSize : Nat := 255

/-- The longest path, in bytes. -/
def maxPathSize : Nat := 4095

/-- Follows the parts of a path from a place. Each place on the way must be a directory. -/
def follow
    (tree : FileTree)
    (place : List String) : List (List Char) → Except FileError (List String)
  | [] => .ok place
  | part :: rest =>
    match tree.entry? place with
    | none => .error .missing
    | some (.file _) => .error .notADirectory
    | some .directory =>
      if maxNameSize < (String.ofList part).utf8ByteSize then .error .nameTooLong
      else if Path.stays part then tree.follow place rest
      else if part = ['.', '.'] then tree.follow place.dropLast rest
      else tree.follow (place ++ [String.ofList part]) rest

/-- The place to which a path leads. -/
def place (tree : FileTree) (path : String) : Except FileError (List String) :=
  if path = "" then .error .missing
  else if maxPathSize < path.utf8ByteSize then .error .nameTooLong
  else tree.follow (if path.startsWith "/" then [] else tree.workingDirectory)
    (Path.parts path.toList)

/-- The content of a file. -/
def content (tree : FileTree) (path : String) : Except FileError (List UInt8) := do
  match tree.entry? (← tree.place path) with
  | some (.file content) => return content
  | some .directory => throw .isADirectory
  | none => throw .missing

/-- The tree after a file was written. The directory of the file must exist. -/
def insert
    (tree : FileTree)
    (path : String)
    (content : List UInt8) : Except FileError FileTree := do
  let trimmed := String.ofList (path.toList.reverse.dropWhile (· == '/')).reverse
  let place ← tree.place trimmed
  if trimmed ≠ path then throw .isADirectory
  match tree.entry? place with
  | some .directory => throw .isADirectory
  | _ => return { tree with files := (place, content) :: tree.files.filter (·.1 != place) }

end FileTree

/-- Runs a computation on a file tree, with a clock that stands still. -/
def HostM.run {α : Type} : HostM α → FileTree → α × FileTree
  | .done value, tree => (value, tree)
  | .read path next, tree => (next (tree.content path)).run tree
  | .write path content next, tree =>
    match tree.insert path content with
    | .ok tree => (next (.ok ())).run tree
    | .error error => (next (.error error)).run tree
  | .clock next, tree => (next 0).run tree

end Groth16
