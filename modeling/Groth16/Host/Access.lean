/-!
# Access to files and the clock

A computation that reads and writes files and looks at a clock is a tree: it either has a
value, or it asks something and goes on with each of the possible answers. What the files
hold and what the clock shows is decided by whoever runs it.
-/

namespace Groth16

/-- Why a file could not be read or written. -/
inductive FileError where
  | missing
  | notADirectory
  | isADirectory
  | nameTooLong
  | notText
  | other (description : String)
  deriving DecidableEq, Repr

/-- The wording of a file error. -/
def FileError.message : FileError → String
  | missing => "No such file or directory (os error 2)"
  | notADirectory => "Not a directory (os error 20)"
  | isADirectory => "Is a directory (os error 21)"
  | nameTooLong => "File name too long (os error 36)"
  | notText => "stream did not contain valid UTF-8"
  | other description => description

/-- A computation with access to files and a clock. -/
inductive HostM (α : Type) where
  | done (value : α)
  | read (path : String) (next : Except FileError (List UInt8) → HostM α)
  | write (path : String) (content : List UInt8) (next : Except FileError Unit → HostM α)
  /-- Asks for the nanoseconds that a clock shows. -/
  | clock (next : Nat → HostM α)

namespace HostM

/-- Goes on with the value of a computation. -/
def andThen {α β : Type} (body : HostM α) (next : α → HostM β) : HostM β :=
  match body with
  | done value => next value
  | read path answer => read path fun content => (answer content).andThen next
  | write path content answer => write path content fun result => (answer result).andThen next
  | clock answer => clock fun nanoseconds => (answer nanoseconds).andThen next

instance : Monad HostM where
  pure := done
  bind := andThen

/-- The bytes of a file. -/
def readBytes (path : String) : HostM (Except FileError (List UInt8)) := read path done

/-- The text that bytes encode. -/
def decodeText (content : List UInt8) : Except FileError String :=
  match String.fromUTF8? ⟨content.toArray⟩ with
  | some text => .ok text
  | none => .error .notText

/-- The text of a file. -/
def readText (path : String) : HostM (Except FileError String) :=
  (fun content => content.bind decodeText) <$> readBytes path

/-- Writes a file. -/
def writeBytes (path : String) (content : List UInt8) : HostM (Except FileError Unit) :=
  write path content done

/-- The nanoseconds that a clock shows. -/
def nanoseconds : HostM Nat := clock done

end HostM
end Groth16
