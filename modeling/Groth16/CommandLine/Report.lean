import Groth16.CommandLine.Options
import Groth16.Host.Access
import Groth16.Refusal

/-!
# Reports

What a command leaves behind: its output, an exit code and, if it failed, a message. A
failure is a chain of wordings in which each is explained by the next.
-/

namespace Groth16

/-- Why a command failed: a wording, and the wordings that explain it. -/
structure Failure where
  headline : String
  causes : List String := []
  deriving DecidableEq, Repr

namespace Failure

/-- The failure of a given reason. -/
def ofReason {ε : Type} [Refusal ε] (reason : ε) : Failure :=
  ⟨Refusal.message reason, Refusal.causes reason⟩

/-- The failure seen from what was tried. -/
def during (headline : String) (failure : Failure) : Failure :=
  ⟨headline, failure.headline :: failure.causes⟩

/-- The failure in one line. -/
def inline (failure : Failure) : String :=
  "Error: " ++ String.intercalate ": " (failure.headline :: failure.causes) ++ "\n"

/-- The failure with its causes in lines of their own. -/
def expanded (failure : Failure) : String :=
  let causes : String := match failure.causes with
    | [] => ""
    | [cause] => s!"\nCaused by:\n    {cause}\n"
    | causes => "\nCaused by:\n" ++ String.join
        (causes.zipIdx.map fun (cause, index) => s!"    {index}: {cause}\n")
  s!"Error: {failure.headline}\n{causes}"

end Failure

/-- What a command leaves behind. -/
structure Report where
  code : UInt32
  output : String
  error : String
  deriving DecidableEq, Repr

/-- A command at work: it prints, has access to the host, and may fail. -/
abbrev CommandM := ExceptT Failure (StateT String HostM)

namespace CommandM

/-- Prints text. -/
def print (text : String) : CommandM Unit := modify (· ++ text)

/-- Prints a line. -/
def printLine (text : String) : CommandM Unit := print (text ++ "\n")

/-- Uses the access to the host. -/
def host {α : Type} (body : HostM α) : CommandM α := ExceptT.lift (StateT.lift body)

/-- Goes on with a value, or fails for the given reason. -/
def ofExcept {ε α : Type} [Refusal ε] (result : Except ε α) : CommandM α :=
  match result with
  | .ok value => return value
  | .error reason => throw (.ofReason reason)

/-- Goes on with a value, or fails to do what the headline says. -/
def during {ε α : Type} [Refusal ε] (headline : String) (result : Except ε α) : CommandM α :=
  match result with
  | .ok value => return value
  | .error reason => throw (Failure.during headline (.ofReason reason))

/-- The report of a command, with the given wording of failures. -/
def report (wording : Failure → String) (body : CommandM Unit) : HostM Report := do
  match ← body.run.run "" with
  | (.ok (), output) => return ⟨0, output, ""⟩
  | (.error failure, output) => return ⟨1, output, wording failure⟩

end CommandM

instance : Refusal FileError where
  kind := fun _ => "Io"
  message := FileError.message

/-- The report on arguments that do not lead to a command. -/
def Halt.report (usage : String) (halt : Halt) : Report :=
  match halt with
  | .help => ⟨halt.exitCode, usage, ""⟩
  | .version => ⟨halt.exitCode, "0.1.0\n", ""⟩
  | halt => ⟨halt.exitCode, "", s!"error: {halt.message}\n\n{usage}"⟩

/-- A quotient in hundredths, rounded to the nearest, of two to the even one. -/
def hundredths (n unit : Nat) : Nat :=
  let quotient := 100 * n / unit
  let twice := 2 * (100 * n % unit)
  if unit < twice ∨ (twice = unit ∧ quotient % 2 = 1) then quotient + 1 else quotient

/-- A length of time with two decimals, in the largest unit that it fills. -/
def durationText (nanoseconds : Nat) : String :=
  let (unit, symbol) :=
    if 1000000000 ≤ nanoseconds then (1000000000, "s")
    else if 1000000 ≤ nanoseconds then (1000000, "ms")
    else if 1000 ≤ nanoseconds then (1000, "µs")
    else (1, "ns")
  let n := hundredths nanoseconds unit
  s!"{n / 100}.{n % 100 / 10}{n % 10}{symbol}"

end Groth16
