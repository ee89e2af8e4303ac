import Groth16.CommandLine.Program
import Std.Time.DateTime.Timestamp

/-!
# Main

The program. Its first argument names which of the two programs to run.
-/

namespace Groth16

/-- Why the operating system refused access to a file. -/
def fileError : IO.Error → FileError
  | .noFileOrDirectory .. => .missing
  | .inappropriateType _ code _ => if code = 20 then .notADirectory else .isADirectory
  | error => .other (toString error)

/-- Runs a computation on the files and the clock of the host. -/
def HostM.runOnHost {α : Type} : HostM α → IO α
  | .done value => return value
  | .read path next => do
    let content ← (IO.FS.readBinFile path).toBaseIO
    (next ((content.mapError fileError).map (·.toList))).runOnHost
  | .write path content next => do
    let written ← (IO.FS.writeBinFile path ⟨content.toArray⟩).toBaseIO
    (next (written.mapError fileError)).runOnHost
  | .clock next => do
    let nanoseconds ← IO.monoNanosNow
    (next nanoseconds).runOnHost

/-- The values of the variables that the program looks at. -/
def readEnvironment : IO (List (String × String)) := do
  let names := ["REPZK_VK", "REPZK_SECRET", "REPZK_MAX_PROOF_AGE", "REPZK_MIN_THRESHOLD",
    "REPZK_BLACKLIST_ROOT"]
  names.filterMapM fun name => do return (← IO.getEnv name).map (name, ·)

/-- Weights that nobody can foresee: hashes of a random seed and the number of the weight. -/
def randomWeights : IO (Nat → Weight) := do
  let seed : Fr := .ofBytesReduced (← IO.getRandomBytes 32).toList
  return fun index => .ofNat (Poseidon.hash seed (.ofNat index)).canonical.toNat

/-- What surrounds the program. -/
def readSurroundings : IO Surroundings := do
  let home := (← IO.getEnv "HOME").getD "/"
  let environment ← readEnvironment
  return {
    home
    configDirectory := (← IO.getEnv "XDG_CONFIG_HOME").getD (Path.join home ".config")
    environment := fun name => environment.lookup name
    unixTime := .ofNat (← Std.Time.Timestamp.now).toSecondsSinceUnixEpoch.val.toNat
    weights := ← randomWeights }

/-- Runs the program that the first argument names. -/
def runProgram (arguments : List String) : IO UInt32 := do
  let report ← match arguments with
    | "vk-codegen" :: rest => (Program.listing rest).runOnHost
    | "repzk" :: rest => do (Program.reputation (← readSurroundings) rest).runOnHost
    | rest => do (Program.reputation (← readSurroundings) rest).runOnHost
  (← IO.getStdout).putStr report.output
  (← IO.getStderr).putStr report.error
  return report.code

end Groth16

/-- The entry point. -/
def main (arguments : List String) : IO UInt32 := Groth16.runProgram arguments
