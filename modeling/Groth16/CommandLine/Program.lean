import Groth16.CommandLine.BatchVerification
import Groth16.CommandLine.Conversion
import Groth16.CommandLine.Figures
import Groth16.CommandLine.KeyListing
import Groth16.CommandLine.Verification

/-!
# Programs

The two programs of the library. `repzk` verifies reputation proofs and computes figures
about them, with one command for each; `vk-codegen` lists verifying keys. Misuse of the
arguments shows before anything else is done.
-/

namespace Groth16

/-- A command of `repzk`. -/
inductive Command where
  | verify (options : VerifyOptions)
  | batchVerify (options : BatchOptions)
  | commit (options : CommitOptions)
  | tier (options : TierOptions)
  | nullifier (options : NullifierOptions)
  | convert (options : ConvertOptions)

namespace Command

/-- The arguments and the reader of each command. -/
def table (surroundings : Surroundings) :
    List (String × ArgumentGrammar × (Arguments → Except Halt Command)) := [
  ("verify", VerifyOptions.grammar, fun given => verify <$> VerifyOptions.read given surroundings),
  ("batch-verify", BatchOptions.grammar, fun given => batchVerify <$> BatchOptions.read given),
  ("commit", CommitOptions.grammar, fun given => commit <$> CommitOptions.read given surroundings),
  ("tier", TierOptions.grammar, fun given => tier <$> TierOptions.read given),
  ("nullifier", NullifierOptions.grammar, fun given => nullifier <$> NullifierOptions.read given),
  ("convert", ConvertOptions.grammar, fun given => convert <$> ConvertOptions.read given)]

/-- The command of a list of arguments, with the options that all commands have. -/
def read
    (surroundings : Surroundings)
    (arguments : List String) : Except Halt (Command × CommonOptions) :=
  match arguments with
  | [] => throw .noCommand
  | name :: rest =>
    match (table surroundings).lookup name with
    | some (grammar, reader) => do
      let given ← Arguments.parse grammar rest
      let common ← given.common surroundings
      return (← reader given, common)
    | none =>
      if name = "help" ∨ name = "--help" ∨ name = "-h" then throw .help
      else if name = "--version" ∨ name = "-V" then throw .version
      else throw (.unknownCommand name)

/-- Runs a command. -/
def run (command : Command) (session : Session) : CommandM Unit :=
  match command with
  | verify options => options.run session
  | batchVerify options => options.run session
  | commit options => options.run session
  | tier options => options.run session
  | nullifier options => options.run session
  | convert options => options.run session

end Command

namespace Program

/-- How `repzk` is used. -/
def reputationUsage : String :=
  "Usage: repzk <verify|batch-verify|commit|tier|nullifier|convert> [OPTIONS]\n"

/-- How `vk-codegen` is used. -/
def listingUsage : String := "Usage: vk-codegen [OPTIONS] <INPUT>\n"

/-- Runs `repzk`. Failures of the settings show with their causes in lines of their own,
those of the command in one line. -/
def reputation (surroundings : Surroundings) (arguments : List String) : HostM Report := do
  match Command.read surroundings arguments with
  | .error halt => return halt.report reputationUsage
  | .ok (command, common) =>
    match ← (Session.start surroundings common).run.run "" with
    | (.error failure, output) => return ⟨1, output, failure.expanded⟩
    | (.ok session, _) => CommandM.report Failure.inline (command.run session)

/-- Runs `vk-codegen`. -/
def listing (arguments : List String) : HostM Report :=
  match Arguments.parse ListingOptions.grammar arguments >>= ListingOptions.read with
  | .error halt => return halt.report listingUsage
  | .ok options => CommandM.report Failure.expanded options.run

end Program
end Groth16
