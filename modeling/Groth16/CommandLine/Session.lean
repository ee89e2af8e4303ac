import Groth16.Artifact.Load
import Groth16.CommandLine.Report
import Groth16.CommandLine.Settings
import Groth16.Json.Value

/-!
# Sessions

What all commands have in common: the key they use, the settings, and whether they print for
people, for programs, or little. Arguments win over the environment, and both over the
configuration file.
-/

namespace Groth16

/-- What surrounds a command. -/
structure Surroundings where
  /-- The path of the home directory. -/
  home : String
  /-- The path of the directory with configuration files. -/
  configDirectory : String
  environment : String → Option String
  /-- The present time in seconds since 1970. -/
  unixTime : UInt64
  weights : Nat → Weight

/-- The options that all commands have. -/
structure CommonOptions where
  keyPath : Option String
  json : Bool
  quiet : Bool
  deriving DecidableEq, Repr

namespace CommonOptions

/-- The common options of a grammar. -/
def specs : List OptionSpec := [
  ⟨"vk", none, .one⟩,
  ⟨"output", none, .one⟩,
  ⟨"quiet", some 'q', .none⟩]

end CommonOptions

namespace Arguments

/-- The value of an option, or else of a variable of the environment. -/
def valueOr?
    (given : Arguments)
    (surroundings : Surroundings)
    (name envName : String) : Option String :=
  given.value? name <|> surroundings.environment envName

/-- The common options that were given. -/
def common (given : Arguments) (surroundings : Surroundings) : Except Halt CommonOptions := do
  return {
    keyPath := given.valueOr? surroundings "vk" "REPZK_VK"
    json := ← readWord "output" [("human", false), ("json", true)]
      ((given.value? "output").getD "human")
    quiet := given.has "quiet" }

end Arguments

/-- A command with its settings. -/
structure Session where
  surroundings : Surroundings
  keyPath : Option String
  policy : Policy
  engine : EngineConfig
  json : Bool
  quiet : Bool

namespace Session

/-- Whether the session prints for people, and in full. -/
def isChatty (session : Session) : Bool := !session.quiet && !session.json

/-- The path of the configuration file. -/
def configPath (surroundings : Surroundings) : String :=
  Path.join (Path.join surroundings.configDirectory "repzk") "config.toml"

/-- The settings of the configuration file, if there is one. -/
def readSettings (surroundings : Surroundings) : CommandM Settings := do
  let path := configPath surroundings
  match ← CommandM.host (HostM.readText path) with
  | .ok text =>
    match Settings.parse? text with
    | some settings => return settings
    | none => throw ⟨s!"Invalid config file {Text.quoted path}", ["the file is malformed"]⟩
  | .error .missing | .error .notADirectory => return {}
  | .error reason =>
    CommandM.during s!"Failed to read config file {Text.quoted path}"
      (.error reason : Except FileError Settings)

/-- The session of a command with the given common options. -/
def start (surroundings : Surroundings) (options : CommonOptions) : CommandM Session := do
  let settings ← readSettings surroundings
  let policy ← CommandM.during "Invalid blacklist_root in config file"
    (Settings.resolvePolicy settings.policy)
  return {
    surroundings
    keyPath := (options.keyPath <|> settings.keyPath).map (Path.expandHome surroundings.home)
    policy
    engine := Settings.resolveEngine settings.engine
    json := options.json
    quiet := options.quiet }

/-- Loads an artifact, or fails to do what the headline says. -/
def load {α : Type} (headline : String) (body : ArtifactM α) : CommandM α := do
  CommandM.during headline (← CommandM.host body.run)

/-- The key of the session. -/
def loadKey (session : Session) : CommandM VerifyingKey := do
  match session.keyPath with
  | none => throw { headline :=
      "No verifying key configured. Use --vk, set REPZK_VK, or " ++
        "configure in ~/.config/repzk/config.toml" }
  | some path =>
    let bytes ← load s!"Failed to load verifying key {Text.quoted path}"
      (Artifact.loadKey path)
    CommandM.during "Invalid verifying key" (VerifyingKey.ofBytes? bytes)

/-- Runs a call of a fresh engine. -/
def runEngine {α : Type} (body : EngineM α) : CommandM α :=
  CommandM.ofExcept (body.run .initial).1

/-- Prints a record for programs. -/
def printRecord (fields : List (String × JsonValue)) : CommandM Unit :=
  CommandM.printLine (JsonValue.record fields).render

/-- The bytes in hexadecimal after `0x`. -/
def hexText (bytes : List UInt8) : String := "0x" ++ Bytes.toHex bytes

end Session
end Groth16
