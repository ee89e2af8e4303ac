import Groth16.Artifact.Numeral
import Groth16.Engine
import Groth16.Reputation.Policy
import Groth16.Toml.Reader

/-!
# Settings

What the configuration file may set: the key to use, the policy for envelopes and how
batches are run. Tables and entries of other names do not count. A table may also be given
as an array of its values in the order of declaration.
-/

namespace Groth16

namespace Toml

/-- The text of a string. -/
def text? : Toml → Option String
  | string text => some text
  | _ => none

/-- The truth value. -/
def bool? : Toml → Option Bool
  | boolean value => some value
  | _ => none

/-- The integer from zero up to the bound. -/
def natUpTo? (max : Nat) : Toml → Option Nat
  | integer value => if 0 ≤ value ∧ value ≤ max then some value.toNat else none
  | _ => none

/-- The entries of a section with the given names. -/
def section? (names : List String) : Toml → Option Entries
  | table _ entries => some entries
  | array items => if names.length ≤ items.length then some (names.zip items) else none
  | tables rows =>
    if names.length ≤ rows.length then some (names.zip (rows.reverse.map (table .header)))
    else none
  | _ => none

/-- The value of an entry that may be missing. -/
def optional?
    {α : Type}
    (entries : Entries)
    (name : String)
    (read : Toml → Option α) : Option (Option α) :=
  match entries.lookup name with
  | some value => (read value).map some
  | none => some none

end Toml

/-- The settings for policies. -/
structure PolicySettings where
  maxProofAge : Option Nat := none
  minThreshold : Option Nat := none
  blacklistRoot : Option String := none
  deriving DecidableEq, Repr

/-- The settings for batches. -/
structure EngineSettings where
  scratchCapacity : Option Nat := none
  minBatchSize : Option Nat := none
  zeroOnRestore : Option Bool := none
  deriving DecidableEq, Repr

/-- The settings of a configuration file. -/
structure Settings where
  keyPath : Option String := none
  policy : PolicySettings := {}
  engine : EngineSettings := {}
  deriving DecidableEq, Repr

namespace Settings

/-- The key in the section of defaults. -/
def readKeyPath (value : Toml) : Option (Option String) := do
  Toml.optional? (← value.section? ["vk"]) "vk" Toml.text?

/-- The section on policies. -/
def readPolicy (value : Toml) : Option PolicySettings := do
  let entries ← value.section? ["max_proof_age", "min_threshold", "blacklist_root"]
  return {
    maxProofAge := ← Toml.optional? entries "max_proof_age" (Toml.natUpTo? (2 ^ 32 - 1))
    minThreshold := ← Toml.optional? entries "min_threshold" (Toml.natUpTo? (2 ^ 16 - 1))
    blacklistRoot := ← Toml.optional? entries "blacklist_root" Toml.text? }

/-- The section on batches. -/
def readEngine (value : Toml) : Option EngineSettings := do
  let entries ← value.section? ["scratch_capacity", "min_batch_size", "zero_on_restore"]
  return {
    scratchCapacity := ← Toml.optional? entries "scratch_capacity" (Toml.natUpTo? (2 ^ 64 - 1))
    minBatchSize := ← Toml.optional? entries "min_batch_size" (Toml.natUpTo? (2 ^ 64 - 1))
    zeroOnRestore := ← Toml.optional? entries "zero_on_restore" Toml.bool? }

/-- The settings that the text of a configuration file denotes. -/
def parse? (text : String) : Option Settings := do
  let entries ← Toml.parse? text
  let keyPath ← Toml.optional? entries "default" readKeyPath
  let policy ← Toml.optional? entries "policy" readPolicy
  let engine ← Toml.optional? entries "engine" readEngine
  return ⟨keyPath.join, policy.getD {}, engine.getD {}⟩

/-- The policy of the settings, if its root is a number. -/
def resolvePolicy (settings : PolicySettings) : Except ArtifactError Policy := do
  let root ← settings.blacklistRoot.mapM Numeral.parseBytes
  return {
    maxProofAge := .ofNat (settings.maxProofAge.getD 0)
    minThreshold := .ofNat (settings.minThreshold.getD 0)
    blacklistRoot := root }

/-- The engine configuration of the settings. -/
def resolveEngine (settings : EngineSettings) : EngineConfig :=
  let standard : EngineConfig := {}
  { scratchCapacity := settings.scratchCapacity.getD standard.scratchCapacity
    minBatchSize := settings.minBatchSize.getD standard.minBatchSize
    zeroOnRestore := settings.zeroOnRestore.getD standard.zeroOnRestore }

end Settings
end Groth16
