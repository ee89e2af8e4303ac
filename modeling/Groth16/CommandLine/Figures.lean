import Groth16.CommandLine.Session
import Groth16.Service

/-!
# Commitments, tags and tiers

The commands that compute figures from their arguments alone.
-/

namespace Groth16

/-- The command for the commitment to a score. -/
structure CommitOptions where
  score : Nat
  secret : String
  deriving DecidableEq, Repr

namespace CommitOptions

/-- The arguments of the command. -/
def grammar : ArgumentGrammar :=
  ⟨CommonOptions.specs ++ [⟨"score", none, .one⟩, ⟨"secret", none, .one⟩], 0⟩

/-- The command of the given arguments. -/
def read (given : Arguments) (surroundings : Surroundings) : Except Halt CommitOptions := do
  let score ← readNumber "score" (2 ^ 16 - 1) true (← given.require "score")
  match given.valueOr? surroundings "secret" "REPZK_SECRET" with
  | some secret => return ⟨score, secret⟩
  | none => throw (.required "secret")

/-- Prints the commitment and the tier of a score. -/
def run (options : CommitOptions) (session : Session) : CommandM Unit := do
  let secret ← CommandM.during "Invalid --secret" (Numeral.parseBytes options.secret)
  let commitment ← CommandM.ofExcept (Service.commit options.score secret.val)
  let tier ← CommandM.ofExcept (Tier.ofThreshold? options.score)
  let text := Session.hexText commitment
  if session.json then
    Session.printRecord [("score", .ofNat options.score), ("tier", .ofString tier.name),
      ("commitment", .ofString text)]
  else if session.quiet then CommandM.printLine text
  else
    CommandM.printLine "✓ Commitment computed\n"
    CommandM.printLine s!"  Score: {options.score} ({tier.name})"
    CommandM.printLine s!"  Commitment: {text}"

end CommitOptions

/-- The command for the tag of an agent. -/
structure NullifierOptions where
  agent : String
  nonce : UInt64
  deriving DecidableEq, Repr

namespace NullifierOptions

/-- The arguments of the command. -/
def grammar : ArgumentGrammar :=
  ⟨CommonOptions.specs ++ [⟨"agent-id", none, .one⟩, ⟨"nonce", none, .one⟩], 0⟩

/-- The command of the given arguments. -/
def read (given : Arguments) : Except Halt NullifierOptions := do
  let nonce ← readNumber "nonce" (2 ^ 64 - 1) false ((given.value? "nonce").getD "0")
  return ⟨← given.require "agent-id", .ofNat nonce⟩

/-- Prints the tag of an agent for a number used once. -/
def run (options : NullifierOptions) (session : Session) : CommandM Unit := do
  let agent ← CommandM.during "Invalid --agent-id" (Numeral.parseBytes options.agent)
  let agentText := Session.hexText agent.val
  let text := Session.hexText (nullifier agent.val options.nonce)
  if session.json then
    Session.printRecord [("agent_id", .ofString agentText),
      ("nonce", .ofNat options.nonce.toNat), ("nullifier", .ofString text)]
  else if session.quiet then CommandM.printLine text
  else
    CommandM.printLine s!"  Agent: {agentText}"
    CommandM.printLine s!"  Nonce: {options.nonce}"
    CommandM.printLine s!"  Nullifier: {text}"

end NullifierOptions

/-- The command for the tier of a threshold, or for all tiers. -/
structure TierOptions where
  threshold : Option Nat
  deriving DecidableEq, Repr

namespace TierOptions

/-- The arguments of the command. -/
def grammar : ArgumentGrammar := ⟨CommonOptions.specs, 1⟩

/-- The command of the given arguments. -/
def read (given : Arguments) : Except Halt TierOptions := do
  return ⟨← given.positionals.head?.mapM (readNumber "threshold" (2 ^ 16 - 1) true)⟩

/-- A tier as a line of the list of all tiers. -/
def tierLine (tier : Tier) : String :=
  let padding := String.ofList (List.replicate (11 - tier.name.length) ' ')
  s!"  {tier.name}{padding} >= {tier.threshold}"

/-- Prints all tiers. -/
def list (session : Session) : CommandM Unit :=
  if session.json then
    CommandM.printLine (JsonValue.array (Tier.all.map fun tier => .record
      [("tier", .ofString tier.name), ("level", .ofNat tier.level),
        ("minimum", .ofNat tier.threshold)])).render
  else Tier.all.forM fun tier => CommandM.printLine (tierLine tier)

/-- Prints the tier of a threshold, or all tiers. -/
def run (options : TierOptions) (session : Session) : CommandM Unit := do
  match options.threshold with
  | none => list session
  | some threshold =>
    let tier ← CommandM.ofExcept (Service.tierOf threshold)
    if session.json then
      Session.printRecord [("threshold", .ofNat threshold), ("tier", .ofString tier.name),
        ("level", .ofNat tier.level), ("tier_minimum", .ofNat tier.threshold)]
    else if session.quiet then CommandM.printLine tier.name
    else CommandM.printLine s!"  Threshold {threshold} → {tier.name}"

end TierOptions
end Groth16
