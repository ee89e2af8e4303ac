import Groth16.CommandLine.Session
import Groth16.Verifier

/-!
# Verification of one proof or envelope

The command that verifies either a proof with its public inputs, or an envelope under the
policy of the session, which the arguments may tighten or relax.
-/

namespace Groth16

/-- An envelope to verify, and what is demanded of it. -/
structure EnvelopeOptions where
  path : String
  commitment : Option String
  threshold : UInt16
  exclusionPath : Option String
  maxAge : Option UInt32
  minThreshold : Option UInt16
  blacklistRoot : Option String
  now : Option UInt64
  deriving DecidableEq, Repr

/-- What to verify. -/
inductive VerifyOptions where
  | proof (proofPath inputsPath : String)
  | envelope (options : EnvelopeOptions)
  deriving DecidableEq, Repr

namespace VerifyOptions

/-- The arguments of the command. -/
def grammar : ArgumentGrammar where
  options := CommonOptions.specs ++
    ["proof", "public-inputs", "envelope", "commitment", "threshold", "exclusion-path", "max-age",
      "min-threshold", "blacklist-root", "now"].map fun name => ⟨name, none, .one⟩
  positionals := 0

/-- The path that an option gives. -/
def path? (given : Arguments) (name : String) : Except Halt (Option String) :=
  (given.value? name).mapM (readPath name)

/-- The paths of a proof and its public inputs, where no envelope is given. -/
def readProof (given : Arguments) (proof inputs : Option String) : Except Halt VerifyOptions := do
  if given.has "commitment" ∨ given.has "exclusion-path" then throw (.required "envelope")
  match proof, inputs with
  | some proof, some inputs => return .proof proof inputs
  | none, _ => throw (.required "proof")
  | _, none => throw (.required "public-inputs")

/-- The command of the given arguments. -/
def read (given : Arguments) (surroundings : Surroundings) : Except Halt VerifyOptions := do
  let proof ← path? given "proof"
  let inputs ← path? given "public-inputs"
  let envelope ← path? given "envelope"
  let exclusionPath ← path? given "exclusion-path"
  let threshold ← readNumber "threshold" (2 ^ 16 - 1) true ((given.value? "threshold").getD "0")
  let maxAge ← (given.valueOr? surroundings "max-age" "REPZK_MAX_PROOF_AGE").mapM
    (readNumber "max-age" (2 ^ 32 - 1) true)
  let minThreshold ← (given.valueOr? surroundings "min-threshold" "REPZK_MIN_THRESHOLD").mapM
    (readNumber "min-threshold" (2 ^ 16 - 1) true)
  let now ← (given.value? "now").mapM (readNumber "now" (2 ^ 64 - 1) false)
  match envelope with
  | none => readProof given proof inputs
  | some path =>
    if proof.isSome then throw (.conflict "proof" "envelope")
    return .envelope {
      path
      commitment := given.value? "commitment"
      threshold := .ofNat threshold
      exclusionPath
      maxAge := maxAge.map UInt32.ofNat
      minThreshold := minThreshold.map UInt16.ofNat
      blacklistRoot := given.valueOr? surroundings "blacklist-root" "REPZK_BLACKLIST_ROOT"
      now := now.map UInt64.ofNat }

/-- Prints what is known of a proof before it is verified. -/
def announceProof (key : VerifyingKey) (proof : List UInt8) (inputs : List Scalar) :
    CommandM Unit := do
  CommandM.printLine "→ Verifying proof..."
  CommandM.printLine s!"  Proof: {proof.length} bytes"
  CommandM.printLine s!"  Public inputs: {inputs.length}"
  CommandM.printLine s!"  IC points: {key.ic.length}\n"

/-- Prints the verdict on a proof. -/
def printVerdict (session : Session) (holds : Bool) (nanoseconds : Nat) : CommandM Unit := do
  if session.json then
    Session.printRecord [("verified", .bool holds), ("elapsed_us", .ofNat (nanoseconds / 1000))]
  else if !session.quiet then
    CommandM.printLine
      (if holds then "✓ Proof verified successfully!\n" else "✗ Proof verification failed\n")
    CommandM.printLine s!"  Time: {durationText nanoseconds}"

/-- Verifies a proof. -/
def verifyProof
    (session : Session)
    (key : VerifyingKey)
    (proofPath inputsPath : String) : CommandM Unit := do
  let proof ← Session.load s!"Failed to load proof: {Text.quoted proofPath}"
    (Artifact.loadProof proofPath)
  let inputs ← Session.load s!"Failed to load public inputs: {Text.quoted inputsPath}"
    (Artifact.loadInputs inputsPath)
  if session.isChatty then announceProof key proof inputs
  let verifier := (Verifier.make session.engine).setKey key
  let start ← CommandM.host HostM.nanoseconds
  let holds ← Session.runEngine (verifier.verify proof (inputs.map (·.val)) 0)
  let stop ← CommandM.host HostM.nanoseconds
  printVerdict session holds (stop - start)
  if !holds then throw { headline := "proof rejected" }

end VerifyOptions

namespace EnvelopeOptions

/-- The policy of the session with what the arguments change. -/
def policy (options : EnvelopeOptions) (session : Session) : CommandM Policy := do
  let root ← CommandM.during "Invalid --blacklist-root"
    (options.blacklistRoot.mapM Numeral.parseBytes)
  return {
    maxProofAge := options.maxAge.getD session.policy.maxProofAge
    minThreshold := options.minThreshold.getD session.policy.minThreshold
    blacklistRoot := root <|> session.policy.blacklistRoot }

/-- Prints what an envelope states. -/
def announce (options : EnvelopeOptions) (envelope : Envelope) : CommandM Unit := do
  CommandM.printLine "→ Verifying reputation envelope..."
  CommandM.printLine s!"  Agent: {Session.hexText envelope.agent.val}"
  CommandM.printLine s!"  Proven threshold: {envelope.threshold}"
  CommandM.printLine s!"  Required threshold: {options.threshold}"
  CommandM.printLine s!"  Timestamp: {envelope.timestamp}\n"

/-- Prints that an envelope is accepted. -/
def printAccepted (session : Session) (envelope : Envelope) : CommandM Unit := do
  if session.json then
    let tier ← CommandM.ofExcept (Tier.ofThreshold? envelope.threshold.toNat)
    Session.printRecord [("verified", .bool true),
      ("threshold", .ofNat envelope.threshold.toNat), ("tier", .ofString tier.name)]
  else if !session.quiet then CommandM.printLine "✓ Envelope accepted"

/-- Prints why an envelope is rejected, which is a failure. -/
def printRejected (session : Session) (reason : Rejection) : CommandM Unit := do
  if session.json then
    Session.printRecord [("verified", .bool false), ("reason", .ofString reason.message)]
  else if !session.quiet then
    CommandM.printLine s!"✗ Envelope rejected: {reason.message}"
  throw { headline := s!"envelope rejected: {reason.message}" }

/-- The commitment that the envelope must carry. -/
def readCommitment (options : EnvelopeOptions) : CommandM Scalar :=
  match options.commitment with
  | some text => CommandM.during "Invalid --commitment" (Numeral.parseBytes text)
  | none => throw { headline := "--commitment is required with --envelope" }

/-- Verifies an envelope. -/
def run (options : EnvelopeOptions) (session : Session) (key : VerifyingKey) : CommandM Unit := do
  let bytes ← Session.load s!"Failed to load envelope: {Text.quoted options.path}"
    (Artifact.loadBytes options.path)
  let envelope ← CommandM.during "Invalid envelope" (Envelope.ofBytes? bytes)
  let commitment ← options.readCommitment
  let exclusionPath ← options.exclusionPath.mapM fun path =>
    Session.load s!"Failed to load exclusion path: {Text.quoted path}" (Artifact.loadBytes path)
  let policy ← options.policy session
  if session.isChatty then options.announce envelope
  let party ← CommandM.ofExcept (RelyingParty.make? key policy)
  let demand : Demand := {
    expectedCommitment := commitment
    threshold := options.threshold
    now := options.now.getD session.surroundings.unixTime
    exclusionPath }
  match ← Session.runEngine (party.verify envelope demand 0) with
  | .accepted => printAccepted session envelope
  | .rejected reason => printRejected session reason

end EnvelopeOptions

namespace VerifyOptions

/-- Verifies a proof or an envelope. -/
def run (options : VerifyOptions) (session : Session) : CommandM Unit := do
  let key ← session.loadKey
  match options with
  | .proof proofPath inputsPath => verifyProof session key proofPath inputsPath
  | .envelope options => options.run session key

end VerifyOptions
end Groth16
