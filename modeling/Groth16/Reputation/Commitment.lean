import Groth16.Poseidon.Permutation
import Groth16.Reputation.Tier

/-!
# Commitments and nullifiers

An agent commits to its score by hashing it with a secret, and tags each of its statements
by hashing its identity with a number used once.
-/

namespace Groth16

/-- The commitment to a score of at most 100 under a secret below the modulus. -/
def commitToScore (score : Nat) (secret : List UInt8) : Except FieldError (List UInt8) := do
  let score ← checkScore score
  let secret ← FieldElement.ofBytes? secret
  return (Poseidon.hash (.ofNat score) secret).toBytes

/-- The tag of an agent for a number used once. Identities are reduced modulo the modulus. -/
def nullifier (agent : List UInt8) (nonce : UInt64) : List UInt8 :=
  (Poseidon.hash (.ofBytesReduced agent) (.ofWord nonce)).toBytes

end Groth16
