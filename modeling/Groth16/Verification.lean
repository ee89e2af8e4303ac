import Groth16.Key
import Groth16.Pairing.Basic
import Groth16.Proof

/-!
# Verification of one proof

A proof `(A, B, C)` for public inputs `x` is accepted if and only if the product of the
pairings of `(-A, B)`, `(alpha, beta)`, `(X, gamma)` and `(C, delta)` is one, where the
input point `X` is the first input point of the key plus the multiples of the others by
the public inputs.
-/

namespace Groth16

/-- The scalars that the public inputs encode, each of which must be below the modulus. -/
def decodeInputs (inputs : List (List UInt8)) : Except VerifyError (List Fr) := do
  if VerifyingKey.maxPublicInputs < inputs.length then
    throw (.badInputs VerifyingKey.maxPublicInputs inputs.length)
  inputs.mapM fun bytes => (FieldElement.ofBytes? bytes).mapError .outOfRange

namespace VerifyingKey

/-- Refuses any number of public inputs but the one that the key expects. -/
def checkInputCount (key : VerifyingKey) (count : Nat) : Except VerifyError Unit :=
  if count = key.publicInputs then .ok () else .error (.badInputs key.publicInputs count)

/-- The input point of the key for the given public inputs. -/
def inputPoint (key : VerifyingKey) (inputs : List Fr) : Except VerifyError G1.Projective :=
  match key.ic with
  | constant :: points =>
    if inputs.length = points.length then
      .ok ((inputs.zip points).foldl (fun acc (x, P) => acc.add (P.toProjective.mul x))
        constant.toProjective)
    else .error (.badInputs key.publicInputs inputs.length)
  | [] => .error (.badInputs key.publicInputs inputs.length)

/-- The pairs whose pairings must multiply to one. -/
def pairsFor
    (key : VerifyingKey)
    (proof : Proof)
    (inputPoint : G1.Affine) : List (G1.Affine × G2.Affine) :=
  [(-proof.a, proof.b), (key.alpha, key.beta), (inputPoint, key.gamma), (proof.c, key.delta)]

/-- Whether the proof holds for the public inputs. -/
def verify (key : VerifyingKey) (proof : Proof) (inputs : List Fr) : Except VerifyError Bool := do
  let X ← key.inputPoint inputs
  return (Pairing.pairingProduct (key.pairsFor proof X.toAffine)).isOne

/-- Whether the encoded proof holds for the encoded public inputs. -/
def verifyBytes
    (key : VerifyingKey)
    (proof : List UInt8)
    (inputs : List (List UInt8)) : Except VerifyError Bool := do
  key.checkInputCount inputs.length
  let proof ← Proof.ofBytes? proof
  let inputs ← decodeInputs inputs
  key.verify proof inputs

end VerifyingKey
end Groth16
