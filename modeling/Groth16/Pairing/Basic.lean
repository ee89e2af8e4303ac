import Groth16.Curve.MultiScalar
import Groth16.Pairing.FinalExponentiation
import Groth16.Pairing.Miller

/-!
# The pairing

The pairing of two points, and the product of the pairings of many pairs with one shared
Miller loop and one final exponentiation.
-/

namespace Groth16
namespace Pairing

/-- The product of the pairings of all pairs. -/
def pairingProduct (pairs : List (G1.Affine × G2.Affine)) : Gt :=
  finalExponentiation (millerLoop pairs)

/-- The pairing of two points. -/
def pairing (P : G1.Affine) (Q : G2.Affine) : Gt := pairingProduct [(P, Q)]

/-- The product of the pairings of all pairs, with room in the arena for one point per pair. -/
def pairingProductIn (pairs : List (G1.Affine × G2.Affine)) : ArenaM Gt := do
  let _ ← Arena.reserveItems (ProjectivePoint.storedSize Curve.g2) 8 pairs.length
  return pairingProduct pairs

end Pairing
end Groth16
