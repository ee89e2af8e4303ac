import Groth16.Arena.Scratch
import Groth16.Error
import Groth16.Pairing.Basic

/-!
# Operations on encoded points

The group operations and the pairing check on points in byte form. Every point that comes
in is checked in full, and every point that goes out is a valid encoding again.
-/

namespace Groth16
namespace Encoded

variable {F : Type}

section Group

variable
  [Zero F] [One F] [Add F] [Sub F] [Neg F] [Mul F]
  [DecidableEq F] [PartialInverse F] [Coordinate F]

/-- The valid point that the bytes encode. -/
def decode
    (C : Curve F) [SubgroupTest C]
    (bytes : List UInt8) : Except VerifyError (AffinePoint C) :=
  (AffinePoint.ofBytes? bytes).mapError .invalidPoint

/-- The bytes of a point in projective form. -/
def encode {C : Curve F} (P : ProjectivePoint C) : List UInt8 := P.toAffine.toBytes

/-- The scalar that 32 bytes encode, below the group order. -/
def decodeScalar (bytes : List UInt8) : Except VerifyError Fr :=
  (FieldElement.ofBytes? bytes).mapError .outOfRange

/-- The sum of two points. -/
def add
    (C : Curve F) [SubgroupTest C]
    (a b : List UInt8) : Except VerifyError (List UInt8) := do
  let P ← decode C a
  let Q ← decode C b
  return encode (P.toProjective.addAffine Q)

/-- The negative of a point. -/
def neg (C : Curve F) [SubgroupTest C] (a : List UInt8) : Except VerifyError (List UInt8) := do
  let P ← decode C a
  return (-P).toBytes

/-- The difference of two points, the second of which is looked at first. -/
def sub
    (C : Curve F) [SubgroupTest C]
    (a b : List UInt8) : Except VerifyError (List UInt8) := do
  add C a (← neg C b)

/-- The multiple of a point by a scalar. -/
def scalarMul
    (C : Curve F) [SubgroupTest C]
    (a scalar : List UInt8) : Except VerifyError (List UInt8) := do
  let P ← decode C a
  let k ← decodeScalar scalar
  return encode (P.toProjective.mul k)

/-- Whether the bytes are coordinates of a point of the curve. -/
def isOnCurve (C : Curve F) (bytes : List UInt8) : Bool :=
  match AffinePoint.ofBytesUnchecked (C := C) bytes with
  | .ok P => P.isOnCurve
  | .error _ => false

/-- Whether the bytes are coordinates of a point of the subgroup. -/
def isInSubgroup (C : Curve F) [SubgroupTest C] (bytes : List UInt8) : Bool :=
  match AffinePoint.ofBytesUnchecked (C := C) bytes with
  | .ok P => P.isOnCurve && P.isInSubgroup
  | .error _ => false

end Group

/-- Runs an arena computation in scratch space of the default capacity. -/
def inScratch {α : Type} (body : ArenaM α) : StateM Scratch (Except VerifyError α) := do
  let outcome ← Scratch.useArena Scratch.defaultCapacity false body.run
  return (outcome.bind id).mapError .allocationFailed

/-- The sum of the multiples of points of `G1` by scalars. -/
def multiScalarMul
    (points scalars : List (List UInt8)) : ExceptT VerifyError (StateM Scratch) (List UInt8) := do
  if points.length ≠ scalars.length then throw (.badInputs points.length scalars.length)
  let points ← points.mapM fun bytes => (decode Curve.g1 bytes : Except _ _)
  let scalars ← scalars.mapM fun bytes => (decodeScalar bytes : Except _ _)
  let sum ← ExceptT.mk (inScratch (ProjectivePoint.multiScalarMul points scalars))
  return encode sum

/-- The number of bytes of a point of `G1` followed by a point of `G2`. -/
def pairSize : Nat := 192

/-- The pairs of points that the bytes encode, one after the other. -/
def decodePairs : (count : Nat) → List UInt8 → Except VerifyError (List (G1.Affine × G2.Affine))
  | 0, _ => .ok []
  | count + 1, bytes => do
    let P ← decode Curve.g1 (bytes.take 64)
    let Q ← decode Curve.g2 ((bytes.drop 64).take 128)
    return (P, Q) :: (← decodePairs count (bytes.drop pairSize))

/-- Whether the product of the pairings of the encoded pairs is one. -/
def pairingCheck (bytes : List UInt8) : ExceptT VerifyError (StateM Scratch) Bool := do
  let count := bytes.length / pairSize
  if bytes.length % pairSize ≠ 0 then
    throw (.invalidPoint (.invalidLength ((count + 1) * pairSize) bytes.length))
  if bytes.isEmpty then return true
  let pairs ← decodePairs count bytes
  let product ← ExceptT.mk (inScratch (Pairing.pairingProductIn pairs))
  return product.isOne

/-- A scalar in hexadecimal. -/
def scalarText (scalar : Fr) : String := scalar.toHex

/-- A coordinate part in hexadecimal: 32 bytes from the given offset. -/
def partText (bytes : List UInt8) (offset : Nat) : String :=
  "0x" ++ Bytes.toHex ((bytes.drop offset).take 32)

/-- A point of `G1` as its two coordinates in hexadecimal. -/
def g1Text (P : G1.Affine) : String :=
  if P.isIdentity then "infinity"
  else s!"({partText P.toBytes 0}, {partText P.toBytes 32})"

/-- A point of `G2` as its two coordinates in hexadecimal, the part of `u` first. -/
def g2Text (P : G2.Affine) : String :=
  if P.isIdentity then "infinity"
  else
    let part := partText P.toBytes
    s!"(({part 0}, {part 32}), ({part 64}, {part 96}))"

end Encoded
end Groth16
