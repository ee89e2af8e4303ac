import Groth16.Arena.Basic
import Groth16.Curve.Encoding

/-!
# Shared inversions

Many field elements are inverted with one inversion of a running product, and many
projective points are brought into affine form with one inversion. Room for the running
products comes from the arena, and the results are written into a slice of values.
-/

namespace Groth16

variable {F : Type} [Zero F] [One F] [Mul F] [PartialInverse F] [DecidableEq F]

/-- The inverse of `product` times all nonzero elements, undone step by step: gives the
inverse of `product` and the elements with each nonzero one inverted. -/
@[specialize]
def invertAfter : (product : F) → List F → Option (F × List F)
  | product, [] => (PartialInverse.inverse? product).map fun inverse => (inverse, [])
  | product, element :: rest =>
    if element = 0 then
      (invertAfter product rest).map fun (inverse, inverted) => (inverse, 0 :: inverted)
    else
      (invertAfter (product * element) rest).map fun (inverse, inverted) =>
        (inverse * element, inverse * product :: inverted)

/-- The elements with each nonzero one inverted and zeros kept. -/
def invertNonzero (elements : List F) : List F :=
  match invertAfter 1 elements with
  | some (_, inverted) => inverted
  | none => elements

variable [Coordinate F]

/-- Inverts each nonzero element of the slice, with room in the arena for one product per
element. -/
def invertSlice : SliceM F Unit := do
  let (_, elements) ← get
  let _ ← SliceM.ofArena (Arena.reserveItems (Coordinate.size F) 8 elements.length)
  SliceM.replace invertNonzero

/-- The elements with each nonzero one inverted in a slice. -/
def invertAll (elements : List F) : ArenaM (List F) := invertSlice.output elements

namespace ProjectivePoint

variable {C : Curve F}

/-- The affine form of a point whose third coordinate has the given inverse. -/
def scaleBy (P : ProjectivePoint C) (zInverse : F) : AffinePoint C :=
  if P.isIdentity then .identity else .finite (P.x * zInverse) (P.y * zInverse)

/-- Writes the affine forms of the points to the front of the slice, as far as it goes, with
room in the arena for their third coordinates and for the products of the inversion. -/
def writeAffine (points : List (ProjectivePoint C)) : SliceM (AffinePoint C) Unit := do
  let _ ← SliceM.ofArena (Arena.reserveItems (Coordinate.size F) 8 points.length)
  let zInverses ← SliceM.ofArena (invertAll (points.map (·.z)))
  SliceM.replace fun slice =>
    (points.zipWith scaleBy zInverses).take slice.length ++ slice.drop points.length

/-- The affine forms of all points, written to a slice of identities. -/
def toAffineAll (points : List (ProjectivePoint C)) : ArenaM (List (AffinePoint C)) :=
  (writeAffine points).output (List.replicate points.length .identity)

end ProjectivePoint
end Groth16
