import Groth16.Arena.Basic
import Groth16.Curve.Encoding

/-!
# Sums of multiples

The sum of many scalar multiples at once. The scalars are cut into windows of equal width;
for each window the points with equal digits are collected in one bucket, so that every
bucket is multiplied by its digit only once. Scalars and buckets take room in the arena.
-/

namespace Groth16

variable {F : Type} {C : Curve F}

/-- The digit of the given width whose lowest bit has the given number. Its bits may lie in
two words. -/
def Limbs.digit (n : Limbs) (offset width : Nat) : Nat :=
  let index := offset / 64
  let shift := offset % 64
  let low := n.word index >>> UInt64.ofNat shift
  let high := n.word (index + 1) <<< UInt64.ofNat (64 - shift)
  let bits := if 64 < shift + width ∧ index + 1 < 4 then low ||| high else low
  (bits &&& ((1 <<< UInt64.ofNat width) - 1)).toNat

namespace AffinePoint

/-- The number of bytes that a point takes in an arena: its coordinates and a flag. -/
def storedSize [Coordinate F] (_ : Curve F) : Nat := 2 * Coordinate.size F + 8

end AffinePoint

namespace ProjectivePoint

/-- The number of bytes that a point takes in an arena. -/
def storedSize [Coordinate F] (_ : Curve F) : Nat := 3 * Coordinate.size F

variable [Zero F] [One F] [Add F] [Sub F] [Mul F]

/-- The width of a window for the given number of points. -/
def windowWidth (count : Nat) : Nat :=
  if count < 32 then 4 else if count < 256 then 6 else 8

/-- The sum of the points in each bucket; bucket `i` holds the points of digit `i + 1`. -/
@[specialize]
def fillBuckets
    (terms : List (AffinePoint C × Limbs))
    (width window : Nat) : Array (ProjectivePoint C) :=
  terms.foldl
    (fun buckets (P, scalar) =>
      let digit := scalar.digit (window * width) width
      if digit = 0 then buckets else buckets.modify (digit - 1) (·.addAffine P))
    (Array.replicate (2 ^ width - 1) identity)

/-- The sum of each bucket times its digit, from running sums over the higher buckets. -/
@[specialize]
def sumBuckets (buckets : Array (ProjectivePoint C)) : ProjectivePoint C :=
  (buckets.foldr
    (fun bucket (running, sum) =>
      let running := running.add bucket
      (running, sum.add running))
    (identity, identity)).2

/-- The point doubled the given number of times. -/
@[specialize]
def doubleTimes (P : ProjectivePoint C) (times : Nat) : ProjectivePoint C :=
  times.repeat double P

/-- The sum of all multiples, window by window from the highest. -/
@[specialize]
def sumWindows (terms : List (AffinePoint C × Limbs)) (width : Nat) : ProjectivePoint C :=
  (List.range ((256 + width - 1) / width)).reverse.foldl
    (fun acc window =>
      (acc.doubleTimes width).add (sumBuckets (fillBuckets terms width window)))
    identity

/-- The sum of the multiples of the points by the scalars, as far as both lists go. -/
@[specialize]
def multiScalarMul
    [Coordinate F]
    (points : List (AffinePoint C))
    (scalars : List Fr) : ArenaM (ProjectivePoint C) := do
  let terms := points.zip (scalars.map FieldElement.canonical)
  if terms.isEmpty then return identity
  let width := windowWidth terms.length
  let _ ← Arena.reserveItems 32 8 terms.length
  let _ ← Arena.reserveItems (storedSize C) 8 (2 ^ width - 1)
  return sumWindows terms width

end ProjectivePoint
end Groth16
