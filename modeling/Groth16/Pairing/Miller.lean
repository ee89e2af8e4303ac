import Groth16.Curve.Groups
import Groth16.Tower.Target

/-!
# The Miller loop

The loop walks the signed binary digits of `6 * x + 2`. Each pair of points keeps a running
multiple of its second point; every doubling or addition of it gives a line, whose value at
the first point is multiplied into one product shared by all pairs. Pairs with an identity
contribute nothing.
-/

namespace Groth16
namespace Pairing

/-- The coefficients of the line `c0 * y + c1 * x + c2`. -/
structure Line where
  c0 : Fq2
  c1 : Fq2
  c2 : Fq2
  deriving DecidableEq

/-- One half in the base field. -/
def half : Fq := .ofLimbs
  ⟨0x9e10460b6c3e7ea4, 0xcbc0b548b438e546, 0xdc2822db40c0ac2e, 0x183227397098d014⟩

/-- Doubles a point of the twist: the tangent and the doubled point. -/
def tangentStep (R : G2.Projective) : Line × G2.Projective :=
  let a := (R.x * R.y).mulByBase half
  let yy := R.y.square
  let zz := R.z.square
  let e := Curve.g2.b * (zz.double + zz)
  let f := e.double + e
  let g := (yy + f).mulByBase half
  let h := (R.y + R.z).square - (yy + zz)
  let xx := R.x.square
  let ee := e.square
  (⟨-h, xx.double + xx, e - yy⟩, ⟨a * (yy - f), g.square - (ee.double + ee), yy * h⟩)

/-- Adds the finite point `(x, y)` to a point of the twist: the chord and the sum. -/
def chordStep (R : G2.Projective) (x y : Fq2) : Line × G2.Projective :=
  let theta := R.y - y * R.z
  let lambda := R.x - x * R.z
  let c := theta.square
  let d := lambda.square
  let e := lambda * d
  let f := R.z * c
  let g := R.x * d
  let h := e + f - g.double
  (⟨lambda, -theta, theta * x - lambda * y⟩,
    ⟨lambda * h, theta * (g - h) - e * R.y, R.z * e⟩)

/-- A pair of finite points with the running multiple of the second one. -/
structure Track where
  px : Fq
  py : Fq
  qx : Fq2
  qy : Fq2
  multiple : G2.Projective

namespace Track

/-- The track of a pair at the start, if both points are finite. -/
def ofPair? : G1.Affine × G2.Affine → Option Track
  | (.finite px py, .finite qx qy) => some ⟨px, py, qx, qy, ⟨qx, qy, 1⟩⟩
  | _ => none

/-- The product with the value of a line at the first point of the track. -/
def mulLine (track : Track) (f : Fq12) (line : Line) : Fq12 :=
  f.mulByLine (line.c0.mulByBase track.py) (line.c1.mulByBase track.px) line.c2

/-- Doubles the running multiple. -/
def double (track : Track) : Line × Track :=
  let step := tangentStep track.multiple
  (step.1, { track with multiple := step.2 })

/-- Adds the point `(x, y)` to the running multiple. -/
def add (x y : Fq2) (track : Track) : Line × Track :=
  let step := chordStep track.multiple x y
  (step.1, { track with multiple := step.2 })

/-- Adds the second point of the track, or its negative for a negative digit. -/
def addDigit (digit : Int) (track : Track) : Line × Track :=
  track.add track.qx (if digit = 1 then track.qy else -track.qy)

/-- The image of `(x, y)` under the endomorphism `psi`. -/
def frobenius (x y : Fq2) : Fq2 × Fq2 :=
  (x.conjugate * G2.psiFactorX, y.conjugate * G2.psiFactorY)

/-- Adds the image of the second point under `psi`. -/
def addFrobenius (track : Track) : Line × Track :=
  let image := frobenius track.qx track.qy
  track.add image.1 image.2

/-- Subtracts the image of the second point under `psi` applied twice. -/
def subFrobeniusSquared (track : Track) : Line × Track :=
  let once := frobenius track.qx track.qy
  let twice := frobenius once.1 once.2
  track.add twice.1 (-twice.2)

end Track

/-- The shared product and the tracks of all pairs. -/
structure MillerState where
  product : Fq12
  tracks : List Track

namespace MillerState

/-- The state at the start: the product is one. -/
def start (pairs : List (G1.Affine × G2.Affine)) : MillerState :=
  ⟨1, pairs.filterMap Track.ofPair?⟩

/-- Moves every track by the same step and multiplies the values of its lines in. -/
def advance (step : Track → Line × Track) (state : MillerState) : MillerState :=
  let moved := state.tracks.map step
  ⟨moved.foldl (fun product (line, track) => track.mulLine product line) state.product,
    moved.map (·.2)⟩

/-- Processes one signed binary digit: squares, doubles, and adds for a nonzero digit. -/
def processDigit (state : MillerState) (digit : Int) : MillerState :=
  let doubled := advance Track.double { state with product := state.product.square }
  if digit = 0 then doubled else advance (Track.addDigit digit) doubled

end MillerState

/-- The signed binary digits of `6 * x + 2` after the leading one, most significant first. -/
def ateDigits : List Int := [
  0, -1, 0, 1, 0, 0, 0, -1, 0, -1, 0, 0, 0, -1, 0, 1, 0, -1, 0, 0, -1, 0, 0, 0, 0, 0, 1, 0, 0,
  -1, 0, 1, 0, 0, -1, 0, 0, 0, 0, -1, 0, 1, 0, 0, 0, -1, 0, -1, 0, 0, 1, 0, 0, 0, -1, 0, 0, -1,
  0, 1, 0, 1, 0, 0, 0]

/-- The product of the line values of all pairs. -/
def millerLoop (pairs : List (G1.Affine × G2.Affine)) : Fq12 :=
  let state := ateDigits.foldl MillerState.processDigit (.start pairs)
  ((state.advance Track.addFrobenius).advance Track.subFrobeniusSquared).product

end Pairing
end Groth16
