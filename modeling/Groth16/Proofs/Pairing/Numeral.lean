import Groth16.Proofs.Pairing.Single
import Groth16.Proofs.Tower.TargetNumeral

/-!
# The pairing of the generators on numerals

The loop and the hard part of the final exponentiation for the two generators, as
computations on numerals.
-/

namespace Groth16
namespace Pairing

/-- A line value and the next running multiple. -/
abbrev NumeralStep := TargetNumeral × ProjectivePoint G2.numeral

/-- One half as a numeral. -/
def halfNumeral : QuadraticNumeral :=
  ⟨10944121435919637611123202872628637544348155578648911831344518947322613104292, 0⟩

theorem toField_halfNumeral : halfNumeral.toField = Fq2.ofBase half := by
  have keeps := QuadraticNumeral.keepsOperations_toField
  have two_ne : (2 : Fq2) ≠ 0 := Curve.Complete.two_ne_zero Curve.g2
  have numeral : halfNumeral + halfNumeral = 1 := by decide
  have equal := congrArg QuadraticNumeral.toField numeral
  rw [keeps.map_add, keeps.map_one, ← two_mul] at equal
  apply mul_left_cancel₀ two_ne
  rw [equal, ← map_ofNat Fq2.ofBase, ← map_mul, two_mul_half, map_one]

/-- The value of a line at the generator of `G1`. -/
def lineNumeral (c0 c1 c2 : QuadraticNumeral) : TargetNumeral := ⟨c0 + c0, c1, 0, c2, 0, 0⟩

theorem toField_lineNumeral (c0 c1 c2 : QuadraticNumeral) :
    (lineNumeral c0 c1 c2).toField =
      lineValue Curve.g1.generatorX Curve.g1.generatorY c0.toField c1.toField c2.toField := by
  have keeps := QuadraticNumeral.keepsOperations_toField
  have xEq : Fq2.ofBase Curve.g1.generatorX = 1 := by
    rw [show Curve.g1.generatorX = .ofWord 1 from rfl, FieldElement.ofWord_eq]
    exact (congrArg Fq2.ofBase Nat.cast_one).trans (map_one _)
  have yEq : Fq2.ofBase Curve.g1.generatorY = 2 := by
    rw [show Curve.g1.generatorY = .ofWord 2 from rfl, FieldElement.ofWord_eq]
    exact map_natCast Fq2.ofBase 2
  rw [lineValue, xEq, yEq, mul_one, mul_two, ← keeps.map_add,
    Fq12.eq_sum_root (lineNumeral c0 c1 c2).toField]
  simp only [lineNumeral, TargetNumeral.toField, keeps.map_zero, map_zero, zero_mul, add_zero]

/-- The tangent at the generator of `G1` and the doubled point. -/
def tangentNumeral (R : ProjectivePoint G2.numeral) : NumeralStep :=
  let a := R.x * R.y * halfNumeral
  let yy := R.y * R.y
  let zz := R.z * R.z
  let e := G2.bNumeral * (zz + zz + zz)
  let f := e + e + e
  let g := (yy + f) * halfNumeral
  let h := (R.y + R.z) * (R.y + R.z) - (yy + zz)
  let xx := R.x * R.x
  let ee := e * e
  (lineNumeral (0 - h) (xx + xx + xx) (e - yy), ⟨a * (yy - f), g * g - (ee + ee + ee), yy * h⟩)

/-- The chord at the generator of `G1` and the sum. -/
def chordNumeral
    (R : ProjectivePoint G2.numeral)
    (x y : QuadraticNumeral) : NumeralStep :=
  let theta := R.y - y * R.z
  let lambda := R.x - x * R.z
  let c := theta * theta
  let d := lambda * lambda
  let e := lambda * d
  let f := R.z * c
  let g := R.x * d
  let h := e + f - (g + g)
  (lineNumeral lambda (0 - theta) (theta * x - lambda * y),
    ⟨lambda * h, theta * (g - h) - e * R.y, R.z * e⟩)

/-- A step on numerals computes a step of the loop. -/
structure Computes
    (numeral : NumeralStep)
    (step : Line × G2.Projective) : Prop where
  line : numeral.1.toField =
    lineValue Curve.g1.generatorX Curve.g1.generatorY step.1.c0 step.1.c1 step.1.c2
  multiple : numeral.2.map Curve.g2 QuadraticNumeral.toField = step.2

theorem tangentNumeral_computes (R : ProjectivePoint G2.numeral) :
    Computes (tangentNumeral R) (tangentStep (R.map Curve.g2 QuadraticNumeral.toField)) := by
  have keeps := QuadraticNumeral.keepsOperations_toField
  constructor
  · simp only [tangentNumeral, toField_lineNumeral, tangentStep, ProjectivePoint.map,
      keeps.map_add, keeps.map_sub, keeps.map_mul, keeps.map_zero, G2.toField_bNumeral,
      Fq2.square_eq, Fq2.double_eq, zero_sub, ← pow_two, ← two_mul]
  · simp only [tangentNumeral, tangentStep, ProjectivePoint.map,
      keeps.map_add, keeps.map_sub, keeps.map_mul, G2.toField_bNumeral, toField_halfNumeral,
      Fq2.mulByBase_eq, Fq2.square_eq, Fq2.double_eq, ← pow_two, ← two_mul]

theorem chordNumeral_computes
    (R : ProjectivePoint G2.numeral)
    (x y : QuadraticNumeral) :
    Computes (chordNumeral R x y)
      (chordStep (R.map Curve.g2 QuadraticNumeral.toField) x.toField y.toField) := by
  have keeps := QuadraticNumeral.keepsOperations_toField
  constructor
  · simp only [chordNumeral, toField_lineNumeral, chordStep, ProjectivePoint.map,
      keeps.map_sub, keeps.map_mul, keeps.map_zero, zero_sub]
  · simp only [chordNumeral, chordStep, ProjectivePoint.map, keeps.map_add, keeps.map_sub,
      keeps.map_mul, Fq2.square_eq, Fq2.double_eq, ← pow_two, ← two_mul]

/-! ## The loop -/

/-- Moves the numerals of a track by a step. -/
def moveNumeral
    (step : ProjectivePoint G2.numeral → NumeralStep)
    (state : NumeralStep) : NumeralStep :=
  (state.1 * (step state.2).1, (step state.2).2)

/-- The negative of the second coordinate for a negative digit. -/
def signedNumeral (digit : Int) : QuadraticNumeral :=
  if digit = 1 then G2.numeral.generatorY else 0 - G2.numeral.generatorY

/-- Processes one digit. -/
def digitNumeral
    (state : NumeralStep)
    (digit : Int) : NumeralStep :=
  let doubled := moveNumeral tangentNumeral (state.1 * state.1, state.2)
  if digit = 0 then doubled
  else moveNumeral (chordNumeral · G2.numeral.generatorX (signedNumeral digit)) doubled

/-- The image of coordinates under the endomorphism. -/
def frobeniusNumeral (point : QuadraticNumeral × QuadraticNumeral) :
    QuadraticNumeral × QuadraticNumeral :=
  (Fq12.rootFactorNumeral * Fq12.rootFactorNumeral * point.1.conjugate,
    Fq12.rootFactorNumeral * Fq12.rootFactorNumeral * Fq12.rootFactorNumeral *
      point.2.conjugate)

/-- The additions after the digits, of one point and of the negative of another. -/
def closeNumeral
    (once twice : QuadraticNumeral × QuadraticNumeral)
    (state : NumeralStep) : NumeralStep :=
  moveNumeral (chordNumeral · twice.1 (0 - twice.2))
    (moveNumeral (chordNumeral · once.1 once.2) state)

/-- The product of the loop. -/
def loopNumeral (digits : List Int) : TargetNumeral :=
  (closeNumeral (frobeniusNumeral (G2.numeral.generatorX, G2.numeral.generatorY))
    (frobeniusNumeral (frobeniusNumeral (G2.numeral.generatorX, G2.numeral.generatorY)))
    (digits.foldl digitNumeral (1, ⟨G2.numeral.generatorX, G2.numeral.generatorY, 1⟩))).1

/-- The state of a track that numerals stand for. -/
def trackState
    (track : Track)
    (state : NumeralStep) : Fq12 × Track :=
  (state.1.toField, withMultiple track (state.2.map Curve.g2 QuadraticNumeral.toField))

/-- A track of the two generators. -/
structure IsGeneratorTrack (track : Track) : Prop where
  px : track.px = Curve.g1.generatorX
  py : track.py = Curve.g1.generatorY
  qx : track.qx = G2.numeral.generatorX.toField
  qy : track.qy = G2.numeral.generatorY.toField

section Run

variable {track : Track} (isGenerator : IsGeneratorTrack track)
include isGenerator

theorem moveTrack_trackState
    {step : Track → Line × Track}
    {numeralStep : ProjectivePoint G2.numeral → NumeralStep}
    {moved : Line × G2.Projective}
    (state : NumeralStep)
    (moves : step (withMultiple track (state.2.map Curve.g2 QuadraticNumeral.toField)) =
      (moved.1, withMultiple track moved.2))
    (computes : Computes (numeralStep state.2) moved) :
    moveTrack step (trackState track state) = trackState track (moveNumeral numeralStep state) := by
  rw [trackState, trackState, moveNumeral, TargetNumeral.toField_mul, computes.line,
    computes.multiple]
  rw [← withMultiple_withMultiple track
    (state.2.map Curve.g2 QuadraticNumeral.toField) moved.2] at moves
  rw [moveTrack_eq moves, withMultiple_px, withMultiple_py, isGenerator.px, isGenerator.py,
    withMultiple_withMultiple]

omit isGenerator in
theorem add_withMultiple
    (x y : Fq2)
    (multiple : G2.Projective) :
    (withMultiple track multiple).add x y =
      ((chordStep multiple x y).1, withMultiple track (chordStep multiple x y).2) := by
  rw [add_eq, withMultiple_multiple, withMultiple_withMultiple]

omit isGenerator in
theorem double_withMultiple (multiple : G2.Projective) :
    (withMultiple track multiple).double =
      ((tangentStep multiple).1, withMultiple track (tangentStep multiple).2) := by
  rw [double_eq, withMultiple_multiple, withMultiple_withMultiple]

theorem digitTrack_trackState
    (state : NumeralStep)
    (digit : Int) :
    digitTrack (trackState track state) digit = trackState track (digitNumeral state digit) := by
  have keeps := QuadraticNumeral.keepsOperations_toField
  have squared : ((trackState track state).1.square, (trackState track state).2) =
      trackState track (state.1 * state.1, state.2) := by
    rw [trackState, trackState, TargetNumeral.toField_mul, Fq12.square_eq, pow_two]
  have signed : (if digit = 1 then track.qy else -track.qy) =
      (signedNumeral digit).toField := by
    rw [signedNumeral, isGenerator.qy]
    split
    · rfl
    · rw [keeps.map_sub, keeps.map_zero, zero_sub]
  rw [digitTrack, digitNumeral, squared, moveTrack_trackState isGenerator _
    (double_withMultiple _) (tangentNumeral_computes _)]
  split
  · rfl
  · refine moveTrack_trackState isGenerator _ ?_ (chordNumeral_computes _ _ _)
    rw [Track.addDigit, withMultiple_qx, withMultiple_qy, signed, isGenerator.qx,
      add_withMultiple]

theorem foldl_digitTrack
    (digits : List Int)
    (state : NumeralStep) :
    digits.foldl digitTrack (trackState track state) =
      trackState track (digits.foldl digitNumeral state) :=
  List.foldl_hom (trackState track) (digitTrack_trackState isGenerator)

end Run

theorem frobenius_toField (point : QuadraticNumeral × QuadraticNumeral) :
    Track.frobenius point.1.toField point.2.toField =
      ((frobeniusNumeral point).1.toField, (frobeniusNumeral point).2.toField) := by
  have keeps := QuadraticNumeral.keepsOperations_toField
  simp only [frobenius_eq, frobeniusNumeral, keeps.map_mul, QuadraticNumeral.toField_conjugate,
    G2.toField_rootFactorNumeral, pow_two, pow_three']

theorem addFrobenius_eq
    {track : Track}
    {image : Fq2 × Fq2}
    (imageEq : Track.frobenius track.qx track.qy = image) :
    track.addFrobenius = track.add image.1 image.2 := by
  rw [Track.addFrobenius, imageEq]

theorem subFrobeniusSquared_eq
    {track : Track}
    {once twice : Fq2 × Fq2}
    (onceEq : Track.frobenius track.qx track.qy = once)
    (twiceEq : Track.frobenius once.1 once.2 = twice) :
    track.subFrobeniusSquared = track.add twice.1 (-twice.2) := by
  rw [Track.subFrobeniusSquared, onceEq, twiceEq]

theorem closeTrack_trackState
    {track : Track}
    (isGenerator : IsGeneratorTrack track)
    {once twice : QuadraticNumeral × QuadraticNumeral}
    (onceEq : Track.frobenius track.qx track.qy = (once.1.toField, once.2.toField))
    (twiceEq : Track.frobenius once.1.toField once.2.toField =
      (twice.1.toField, twice.2.toField))
    (state : NumeralStep) :
    closeTrack (trackState track state) = trackState track (closeNumeral once twice state) := by
  have keeps := QuadraticNumeral.keepsOperations_toField
  have onceEq' (multiple : G2.Projective) :
      Track.frobenius (withMultiple track multiple).qx (withMultiple track multiple).qy =
        (once.1.toField, once.2.toField) := by
    rw [withMultiple_qx, withMultiple_qy, onceEq]
  have first : moveTrack Track.addFrobenius (trackState track state) =
      trackState track (moveNumeral (chordNumeral · once.1 once.2) state) := by
    refine moveTrack_trackState isGenerator state ?_ (chordNumeral_computes state.2 _ _)
    rw [addFrobenius_eq (onceEq' _), add_withMultiple]
  rw [closeTrack, closeNumeral, first]
  refine moveTrack_trackState isGenerator _ ?_ (chordNumeral_computes _ _ _)
  rw [subFrobeniusSquared_eq (onceEq' _) twiceEq, add_withMultiple, keeps.map_sub,
    keeps.map_zero, zero_sub]

theorem startTrack_trackState
    (px py : Fq)
    (x y : QuadraticNumeral) :
    (1, startTrack px py x.toField y.toField) =
      trackState (startTrack px py x.toField y.toField) (1, ⟨x, y, 1⟩) := by
  rw [trackState, TargetNumeral.toField_one, ProjectivePoint.map,
    QuadraticNumeral.keepsOperations_toField.map_one]
  rfl

/-- The loop on the generators computes the numeral. -/
theorem trackProduct_numeral (digits : List Int) :
    trackProduct digits (startTrack Curve.g1.generatorX Curve.g1.generatorY
      Curve.g2.generatorX Curve.g2.generatorY) = (loopNumeral digits).toField := by
  have isGenerator : IsGeneratorTrack (startTrack Curve.g1.generatorX Curve.g1.generatorY
      G2.numeral.generatorX.toField G2.numeral.generatorY.toField) := ⟨rfl, rfl, rfl, rfl⟩
  rw [← G2.toField_generatorX, ← G2.toField_generatorY, trackProduct, startTrack_trackState,
    foldl_digitTrack isGenerator, closeTrack_trackState isGenerator
      (frobenius_toField (G2.numeral.generatorX, G2.numeral.generatorY)) (frobenius_toField _),
    loopNumeral, trackState]

end Pairing
end Groth16
