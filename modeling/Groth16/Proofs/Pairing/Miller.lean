import Groth16.Proofs.Pairing.Bilinear

/-!
# The steps of the Miller loop

A track that starts at a point of the twist follows an element of the extension by the
cocycle of lines: its product has the factor of the element, and its running multiple
denotes the point. Doubling squares the element and an addition multiplies it by a lift,
as long as the points are not opposite.
-/

namespace Groth16
namespace Pairing

theorem two_mul_half : (2 : Fq) * half = 1 := by
  have equal : FieldElement.double half = 1 := by decide +kernel
  rwa [FieldElement.double_eq] at equal

/-- The product with the value of a line. -/
theorem mulLine_eq
    (track : Track)
    (f : Fq12)
    (line : Line) :
    track.mulLine f line = f * lineValue track.px track.py line.c0 line.c1 line.c2 := by
  rw [Track.mulLine, Fq12.mulByLine_eq, Fq2.mulByBase_eq, Fq2.mulByBase_eq, lineValue]

theorem lineValue_scaled
    (px : Fq)
    {py : Fq}
    (nonzero : py ≠ 0)
    {factor : Fq2}
    (factor_ne : factor ≠ 0)
    (c1 c2 : Fq2) :
    lineValue px py factor (factor * c1) (factor * c2) ≠ 0 ∧
      finalUnit (lineValue px py factor (factor * c1) (factor * c2)) =
        finalUnit (lineValue px py 1 c1 c2) := by
  refine ⟨lineValue_ne_zero nonzero factor_ne _ _, ?_⟩
  have scaled := lineValue_mul px py factor 1 c1 c2
  rw [mul_one] at scaled
  rw [scaled, finalUnit_mul ((map_ne_zero _).mpr factor_ne)
    (lineValue_ne_zero nonzero one_ne_zero c1 c2), finalUnit_ofQuadratic, one_mul]

/-! ## Tangents -/

section Tangent

variable {R : G2.Projective} {x y slope : Fq2} {equation : y ^ 2 = x ^ 3 + Curve.g2.b}

theorem tangentStep_line
    (denotes : R.Denotes (Curve.point x y equation))
    (tangent : slope * (2 * y) = 3 * x ^ 2) :
    (tangentStep R).1 = ⟨-2 * y * R.z ^ 2, -2 * y * R.z ^ 2 * -slope,
      -2 * y * R.z ^ 2 * (slope * x - y)⟩ := by
  obtain ⟨zNonzero, xEq, yEq⟩ := ProjectivePoint.denotes_point_iff.mp denotes
  simp only [tangentStep, Fq2.square_eq, Fq2.double_eq, xEq, yEq, Line.mk.injEq]
  refine ⟨?_, ?_, ?_⟩
  · ring
  · linear_combination -R.z ^ 2 * tangent
  · linear_combination R.z ^ 2 * x * tangent - 3 * R.z ^ 2 * equation

/-- The factor of the tangent. -/
theorem tangent_factor_ne_zero
    (denotes : R.Denotes (Curve.point x y equation)) :
    -2 * y * R.z ^ 2 ≠ 0 := by
  rw [neg_mul, neg_mul]
  exact neg_ne_zero.mpr (mul_ne_zero (Curve.two_mul_y_ne_zero equation)
    (pow_ne_zero 2 (ProjectivePoint.denotes_point_iff.mp denotes).1))

theorem tangentStep_denotes
    (denotes : R.Denotes (Curve.point x y equation)) :
    (tangentStep R).2.Denotes (Curve.point x y equation + Curve.point x y equation) := by
  obtain ⟨zNonzero, xEq, yEq⟩ := ProjectivePoint.denotes_point_iff.mp denotes
  have yNonzero := Curve.y_ne_zero equation
  have two_ne : (2 : Fq2) ≠ 0 := Curve.Complete.two_ne_zero Curve.g2
  have halves : (2 : Fq2) * Fq2.ofBase half = 1 := by
    rw [← map_ofNat Fq2.ofBase, ← map_mul, two_mul_half, map_one]
  obtain ⟨slope, tangent⟩ := Curve.exists_tangent equation
  have xScaled : Fq2.ofBase half * (x * y) * (y ^ 2 - 9 * Curve.g2.b) =
      (slope ^ 2 - x - x) * (2 * y ^ 3) := by
    clear denotes xEq yEq
    generalize Fq2.ofBase half = t at halves ⊢
    grind
  have yScaled : (Fq2.ofBase half * (y ^ 2 + 9 * Curve.g2.b)) ^ 2 - 27 * Curve.g2.b ^ 2 =
      (slope * (x - (slope ^ 2 - x - x)) - y) * (2 * y ^ 3) := by
    clear denotes xEq yEq xScaled
    generalize Fq2.ofBase half = t at halves ⊢
    grind
  have zScaled : R.z ^ 4 * (2 * y ^ 3) ≠ 0 :=
    mul_ne_zero (pow_ne_zero 4 zNonzero) (mul_ne_zero two_ne (pow_ne_zero 3 yNonzero))
  rw [Curve.point_add_self equation tangent]
  refine ProjectivePoint.denotes_point_iff.mpr ⟨?_, ?_, ?_⟩ <;>
    simp only [tangentStep, Fq2.square_eq, Fq2.double_eq, Fq2.mulByBase_eq, xEq, yEq]
  · convert zScaled using 1
    ring
  · linear_combination R.z ^ 4 * xScaled
  · linear_combination R.z ^ 4 * yScaled

end Tangent

/-! ## Chords -/

section Chord

variable {R : G2.Projective} {x₁ y₁ x₂ y₂ slope : Fq2} {first : y₁ ^ 2 = x₁ ^ 3 + Curve.g2.b}

theorem chordStep_line
    (denotes : R.Denotes (Curve.point x₁ y₁ first))
    (chord : slope * (x₁ - x₂) = y₁ - y₂) :
    (chordStep R x₂ y₂).1 = ⟨R.z * (x₁ - x₂), R.z * (x₁ - x₂) * -slope,
      R.z * (x₁ - x₂) * (slope * x₁ - y₁)⟩ := by
  obtain ⟨zNonzero, xEq, yEq⟩ := ProjectivePoint.denotes_point_iff.mp denotes
  simp only [chordStep, xEq, yEq, Line.mk.injEq]
  refine ⟨?_, ?_, ?_⟩
  · ring
  · linear_combination R.z * chord
  · linear_combination -R.z * x₁ * chord

/-- The factor of the chord. -/
theorem chord_factor_ne_zero
    (denotes : R.Denotes (Curve.point x₁ y₁ first))
    (different : x₁ ≠ x₂) :
    R.z * (x₁ - x₂) ≠ 0 :=
  mul_ne_zero (ProjectivePoint.denotes_point_iff.mp denotes).1 (sub_ne_zero.mpr different)

theorem chordStep_denotes
    (second : y₂ ^ 2 = x₂ ^ 3 + Curve.g2.b)
    (denotes : R.Denotes (Curve.point x₁ y₁ first))
    (different : x₁ ≠ x₂) :
    (chordStep R x₂ y₂).2.Denotes
      (Curve.point x₁ y₁ first + Curve.point x₂ y₂ second) := by
  obtain ⟨zNonzero, xEq, yEq⟩ := ProjectivePoint.denotes_point_iff.mp denotes
  have nonzero : x₁ - x₂ ≠ 0 := sub_ne_zero.mpr different
  obtain ⟨slope, chord⟩ := Curve.exists_chord different y₁ y₂
  have zScaled : R.z ^ 4 * (x₁ - x₂) ^ 3 ≠ 0 :=
    mul_ne_zero (pow_ne_zero 4 zNonzero) (pow_ne_zero 3 nonzero)
  rw [Curve.point_add_of_ne first second different chord]
  refine ProjectivePoint.denotes_point_iff.mpr ⟨?_, ?_, ?_⟩ <;>
    simp only [chordStep, Fq2.square_eq, Fq2.double_eq, xEq, yEq,
      show y₁ * R.z - y₂ * R.z = slope * (x₁ - x₂) * R.z by rw [chord]; ring]
  · convert zScaled using 1
    ring
  · ring
  · ring

end Chord

/-! ## One track -/

/-- The track with another running multiple. -/
def withMultiple (track : Track) (multiple : G2.Projective) : Track := { track with multiple }

theorem withMultiple_px (track : Track) (multiple : G2.Projective) :
    (withMultiple track multiple).px = track.px := rfl

theorem withMultiple_py (track : Track) (multiple : G2.Projective) :
    (withMultiple track multiple).py = track.py := rfl

theorem withMultiple_qx (track : Track) (multiple : G2.Projective) :
    (withMultiple track multiple).qx = track.qx := rfl

theorem withMultiple_qy (track : Track) (multiple : G2.Projective) :
    (withMultiple track multiple).qy = track.qy := rfl

theorem withMultiple_multiple (track : Track) (multiple : G2.Projective) :
    (withMultiple track multiple).multiple = multiple := rfl

theorem withMultiple_withMultiple (track : Track) (multiple next : G2.Projective) :
    withMultiple (withMultiple track multiple) next = withMultiple track next := rfl

theorem double_eq (track : Track) :
    track.double =
      ((tangentStep track.multiple).1, withMultiple track (tangentStep track.multiple).2) := rfl

theorem add_eq (x y : Fq2) (track : Track) :
    track.add x y =
      ((chordStep track.multiple x y).1, withMultiple track (chordStep track.multiple x y).2) :=
  rfl

/-- Moves a track by a step and multiplies the value of its line into its own product. -/
def moveTrack (step : Track → Line × Track) (state : Fq12 × Track) : Fq12 × Track :=
  ((step state.2).2.mulLine state.1 (step state.2).1, (step state.2).2)

theorem moveTrack_eq
    {step : Track → Line × Track}
    {track : Track}
    {line : Line}
    {multiple : G2.Projective}
    (moves : step track = (line, withMultiple track multiple))
    (product : Fq12) :
    moveTrack step (product, track) =
      (product * lineValue track.px track.py line.c0 line.c1 line.c2,
        withMultiple track multiple) := by
  rw [moveTrack, moves, mulLine_eq, withMultiple_px, withMultiple_py]

/-- The track of a pair of finite points, whose state follows an element: its product has the
factor of the element and its running multiple denotes the point. -/
structure TrackFollows
    {px py : Fq}
    (equation : py ^ 2 = px ^ 3 + Curve.g1.b)
    (qx qy : Fq2)
    (element : Cocycle.Extension (finiteCocycle equation))
    (state : Fq12 × Track) : Prop where
  coordinates : state.2.px = px ∧ state.2.py = py ∧ state.2.qx = qx ∧ state.2.qy = qy
  nonzero : state.1 ≠ 0
  factor : finalUnit state.1 = element.factor
  denotes : state.2.multiple.Denotes element.point

namespace TrackFollows

variable {px py : Fq} {equation : py ^ 2 = px ^ 3 + Curve.g1.b} {qx qy : Fq2}
variable {element : Cocycle.Extension (finiteCocycle equation)}
variable {product : Fq12} {track : Track}

/-- A step with the line and the multiple of an element. -/
theorem move
    (follows : TrackFollows equation qx qy element (product, track))
    {step : Track → Line × Track}
    {factor c1 c2 : Fq2}
    {multiple : G2.Projective}
    (moves : step track = (⟨factor, factor * c1, factor * c2⟩, withMultiple track multiple))
    (factor_ne : factor ≠ 0)
    {multiplier : Fq12}
    (multiplier_ne : multiplier ≠ 0)
    {next : Cocycle.Extension (finiteCocycle equation)}
    (nextFactor : finalUnit multiplier * finalUnit (lineValue px py 1 c1 c2) = next.factor)
    (nextPoint : multiple.Denotes next.point) :
    TrackFollows equation qx qy next (moveTrack step (multiplier, track)) := by
  obtain ⟨⟨pxEq, pyEq, qxEq, qyEq⟩, _, _, _⟩ := follows
  obtain ⟨lineNonzero, lineUnit⟩ := lineValue_scaled px (py_ne_zero equation) factor_ne c1 c2
  rw [moveTrack_eq moves]
  change track.px = px at pxEq
  change track.py = py at pyEq
  rw [pxEq, pyEq]
  refine ⟨⟨pxEq, pyEq, qxEq, qyEq⟩, mul_ne_zero multiplier_ne lineNonzero, ?_, nextPoint⟩
  rw [← nextFactor, ← lineUnit]
  exact finalUnit_mul multiplier_ne lineNonzero

/-- Squaring the product and doubling the running multiple squares the element. -/
theorem double
    (follows : TrackFollows equation qx qy element (product, track))
    (finite : element.point ≠ 0) :
    TrackFollows equation qx qy (element * element)
      (moveTrack Track.double (product.square, track)) := by
  have ⟨_, nonzero, factor, denotes⟩ := follows
  obtain ⟨x, y, onTwist, pointEq⟩ := (Curve.eq_zero_or_eq_point element.point).resolve_left finite
  have yNonzero := Curve.two_mul_y_ne_zero onTwist
  obtain ⟨slope, tangent⟩ := Curve.exists_tangent onTwist
  rw [pointEq] at denotes
  have moves := double_eq track
  rw [tangentStep_line denotes tangent] at moves
  rw [Fq12.square_eq]
  refine follows.move moves (tangent_factor_ne_zero denotes) (pow_ne_zero 2 nonzero) ?_ ?_
  · rw [finalUnit_pow nonzero, Cocycle.Extension.mul_factor, pointEq, ← factor,
      finiteCocycle_slope equation onTwist onTwist (.tangent ⟨rfl, rfl⟩ yNonzero tangent), pow_two]
  · rw [Cocycle.Extension.mul_point, pointEq]
    exact tangentStep_denotes denotes

/-- Adding a point that is not opposite or equal multiplies the element by its lift. -/
theorem add
    (follows : TrackFollows equation qx qy element (product, track))
    {x y : Fq2}
    (onTwist : y ^ 2 = x ^ 3 + Curve.g2.b)
    (finite : element.point ≠ 0)
    (different : element.point ≠ Curve.point x y onTwist)
    (opposite : element.point ≠ -Curve.point x y onTwist) :
    TrackFollows equation qx qy
      (element * Cocycle.Extension.lift _ (Curve.point x y onTwist))
      (moveTrack (Track.add x y) (product, track)) := by
  have ⟨_, nonzero, factor, denotes⟩ := follows
  obtain ⟨x₁, y₁, first, pointEq⟩ := (Curve.eq_zero_or_eq_point element.point).resolve_left finite
  rw [pointEq] at denotes different opposite
  have xDifferent : x₁ ≠ x := Curve.x_ne_of_apart different opposite
  obtain ⟨slope, chord⟩ := Curve.exists_chord xDifferent y₁ y
  have moves := add_eq x y track
  rw [chordStep_line denotes chord] at moves
  refine follows.move moves (chord_factor_ne_zero denotes xDifferent) nonzero ?_ ?_
  · rw [Cocycle.Extension.mul_factor, Cocycle.Extension.lift_factor,
      Cocycle.Extension.lift_point, pointEq, ← factor, mul_one,
      finiteCocycle_slope equation first onTwist (.chord xDifferent chord)]
  · rw [Cocycle.Extension.mul_point, Cocycle.Extension.lift_point, pointEq]
    exact chordStep_denotes onTwist denotes xDifferent

end TrackFollows

end Pairing
end Groth16
