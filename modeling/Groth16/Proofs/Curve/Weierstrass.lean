import Groth16.Curve.Basic
import Mathlib.AlgebraicGeometry.EllipticCurve.Affine.Point
import Mathlib.Tactic.LinearCombination

/-!
# The group of a curve

The points of a curve form the group of a short Weierstrass curve. On a curve without points
of order two each point has a tangent that is not vertical, so sums are given by slopes.
-/

namespace Groth16

variable {F : Type} [Field F]

namespace Curve

/-- The curve as a Weierstrass curve. -/
def weierstrass (C : Curve F) : WeierstrassCurve.Affine F := ⟨0, 0, 0, 0, C.b⟩

/-- The group of points of the curve. -/
abbrev Point (C : Curve F) := C.weierstrass.Point

/-- A curve without points of order two, on which the complete formulas are complete. -/
class Complete (C : Curve F) : Prop where
  two_ne_zero : (2 : F) ≠ 0
  three_ne_zero : (3 : F) ≠ 0
  b3_eq : C.b3 = 3 * C.b
  cube_add_ne_zero : ∀ x : F, x ^ 3 + C.b ≠ 0

variable {C : Curve F}

@[simp] theorem weierstrass_a₁ : C.weierstrass.a₁ = 0 := rfl
@[simp] theorem weierstrass_a₂ : C.weierstrass.a₂ = 0 := rfl
@[simp] theorem weierstrass_a₃ : C.weierstrass.a₃ = 0 := rfl
@[simp] theorem weierstrass_a₄ : C.weierstrass.a₄ = 0 := rfl
@[simp] theorem weierstrass_a₆ : C.weierstrass.a₆ = C.b := rfl

theorem equation_iff
    (x y : F) :
    C.weierstrass.Equation x y ↔ y ^ 2 = x ^ 3 + C.b := by
  simp [WeierstrassCurve.Affine.equation_iff]

@[simp] theorem negY_eq
    (x y : F) :
    C.weierstrass.negY x y = -y := by
  simp [WeierstrassCurve.Affine.negY]

@[simp] theorem addX_eq
    (x₁ x₂ slope : F) :
    C.weierstrass.addX x₁ x₂ slope = slope ^ 2 - x₁ - x₂ := by
  simp [WeierstrassCurve.Affine.addX]

@[simp] theorem addY_eq
    (x₁ x₂ y₁ slope : F) :
    C.weierstrass.addY x₁ x₂ y₁ slope = -(slope * (slope ^ 2 - x₁ - x₂ - x₁) + y₁) := by
  simp [WeierstrassCurve.Affine.addY, WeierstrassCurve.Affine.negAddY]

theorem neg_equation
    {x y : F}
    (equation : y ^ 2 = x ^ 3 + C.b) :
    (-y) ^ 2 = x ^ 3 + C.b := by
  rw [neg_sq, equation]

theorem eq_or_eq_neg
    {x y₁ y₂ : F}
    (first : y₁ ^ 2 = x ^ 3 + C.b)
    (second : y₂ ^ 2 = x ^ 3 + C.b) :
    y₁ = y₂ ∨ y₁ = -y₂ :=
  sq_eq_sq_iff_eq_or_eq_neg.mp (first.trans second.symm)

/-- The slope of the line through two points with different first coordinates. -/
theorem exists_chord
    {x₁ x₂ : F}
    (different : x₁ ≠ x₂)
    (y₁ y₂ : F) :
    ∃ slope, slope * (x₁ - x₂) = y₁ - y₂ :=
  ⟨(y₁ - y₂) / (x₁ - x₂), div_mul_cancel₀ _ (sub_ne_zero.mpr different)⟩

theorem chord_equation
    {x₁ y₁ x₂ y₂ slope : F}
    (first : y₁ ^ 2 = x₁ ^ 3 + C.b)
    (second : y₂ ^ 2 = x₂ ^ 3 + C.b)
    (different : x₁ ≠ x₂)
    (chord : slope * (x₁ - x₂) = y₁ - y₂) :
    (slope * (x₁ - (slope ^ 2 - x₁ - x₂)) - y₁) ^ 2 =
      (slope ^ 2 - x₁ - x₂) ^ 3 + C.b := by
  have nonzero : x₁ - x₂ ≠ 0 := sub_ne_zero.mpr different
  grind

variable [Complete C]

theorem y_ne_zero
    {x y : F}
    (equation : y ^ 2 = x ^ 3 + C.b) :
    y ≠ 0 := by
  intro zero
  apply Complete.cube_add_ne_zero (C := C) x
  rw [← equation, zero, zero_pow two_ne_zero]

theorem two_mul_y_ne_zero
    {x y : F}
    (equation : y ^ 2 = x ^ 3 + C.b) :
    2 * y ≠ 0 :=
  mul_ne_zero (Complete.two_ne_zero C) (y_ne_zero equation)

/-- The slope of the tangent, which is never vertical. -/
theorem exists_tangent
    {x y : F}
    (equation : y ^ 2 = x ^ 3 + C.b) :
    ∃ slope, slope * (2 * y) = 3 * x ^ 2 :=
  ⟨3 * x ^ 2 / (2 * y), div_mul_cancel₀ _ (two_mul_y_ne_zero equation)⟩

theorem nonsingular_iff
    (x y : F) :
    C.weierstrass.Nonsingular x y ↔ y ^ 2 = x ^ 3 + C.b := by
  rw [WeierstrassCurve.Affine.nonsingular_iff, equation_iff]
  constructor
  · exact fun nonsingular => nonsingular.1
  · intro equation
    refine ⟨equation, Or.inr fun double => ?_⟩
    have twice : 2 * y = 0 := by
      rw [two_mul]
      nth_rewrite 1 [double]
      simp
    exact two_mul_y_ne_zero equation twice

/-- The point with the given coordinates. -/
def point
    (x y : F)
    (equation : y ^ 2 = x ^ 3 + C.b) : C.Point :=
  .some x y ((nonsingular_iff x y).mpr equation)

theorem point_ne_zero
    {x y : F}
    (equation : y ^ 2 = x ^ 3 + C.b) :
    point x y equation ≠ 0 :=
  WeierstrassCurve.Affine.Point.some_ne_zero _

theorem point_eq_point
    {x₁ y₁ x₂ y₂ : F}
    {first : y₁ ^ 2 = x₁ ^ 3 + C.b}
    {second : y₂ ^ 2 = x₂ ^ 3 + C.b} :
    point x₁ y₁ first = point x₂ y₂ second ↔ x₁ = x₂ ∧ y₁ = y₂ := by
  rw [point, point, WeierstrassCurve.Affine.Point.some.injEq]

/-- A point is the identity or has coordinates. -/
theorem eq_zero_or_eq_point
    (A : C.Point) :
    A = 0 ∨ ∃ x y, ∃ equation : y ^ 2 = x ^ 3 + C.b, A = point x y equation := by
  cases A with
  | zero => exact Or.inl rfl
  | some x y nonsingular =>
      exact Or.inr ⟨x, y, (nonsingular_iff x y).mp nonsingular, rfl⟩

theorem neg_point
    {x y : F}
    (equation : y ^ 2 = x ^ 3 + C.b) :
    -point x y equation = point x (-y) (neg_equation equation) := by
  simp [point]

/-- Points that are neither equal nor opposite have different first coordinates. -/
theorem x_ne_of_apart
    {x₁ y₁ x₂ y₂ : F}
    {first : y₁ ^ 2 = x₁ ^ 3 + C.b}
    {second : y₂ ^ 2 = x₂ ^ 3 + C.b}
    (different : point x₁ y₁ first ≠ point x₂ y₂ second)
    (opposite : point x₁ y₁ first ≠ -point x₂ y₂ second) :
    x₁ ≠ x₂ := by
  rintro rfl
  rcases eq_or_eq_neg first second with rfl | rfl
  · exact different rfl
  · exact opposite (neg_point second).symm

theorem tangent_equation
    {x y slope : F}
    (equation : y ^ 2 = x ^ 3 + C.b)
    (tangent : slope * (2 * y) = 3 * x ^ 2) :
    (slope * (x - (slope ^ 2 - x - x)) - y) ^ 2 = (slope ^ 2 - x - x) ^ 3 + C.b := by
  have nonzero : 2 * y ≠ 0 := two_mul_y_ne_zero equation
  grind

variable [DecidableEq F]

/-- The sum of two points with different first coordinates, by the slope of the chord. -/
theorem point_add_of_ne
    {x₁ y₁ x₂ y₂ slope : F}
    (first : y₁ ^ 2 = x₁ ^ 3 + C.b)
    (second : y₂ ^ 2 = x₂ ^ 3 + C.b)
    (different : x₁ ≠ x₂)
    (chord : slope * (x₁ - x₂) = y₁ - y₂) :
    point x₁ y₁ first + point x₂ y₂ second =
      point (slope ^ 2 - x₁ - x₂) (slope * (x₁ - (slope ^ 2 - x₁ - x₂)) - y₁)
        (chord_equation first second different chord) := by
  have slope_eq : C.weierstrass.slope x₁ x₂ y₁ y₂ = slope := by
    rw [WeierstrassCurve.Affine.slope_of_X_ne different, ← chord,
      mul_div_cancel_right₀ _ (sub_ne_zero.mpr different)]
  rw [point, point, WeierstrassCurve.Affine.Point.add_of_X_ne different, point,
    WeierstrassCurve.Affine.Point.some.injEq, slope_eq]
  refine ⟨addX_eq _ _ _, ?_⟩
  rw [addY_eq]
  ring

omit [DecidableEq F] in
theorem y_ne_negY
    {x y : F}
    (equation : y ^ 2 = x ^ 3 + C.b) :
    y ≠ C.weierstrass.negY x y := by
  rw [negY_eq]
  intro equal
  apply two_mul_y_ne_zero equation
  rw [two_mul]
  nth_rewrite 1 [equal]
  exact neg_add_cancel y

theorem slope_tangent
    {x y slope : F}
    (equation : y ^ 2 = x ^ 3 + C.b)
    (tangent : slope * (2 * y) = 3 * x ^ 2) :
    C.weierstrass.slope x x y y = slope := by
  have nonzero : 2 * y ≠ 0 := two_mul_y_ne_zero equation
  rw [WeierstrassCurve.Affine.slope_of_Y_ne rfl (y_ne_negY equation), negY_eq,
    eq_comm, eq_div_iff (by rw [sub_neg_eq_add, ← two_mul]; exact nonzero)]
  rw [sub_neg_eq_add, ← two_mul, tangent]
  simp

/-- The sum of a point with itself, by the slope of the tangent. -/
theorem point_add_self
    {x y slope : F}
    (equation : y ^ 2 = x ^ 3 + C.b)
    (tangent : slope * (2 * y) = 3 * x ^ 2) :
    point x y equation + point x y equation =
      point (slope ^ 2 - x - x) (slope * (x - (slope ^ 2 - x - x)) - y)
        (tangent_equation equation tangent) := by
  rw [point, WeierstrassCurve.Affine.Point.add_self_of_Y_ne (y_ne_negY equation), point,
    WeierstrassCurve.Affine.Point.some.injEq, slope_tangent equation tangent]
  refine ⟨addX_eq _ _ _, ?_⟩
  rw [addY_eq]
  ring

/-! ## Sums by slopes -/

/-- The slope of the line through two points that are not opposite. -/
inductive IsSlope (x₁ y₁ x₂ y₂ slope : F) : Prop
  | chord
      (different : x₁ ≠ x₂)
      (equation : slope * (x₁ - x₂) = y₁ - y₂)
  | tangent
      (same : x₁ = x₂ ∧ y₁ = y₂)
      (nonzero : 2 * y₁ ≠ 0)
      (equation : slope * (2 * y₁) = 3 * x₁ ^ 2)

section Slope

variable {x₁ y₁ x₂ y₂ slope : F}

omit [Complete C] [DecidableEq F] in
/-- The first coordinates of the three points of a line are the roots of a cubic, given here
with a second unknown that makes it homogeneous. -/
theorem IsSlope.product
    {b : F}
    (isSlope : IsSlope x₁ y₁ x₂ y₂ slope)
    (first : y₁ ^ 2 = x₁ ^ 3 + b)
    (second : y₂ ^ 2 = x₂ ^ 3 + b)
    (scale offset : F) :
    (scale * x₁ + offset) * (scale * x₂ + offset) *
        (scale * (slope ^ 2 - x₁ - x₂) + offset) =
      offset ^ 3 - b * scale ^ 3 +
        scale * (scale * (y₁ - slope * x₁) - offset * slope) ^ 2 := by
  cases isSlope with
  | chord different equation =>
      have nonzero : x₁ - x₂ ≠ 0 := sub_ne_zero.mpr different
      have quadratic : x₁ * x₂ + (x₁ + x₂) * (slope ^ 2 - x₁ - x₂) =
          -2 * slope * (y₁ - slope * x₁) := by
        grind
      have constant : x₁ * x₂ * (slope ^ 2 - x₁ - x₂) = (y₁ - slope * x₁) ^ 2 - b := by
        grind
      linear_combination scale ^ 2 * offset * quadratic + scale ^ 3 * constant
  | tangent same nonzero equation =>
      obtain ⟨rfl, rfl⟩ := same
      have quadratic : x₁ * x₁ + (x₁ + x₁) * (slope ^ 2 - x₁ - x₁) =
          -2 * slope * (y₁ - slope * x₁) := by
        grind
      have constant : x₁ * x₁ * (slope ^ 2 - x₁ - x₁) = (y₁ - slope * x₁) ^ 2 - b := by
        grind
      linear_combination scale ^ 2 * offset * quadratic + scale ^ 3 * constant

omit [Complete C] [DecidableEq F] in
/-- Both points lie on the line. -/
theorem IsSlope.second
    (isSlope : IsSlope x₁ y₁ x₂ y₂ slope) :
    y₂ = slope * (x₂ - x₁) + y₁ := by
  cases isSlope with
  | chord different equation => linear_combination equation
  | tangent same nonzero equation =>
      rw [same.1, same.2]
      ring

/-- The sum of two points that are not opposite, by the slope. -/
theorem add_of_slope
    (first : y₁ ^ 2 = x₁ ^ 3 + C.b)
    (second : y₂ ^ 2 = x₂ ^ 3 + C.b)
    (isSlope : IsSlope x₁ y₁ x₂ y₂ slope) :
    ∃ equation, point x₁ y₁ first + point x₂ y₂ second =
      point (slope ^ 2 - x₁ - x₂) (slope * (x₁ - (slope ^ 2 - x₁ - x₂)) - y₁) equation := by
  cases isSlope with
  | chord different equation => exact ⟨_, point_add_of_ne first second different equation⟩
  | tangent same nonzero equation =>
      obtain ⟨rfl, rfl⟩ := same
      exact ⟨_, point_add_self first equation⟩

omit [DecidableEq F] in
theorem exists_slope
    (first : y₁ ^ 2 = x₁ ^ 3 + C.b)
    (second : y₂ ^ 2 = x₂ ^ 3 + C.b)
    (opposite : point x₂ y₂ second ≠ -point x₁ y₁ first) :
    ∃ slope, IsSlope x₁ y₁ x₂ y₂ slope := by
  by_cases same : x₁ = x₂
  · subst same
    rcases eq_or_eq_neg second first with rfl | rfl
    · obtain ⟨slope, tangent⟩ := exists_tangent second
      exact ⟨slope, .tangent ⟨rfl, rfl⟩ (two_mul_y_ne_zero second) tangent⟩
    · exact absurd (neg_point first).symm opposite
  · obtain ⟨slope, chord⟩ := exists_chord same y₁ y₂
    exact ⟨slope, .chord same chord⟩

omit [DecidableEq F] in
/-- Two points are trivially joined by a vertical line, or they are joined by a slope. -/
theorem opposite_or_slope
    (A B : C.Point) :
    (A = 0 ∨ B = 0 ∨ B = -A) ∨
      ∃ x₁ y₁ x₂ y₂ slope, ∃ first : y₁ ^ 2 = x₁ ^ 3 + C.b, ∃ second : y₂ ^ 2 = x₂ ^ 3 + C.b,
        A = point x₁ y₁ first ∧ B = point x₂ y₂ second ∧ IsSlope x₁ y₁ x₂ y₂ slope := by
  rcases eq_zero_or_eq_point A with rfl | ⟨x₁, y₁, first, rfl⟩
  · exact Or.inl (Or.inl rfl)
  rcases eq_zero_or_eq_point B with rfl | ⟨x₂, y₂, second, rfl⟩
  · exact Or.inl (Or.inr (Or.inl rfl))
  by_cases opposite : point x₂ y₂ second = -point x₁ y₁ first
  · exact Or.inl (Or.inr (Or.inr opposite))
  · obtain ⟨slope, isSlope⟩ := exists_slope first second opposite
    exact Or.inr ⟨x₁, y₁, x₂, y₂, slope, first, second, rfl, rfl, isSlope⟩

end Slope

end Curve
end Groth16
