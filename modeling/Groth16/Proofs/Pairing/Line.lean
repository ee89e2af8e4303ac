import Groth16.Proofs.Curve.Weierstrass

/-!
# Lines through points

The line through two points and the vertical line through their sum are functions on the
curve with known zeros: the ideals of functions that vanish at points multiply by them. So
the products of lines that lead to the sum of three points in the two orders differ by a
constant.
-/

namespace Groth16
namespace Curve

open WeierstrassCurve.Affine (CoordinateRing)
open scoped Polynomial

variable {K : Type} [Field K] {C : Curve K}

/-- The vertical line through a point; at the identity it is constant. -/
noncomputable def vertical : C.Point → CoordinateRing C.weierstrass
  | .zero => 1
  | .some x _ _ => CoordinateRing.XClass C.weierstrass x

/-- The ideal of the functions that vanish at a point. -/
noncomputable def vanishing : C.Point → Ideal (CoordinateRing C.weierstrass)
  | .zero => ⊤
  | .some x y _ => CoordinateRing.XYIdeal C.weierstrass x (Polynomial.C y)

@[simp] theorem vertical_zero : vertical (0 : C.Point) = 1 := rfl

@[simp] theorem vanishing_zero : vanishing (0 : C.Point) = ⊤ := rfl

theorem vertical_ne_zero
    (A : C.Point) :
    vertical A ≠ 0 := by
  cases A with
  | zero => exact one_ne_zero
  | some x y nonsingular => exact CoordinateRing.XClass_ne_zero x

theorem vanishing_neg_mul
    (A : C.Point) :
    vanishing (-A) * vanishing A = Ideal.span {vertical A} := by
  cases A with
  | zero =>
      rw [← WeierstrassCurve.Affine.Point.zero_def, WeierstrassCurve.Affine.Point.neg_zero,
        vanishing_zero, vertical_zero, Ideal.span_singleton_one, Ideal.top_mul]
  | some x y nonsingular => exact CoordinateRing.XYIdeal_neg_mul nonsingular

variable [DecidableEq K]

/-- The line through two points: the chord, the tangent if they are equal, and the vertical
line if they are opposite or one is the identity. -/
noncomputable def line : C.Point → C.Point → CoordinateRing C.weierstrass
  | .zero, B => vertical B
  | A, .zero => vertical A
  | .some x₁ y₁ _, .some x₂ y₂ _ =>
      if x₁ = x₂ ∧ y₁ = C.weierstrass.negY x₂ y₂ then
        CoordinateRing.XClass C.weierstrass x₁
      else
        CoordinateRing.YClass C.weierstrass
          (WeierstrassCurve.Affine.linePolynomial x₁ y₁ (C.weierstrass.slope x₁ x₂ y₁ y₂))

@[simp] theorem line_zero_left
    (A : C.Point) :
    line 0 A = vertical A := by
  cases A <;> rfl

@[simp] theorem line_zero_right
    (A : C.Point) :
    line A 0 = vertical A := by
  cases A <;> rfl

theorem line_opposite
    {x y : K}
    (first : C.weierstrass.Nonsingular x (C.weierstrass.negY x y))
    (second : C.weierstrass.Nonsingular x y) :
    line (.some _ _ first) (.some _ _ second) = CoordinateRing.XClass C.weierstrass x :=
  if_pos ⟨rfl, rfl⟩

theorem line_of_not_opposite
    {x₁ y₁ x₂ y₂ : K}
    {first : C.weierstrass.Nonsingular x₁ y₁}
    {second : C.weierstrass.Nonsingular x₂ y₂}
    (opposite : ¬(x₁ = x₂ ∧ y₁ = C.weierstrass.negY x₂ y₂)) :
    line (.some _ _ first) (.some _ _ second) =
      CoordinateRing.YClass C.weierstrass
        (WeierstrassCurve.Affine.linePolynomial x₁ y₁ (C.weierstrass.slope x₁ x₂ y₁ y₂)) :=
  if_neg opposite

/-- The line vanishes at both points, and at the negative of their sum. -/
theorem span_vertical_mul
    (A B : C.Point) :
    Ideal.span {vertical (A + B)} * (vanishing A * vanishing B) =
      Ideal.span {line A B} * vanishing (A + B) := by
  cases A with
  | zero =>
      rw [← WeierstrassCurve.Affine.Point.zero_def, zero_add, vanishing_zero, Ideal.top_mul,
        line_zero_left]
  | some x₁ y₁ first =>
      cases B with
      | zero =>
          rw [← WeierstrassCurve.Affine.Point.zero_def, add_zero, vanishing_zero, Ideal.mul_top,
            line_zero_right]
      | some x₂ y₂ second =>
          by_cases opposite : x₁ = x₂ ∧ y₁ = C.weierstrass.negY x₂ y₂
          · obtain ⟨rfl, rfl⟩ := opposite
            rw [WeierstrassCurve.Affine.Point.add_of_Y_eq rfl rfl, vertical_zero, vanishing_zero,
              Ideal.span_singleton_one, Ideal.top_mul, Ideal.mul_top, line_opposite]
            exact CoordinateRing.XYIdeal_neg_mul second
          · rw [WeierstrassCurve.Affine.Point.add_some opposite, line_of_not_opposite opposite]
            exact CoordinateRing.XYIdeal_mul_XYIdeal first.left second.left opposite

omit [DecidableEq K] in
/-- Two functions with the same zeros differ by a unit. -/
theorem associated_of_span_mul_vanishing
    {f g : CoordinateRing C.weierstrass}
    {A : C.Point}
    (equal : Ideal.span {f} * vanishing A = Ideal.span {g} * vanishing A) :
    Associated f g := by
  have product := congrArg (· * vanishing (-A)) equal
  simp only [mul_assoc, mul_comm (vanishing A), vanishing_neg_mul,
    Ideal.span_singleton_mul_span_singleton] at product
  rw [Ideal.span_singleton_eq_span_singleton] at product
  exact product.of_mul_right (Associated.refl _) (vertical_ne_zero A)

theorem line_comm
    (A B : C.Point) :
    Associated (line A B) (line B A) := by
  apply associated_of_span_mul_vanishing (A := A + B)
  rw [← span_vertical_mul, mul_comm (vanishing A), add_comm A B, span_vertical_mul]

/-- The lines to the sum of three points in the two orders. -/
theorem line_mul_line
    (A B D : C.Point) :
    Associated (line A B * line (A + B) D * vertical (B + D))
      (line B D * line A (B + D) * vertical (A + B)) := by
  apply associated_of_span_mul_vanishing (A := A + B + D)
  have left := span_vertical_mul (A + B) D
  have right := span_vertical_mul A (B + D)
  have first := span_vertical_mul A B
  have second := span_vertical_mul B D
  rw [← add_assoc] at right
  simp only [← Ideal.span_singleton_mul_span_singleton]
  calc Ideal.span {line A B} * Ideal.span {line (A + B) D} * Ideal.span {vertical (B + D)} *
        vanishing (A + B + D)
      = Ideal.span {line A B} * Ideal.span {vertical (B + D)} *
          (Ideal.span {line (A + B) D} * vanishing (A + B + D)) := by ring
    _ = Ideal.span {vertical (A + B + D)} * Ideal.span {vertical (B + D)} * vanishing D *
          (Ideal.span {line A B} * vanishing (A + B)) := by rw [← left]; ring
    _ = Ideal.span {vertical (A + B + D)} * Ideal.span {vertical (A + B)} * vanishing A *
          (Ideal.span {vertical (B + D)} * (vanishing B * vanishing D)) := by rw [← first]; ring
    _ = Ideal.span {line B D} * Ideal.span {vertical (A + B)} *
          (Ideal.span {vertical (A + B + D)} * (vanishing A * vanishing (B + D))) := by
        rw [second]; ring
    _ = _ := by rw [right]; ring

/-! ## Lines by their slopes -/

section Slope

variable [Complete C] {x₁ y₁ x₂ y₂ slope : K}

theorem line_of_slope
    (first : y₁ ^ 2 = x₁ ^ 3 + C.b)
    (second : y₂ ^ 2 = x₂ ^ 3 + C.b)
    (isSlope : IsSlope x₁ y₁ x₂ y₂ slope) :
    line (point x₁ y₁ first) (point x₂ y₂ second) =
      CoordinateRing.YClass C.weierstrass
        (WeierstrassCurve.Affine.linePolynomial x₁ y₁ slope) := by
  cases isSlope with
  | chord different equation =>
      rw [point, point, line_of_not_opposite (fun opposite => different opposite.1),
        WeierstrassCurve.Affine.slope_of_X_ne different, ← equation,
        mul_div_cancel_right₀ _ (sub_ne_zero.mpr different)]
  | tangent same nonzero equation =>
      obtain ⟨rfl, rfl⟩ := same
      rw [point, line_of_not_opposite (fun opposite => y_ne_negY first opposite.2),
        slope_tangent first equation]

theorem line_neg
    (A : C.Point) :
    line A (-A) = vertical A := by
  rcases eq_zero_or_eq_point A with rfl | ⟨x, y, equation, rfl⟩
  · rw [neg_zero, line_zero_left]
  · rw [neg_point, point, point, line, if_pos ⟨rfl, by rw [negY_eq, neg_neg]⟩]
    rfl

theorem line_of_opposite
    {A B : C.Point}
    (opposite : A = 0 ∨ B = 0 ∨ B = -A) :
    ∃ D, line A B = vertical D := by
  rcases opposite with rfl | rfl | rfl
  · exact ⟨B, line_zero_left B⟩
  · exact ⟨A, line_zero_right A⟩
  · exact ⟨A, line_neg A⟩

end Slope

omit [DecidableEq K] in
/-- The units of the coordinate ring are the constants. -/
theorem eq_constant_of_isUnit
    {f : CoordinateRing C.weierstrass}
    (unit : IsUnit f) :
    ∃ constant : K, constant ≠ 0 ∧ f = algebraMap K _ constant := by
  obtain ⟨p, q, rfl⟩ := CoordinateRing.exists_smul_basis_eq f
  have degree : (Algebra.norm K[X] (p • (1 : CoordinateRing C.weierstrass) +
      q • CoordinateRing.mk C.weierstrass Polynomial.X)).degree =
        max (2 • p.degree) (2 • q.degree + 3) :=
    CoordinateRing.degree_norm_smul_basis p q
  rw [Polynomial.degree_eq_zero_of_isUnit (unit.map (Algebra.norm K[X]))] at degree
  have qZero : q = 0 := by
    by_contra nonzero
    rw [Polynomial.degree_eq_natDegree nonzero] at degree
    have le : 2 • (q.natDegree : WithBot ℕ) + 3 ≤ 0 := degree ▸ le_max_right _ _
    norm_cast at le
  have pNonzero : p ≠ 0 := by
    rintro rfl
    rw [qZero, zero_smul, zero_smul, add_zero] at unit
    exact not_isUnit_zero unit
  have pDegree : p.degree = 0 := by
    rw [qZero, Polynomial.degree_zero, Polynomial.degree_eq_natDegree pNonzero] at degree
    have natDegree : 2 * p.natDegree = 0 := by
      have bottom : (2 • (⊥ : WithBot ℕ) + 3) = ⊥ := rfl
      rw [bottom, max_bot_right, nsmul_eq_mul] at degree
      exact_mod_cast degree.symm
    rw [Polynomial.degree_eq_natDegree pNonzero]
    norm_cast
    omega
  have constant := Polynomial.eq_C_of_degree_eq_zero pDegree
  refine ⟨p.coeff 0, ?_, ?_⟩
  · intro zero
    rw [zero, Polynomial.C_0] at constant
    exact pNonzero constant
  · rw [qZero, zero_smul, add_zero, IsScalarTower.algebraMap_apply K K[X],
      ← Polynomial.C_eq_algebraMap, ← constant, Algebra.algebraMap_eq_smul_one]

end Curve
end Groth16
