import Groth16.Proofs.Curve.Weierstrass
import Mathlib.Tactic.LinearCombination

/-!
# Changes of the curve

A homomorphism of fields followed by a change of the scale takes the points of one curve to
points of another and keeps sums: it takes chords to chords and tangents to tangents.
-/

namespace Groth16
namespace Curve

variable {K L : Type} [Field K] [Field L] {C : Curve K} {D : Curve L}

theorem twist_equation
    (σ : K →+* L)
    (scale : L)
    (b_eq : D.b = scale ^ 6 * σ C.b)
    {x y : K}
    (equation : y ^ 2 = x ^ 3 + C.b) :
    (scale ^ 3 * σ y) ^ 2 = (scale ^ 2 * σ x) ^ 3 + D.b := by
  have image : σ y ^ 2 = σ x ^ 3 + σ C.b := by
    rw [← map_pow, equation, map_add, map_pow]
  rw [b_eq]
  linear_combination scale ^ 6 * image

variable [Complete C] [Complete D]

/-- The image of a point under a homomorphism followed by a change of the scale. -/
def twistPoint
    (σ : K →+* L)
    (scale : L)
    (b_eq : D.b = scale ^ 6 * σ C.b) : C.Point → D.Point
  | .zero => 0
  | .some x y nonsingular =>
      point (scale ^ 2 * σ x) (scale ^ 3 * σ y)
        (twist_equation σ scale b_eq ((nonsingular_iff x y).mp nonsingular))

variable {σ : K →+* L} {scale : L} {b_eq : D.b = scale ^ 6 * σ C.b}

@[simp] theorem twistPoint_zero : twistPoint σ scale b_eq 0 = 0 := rfl

@[simp] theorem twistPoint_point
    {x y : K}
    (equation : y ^ 2 = x ^ 3 + C.b) :
    twistPoint σ scale b_eq (point x y equation) =
      point (scale ^ 2 * σ x) (scale ^ 3 * σ y) (twist_equation σ scale b_eq equation) := rfl

omit [Complete C] in
theorem scale_ne_zero
    (b_eq : D.b = scale ^ 6 * σ C.b) :
    scale ≠ 0 := by
  rintro rfl
  apply Complete.cube_add_ne_zero (C := D) 0
  rw [b_eq]
  ring

theorem twistPoint_neg
    (A : C.Point) :
    twistPoint σ scale b_eq (-A) = -twistPoint σ scale b_eq A := by
  rcases eq_zero_or_eq_point A with rfl | ⟨x, y, equation, rfl⟩
  · rfl
  · rw [neg_point, twistPoint_point, twistPoint_point, neg_point, point_eq_point, map_neg,
      mul_neg]
    exact ⟨rfl, rfl⟩

variable [DecidableEq K] [DecidableEq L]

omit [Complete C] [Complete D] [DecidableEq K] [DecidableEq L] in
/-- The image of a line has the image of the slope, changed by the scale. -/
theorem IsSlope.twist
    (σ : K →+* L)
    (nonzeroScale : scale ≠ 0)
    {x₁ y₁ x₂ y₂ slope : K}
    (isSlope : IsSlope x₁ y₁ x₂ y₂ slope) :
    IsSlope (scale ^ 2 * σ x₁) (scale ^ 3 * σ y₁) (scale ^ 2 * σ x₂) (scale ^ 3 * σ y₂)
      (scale * σ slope) := by
  cases isSlope with
  | chord different equation =>
      have image : σ slope * (σ x₁ - σ x₂) = σ y₁ - σ y₂ := by
        rw [← map_sub, ← map_sub, ← map_mul, equation]
      refine .chord (fun equal => different ?_) (by linear_combination scale ^ 3 * image)
      exact σ.injective (mul_left_cancel₀ (pow_ne_zero 2 nonzeroScale) equal)
  | tangent same nonzero equation =>
      have image : σ slope * (2 * σ y₁) = 3 * σ x₁ ^ 2 := by
        have equal := congrArg σ equation
        rwa [map_mul, map_mul, map_mul, map_pow, map_ofNat, map_ofNat] at equal
      have image_ne : 2 * (scale ^ 3 * σ y₁) ≠ 0 := by
        rw [mul_left_comm, ← map_ofNat σ, ← map_mul]
        exact mul_ne_zero (pow_ne_zero 3 nonzeroScale) ((map_ne_zero σ).mpr nonzero)
      refine .tangent ?_ image_ne (by linear_combination scale ^ 4 * image)
      rw [same.1, same.2]
      exact ⟨rfl, rfl⟩

theorem twistPoint_add
    (A B : C.Point) :
    twistPoint σ scale b_eq (A + B) =
      twistPoint σ scale b_eq A + twistPoint σ scale b_eq B := by
  rcases opposite_or_slope A B with
    (rfl | rfl | rfl) | ⟨x₁, y₁, x₂, y₂, slope, first, second, rfl, rfl, isSlope⟩
  · rw [zero_add, twistPoint_zero, zero_add]
  · rw [add_zero, twistPoint_zero, add_zero]
  · rw [add_neg_cancel, twistPoint_neg, add_neg_cancel, twistPoint_zero]
  · obtain ⟨_, sum⟩ := add_of_slope first second isSlope
    obtain ⟨_, imageSum⟩ := add_of_slope (twist_equation σ scale b_eq first)
      (twist_equation σ scale b_eq second) (isSlope.twist σ (scale_ne_zero b_eq))
    rw [sum, twistPoint_point, twistPoint_point, twistPoint_point, imageSum, point_eq_point]
    simp only [map_sub, map_mul, map_pow]
    constructor <;> ring

/-- A change of the curve, as a homomorphism of the groups of points. -/
def twist
    (σ : K →+* L)
    (scale : L)
    (b_eq : D.b = scale ^ 6 * σ C.b) : C.Point →+ D.Point where
  toFun := twistPoint σ scale b_eq
  map_zero' := twistPoint_zero
  map_add' := twistPoint_add

@[simp] theorem twist_point
    {x y : K}
    (equation : y ^ 2 = x ^ 3 + C.b) :
    twist σ scale b_eq (point x y equation) =
      point (scale ^ 2 * σ x) (scale ^ 3 * σ y) (twist_equation σ scale b_eq equation) := rfl

end Curve
end Groth16
