import Groth16.Pairing.Miller
import Groth16.Proofs.Curve.Endomorphism
import Groth16.Proofs.Pairing.Extension
import Groth16.Proofs.Pairing.FinalExponentiation
import Groth16.Proofs.Pairing.Line

/-!
# Values of lines form a cocycle

A point of `G1` is a point of the twist over the target field, at which the lines of the
twist have values. The final exponentiation sends the values of vertical lines and constant
factors to one, so the values of the lines through two points form a cocycle, on which the
endomorphism of the twist is a power.
-/

namespace Groth16

namespace Curve

open WeierstrassCurve.Affine (CoordinateRing)

variable {K L : Type} [Field K] [Field L] {C : Curve K}

section Evaluate

variable {ι : K →+* L} {X Y : L}

/-- The value of a function on the curve at a point over a larger field. -/
noncomputable def evaluate
    (equation : Y ^ 2 = X ^ 3 + ι C.b) : CoordinateRing C.weierstrass →+* L :=
  AdjoinRoot.lift (Polynomial.eval₂RingHom ι X) Y (by
    rw [WeierstrassCurve.Affine.polynomial]
    simp only [weierstrass_a₁, weierstrass_a₂, weierstrass_a₃, weierstrass_a₄, weierstrass_a₆]
    rw [Polynomial.eval₂_sub, Polynomial.eval₂_add, Polynomial.eval₂_mul, Polynomial.eval₂_C,
      Polynomial.eval₂_pow, Polynomial.eval₂_X, Polynomial.eval₂_C, equation]
    simp)

variable (equation : Y ^ 2 = X ^ 3 + ι C.b)

@[simp] theorem evaluate_algebraMap (constant : K) :
    evaluate equation (algebraMap K _ constant) = ι constant := by
  rw [IsScalarTower.algebraMap_apply K (Polynomial K) (CoordinateRing C.weierstrass),
    AdjoinRoot.algebraMap_eq, evaluate, AdjoinRoot.lift_of, ← Polynomial.C_eq_algebraMap]
  simp

@[simp] theorem evaluate_XClass (x : K) :
    evaluate equation (CoordinateRing.XClass C.weierstrass x) = X - ι x := by
  rw [CoordinateRing.XClass, evaluate]
  simp [CoordinateRing.mk]

@[simp] theorem evaluate_YClass (x y slope : K) :
    evaluate equation (CoordinateRing.YClass C.weierstrass
      (WeierstrassCurve.Affine.linePolynomial x y slope)) =
      Y - (ι slope * (X - ι x) + ι y) := by
  rw [CoordinateRing.YClass, evaluate]
  simp [CoordinateRing.mk, WeierstrassCurve.Affine.linePolynomial]

end Evaluate

end Curve

namespace Pairing

/-- The value of the line `c0 * y + c1 * x + c2` of the twist at a point of `G1`, up to the
factor that the final exponentiation forgets. -/
def lineValue (px py : Fq) (c0 c1 c2 : Fq2) : Fq12 :=
  Fq12.ofQuadratic (c0 * Fq2.ofBase py) + Fq12.ofQuadratic (c1 * Fq2.ofBase px) * Fq12.root +
    Fq12.ofQuadratic c2 * Fq12.root ^ 3

theorem lineValue_mul
    (px py : Fq)
    (factor c0 c1 c2 : Fq2) :
    lineValue px py (factor * c0) (factor * c1) (factor * c2) =
      Fq12.ofQuadratic factor * lineValue px py c0 c1 c2 := by
  simp only [lineValue, map_mul]
  ring

theorem lineValue_c0_c0
    (px py : Fq)
    (c0 c1 c2 : Fq2) :
    (lineValue px py c0 c1 c2).c0.c0 = c0 * Fq2.ofBase py := by
  rw [lineValue, pow_succ Fq12.root 2, Fq12.root_pow_two]
  simp [Fq12.ofQuadratic_apply]

theorem lineValue_ne_zero
    {px py : Fq}
    (nonzero : py ≠ 0)
    {c0 : Fq2}
    (leading : c0 ≠ 0)
    (c1 c2 : Fq2) :
    lineValue px py c0 c1 c2 ≠ 0 := by
  intro zero
  have coordinate := lineValue_c0_c0 px py c0 c1 c2
  rw [zero, Fq12.zero_c0, Fq6.zero_c0] at coordinate
  exact mul_ne_zero leading ((map_ne_zero Fq2.ofBase).mpr nonzero) coordinate.symm

section Finite

variable {px py : Fq} (equation : py ^ 2 = px ^ 3 + Curve.g1.b)

include equation

/-- A point of `G1` is a point of the twist over the target field. -/
theorem untwist_equation :
    (Fq12.ofBase py / Fq12.root ^ 3) ^ 2 =
      (Fq12.ofBase px / Fq12.root ^ 2) ^ 3 + Fq12.ofQuadratic Curve.g2.b := by
  have nonzero := pow_ne_zero 6 Fq12.root_ne_zero
  have image : Fq12.ofBase py ^ 2 = Fq12.ofBase px ^ 3 + 3 := by
    rw [← map_pow, equation, map_add, map_pow, G1.b_eq, map_ofNat]
  have constant : Fq12.root ^ 6 * Fq12.ofQuadratic Curve.g2.b = 3 := by
    rw [Fq12.root_pow_six, ← map_mul, G2.nonresidue_mul_b, map_ofNat]
  rw [div_pow, div_pow, ← pow_mul, ← pow_mul, div_add' _ _ _ nonzero, image, ← constant]
  ring

theorem px_ne_zero : px ≠ 0 := by
  rintro rfl
  apply G1.pow_two_ne_three py
  rw [equation, G1.b_eq, zero_pow three_ne_zero, zero_add, Nat.cast_ofNat]

theorem py_ne_zero : py ≠ 0 := Curve.y_ne_zero equation

/-- The value of a function on the twist at a point of `G1`. -/
noncomputable def valueAt :
    WeierstrassCurve.Affine.CoordinateRing Curve.g2.weierstrass →+* Fq12 :=
  Curve.evaluate (untwist_equation equation)

theorem valueAt_constant (constant : Fq2) :
    valueAt equation (algebraMap Fq2 _ constant) = Fq12.ofQuadratic constant :=
  Curve.evaluate_algebraMap _ constant

theorem valueAt_line
    (x y slope : Fq2) :
    Fq12.root ^ 3 * valueAt equation (WeierstrassCurve.Affine.CoordinateRing.YClass
      Curve.g2.weierstrass (WeierstrassCurve.Affine.linePolynomial x y slope)) =
      lineValue px py 1 (-slope) (slope * x - y) := by
  have nonzero := Fq12.root_ne_zero
  rw [valueAt, Curve.evaluate_YClass, lineValue, one_mul, map_mul, map_sub, map_mul, map_neg,
    ← Fq12.ofBase_apply, ← Fq12.ofBase_apply]
  field_simp
  ring

/-- The value of a vertical line lies in the sextic extension. -/
theorem valueAt_vertical
    (A : Curve.g2.Point) :
    ∃ value : Fq6, value ≠ 0 ∧ valueAt equation (Curve.vertical A) = Fq12.ofSextic value := by
  rcases Curve.eq_zero_or_eq_point A with rfl | ⟨x, y, onTwist, rfl⟩
  · exact ⟨1, one_ne_zero, by rw [Curve.vertical_zero, map_one, map_one]⟩
  · refine ⟨Fq6.ofQuadratic (Fq2.ofBase px) / Fq6.root - Fq6.ofQuadratic x, ?_, ?_⟩
    · intro zero
      have root_ne : Fq6.root ≠ 0 := fun equal => Fq6.pow_two_ne_root 0 (by rw [equal]; ring)
      rw [sub_eq_zero, div_eq_iff root_ne] at zero
      have coordinate := congrArg Fq6.c0 zero
      simp only [Fq6.ofQuadratic_c0, Fq6.mul_c0, Fq6.ofQuadratic_c1, Fq6.ofQuadratic_c2,
        Fq6.root_c0, Fq6.root_c1, Fq6.root_c2] at coordinate
      apply (map_ne_zero Fq2.ofBase).mpr (px_ne_zero equation)
      rw [coordinate]
      ring
    · rw [valueAt, Curve.point, Curve.vertical, Curve.evaluate_XClass, map_sub, map_div₀,
        ← Fq12.root_pow_two, Fq12.ofBase_apply]
      rfl

theorem valueAt_vertical_ne_zero
    (A : Curve.g2.Point) :
    valueAt equation (Curve.vertical A) ≠ 0 := by
  obtain ⟨value, nonzero, equal⟩ := valueAt_vertical equation A
  rw [equal]
  exact (map_ne_zero _).mpr nonzero

theorem finalUnit_vertical
    (A : Curve.g2.Point) :
    finalUnit (valueAt equation (Curve.vertical A)) = 1 := by
  obtain ⟨value, _, equal⟩ := valueAt_vertical equation A
  rw [equal, finalUnit_ofSextic]

theorem valueAt_line_ne_zero
    (A B : Curve.g2.Point) :
    valueAt equation (Curve.line A B) ≠ 0 := by
  rcases Curve.opposite_or_slope A B with
    opposite | ⟨x₁, y₁, x₂, y₂, slope, first, second, rfl, rfl, isSlope⟩
  · obtain ⟨D, vertical⟩ := Curve.line_of_opposite opposite
    rw [vertical]
    exact valueAt_vertical_ne_zero equation D
  · rw [Curve.line_of_slope first second isSlope]
    intro zero
    have value := valueAt_line equation x₁ y₁ slope
    rw [zero, mul_zero] at value
    exact lineValue_ne_zero (py_ne_zero equation) one_ne_zero _ _ value.symm

/-- Functions that differ by a constant are sent to the same unit. -/
theorem finalUnit_of_associated
    {f g : WeierstrassCurve.Affine.CoordinateRing Curve.g2.weierstrass}
    (nonzero : valueAt equation f ≠ 0)
    (associated : Associated f g) :
    finalUnit (valueAt equation f) = finalUnit (valueAt equation g) := by
  obtain ⟨unit, rfl⟩ := associated
  obtain ⟨constant, constant_ne, equal⟩ := Curve.eq_constant_of_isUnit unit.isUnit
  rw [equal, map_mul, valueAt_constant, finalUnit_mul nonzero ((map_ne_zero _).mpr constant_ne),
    finalUnit_ofQuadratic, mul_one]

/-- The values of lines at a point of `G1` form a cocycle on the twist. -/
noncomputable def finiteCocycle : Cocycle Curve.g2.Point Fq12ˣ where
  value A B := finalUnit (valueAt equation (Curve.line A B))
  comm A B := finalUnit_of_associated equation (valueAt_line_ne_zero equation A B)
    (Curve.line_comm A B)
  assoc A B D := by
    have nonzero := valueAt_line_ne_zero equation
    have verticalNonzero := valueAt_vertical_ne_zero equation
    have equal := finalUnit_of_associated equation (f := Curve.line A B * Curve.line (A + B) D *
      Curve.vertical (B + D)) (by
        rw [map_mul, map_mul]
        exact mul_ne_zero (mul_ne_zero (nonzero _ _) (nonzero _ _)) (verticalNonzero _))
      (Curve.line_mul_line A B D)
    simpa only [map_mul, finalUnit_mul (mul_ne_zero (nonzero _ _) (nonzero _ _))
      (verticalNonzero _), finalUnit_mul (nonzero _ _) (nonzero _ _), finalUnit_vertical,
      mul_one] using equal
  zero A := by rw [Curve.line_zero_left, finalUnit_vertical]
  neg A := by rw [Curve.line_neg, finalUnit_vertical]

/-- The cocycle at points that are joined by a line with a slope. -/
theorem finiteCocycle_slope
    {x₁ y₁ x₂ y₂ slope : Fq2}
    (first : y₁ ^ 2 = x₁ ^ 3 + Curve.g2.b)
    (second : y₂ ^ 2 = x₂ ^ 3 + Curve.g2.b)
    (isSlope : Curve.IsSlope x₁ y₁ x₂ y₂ slope) :
    (finiteCocycle equation).value (Curve.point x₁ y₁ first) (Curve.point x₂ y₂ second) =
      finalUnit (lineValue px py 1 (-slope) (slope * x₁ - y₁)) := by
  have nonzero := valueAt_line_ne_zero equation (Curve.point x₁ y₁ first)
    (Curve.point x₂ y₂ second)
  change finalUnit (valueAt equation (Curve.line _ _)) = _
  rw [Curve.line_of_slope first second isSlope] at nonzero ⊢
  rw [← valueAt_line equation, finalUnit_mul (pow_ne_zero 3 Fq12.root_ne_zero) nonzero,
    finalUnit_pow Fq12.root_ne_zero, finalUnit_root, one_pow, one_mul]

end Finite

/-- The cocycle of a point of `G1`; the one of the identity is trivial. -/
noncomputable def lineCocycle : Curve.g1.Point → Cocycle Curve.g2.Point Fq12ˣ
  | .zero => 1
  | .some px py nonsingular => finiteCocycle ((Curve.nonsingular_iff px py).mp nonsingular)

theorem lineCocycle_point
    {px py : Fq}
    (equation : py ^ 2 = px ^ 3 + Curve.g1.b) :
    lineCocycle (Curve.point px py equation) = finiteCocycle equation := rfl

@[simp] theorem lineCocycle_zero : lineCocycle 0 = 1 := rfl

theorem lineCocycle_pow_groupOrder
    (P : Curve.g1.Point)
    (A B : Curve.g2.Point) :
    (lineCocycle P).value A B ^ groupOrder = 1 := by
  rcases Curve.eq_zero_or_eq_point P with rfl | ⟨px, py, equation, rfl⟩
  · rw [lineCocycle_zero, Cocycle.one_value, one_pow]
  · exact finalUnit_pow_groupOrder _

/-- The endomorphism is the power map on the values of lines. -/
theorem lineValue_endomorphism
    (px py : Fq)
    (c1 c2 : Fq2) :
    lineValue px py 1 (G2.rootFactor * c1.conjugate) (G2.rootFactor ^ 3 * c2.conjugate) =
      lineValue px py 1 c1 c2 ^ baseModulus := by
  have power (x : Fq2) : Fq12.ofQuadratic x ^ baseModulus = Fq12.ofQuadratic x.conjugate := by
    rw [← map_pow, ← toNat_modulus_base_eq, Fq2.pow_modulus]
  have root_power : Fq12.root ^ baseModulus = Fq12.root * Fq12.ofQuadratic G2.rootFactor := by
    rw [← toNat_modulus_base_eq, Fq12.root_pow_modulus, G2.rootFactor]
  have add_power (x y : Fq12) : (x + y) ^ baseModulus = x ^ baseModulus + y ^ baseModulus := by
    rw [← toNat_modulus_base_eq, add_pow_char]
  simp only [lineValue, one_mul, add_power, mul_pow, pow_right_comm Fq12.root, root_power, power,
    ← Fq2.conjugateHom_apply, map_mul]
  simp only [Fq2.conjugateHom_apply, Fq2.conjugate_ofBase, map_pow]
  ring

theorem lineCocycle_endomorphism
    (P : Curve.g1.Point)
    (A B : Curve.g2.Point) :
    (lineCocycle P).value (G2.endomorphism A) (G2.endomorphism B) =
      (lineCocycle P).value A B ^ baseModulus := by
  rcases Curve.eq_zero_or_eq_point P with rfl | ⟨px, py, equation, rfl⟩
  · rw [lineCocycle_zero, Cocycle.one_value, Cocycle.one_value, one_pow]
  rcases Curve.opposite_or_slope A B with
    opposite | ⟨x₁, y₁, x₂, y₂, slope, first, second, rfl, rfl, isSlope⟩
  · have image : G2.endomorphism A = 0 ∨ G2.endomorphism B = 0 ∨
        G2.endomorphism B = -G2.endomorphism A := by
      rcases opposite with rfl | rfl | rfl
      · exact Or.inl (map_zero _)
      · exact Or.inr (Or.inl (map_zero _))
      · exact Or.inr (Or.inr (map_neg _ _))
    rw [Cocycle.eq_one_of_opposite _ opposite, Cocycle.eq_one_of_opposite _ image, one_pow]
  · rw [lineCocycle_point, G2.endomorphism_point, G2.endomorphism_point,
      finiteCocycle_slope equation first second isSlope,
      finiteCocycle_slope equation (G2.frobenius_equation first) (G2.frobenius_equation second)
        (isSlope.twist Fq2.conjugateHom (Curve.scale_ne_zero G2.b_eq)),
      ← finalUnit_pow (lineValue_ne_zero (py_ne_zero equation) one_ne_zero _ _),
      ← lineValue_endomorphism]
    congr 2
    · rw [← Fq2.conjugateHom_apply, map_neg, mul_neg]
    · simp only [← Fq2.conjugateHom_apply, map_sub, map_mul]
      ring

end Pairing
end Groth16
