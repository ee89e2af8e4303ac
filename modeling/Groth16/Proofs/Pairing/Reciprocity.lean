import Groth16.Proofs.Pairing.Evaluation

/-!
# Lines through points of the first group

A line through two points of `G1` and a line through two points of the twist meet in one
point, so the products of the values of each at the three points of the other agree up to
the sign. After the final exponentiation, the cocycle of a sum of points of `G1` is the
product of their cocycles, up to the coboundary of the values of the line through them.
-/

namespace Groth16

namespace Curve

variable {L : Type} [Field L]

theorem IsSlope.map
    {K : Type} [Field K]
    (σ : K →+* L)
    {x₁ y₁ x₂ y₂ slope : K}
    (isSlope : IsSlope x₁ y₁ x₂ y₂ slope) :
    IsSlope (σ x₁) (σ y₁) (σ x₂) (σ y₂) (σ slope) := by
  have image := isSlope.twist σ (one_ne_zero (α := L))
  simpa only [one_pow, one_mul] using image

/-- Each line takes the same product of values at the three points of the other line. -/
theorem IsSlope.reciprocity
    {p₁ q₁ p₂ q₂ slope x₁ y₁ x₂ y₂ slope' b : L}
    (left : IsSlope p₁ q₁ p₂ q₂ slope)
    (right : IsSlope x₁ y₁ x₂ y₂ slope')
    (leftFirst : q₁ ^ 2 = p₁ ^ 3 + b)
    (leftSecond : q₂ ^ 2 = p₂ ^ 3 + b)
    (rightFirst : y₁ ^ 2 = x₁ ^ 3 + b)
    (rightSecond : y₂ ^ 2 = x₂ ^ 3 + b) :
    (q₁ - (slope' * (p₁ - x₁) + y₁)) * (q₂ - (slope' * (p₂ - x₁) + y₁)) *
        (-(slope * (p₁ - (slope ^ 2 - p₁ - p₂)) - q₁) -
          (slope' * (slope ^ 2 - p₁ - p₂ - x₁) + y₁)) =
      -((y₁ - (slope * (x₁ - p₁) + q₁)) * (y₂ - (slope * (x₂ - p₁) + q₁)) *
        (-(slope' * (x₁ - (slope' ^ 2 - x₁ - x₂)) - y₁) -
          (slope * (slope' ^ 2 - x₁ - x₂ - p₁) + q₁))) := by
  have leftProduct := left.product leftFirst leftSecond (slope - slope')
    (q₁ - slope * p₁ - (y₁ - slope' * x₁))
  have rightProduct := right.product rightFirst rightSecond (slope - slope')
    (q₁ - slope * p₁ - (y₁ - slope' * x₁))
  rw [left.second, right.second]
  linear_combination leftProduct - rightProduct

end Curve

namespace Pairing

/-- The value of a line of `G1` through a point with the given slope, at a point of the
twist. -/
def dualValue (p q slope : Fq) (x y : Fq2) : Fq12 :=
  Fq12.root ^ 3 * Fq12.ofQuadratic y -
    (Fq12.ofBase slope * (Fq12.root ^ 2 * Fq12.ofQuadratic x - Fq12.ofBase p) + Fq12.ofBase q)

theorem dualValue_eq (p q slope : Fq) (x y : Fq2) :
    dualValue p q slope x y = Fq12.ofSextic (Fq6.ofQuadratic (Fq2.ofBase slope) *
      (Fq6.ofQuadratic (Fq2.ofBase p) - Fq6.root * Fq6.ofQuadratic x) -
        Fq6.ofQuadratic (Fq2.ofBase q)) +
      Fq12.ofSextic (Fq6.root * Fq6.ofQuadratic y) * Fq12.root := by
  rw [dualValue, pow_succ Fq12.root 2, Fq12.root_pow_two]
  simp only [Fq12.ofBase_apply, Fq12.ofQuadratic_apply, map_sub, map_mul]
  ring

theorem dualValue_ne_zero
    (p q slope : Fq)
    (x : Fq2)
    {y : Fq2}
    (nonzero : y ≠ 0) :
    dualValue p q slope x y ≠ 0 := by
  intro zero
  rw [dualValue_eq] at zero
  have coordinate := congrArg (fun value => value.c1.c1) zero
  simp at coordinate
  exact nonzero coordinate

/-- The product of two conjugates over the sextic extension is sent to one. -/
theorem finalUnit_mul_finalUnit_of_conjugate
    {x y : Fq12}
    {a b : Fq6}
    (left : x ≠ 0)
    (right : y ≠ 0)
    (leftEq : x = Fq12.ofSextic a + Fq12.ofSextic b * Fq12.root)
    (rightEq : y = Fq12.ofSextic a - Fq12.ofSextic b * Fq12.root ∨
      y = Fq12.ofSextic b * Fq12.root - Fq12.ofSextic a) :
    finalUnit x * finalUnit y = 1 := by
  rw [← finalUnit_mul left right]
  rcases rightEq with rightEq | rightEq
  · have product : x * y = Fq12.ofSextic (a ^ 2 - b ^ 2 * Fq6.root) := by
      rw [leftEq, rightEq, map_sub, map_mul, map_pow, map_pow, ← Fq12.root_pow_two]
      ring
    rw [product, finalUnit_ofSextic]
  · have product : x * y = Fq12.ofSextic (b ^ 2 * Fq6.root - a ^ 2) := by
      rw [leftEq, rightEq, map_sub, map_mul, map_pow, map_pow, ← Fq12.root_pow_two]
      ring
    rw [product, finalUnit_ofSextic]

/-- The unit of the value of a line of `G1` at a point of the twist. -/
def dualUnit (p q slope : Fq) : Curve.g2.Point → Fq12ˣ
  | .zero => 1
  | .some x y _ => finalUnit (dualValue p q slope x y)

@[simp] theorem dualUnit_zero (p q slope : Fq) : dualUnit p q slope 0 = 1 := rfl

@[simp] theorem dualUnit_point
    (p q slope : Fq)
    {x y : Fq2}
    (equation : y ^ 2 = x ^ 3 + Curve.g2.b) :
    dualUnit p q slope (Curve.point x y equation) = finalUnit (dualValue p q slope x y) := rfl

theorem dualUnit_mul_neg
    (p q slope : Fq)
    (A : Curve.g2.Point) :
    dualUnit p q slope A * dualUnit p q slope (-A) = 1 := by
  rcases Curve.eq_zero_or_eq_point A with rfl | ⟨x, y, equation, rfl⟩
  · rw [neg_zero, dualUnit_zero, one_mul]
  · have nonzero := Curve.y_ne_zero equation
    rw [Curve.neg_point, dualUnit_point, dualUnit_point]
    apply finalUnit_mul_finalUnit_of_conjugate (dualValue_ne_zero p q slope x nonzero)
      (dualValue_ne_zero p q slope x (neg_ne_zero.mpr nonzero)) (dualValue_eq p q slope x y)
    left
    rw [dualValue_eq]
    simp only [map_sub, map_mul, map_neg]
    ring

theorem dualUnit_pow_groupOrder
    (p q slope : Fq)
    (A : Curve.g2.Point) :
    dualUnit p q slope A ^ groupOrder = 1 := by
  cases A with
  | zero => exact one_pow _
  | some x y nonsingular => exact finalUnit_pow_groupOrder _

/-- The endomorphism is the power map on the values of lines of `G1`. -/
theorem dualUnit_endomorphism
    (p q slope : Fq)
    (A : Curve.g2.Point) :
    dualUnit p q slope (G2.endomorphism A) = dualUnit p q slope A ^ baseModulus := by
  rcases Curve.eq_zero_or_eq_point A with rfl | ⟨x, y, equation, rfl⟩
  · rw [map_zero, dualUnit_zero, one_pow]
  · have power (z : Fq2) : Fq12.ofQuadratic z ^ baseModulus = Fq12.ofQuadratic z.conjugate := by
      rw [← map_pow, ← toNat_modulus_base_eq, Fq2.pow_modulus]
    have base_power (z : Fq) : Fq12.ofBase z ^ baseModulus = Fq12.ofBase z := by
      rw [Fq12.ofBase_apply, power, Fq2.conjugate_ofBase]
    have root_power : Fq12.root ^ baseModulus = Fq12.root * Fq12.ofQuadratic G2.rootFactor := by
      rw [← toNat_modulus_base_eq, Fq12.root_pow_modulus, G2.rootFactor]
    have sub_power (y z : Fq12) : (y - z) ^ baseModulus = y ^ baseModulus - z ^ baseModulus := by
      rw [← toNat_modulus_base_eq, sub_pow_char]
    have add_power (y z : Fq12) : (y + z) ^ baseModulus = y ^ baseModulus + z ^ baseModulus := by
      rw [← toNat_modulus_base_eq, add_pow_char]
    rw [G2.endomorphism_point, dualUnit_point, dualUnit_point,
      ← finalUnit_pow (dualValue_ne_zero p q slope x (Curve.y_ne_zero equation))]
    congr 1
    simp only [dualValue, sub_power, add_power, mul_pow, pow_right_comm Fq12.root, root_power,
      power, base_power, map_mul, map_pow]
    ring

theorem lineValue_slope
    (p q : Fq)
    (slope x y : Fq2) :
    lineValue p q 1 (-slope) (slope * x - y) =
      Fq12.ofBase q - (Fq12.root * Fq12.ofQuadratic slope *
        (Fq12.ofBase p - Fq12.root ^ 2 * Fq12.ofQuadratic x) +
          Fq12.root ^ 3 * Fq12.ofQuadratic y) := by
  simp only [lineValue, one_mul, map_mul, map_sub, map_neg, Fq12.ofBase_apply]
  ring

theorem finalUnit_lineValue_neg
    {p q : Fq}
    (nonzero : q ≠ 0)
    (c1 c2 : Fq2) :
    finalUnit (lineValue p q 1 c1 c2) * finalUnit (lineValue p (-q) 1 c1 c2) = 1 := by
  apply finalUnit_mul_finalUnit_of_conjugate
    (a := Fq6.ofQuadratic (Fq2.ofBase q))
    (b := Fq6.ofQuadratic (c1 * Fq2.ofBase p) + Fq6.root * Fq6.ofQuadratic c2)
    (lineValue_ne_zero nonzero one_ne_zero c1 c2)
    (lineValue_ne_zero (neg_ne_zero.mpr nonzero) one_ne_zero c1 c2)
  · rw [lineValue, pow_succ Fq12.root 2, Fq12.root_pow_two, one_mul]
    simp only [Fq12.ofQuadratic_apply, map_add, map_mul]
    ring
  · right
    rw [lineValue, pow_succ Fq12.root 2, Fq12.root_pow_two, one_mul]
    simp only [Fq12.ofQuadratic_apply, map_add, map_mul, map_neg]
    ring

/-- The cocycles of opposite points are inverse. -/
theorem lineCocycle_neg
    (P : Curve.g1.Point)
    (A B : Curve.g2.Point) :
    (lineCocycle P).value A B * (lineCocycle (-P)).value A B = 1 := by
  rcases Curve.eq_zero_or_eq_point P with rfl | ⟨p, q, equation, rfl⟩
  · rw [neg_zero, lineCocycle_zero, Cocycle.one_value, one_mul]
  rcases Curve.opposite_or_slope A B with
    opposite | ⟨x₁, y₁, x₂, y₂, slope, first, second, rfl, rfl, isSlope⟩
  · rw [Cocycle.eq_one_of_opposite _ opposite, Cocycle.eq_one_of_opposite _ opposite, one_mul]
  · rw [Curve.neg_point, lineCocycle_point, lineCocycle_point,
      finiteCocycle_slope _ first second isSlope, finiteCocycle_slope _ first second isSlope,
      finalUnit_lineValue_neg (Curve.y_ne_zero equation)]

section Slope

variable {p₁ q₁ p₂ q₂ slope : Fq}
variable {x₁ y₁ x₂ y₂ slope' : Fq2}

/-- The reciprocity of a line of `G1` and a line of the twist. -/
theorem lineValue_reciprocity
    (leftFirst : q₁ ^ 2 = p₁ ^ 3 + Curve.g1.b)
    (leftSecond : q₂ ^ 2 = p₂ ^ 3 + Curve.g1.b)
    (left : Curve.IsSlope p₁ q₁ p₂ q₂ slope)
    (rightFirst : y₁ ^ 2 = x₁ ^ 3 + Curve.g2.b)
    (rightSecond : y₂ ^ 2 = x₂ ^ 3 + Curve.g2.b)
    (right : Curve.IsSlope x₁ y₁ x₂ y₂ slope') :
    lineValue p₁ q₁ 1 (-slope') (slope' * x₁ - y₁) *
        lineValue p₂ q₂ 1 (-slope') (slope' * x₁ - y₁) *
        lineValue (slope ^ 2 - p₁ - p₂) (-(slope * (p₁ - (slope ^ 2 - p₁ - p₂)) - q₁)) 1
          (-slope') (slope' * x₁ - y₁) =
      -(dualValue p₁ q₁ slope x₁ y₁ * dualValue p₁ q₁ slope x₂ y₂ *
        dualValue p₁ q₁ slope (slope' ^ 2 - x₁ - x₂)
          (-(slope' * (x₁ - (slope' ^ 2 - x₁ - x₂)) - y₁))) := by
  have base {p q : Fq} (equation : q ^ 2 = p ^ 3 + Curve.g1.b) :
      Fq12.ofBase q ^ 2 = Fq12.ofBase p ^ 3 + 3 := by
    rw [← map_pow, equation, map_add, map_pow, G1.b_eq, map_ofNat]
  have quadratic {x y : Fq2} (equation : y ^ 2 = x ^ 3 + Curve.g2.b) :
      (Fq12.root ^ 3 * Fq12.ofQuadratic y) ^ 2 =
        (Fq12.root ^ 2 * Fq12.ofQuadratic x) ^ 3 + 3 := by
    have image : Fq12.ofQuadratic y ^ 2 =
        Fq12.ofQuadratic x ^ 3 + Fq12.ofQuadratic Curve.g2.b := by
      rw [← map_pow, equation, map_add, map_pow]
    have constant : Fq12.root ^ 6 * Fq12.ofQuadratic Curve.g2.b = 3 := by
      rw [Fq12.root_pow_six, ← map_mul, G2.nonresidue_mul_b, map_ofNat]
    linear_combination Fq12.root ^ 6 * image + constant
  have equal := (left.map Fq12.ofBase).reciprocity
    (right.twist Fq12.ofQuadratic Fq12.root_ne_zero) (base leftFirst) (base leftSecond)
    (quadratic rightFirst) (quadratic rightSecond)
  simp only [lineValue_slope, dualValue, map_sub, map_mul, map_neg, map_pow]
  linear_combination equal

/-- The cocycle of a sum of points that are joined by a slope. -/
theorem lineCocycle_slope
    (first : q₁ ^ 2 = p₁ ^ 3 + Curve.g1.b)
    (second : q₂ ^ 2 = p₂ ^ 3 + Curve.g1.b)
    (isSlope : Curve.IsSlope p₁ q₁ p₂ q₂ slope)
    (A B : Curve.g2.Point) :
    (lineCocycle (Curve.point p₁ q₁ first)).value A B *
        (lineCocycle (Curve.point p₂ q₂ second)).value A B * dualUnit p₁ q₁ slope (A + B) =
      (lineCocycle (Curve.point p₁ q₁ first + Curve.point p₂ q₂ second)).value A B *
        (dualUnit p₁ q₁ slope A * dualUnit p₁ q₁ slope B) := by
  rcases Curve.opposite_or_slope A B with
    opposite | ⟨x₁, y₁, x₂, y₂, slope', rightFirst, rightSecond, rfl, rfl, right⟩
  · rw [Cocycle.eq_one_of_opposite _ opposite, Cocycle.eq_one_of_opposite _ opposite,
      Cocycle.eq_one_of_opposite _ opposite, one_mul, one_mul, one_mul]
    rcases opposite with rfl | rfl | rfl
    · rw [zero_add, dualUnit_zero, one_mul]
    · rw [add_zero, dualUnit_zero, mul_one]
    · rw [add_neg_cancel, dualUnit_zero, dualUnit_mul_neg]
  · obtain ⟨onCurve, sum⟩ := Curve.add_of_slope first second isSlope
    obtain ⟨onTwist, twistSum⟩ := Curve.add_of_slope rightFirst rightSecond right
    have reciprocity := congrArg finalUnit
      (lineValue_reciprocity first second isSlope rightFirst rightSecond right)
    have sumInverse := finalUnit_lineValue_neg (p := slope ^ 2 - p₁ - p₂)
      (Curve.y_ne_zero onCurve) (-slope') (slope' * x₁ - y₁)
    have dualInverse := dualUnit_mul_neg p₁ q₁ slope (Curve.point _ _ onTwist)
    have lineNonzero {p q : Fq} (equation : q ^ 2 = p ^ 3 + Curve.g1.b) :
        lineValue p q 1 (-slope') (slope' * x₁ - y₁) ≠ 0 :=
      lineValue_ne_zero (Curve.y_ne_zero equation) one_ne_zero _ _
    have dualNonzero {x y : Fq2} (equation : y ^ 2 = x ^ 3 + Curve.g2.b) :=
      dualValue_ne_zero p₁ q₁ slope x (Curve.y_ne_zero equation)
    rw [finalUnit_neg (mul_ne_zero (mul_ne_zero (dualNonzero rightFirst)
        (dualNonzero rightSecond)) (dualNonzero (Curve.neg_equation onTwist))),
      finalUnit_mul (mul_ne_zero (lineNonzero first) (lineNonzero second))
        (lineNonzero (Curve.neg_equation onCurve)),
      finalUnit_mul (lineNonzero first) (lineNonzero second),
      finalUnit_mul (mul_ne_zero (dualNonzero rightFirst) (dualNonzero rightSecond))
        (dualNonzero (Curve.neg_equation onTwist)),
      finalUnit_mul (dualNonzero rightFirst) (dualNonzero rightSecond)] at reciprocity
    rw [Curve.neg_point, dualUnit_point, dualUnit_point] at dualInverse
    rw [sum, twistSum, lineCocycle_point, lineCocycle_point, lineCocycle_point,
      finiteCocycle_slope _ rightFirst rightSecond right,
      finiteCocycle_slope _ rightFirst rightSecond right,
      finiteCocycle_slope _ rightFirst rightSecond right, dualUnit_point, dualUnit_point,
      dualUnit_point]
    rw [eq_inv_of_mul_eq_one_right sumInverse, eq_inv_of_mul_eq_one_right dualInverse,
      mul_inv_eq_iff_eq_mul] at reciprocity
    rw [reciprocity, mul_right_comm, inv_mul_cancel_right, mul_comm]

end Slope

/-- The cocycle of a sum is the product of the cocycles, up to a coboundary on which the
endomorphism is the power map. -/
theorem lineCocycle_add
    (P P' : Curve.g1.Point) :
    ∃ d : Curve.g2.Point → Fq12ˣ,
      (∀ A B, ((lineCocycle P).mul (lineCocycle P')).value A B * d (A + B) =
        (lineCocycle (P + P')).value A B * (d A * d B)) ∧
      (∀ A, d (G2.endomorphism A) = d A ^ baseModulus) ∧
      ∀ A, d A ^ groupOrder = 1 := by
  rcases Curve.opposite_or_slope P P' with
    opposite | ⟨p₁, q₁, p₂, q₂, slope, first, second, rfl, rfl, isSlope⟩
  · refine ⟨fun _ => 1, fun A B => ?_, fun _ => (one_pow _).symm, fun _ => one_pow _⟩
    rw [mul_one, mul_one, mul_one, Cocycle.mul_value]
    rcases opposite with rfl | rfl | rfl
    · rw [zero_add, lineCocycle_zero, Cocycle.one_value, one_mul]
    · rw [add_zero, lineCocycle_zero, Cocycle.one_value, mul_one]
    · rw [add_neg_cancel, lineCocycle_zero, Cocycle.one_value, lineCocycle_neg]
  · exact ⟨dualUnit p₁ q₁ slope, lineCocycle_slope first second isSlope,
      dualUnit_endomorphism p₁ q₁ slope, dualUnit_pow_groupOrder p₁ q₁ slope⟩

end Pairing
end Groth16
