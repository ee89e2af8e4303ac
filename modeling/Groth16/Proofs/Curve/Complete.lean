import Groth16.Proofs.Curve.Weierstrass

/-!
# The complete formulas compute the group law

A projective point denotes an element of the group of its curve. The complete formulas for
the sum and for the double respect what their arguments denote: off the diagonals the third
coordinate of a sum is, up to a unit, the second coordinate of the difference of the points,
which does not vanish without points of order two.
-/

namespace Groth16

variable {F : Type} [Field F] {C : Curve F}

namespace ProjectivePoint

/-- The projective form denotes a point: the identity is at infinity on the second axis, and
the coordinates of any other point are the quotients by the third one. -/
inductive Denotes
    (P : ProjectivePoint C) : C.Point → Prop
  | infinite
      (xZero : P.x = 0)
      (yNonzero : P.y ≠ 0)
      (zZero : P.z = 0) : Denotes P .zero
  | finite
      {x y : F}
      {nonsingular : C.weierstrass.Nonsingular x y}
      (zNonzero : P.z ≠ 0)
      (xEq : P.x = x * P.z)
      (yEq : P.y = y * P.z) : Denotes P (.some x y nonsingular)

theorem denotes_zero_iff
    {P : ProjectivePoint C} :
    P.Denotes 0 ↔ P.x = 0 ∧ P.y ≠ 0 ∧ P.z = 0 := by
  constructor
  · rintro ⟨xZero, yNonzero, zZero⟩
    exact ⟨xZero, yNonzero, zZero⟩
  · rintro ⟨xZero, yNonzero, zZero⟩
    exact .infinite xZero yNonzero zZero

theorem denotes_identity : (identity : ProjectivePoint C).Denotes 0 :=
  denotes_zero_iff.mpr ⟨rfl, one_ne_zero, rfl⟩

variable [Curve.Complete C]

theorem denotes_point_iff
    {P : ProjectivePoint C}
    {x y : F}
    {equation : y ^ 2 = x ^ 3 + C.b} :
    P.Denotes (Curve.point x y equation) ↔ P.z ≠ 0 ∧ P.x = x * P.z ∧ P.y = y * P.z := by
  constructor
  · intro denotes
    rw [Curve.point] at denotes
    cases denotes with
    | finite zNonzero xEq yEq => exact ⟨zNonzero, xEq, yEq⟩
  · rintro ⟨zNonzero, xEq, yEq⟩
    exact .finite zNonzero xEq yEq

theorem Denotes.unique
    {P : ProjectivePoint C}
    {A B : C.Point}
    (left : P.Denotes A)
    (right : P.Denotes B) :
    A = B := by
  rcases Curve.eq_zero_or_eq_point A with rfl | ⟨x₁, y₁, first, rfl⟩ <;>
    rcases Curve.eq_zero_or_eq_point B with rfl | ⟨x₂, y₂, second, rfl⟩
  · rfl
  · exact absurd (denotes_zero_iff.mp left).2.2 (denotes_point_iff.mp right).1
  · exact absurd (denotes_zero_iff.mp right).2.2 (denotes_point_iff.mp left).1
  · obtain ⟨nonzero, xLeft, yLeft⟩ := denotes_point_iff.mp left
    obtain ⟨_, xRight, yRight⟩ := denotes_point_iff.mp right
    rw [Curve.point_eq_point]
    exact ⟨mul_right_cancel₀ nonzero (xLeft.symm.trans xRight),
      mul_right_cancel₀ nonzero (yLeft.symm.trans yRight)⟩

theorem Denotes.neg
    {P : ProjectivePoint C}
    {A : C.Point}
    (denotes : P.Denotes A) :
    P.neg.Denotes (-A) := by
  rcases Curve.eq_zero_or_eq_point A with rfl | ⟨x, y, equation, rfl⟩
  · obtain ⟨xZero, yNonzero, zZero⟩ := denotes_zero_iff.mp denotes
    rw [WeierstrassCurve.Affine.Point.neg_zero]
    exact denotes_zero_iff.mpr ⟨xZero, neg_ne_zero.mpr yNonzero, zZero⟩
  · obtain ⟨nonzero, xEq, yEq⟩ := denotes_point_iff.mp denotes
    rw [Curve.neg_point]
    refine denotes_point_iff.mpr ⟨nonzero, xEq, ?_⟩
    change -P.y = -y * P.z
    rw [yEq, neg_mul]

theorem Denotes.add_of_zero
    {P Q : ProjectivePoint C}
    {A : C.Point}
    (left : P.Denotes 0)
    (right : Q.Denotes A) :
    (P.add Q).Denotes A := by
  obtain ⟨xZero, yNonzero, zZero⟩ := denotes_zero_iff.mp left
  rcases Curve.eq_zero_or_eq_point A with rfl | ⟨x, y, equation, rfl⟩
  · obtain ⟨xZero', yNonzero', zZero'⟩ := denotes_zero_iff.mp right
    have nonzero := pow_ne_zero 2 (mul_ne_zero yNonzero yNonzero')
    refine denotes_zero_iff.mpr ⟨?_, ?_, ?_⟩ <;>
      simp only [ProjectivePoint.add, xZero, zZero, xZero', zZero'] <;>
      grind
  · obtain ⟨zNonzero, xEq, yEq⟩ := denotes_point_iff.mp right
    have nonzero : P.y * Q.z * y ≠ 0 :=
      mul_ne_zero (mul_ne_zero yNonzero zNonzero) (Curve.y_ne_zero equation)
    refine denotes_point_iff.mpr ⟨?_, ?_, ?_⟩ <;>
      simp only [ProjectivePoint.add, xZero, zZero, xEq, yEq] <;>
      grind

omit [Curve.Complete C] in
theorem add_comm
    (P Q : ProjectivePoint C) :
    P.add Q = Q.add P := by
  simp only [ProjectivePoint.add, ProjectivePoint.mk.injEq]
  refine ⟨?_, ?_, ?_⟩ <;> ring

/-- The third coordinate of the sum does not vanish off the diagonals: it is the cube of
the difference of the first coordinates, times the second coordinate of a difference of points. -/
theorem chord_z_ne_zero
    {x₁ y₁ x₂ y₂ : F}
    (first : y₁ ^ 2 = x₁ ^ 3 + C.b)
    (second : y₂ ^ 2 = x₂ ^ 3 + C.b)
    (different : x₁ ≠ x₂) :
    (y₁ * y₂ + 3 * C.b) * (y₁ + y₂) + 3 * x₁ * x₂ * (x₁ * y₂ + x₂ * y₁) ≠ 0 := by
  have nonzero : x₁ - x₂ ≠ 0 := sub_ne_zero.mpr different
  obtain ⟨slope, chord⟩ := Curve.exists_chord different y₁ (-y₂)
  have equation := Curve.chord_equation first (Curve.neg_equation second) different chord
  have product : (y₁ * y₂ + 3 * C.b) * (y₁ + y₂) + 3 * x₁ * x₂ * (x₁ * y₂ + x₂ * y₁) =
      (x₂ - x₁) ^ 3 * (slope * (x₁ - (slope ^ 2 - x₁ - x₂)) - y₁) := by
    grind
  rw [product]
  exact mul_ne_zero (pow_ne_zero 3 (sub_ne_zero.mpr different.symm)) (Curve.y_ne_zero equation)

/-- The second coordinate of the sum of opposite points does not vanish. -/
theorem tangent_y_ne_zero
    {x y : F}
    (equation : y ^ 2 = x ^ 3 + C.b) :
    y ^ 4 + 18 * C.b * y ^ 2 - 27 * C.b ^ 2 ≠ 0 := by
  have nonzero : 2 * y ≠ 0 := Curve.two_mul_y_ne_zero equation
  obtain ⟨slope, tangent⟩ := Curve.exists_tangent equation
  have double := Curve.tangent_equation equation tangent
  have product : y ^ 4 + 18 * C.b * y ^ 2 - 27 * C.b ^ 2 =
      (2 * y) ^ 3 * (slope * (x - (slope ^ 2 - x - x)) - y) := by
    grind
  rw [product]
  exact mul_ne_zero (pow_ne_zero 3 nonzero) (Curve.y_ne_zero double)

variable [DecidableEq F]

theorem Denotes.add_of_ne
    {P Q : ProjectivePoint C}
    {x₁ y₁ x₂ y₂ : F}
    {first : y₁ ^ 2 = x₁ ^ 3 + C.b}
    {second : y₂ ^ 2 = x₂ ^ 3 + C.b}
    (left : P.Denotes (Curve.point x₁ y₁ first))
    (right : Q.Denotes (Curve.point x₂ y₂ second))
    (different : x₁ ≠ x₂) :
    (P.add Q).Denotes (Curve.point x₁ y₁ first + Curve.point x₂ y₂ second) := by
  obtain ⟨zLeft, xLeft, yLeft⟩ := denotes_point_iff.mp left
  obtain ⟨zRight, xRight, yRight⟩ := denotes_point_iff.mp right
  have nonzero : x₁ - x₂ ≠ 0 := sub_ne_zero.mpr different
  obtain ⟨slope, chord⟩ := Curve.exists_chord different y₁ y₂
  have zNonzero := chord_z_ne_zero first second different
  have xScaled : (x₁ * y₂ + x₂ * y₁) * (y₁ * y₂ - 3 * C.b) -
      3 * C.b * (y₁ + y₂) * (x₁ + x₂) =
      (slope ^ 2 - x₁ - x₂) *
        ((y₁ * y₂ + 3 * C.b) * (y₁ + y₂) + 3 * x₁ * x₂ * (x₁ * y₂ + x₂ * y₁)) := by
    clear left right zNonzero
    grind
  have yScaled : (y₁ * y₂ - 3 * C.b) * (y₁ * y₂ + 3 * C.b) +
      9 * C.b * x₁ * x₂ * (x₁ + x₂) =
      (slope * (x₁ - (slope ^ 2 - x₁ - x₂)) - y₁) *
        ((y₁ * y₂ + 3 * C.b) * (y₁ + y₂) + 3 * x₁ * x₂ * (x₁ * y₂ + x₂ * y₁)) := by
    clear left right zNonzero
    grind
  rw [Curve.point_add_of_ne first second different chord]
  refine denotes_point_iff.mpr ⟨?_, ?_, ?_⟩ <;>
    simp only [ProjectivePoint.add, xLeft, yLeft, xRight, yRight, Curve.Complete.b3_eq]
  · convert mul_ne_zero (pow_ne_zero 2 (mul_ne_zero zLeft zRight)) zNonzero using 1
    ring
  · linear_combination (P.z * Q.z) ^ 2 * xScaled
  · linear_combination (P.z * Q.z) ^ 2 * yScaled

theorem Denotes.add_self
    {P Q : ProjectivePoint C}
    {x y : F}
    {equation : y ^ 2 = x ^ 3 + C.b}
    (left : P.Denotes (Curve.point x y equation))
    (right : Q.Denotes (Curve.point x y equation)) :
    (P.add Q).Denotes (Curve.point x y equation + Curve.point x y equation) := by
  obtain ⟨zLeft, xLeft, yLeft⟩ := denotes_point_iff.mp left
  obtain ⟨zRight, xRight, yRight⟩ := denotes_point_iff.mp right
  have nonzero : 2 * y ≠ 0 := Curve.two_mul_y_ne_zero equation
  obtain ⟨slope, tangent⟩ := Curve.exists_tangent equation
  have scaled : (P.z * Q.z) ^ 2 * (2 * y) ^ 3 ≠ 0 :=
    mul_ne_zero (pow_ne_zero 2 (mul_ne_zero zLeft zRight)) (pow_ne_zero 3 nonzero)
  rw [Curve.point_add_self equation tangent]
  refine denotes_point_iff.mpr ⟨?_, ?_, ?_⟩ <;>
    simp only [ProjectivePoint.add, xLeft, yLeft, xRight, yRight, Curve.Complete.b3_eq]
  · convert scaled using 1
    grind
  · grind
  · grind

omit [DecidableEq F] in
theorem Denotes.add_neg_self
    {P Q : ProjectivePoint C}
    {x y : F}
    {equation : y ^ 2 = x ^ 3 + C.b}
    (left : P.Denotes (Curve.point x y equation))
    (right : Q.Denotes (Curve.point x (-y) (Curve.neg_equation equation))) :
    (P.add Q).Denotes 0 := by
  obtain ⟨zLeft, xLeft, yLeft⟩ := denotes_point_iff.mp left
  obtain ⟨zRight, xRight, yRight⟩ := denotes_point_iff.mp right
  have scaled : (P.z * Q.z) ^ 2 * (y ^ 4 + 18 * C.b * y ^ 2 - 27 * C.b ^ 2) ≠ 0 :=
    mul_ne_zero (pow_ne_zero 2 (mul_ne_zero zLeft zRight)) (tangent_y_ne_zero equation)
  refine denotes_zero_iff.mpr ⟨?_, ?_, ?_⟩ <;>
    simp only [ProjectivePoint.add, xLeft, yLeft, xRight, yRight, Curve.Complete.b3_eq]
  · ring
  · convert scaled using 1
    grind
  · ring

/-- The complete formula computes the sum. -/
theorem Denotes.add
    {P Q : ProjectivePoint C}
    {A B : C.Point}
    (left : P.Denotes A)
    (right : Q.Denotes B) :
    (P.add Q).Denotes (A + B) := by
  rcases Curve.eq_zero_or_eq_point A with rfl | ⟨x₁, y₁, first, rfl⟩
  · rw [zero_add]
    exact left.add_of_zero right
  rcases Curve.eq_zero_or_eq_point B with rfl | ⟨x₂, y₂, second, rfl⟩
  · rw [add_zero, ProjectivePoint.add_comm]
    exact right.add_of_zero left
  by_cases equal : x₁ = x₂
  · subst equal
    rcases Curve.eq_or_eq_neg second first with rfl | rfl
    · exact left.add_self right
    · rw [← Curve.neg_point first, add_neg_cancel]
      exact left.add_neg_self right
  · exact left.add_of_ne right equal

/-- The complete formula for doubling computes the sum of the point with itself. -/
theorem Denotes.double
    {P : ProjectivePoint C}
    {A : C.Point}
    (denotes : P.Denotes A) :
    P.double.Denotes (A + A) := by
  rcases Curve.eq_zero_or_eq_point A with rfl | ⟨x, y, equation, rfl⟩
  · obtain ⟨xZero, yNonzero, zZero⟩ := denotes_zero_iff.mp denotes
    have nonzero := pow_ne_zero 4 yNonzero
    rw [add_zero]
    refine denotes_zero_iff.mpr ⟨?_, ?_, ?_⟩ <;>
      simp only [ProjectivePoint.double, xZero, zZero] <;>
      grind
  · obtain ⟨zNonzero, xEq, yEq⟩ := denotes_point_iff.mp denotes
    have nonzero : 2 * y ≠ 0 := Curve.two_mul_y_ne_zero equation
    obtain ⟨slope, tangent⟩ := Curve.exists_tangent equation
    have scaled : P.z ^ 4 * (2 * y) ^ 3 ≠ 0 :=
      mul_ne_zero (pow_ne_zero 4 zNonzero) (pow_ne_zero 3 nonzero)
    rw [Curve.point_add_self equation tangent]
    refine denotes_point_iff.mpr ⟨?_, ?_, ?_⟩ <;>
      simp only [ProjectivePoint.double, xEq, yEq, Curve.Complete.b3_eq]
    · convert scaled using 1
      ring
    · grind
    · grind

end ProjectivePoint
end Groth16
