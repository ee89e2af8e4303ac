import Groth16.Proofs.Curve.Sum

/-!
# The group law on triples of coordinates

A triple of coordinates is on a curve when it is not zero and satisfies the homogeneous
equation. These triples are the ones that stand for a point. The formulas for sums, doubles,
negatives and differences take them to triples on the curve again, and what they compute is
the chord-and-tangent law of the points, with no exceptional case on either curve.
-/

namespace Groth16

section General

variable {F : Type} [Field F] {C : Curve F}

namespace ProjectivePoint

/-- The triple is not zero and satisfies the homogeneous equation of the curve. -/
structure IsOnCurve (P : ProjectivePoint C) : Prop where
  nonzero : ¬(P.x = 0 ∧ P.y = 0 ∧ P.z = 0)
  equation : P.y ^ 2 * P.z = P.x ^ 3 + C.b * P.z ^ 3

variable [Curve.Complete C] {P Q : ProjectivePoint C} {A : C.Point}

/-- A triple that stands for a point is on the curve. -/
theorem Denotes.isOnCurve
    (denotes : P.Denotes A) :
    P.IsOnCurve := by
  rcases Curve.eq_zero_or_eq_point A with rfl | ⟨x, y, equation, rfl⟩
  · obtain ⟨xZero, yNonzero, zZero⟩ := denotes_zero_iff.mp denotes
    refine ⟨fun zero => yNonzero zero.2.1, ?_⟩
    rw [xZero, zZero]
    ring
  · obtain ⟨zNonzero, xEq, yEq⟩ := denotes_point_iff.mp denotes
    refine ⟨fun zero => zNonzero zero.2.2, ?_⟩
    rw [xEq, yEq]
    linear_combination P.z ^ 3 * equation

/-- At infinity the equation leaves the identity alone, and elsewhere the quotients by the
third coordinate satisfy the affine equation. -/
theorem IsOnCurve.exists_denotes
    (onCurve : P.IsOnCurve) :
    ∃ A : C.Point, P.Denotes A := by
  obtain ⟨nonzero, equation⟩ := onCurve
  by_cases zZero : P.z = 0
  · have cube : P.x ^ 3 = 0 := by
      rw [zZero] at equation
      linear_combination -equation
    have xZero : P.x = 0 := pow_eq_zero_iff three_ne_zero |>.mp cube
    refine ⟨0, denotes_zero_iff.mpr ⟨xZero, ?_, zZero⟩⟩
    intro yZero
    exact nonzero ⟨xZero, yZero, zZero⟩
  · have affine : (P.y / P.z) ^ 2 = (P.x / P.z) ^ 3 + C.b := by
      field_simp
      linear_combination equation
    exact ⟨Curve.point _ _ affine, denotes_point_iff.mpr
      ⟨zZero, (div_mul_cancel₀ _ zZero).symm, (div_mul_cancel₀ _ zZero).symm⟩⟩

variable [DecidableEq F] [PartialInverse F]

/-- The point whose coordinates are the affine form of the triple. -/
def toPoint (P : ProjectivePoint C) : C.Point := P.toAffine.toPoint

variable [LawfulInverse F]

theorem Denotes.toPoint_eq
    (denotes : P.Denotes A) :
    P.toPoint = A := by
  rw [toPoint, denotes.toAffine, AffinePoint.toPoint_ofPoint]

theorem IsOnCurve.denotes_toPoint
    (onCurve : P.IsOnCurve) :
    P.Denotes P.toPoint := by
  obtain ⟨A, denotes⟩ := onCurve.exists_denotes
  rw [denotes.toPoint_eq]
  exact denotes

/-- The triple is on the curve and stands for the point, whose coordinates are its affine
form. -/
structure StandsFor
    (P : ProjectivePoint C)
    (A : C.Point) : Prop where
  isOnCurve : P.IsOnCurve
  denotes : P.Denotes A
  toAffine_eq : P.toAffine = .ofPoint A

omit [DecidableEq F] in
theorem Denotes.standsFor
    (denotes : P.Denotes A) :
    P.StandsFor A :=
  ⟨denotes.isOnCurve, denotes, denotes.toAffine⟩

/-- The formulas for two triples compute the group law of the points that they stand for: their
sum, also with the second one in affine form, the double, the negative and the difference. -/
structure ComputesGroupLaw (P Q : ProjectivePoint C) : Prop where
  left : P.StandsFor P.toPoint
  right : Q.StandsFor Q.toPoint
  add : (P.add Q).StandsFor (P.toPoint + Q.toPoint)
  addAffine : (P.addAffine Q.toAffine).StandsFor (P.toPoint + Q.toPoint)
  double : P.double.StandsFor (2 • P.toPoint)
  neg : P.neg.StandsFor (-P.toPoint)
  sub : (P.sub Q).StandsFor (P.toPoint - Q.toPoint)

/-- On a curve without points of order two the formulas have no exceptional case. -/
theorem IsOnCurve.computesGroupLaw
    (onCurveP : P.IsOnCurve)
    (onCurveQ : Q.IsOnCurve) :
    P.ComputesGroupLaw Q := by
  have left := onCurveP.denotes_toPoint
  have right := onCurveQ.denotes_toPoint
  have mixed : (P.addAffine Q.toAffine).Denotes (P.toPoint + Q.toPoint) := by
    rw [right.toAffine]
    exact left.addAffine
  have doubled : P.double.Denotes (2 • P.toPoint) := by
    rw [two_nsmul]
    exact left.double
  exact ⟨left.standsFor, right.standsFor, (left.add right).standsFor, mixed.standsFor,
    doubled.standsFor, left.neg.standsFor, (left.sub right).standsFor⟩

end ProjectivePoint
end General

namespace G2

/-- The constant of the twist as a quotient. -/
theorem b_eq_div : Curve.g2.b = 3 / ⟨9, 1⟩ := by
  have nonresidue_eq : Fq2.nonresidue = ⟨9, 1⟩ := by
    ext1
    · exact Fq2.nonresidue_c0
    · exact Fq2.nonresidue_c1
  rw [eq_div_iff, ← nonresidue_eq, mul_comm, nonresidue_mul_b]
  intro zero
  have coordinate := congrArg Fq2.c1 zero
  exact one_ne_zero coordinate

end G2

/-- The formulas compute the group law on both curves, for all triples on the curve, in any
representatives and in the subgroup or not. -/
theorem computesGroupLaw_g1_g2 :
    (Curve.g1.b = 3 ∧
        ∀ P Q : G1.Projective, P.IsOnCurve → Q.IsOnCurve → P.ComputesGroupLaw Q) ∧
      Curve.g2.b = 3 / ⟨9, 1⟩ ∧
        ∀ P Q : G2.Projective, P.IsOnCurve → Q.IsOnCurve → P.ComputesGroupLaw Q := by
  refine ⟨⟨G1.b_eq, ?_⟩, G2.b_eq_div, ?_⟩
  · intro P Q onCurveP onCurveQ
    exact onCurveP.computesGroupLaw onCurveQ
  · intro P Q onCurveP onCurveQ
    exact onCurveP.computesGroupLaw onCurveQ

/-- Opposite points in different representatives, and a point of the twist outside the subgroup
with itself. -/
theorem computesGroupLaw_opposite_outside :
    let P : G1.Projective := ⟨2, 4, 2⟩
    let Q : G1.Projective := ⟨1, -2, 1⟩
    let R : G2.Projective := (AffinePoint.ofPoint G2.outsidePoint).toProjective
    (P.IsOnCurve ∧ Q.IsOnCurve ∧ R.IsOnCurve) ∧
      P.ComputesGroupLaw Q ∧ R.ComputesGroupLaw R := by
  have two_ne : (2 : Fq) ≠ 0 := Curve.Complete.two_ne_zero Curve.g1
  have onCurveP : (⟨2, 4, 2⟩ : G1.Projective).IsOnCurve := by
    refine ⟨fun zero => two_ne zero.1, ?_⟩
    rw [G1.b_eq]
    norm_num
  have onCurveQ : (⟨1, -2, 1⟩ : G1.Projective).IsOnCurve := by
    refine ⟨fun zero => one_ne_zero zero.1, ?_⟩
    rw [G1.b_eq]
    norm_num
  have onCurveR := (AffinePoint.toProjective_denotes G2.outsidePoint).isOnCurve
  exact ⟨⟨onCurveP, onCurveQ, onCurveR⟩, computesGroupLaw_g1_g2.1.2 _ _ onCurveP onCurveQ,
    computesGroupLaw_g1_g2.2.2 _ _ onCurveR onCurveR⟩

end Groth16
