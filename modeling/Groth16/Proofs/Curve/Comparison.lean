import Groth16.Proofs.Curve.GroupLaw

/-!
# Comparison of triples of coordinates

Two triples on a curve stand for the same point when one is a nonzero multiple of the other.
Comparing them across the denominators decides this, as comparing their affine forms does. All
forms of the identity compare as equal, and different from every finite point. The zero triple,
which is on no curve, compares as equal with every triple, so on all triples comparison is no
equivalence.
-/

namespace Groth16

section General

variable {F : Type} [Field F] {C : Curve F}

namespace ProjectivePoint

/-- The first triple is a nonzero multiple of the second one. -/
def IsMultipleOf (P Q : ProjectivePoint C) : Prop :=
  ∃ factor : F, factor ≠ 0 ∧ P.x = factor * Q.x ∧ P.y = factor * Q.y ∧ P.z = factor * Q.z

/-- The triples on the curve. -/
abbrev OnCurve (C : Curve F) := {P : ProjectivePoint C // P.IsOnCurve}

section Denotation

variable [Curve.Complete C] {P Q : ProjectivePoint C} {A : C.Point}

/-- Multiples of a triple stand for the same point. -/
theorem IsMultipleOf.denotes
    (multiple : P.IsMultipleOf Q)
    (denotes : Q.Denotes A) :
    P.Denotes A := by
  obtain ⟨factor, nonzero, xEq, yEq, zEq⟩ := multiple
  rcases Curve.eq_zero_or_eq_point A with rfl | ⟨x, y, equation, rfl⟩
  · obtain ⟨xZero, yNonzero, zZero⟩ := denotes_zero_iff.mp denotes
    rw [denotes_zero_iff, xEq, yEq, zEq, xZero, zZero, mul_zero]
    exact ⟨rfl, mul_ne_zero nonzero yNonzero, rfl⟩
  · obtain ⟨zNonzero, xQuotient, yQuotient⟩ := denotes_point_iff.mp denotes
    rw [denotes_point_iff, xEq, yEq, zEq, xQuotient, yQuotient]
    exact ⟨mul_ne_zero nonzero zNonzero, mul_left_comm _ _ _, mul_left_comm _ _ _⟩

/-- Triples that stand for the same point are multiples of each other: at infinity by the quotient
of the second coordinates, and elsewhere by the quotient of the third ones. -/
theorem Denotes.isMultipleOf
    (left : P.Denotes A)
    (right : Q.Denotes A) :
    P.IsMultipleOf Q := by
  rcases Curve.eq_zero_or_eq_point A with rfl | ⟨x, y, equation, rfl⟩
  · obtain ⟨xLeft, yLeft, zLeft⟩ := denotes_zero_iff.mp left
    obtain ⟨xRight, yRight, zRight⟩ := denotes_zero_iff.mp right
    refine ⟨P.y / Q.y, div_ne_zero yLeft yRight, ?_, (div_mul_cancel₀ _ yRight).symm, ?_⟩
    · rw [xLeft, xRight, mul_zero]
    · rw [zLeft, zRight, mul_zero]
  · obtain ⟨zLeft, xLeft, yLeft⟩ := denotes_point_iff.mp left
    obtain ⟨zRight, xRight, yRight⟩ := denotes_point_iff.mp right
    have zEq : P.z = P.z / Q.z * Q.z := (div_mul_cancel₀ _ zRight).symm
    refine ⟨P.z / Q.z, div_ne_zero zLeft zRight, ?_, ?_, zEq⟩
    · rw [xLeft, xRight, mul_left_comm, ← zEq]
    · rw [yLeft, yRight, mul_left_comm, ← zEq]

end Denotation

section Comparison

variable [DecidableEq F]

/-- The zero triple, which stands for no point, compares as equal with every triple. -/
theorem represents_zero (P : ProjectivePoint C) :
    P.represents ⟨0, 0, 0⟩ = true ∧ (⟨0, 0, 0⟩ : ProjectivePoint C).represents P = true := by
  simp [represents]

/-- On all triples of coordinates comparison is not transitive. -/
theorem not_transitive_represents :
    ¬∀ P Q R : ProjectivePoint C,
      P.represents Q = true → Q.represents R = true → P.represents R = true := by
  intro transitive
  have equal := transitive identity ⟨0, 0, 0⟩ ⟨0, 0, 1⟩ (represents_zero _).1 (represents_zero _).2
  simp [represents, identity] at equal

variable [Curve.Complete C] [PartialInverse F] [LawfulInverse F] {P Q : ProjectivePoint C}

theorem IsOnCurve.represents_iff
    (onCurveP : P.IsOnCurve)
    (onCurveQ : Q.IsOnCurve) :
    P.represents Q = true ↔ P.toPoint = Q.toPoint :=
  onCurveP.denotes_toPoint.represents onCurveQ.denotes_toPoint

theorem IsOnCurve.toAffine_eq_iff
    (onCurveP : P.IsOnCurve)
    (onCurveQ : Q.IsOnCurve) :
    P.toAffine = Q.toAffine ↔ P.toPoint = Q.toPoint := by
  rw [onCurveP.denotes_toPoint.toAffine, onCurveQ.denotes_toPoint.toAffine,
    AffinePoint.ofPoint_injective.eq_iff]

theorem IsOnCurve.isMultipleOf_iff
    (onCurveP : P.IsOnCurve)
    (onCurveQ : Q.IsOnCurve) :
    P.IsMultipleOf Q ↔ P.toPoint = Q.toPoint := by
  have right := onCurveQ.denotes_toPoint
  constructor
  · intro multiple
    exact (multiple.denotes right).toPoint_eq
  · intro equal
    exact onCurveP.denotes_toPoint.isMultipleOf (equal ▸ right)

theorem IsOnCurve.isIdentity_iff
    (onCurve : P.IsOnCurve) :
    P.isIdentity = true ↔ P.toPoint = 0 :=
  onCurve.denotes_toPoint.isIdentity

end Comparison

end ProjectivePoint

namespace Curve

/-- Comparison of triples on the curve is equality of the points that they stand for: of their
affine forms, and up to a nonzero factor of the triples themselves. It is an equivalence, and one
of its classes is all forms of the identity. -/
structure ComparesPoints
    (C : Curve F)
    [DecidableEq F] [PartialInverse F] : Prop where
  represents_iff_toAffine : ∀ P Q : ProjectivePoint.OnCurve C,
    P.val.represents Q.val = true ↔ P.val.toAffine = Q.val.toAffine
  toAffine_iff_isMultipleOf : ∀ P Q : ProjectivePoint.OnCurve C,
    P.val.toAffine = Q.val.toAffine ↔ P.val.IsMultipleOf Q.val
  represents_iff_isIdentity : ∀ P Q : ProjectivePoint.OnCurve C, P.val.isIdentity = true →
    (P.val.represents Q.val = true ↔ Q.val.isIdentity = true)
  equivalence : Equivalence fun P Q : ProjectivePoint.OnCurve C =>
    P.val.represents Q.val = true

/-- On a curve without points of order two every triple stands for one point, on which each of the
comparisons is equality. -/
theorem comparesPoints
    (C : Curve F)
    [Complete C] [DecidableEq F] [PartialInverse F] [LawfulInverse F] :
    C.ComparesPoints where
  represents_iff_toAffine P Q := by
    rw [P.property.represents_iff Q.property, P.property.toAffine_eq_iff Q.property]
  toAffine_iff_isMultipleOf P Q := by
    rw [P.property.toAffine_eq_iff Q.property, P.property.isMultipleOf_iff Q.property]
  represents_iff_isIdentity P Q isIdentity := by
    rw [P.property.represents_iff Q.property, P.property.isIdentity_iff.mp isIdentity,
      Q.property.isIdentity_iff, eq_comm]
  equivalence := by
    have samePoint (P Q : ProjectivePoint.OnCurve C) :
        P.val.represents Q.val = true ↔ P.val.toPoint = Q.val.toPoint :=
      P.property.represents_iff Q.property
    constructor
    · intro P
      exact (samePoint P P).mpr rfl
    · intro P Q equal
      exact (samePoint Q P).mpr ((samePoint P Q).mp equal).symm
    · intro P Q R left right
      exact (samePoint P R).mpr (((samePoint P Q).mp left).trans ((samePoint Q R).mp right))

end Curve
end General

/-- Comparison across the denominators is equality of points for both groups, in the subgroup or
not. -/
theorem comparesPoints_g1_g2 : Curve.g1.ComparesPoints ∧ Curve.g2.ComparesPoints :=
  ⟨Curve.comparesPoints Curve.g1, Curve.comparesPoints Curve.g2⟩

/-- A form of the identity of the twist is equal to the identity, and not to a point outside the
subgroup. -/
theorem comparesPoints_identity_outside :
    let P : G2.Projective := ⟨0, -1, 0⟩
    let Q : G2.Projective := (AffinePoint.ofPoint G2.outsidePoint).toProjective
    P.represents .identity = true ∧ P.represents Q = false := by
  have outside := AffinePoint.toProjective_denotes G2.outsidePoint
  let P : ProjectivePoint.OnCurve Curve.g2 :=
    ⟨⟨0, -1, 0⟩, fun zero => neg_ne_zero.mpr one_ne_zero zero.2.1, by ring⟩
  let Q : ProjectivePoint.OnCurve Curve.g2 := ⟨_, outside.isOnCurve⟩
  let neutral : ProjectivePoint.OnCurve Curve.g2 :=
    ⟨.identity, ProjectivePoint.denotes_identity.isOnCurve⟩
  have sameAs := fun form =>
    comparesPoints_g1_g2.2.represents_iff_isIdentity P form (decide_eq_true rfl)
  refine ⟨(sameAs neutral).mpr (decide_eq_true rfl), ?_⟩
  rw [Bool.eq_false_iff, ne_eq, sameAs Q, outside.isIdentity]
  intro zero
  apply G2.groupOrder_nsmul_outsidePoint
  rw [zero, nsmul_zero]

end Groth16
