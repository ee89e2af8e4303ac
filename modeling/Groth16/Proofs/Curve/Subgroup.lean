import Groth16.Pairing.FinalExponentiation
import Groth16.Proofs.Curve.Sum

/-!
# The tests for the subgroups are exact

The order of the scalar field annihilates every point of `G1`, so that its test has nothing to
refuse. On the twist it annihilates exactly the points that the test accepts, on which `psi` is
the multiplication by `6 * x ^ 2`. Multiples by the order are meant both in the group and as
doubling and adding computes them.
-/

namespace Groth16

namespace AffinePoint

variable {F : Type} [Field F] [DecidableEq F] {C : Curve F}

/-- The multiple by the order of the scalar field, by doubling and adding. -/
def orderMultiple (P : AffinePoint C) : ProjectivePoint C :=
  P.toProjective.mulWords FieldParameters.scalar.modulus.toList

variable [Curve.Complete C] {P : AffinePoint C}

/-- Doubling and adding shows whether the order annihilates a point of the curve. -/
theorem isIdentity_orderMultiple
    (onCurve : P.isOnCurve = true) :
    P.orderMultiple.isIdentity = true ↔ groupOrder • P.toPoint = 0 := by
  have multiple := (toProjective_denotes_toPoint onCurve).mulWords
    FieldParameters.scalar.modulus.toList
  rw [Digits.value_toList, toNat_modulus_scalar_eq] at multiple
  exact multiple.isIdentity

/-- The point is on the curve, and the order of the scalar field annihilates it, in the group
and by doubling and adding. -/
structure IsAnnihilated (P : AffinePoint C) : Prop where
  isOnCurve : P.isOnCurve = true
  nsmul_eq_zero : groupOrder • P.toPoint = 0
  isIdentity_orderMultiple : P.orderMultiple.isIdentity = true

end AffinePoint

/-- A test for the subgroup that accepts exactly the points which the order of the scalar field
annihilates. -/
class LawfulSubgroupTest
    {F : Type} [Field F] [DecidableEq F]
    (C : Curve F) [Curve.Complete C] [SubgroupTest C] : Prop where
  isInSubgroup_ofPoint_iff : ∀ A : C.Point,
    (AffinePoint.ofPoint A).isInSubgroup = true ↔ groupOrder • A = 0

namespace AffinePoint

variable {F : Type} [Field F] [DecidableEq F] {C : Curve F} [Curve.Complete C]
variable [SubgroupTest C] [LawfulSubgroupTest C]

theorem isInSubgroup_identity : (identity : AffinePoint C).isInSubgroup = true :=
  (LawfulSubgroupTest.isInSubgroup_ofPoint_iff 0).mpr (nsmul_zero groupOrder)

theorem isValid_ofPoint_iff
    {A : C.Point} :
    (ofPoint A).IsValid ↔ groupOrder • A = 0 := by
  rw [← LawfulSubgroupTest.isInSubgroup_ofPoint_iff]
  constructor
  · intro valid
    exact valid.isInSubgroup
  · intro member
    exact ⟨isOnCurve_iff.mpr ⟨A, rfl⟩, member⟩

/-- The valid points are the affine forms of the points that the order annihilates. -/
theorem isValid_iff
    {P : AffinePoint C} :
    P.IsValid ↔ ∃ A : C.Point, groupOrder • A = 0 ∧ ofPoint A = P := by
  constructor
  · intro valid
    obtain ⟨A, rfl⟩ := isOnCurve_iff.mp valid.isOnCurve
    exact ⟨A, isValid_ofPoint_iff.mp valid, rfl⟩
  · rintro ⟨A, annihilated, rfl⟩
    exact isValid_ofPoint_iff.mpr annihilated

end AffinePoint

namespace G1

instance : LawfulSubgroupTest Curve.g1 where
  isInSubgroup_ofPoint_iff A := iff_of_true rfl (groupOrder_nsmul A)

/-- No point of the curve lies outside the group of prime order. -/
theorem isAnnihilated_of_isOnCurve
    {P : Affine}
    (onCurve : P.isOnCurve = true) :
    P.IsAnnihilated := by
  have annihilated := groupOrder_nsmul P.toPoint
  exact ⟨onCurve, annihilated, (AffinePoint.isIdentity_orderMultiple onCurve).mpr annihilated⟩

theorem isOnCurve_of_equation
    {x y : Fq}
    (equation : y ^ 2 = x ^ 3 + 3) :
    (.finite x y : Affine).isOnCurve = true := by
  rw [← b_eq] at equation
  exact AffinePoint.isOnCurve_iff.mpr ⟨Curve.point x y equation, AffinePoint.ofPoint_point equation⟩

/-- The curve has the order of the scalar field, which annihilates all solutions of its equation
and therefore every point that is accepted. -/
theorem isAnnihilated_of_equation_or_accepted :
    Nat.card Curve.g1.Point = groupOrder ∧
      (∀ x y : Fq, y ^ 2 = x ^ 3 + 3 → (.finite x y : Affine).IsAnnihilated) ∧
      ∀ (bytes : List UInt8) (P : Affine), AffinePoint.ofBytes? bytes = .ok P →
        P.IsAnnihilated := by
  refine ⟨card_point, ?_, ?_⟩
  · intro x y equation
    exact isAnnihilated_of_isOnCurve (isOnCurve_of_equation equation)
  · intro bytes P accepted
    exact isAnnihilated_of_isOnCurve (AffinePoint.isValid_of_ofBytes? accepted).isOnCurve

/-- The solution `(1, 2)`, and the bytes of the generator. -/
theorem isAnnihilated_generator :
    let P := AffinePoint.ofPoint generatorPoint
    ((2 : Fq) ^ 2 = 1 ^ 3 + 3 ∧ AffinePoint.ofBytes? P.toBytes = .ok P) ∧
      (.finite 1 2 : Affine).IsAnnihilated ∧ P.IsAnnihilated := by
  have equation : (2 : Fq) ^ 2 = 1 ^ 3 + 3 := by norm_num
  have accepted := ofBytes?_toBytes generatorPoint
  obtain ⟨-, solutions, points⟩ := isAnnihilated_of_equation_or_accepted
  exact ⟨⟨equation, accepted⟩, solutions 1 2 equation, points _ _ accepted⟩

end G1

namespace G2

theorem eigenvalue_eq : eigenvalue = 6 * Pairing.curveParameter.toNat ^ 2 := by
  decide

theorem psi_denotes_iff
    {P : Projective}
    {A B : Curve.g2.Point}
    (denotes : P.Denotes A) :
    (psi P).Denotes B ↔ endomorphism A = B := by
  constructor
  · intro image
    exact (psi_denotes denotes).unique image
  · rintro rfl
    exact psi_denotes denotes

/-- The subgroup consists of the points that the order of the scalar field annihilates. -/
theorem mem_subgroup_iff_nsmul_eq_zero
    {A : Curve.g2.Point} :
    A ∈ subgroup ↔ groupOrder • A = 0 := by
  rw [mem_subgroup]
  constructor
  · intro eigen
    exact groupOrder_nsmul_of_endomorphism eigen
  · intro annihilated
    exact (endomorphism_eq_iff A).mpr (exists_nsmul_generatorPoint annihilated)

instance : LawfulSubgroupTest Curve.g2 where
  isInSubgroup_ofPoint_iff A := (isInSubgroup_iff A).trans mem_subgroup_iff_nsmul_eq_zero

/-- The test for the subgroup compares the image under `psi` with the multiple by `6 * x ^ 2`,
and it accepts exactly the points that the order of the scalar field annihilates. -/
theorem isInSubgroup_iff_annihilated
    {P : Affine}
    (onCurve : P.isOnCurve = true) :
    (P.isInSubgroup = true ↔ (psi P.toProjective).Denotes
        ((6 * Pairing.curveParameter.toNat ^ 2) • P.toPoint)) ∧
      (P.isInSubgroup = true ↔ groupOrder • P.toPoint = 0) ∧
      (P.isInSubgroup = true ↔ P.orderMultiple.isIdentity = true) := by
  have denotes := AffinePoint.toProjective_denotes_toPoint onCurve
  have member : P.isInSubgroup = true ↔ P.toPoint ∈ subgroup := isMember_iff denotes
  rw [member]
  refine ⟨?_, mem_subgroup_iff_nsmul_eq_zero, ?_⟩
  · rw [psi_denotes_iff denotes, ← eigenvalue_eq]
    exact mem_subgroup
  · rw [AffinePoint.isIdentity_orderMultiple onCurve]
    exact mem_subgroup_iff_nsmul_eq_zero

/-- A point of the twist whose order is a factor of the cofactor is refused. -/
theorem isInSubgroup_outsidePoint :
    let P := AffinePoint.ofPoint outsidePoint
    P.isOnCurve = true ∧ P.isInSubgroup = false ∧ P.orderMultiple.isIdentity = false := by
  have onCurve : (AffinePoint.ofPoint outsidePoint).isOnCurve = true :=
    AffinePoint.isOnCurve_iff.mpr ⟨outsidePoint, rfl⟩
  obtain ⟨-, annihilated, multiple⟩ := isInSubgroup_iff_annihilated onCurve
  rw [AffinePoint.toPoint_ofPoint] at annihilated
  have refused : (AffinePoint.ofPoint outsidePoint).isInSubgroup = false := by
    rw [Bool.eq_false_iff, Ne, annihilated]
    exact groupOrder_nsmul_outsidePoint
  refine ⟨onCurve, refused, ?_⟩
  rw [Bool.eq_false_iff, Ne, ← multiple, refused]
  exact Bool.false_ne_true

end G2
end Groth16
