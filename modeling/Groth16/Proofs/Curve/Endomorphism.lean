import Groth16.Proofs.Curve.Order
import Groth16.Proofs.Curve.Twist
import Groth16.Proofs.Tower.Frobenius

/-!
# The endomorphism and the subgroup

The map `psi` is an endomorphism of the twist whose square multiplies the first coordinate
by a primitive cube root of unity and negates the second, so `psi ^ 4 - psi ^ 2 + 1` is zero.
A point on which `psi` is the multiplication by `6 * x ^ 2` is therefore annihilated by the
order of the scalar field, and these points are the multiples of the generator.
-/

namespace Groth16
namespace G2

/-- The factor of the sixth root of the nonresidue under the power map. -/
def rootFactor : Fq2 := Fq12.rootFactor 1

theorem psiFactorX_eq : psiFactorX = rootFactor ^ 2 :=
  Fq12.frobeniusFactors1_get 1

theorem toField_rootFactorNumeral : Fq12.rootFactorNumeral.toField = rootFactor :=
  Fq12.rootFactor_one.symm

theorem psiFactorY_eq : psiFactorY = rootFactor ^ 3 := by
  have keeps := QuadraticNumeral.keepsOperations_toField
  have cube : psiFactorY =
      (Fq12.rootFactorNumeral * Fq12.rootFactorNumeral * Fq12.rootFactorNumeral).toField :=
    (QuadraticNumeral.toField_limbs _ _).symm
  rw [cube, keeps.map_mul, keeps.map_mul, toField_rootFactorNumeral]
  ring

/-- The norm of the root factor, a primitive sixth root of unity. -/
def unitRoot : Fq2 := rootFactor * rootFactor.conjugate

theorem unitRoot_equation : unitRoot * unitRoot + 1 = unitRoot := by
  have keeps := QuadraticNumeral.keepsOperations_toField
  have numeral : Fq12.rootFactorNumeral * Fq12.rootFactorNumeral.conjugate *
      (Fq12.rootFactorNumeral * Fq12.rootFactorNumeral.conjugate) + 1 =
      Fq12.rootFactorNumeral * Fq12.rootFactorNumeral.conjugate := by
    decide
  have equal := congrArg QuadraticNumeral.toField numeral
  rwa [keeps.map_add, keeps.map_mul, keeps.map_mul, keeps.map_one,
    QuadraticNumeral.toField_conjugate, toField_rootFactorNumeral, ← unitRoot] at equal

theorem unitRoot_pow_three : unitRoot ^ 3 = -1 := by
  linear_combination (unitRoot + 1) * unitRoot_equation

theorem unitRoot_pow_two_ne_one : unitRoot ^ 2 ≠ 1 := by
  intro equal
  apply Curve.Complete.three_ne_zero Curve.g2
  have two : unitRoot = 2 := by
    linear_combination equal - unitRoot_equation
  rw [two] at equal
  linear_combination equal

theorem b_eq : Curve.g2.b = rootFactor ^ 6 * Fq2.conjugateHom Curve.g2.b := by
  have keeps := QuadraticNumeral.keepsOperations_toField
  have numeral : bNumeral =
      Fq12.rootFactorNumeral * Fq12.rootFactorNumeral * Fq12.rootFactorNumeral *
        (Fq12.rootFactorNumeral * Fq12.rootFactorNumeral * Fq12.rootFactorNumeral) *
        bNumeral.conjugate := by
    decide
  have equal := congrArg QuadraticNumeral.toField numeral
  rw [keeps.map_mul, keeps.map_mul, keeps.map_mul, keeps.map_mul,
    QuadraticNumeral.toField_conjugate, toField_rootFactorNumeral, toField_bNumeral] at equal
  rw [Fq2.conjugateHom_apply]
  nth_rewrite 1 [equal]
  ring

/-- The endomorphism of the group of the twist. -/
def endomorphism : Curve.g2.Point →+ Curve.g2.Point :=
  Curve.twist Fq2.conjugateHom rootFactor b_eq

theorem frobenius_equation
    {x y : Fq2}
    (equation : y ^ 2 = x ^ 3 + Curve.g2.b) :
    (rootFactor ^ 3 * y.conjugate) ^ 2 = (rootFactor ^ 2 * x.conjugate) ^ 3 + Curve.g2.b :=
  Curve.twist_equation Fq2.conjugateHom rootFactor b_eq equation

theorem endomorphism_point
    {x y : Fq2}
    (equation : y ^ 2 = x ^ 3 + Curve.g2.b) :
    endomorphism (Curve.point x y equation) =
      Curve.point (rootFactor ^ 2 * x.conjugate) (rootFactor ^ 3 * y.conjugate)
        (frobenius_equation equation) := rfl

theorem psi_x (P : Projective) : (psi P).x = rootFactor ^ 2 * Fq2.conjugateHom P.x := by
  rw [← psiFactorX_eq, mul_comm]
  rfl

theorem psi_y (P : Projective) : (psi P).y = rootFactor ^ 3 * Fq2.conjugateHom P.y := by
  rw [← psiFactorY_eq, mul_comm]
  rfl

theorem psi_z (P : Projective) : (psi P).z = Fq2.conjugateHom P.z := rfl

/-- The map on projective forms computes the endomorphism. -/
theorem psi_denotes
    {P : Projective}
    {A : Curve.g2.Point}
    (denotes : P.Denotes A) :
    (psi P).Denotes (endomorphism A) := by
  rcases Curve.eq_zero_or_eq_point A with rfl | ⟨x, y, equation, rfl⟩
  · obtain ⟨xZero, yNonzero, zZero⟩ := ProjectivePoint.denotes_zero_iff.mp denotes
    rw [map_zero]
    refine ProjectivePoint.denotes_zero_iff.mpr ⟨?_, ?_, ?_⟩
    · rw [psi_x, xZero, map_zero, mul_zero]
    · rw [psi_y]
      exact mul_ne_zero (pow_ne_zero 3 (Curve.scale_ne_zero b_eq))
        ((map_ne_zero _).mpr yNonzero)
    · rw [psi_z, zZero, map_zero]
  · obtain ⟨zNonzero, xEq, yEq⟩ := ProjectivePoint.denotes_point_iff.mp denotes
    rw [endomorphism_point]
    refine ProjectivePoint.denotes_point_iff.mpr ⟨?_, ?_, ?_⟩
    · rw [psi_z]
      exact (map_ne_zero _).mpr zNonzero
    · rw [psi_x, psi_z, xEq, map_mul, Fq2.conjugateHom_apply x, mul_assoc]
    · rw [psi_y, psi_z, yEq, map_mul, Fq2.conjugateHom_apply y, mul_assoc]

theorem square_equation
    {x y : Fq2}
    (equation : y ^ 2 = x ^ 3 + Curve.g2.b) :
    (-y) ^ 2 = (unitRoot ^ 2 * x) ^ 3 + Curve.g2.b := by
  rw [neg_sq, equation, mul_pow, ← pow_mul, mul_comm 2 3, pow_mul, unitRoot_pow_three]
  ring

/-- The square of the endomorphism. -/
theorem endomorphism_endomorphism
    {x y : Fq2}
    (equation : y ^ 2 = x ^ 3 + Curve.g2.b) :
    endomorphism (endomorphism (Curve.point x y equation)) =
      Curve.point (unitRoot ^ 2 * x) (-y) (square_equation equation) := by
  rw [endomorphism_point, endomorphism_point, Curve.point_eq_point]
  have first : (rootFactor ^ 2 * x.conjugate).conjugate = rootFactor.conjugate ^ 2 * x := by
    rw [← Fq2.conjugateHom_apply, map_mul, map_pow, Fq2.conjugateHom_apply,
      Fq2.conjugateHom_apply, Fq2.conjugate_conjugate]
  have second : (rootFactor ^ 3 * y.conjugate).conjugate = rootFactor.conjugate ^ 3 * y := by
    rw [← Fq2.conjugateHom_apply, map_mul, map_pow, Fq2.conjugateHom_apply,
      Fq2.conjugateHom_apply, Fq2.conjugate_conjugate]
  rw [first, second]
  constructor
  · rw [unitRoot]
    ring
  · rw [← neg_one_mul y, ← unitRoot_pow_three, unitRoot]
    ring

theorem fourth_equation
    {x y : Fq2}
    (equation : y ^ 2 = x ^ 3 + Curve.g2.b) :
    y ^ 2 = (-unitRoot * x) ^ 3 + Curve.g2.b := by
  linear_combination equation + x ^ 3 * unitRoot_pow_three

/-- The endomorphism satisfies `psi ^ 4 - psi ^ 2 + 1 = 0`: a point, the negative of its image
under the square and its image under the fourth power lie on a horizontal line. -/
theorem endomorphism_quartic
    (A : Curve.g2.Point) :
    endomorphism (endomorphism (endomorphism (endomorphism A))) + A =
      endomorphism (endomorphism A) := by
  rcases Curve.eq_zero_or_eq_point A with rfl | ⟨x, y, equation, rfl⟩
  · rw [map_zero, map_zero, map_zero, map_zero, add_zero]
  rw [endomorphism_endomorphism, endomorphism_endomorphism]
  have fourth : Curve.point (unitRoot ^ 2 * (unitRoot ^ 2 * x)) (- -y)
      (square_equation (square_equation equation)) =
      Curve.point (-unitRoot * x) y (fourth_equation equation) := by
    rw [Curve.point_eq_point]
    exact ⟨by linear_combination unitRoot * x * unitRoot_pow_three, neg_neg y⟩
  rw [fourth]
  by_cases zero : x = 0
  · subst zero
    have same : Curve.point (-unitRoot * 0) y (fourth_equation equation) =
        Curve.point 0 y equation := by
      rw [Curve.point_eq_point]
      exact ⟨mul_zero _, rfl⟩
    have tangent : (0 : Fq2) * (2 * y) = 3 * 0 ^ 2 := by ring
    rw [same, Curve.point_add_self equation tangent, Curve.point_eq_point]
    constructor <;> ring
  · have different : -unitRoot * x ≠ x := by
      intro equal
      apply unitRoot_pow_two_ne_one
      have root : -unitRoot = 1 := mul_right_cancel₀ zero (equal.trans (one_mul x).symm)
      rw [← neg_sq, root, one_pow]
    have chord : 0 * (-unitRoot * x - x) = y - y := by ring
    rw [Curve.point_add_of_ne _ equation different chord, Curve.point_eq_point]
    constructor
    · linear_combination -x * unitRoot_equation
    · ring

/-- The factor `6 * x ^ 2` by which the endomorphism acts on the subgroup. -/
def eigenvalue : Nat := 147946756881789318990833708069417712966

theorem value_psiEigenvalue :
    Digits.value (psiEigenvalue.reverse.flatMap Word.bits) = eigenvalue := by
  rw [Digits.value_flatMap_bits]
  decide

theorem gcd_quartic :
    Nat.gcd (groupOrder * cofactor) (eigenvalue ^ 4 - eigenvalue ^ 2 + 1) = groupOrder := by
  decide

/-- A point on which the endomorphism is the multiplication by its eigenvalue is annihilated
by the order of the scalar field. -/
theorem groupOrder_nsmul_of_endomorphism
    {A : Curve.g2.Point}
    (eigen : endomorphism A = eigenvalue • A) :
    groupOrder • A = 0 := by
  have quartic := endomorphism_quartic A
  simp only [eigen, map_nsmul, smul_smul] at quartic
  have fourth : (eigenvalue ^ 4 - eigenvalue ^ 2 + 1) • A = 0 := by
    have le : eigenvalue ^ 2 ≤ eigenvalue ^ 4 := by decide
    have sum : (eigenvalue ^ 4 - eigenvalue ^ 2 + 1) • A + (eigenvalue ^ 2) • A =
        (eigenvalue ^ 2) • A := by
      rw [← add_nsmul, add_right_comm, Nat.sub_add_cancel le, add_nsmul, one_nsmul]
      convert quartic using 2
      · ring_nf
      · ring_nf
    exact add_eq_right.mp sum
  have order : (groupOrder * cofactor) • A = 0 := by
    rw [← card_point, card_nsmul_eq_zero']
  rw [← gcd_quartic]
  exact addOrderOf_dvd_iff_nsmul_eq_zero.mp (Nat.dvd_gcd
    (addOrderOf_dvd_of_nsmul_eq_zero order) (addOrderOf_dvd_of_nsmul_eq_zero fourth))

/-- A point that the order of the scalar field annihilates is a multiple of the generator,
because the order of the twist has no second factor of that order. -/
theorem exists_nsmul_generatorPoint
    {A : Curve.g2.Point}
    (annihilated : groupOrder • A = 0) :
    ∃ n : Nat, n • generatorPoint = A := by
  let subgroup := AddSubgroup.zmultiples generatorPoint
  have quotient_card : Nat.card (Curve.g2.Point ⧸ subgroup) = cofactor := by
    have product := AddSubgroup.card_eq_card_quotient_mul_card_addSubgroup subgroup
    rw [card_point, Nat.card_zmultiples, addOrderOf_generatorPoint, mul_comm] at product
    exact (Nat.eq_of_mul_eq_mul_right (Fact.out : groupOrder.Prime).pos product).symm
  have order_dvd : addOrderOf (A : Curve.g2.Point ⧸ subgroup) ∣ groupOrder := by
    apply addOrderOf_dvd_of_nsmul_eq_zero
    rw [← QuotientAddGroup.mk_nsmul, annihilated, QuotientAddGroup.mk_zero]
  have order_dvd_cofactor : addOrderOf (A : Curve.g2.Point ⧸ subgroup) ∣ cofactor := by
    rw [← quotient_card]
    exact addOrderOf_dvd_natCard _
  have order_one := Nat.eq_one_of_dvd_coprimes coprime_groupOrder_cofactor order_dvd
    order_dvd_cofactor
  rw [AddMonoid.addOrderOf_eq_one_iff, QuotientAddGroup.eq_zero_iff] at order_one
  exact mem_multiples_iff_mem_zmultiples.mpr order_one

/-- The multiple of the generator by the eigenvalue, computed on numerals. -/
def eigenMultiple : ProjectivePoint numeral :=
  (ProjectivePoint.generator (C := numeral)).mulBits (Digits.lowest 127 eigenvalue)

theorem eigenMultiple_denotes :
    (ProjectivePoint.map Curve.g2 QuadraticNumeral.toField eigenMultiple).Denotes
      (eigenvalue • generatorPoint) := by
  have denotes := generator_numeral_denotes.mulBits (Digits.lowest 127 eigenvalue)
  rwa [← ProjectivePoint.map_mulBits QuadraticNumeral.keepsOperations_toField toField_b3Numeral,
    Digits.value_lowest, show eigenvalue % 2 ^ 127 = eigenvalue by decide] at denotes

/-- The multiple has the coordinates of the image of the generator. -/
theorem eigenMultiple_coordinates :
    eigenMultiple.x = Fq12.rootFactorNumeral * Fq12.rootFactorNumeral *
        numeral.generatorX.conjugate * eigenMultiple.z ∧
      eigenMultiple.y = Fq12.rootFactorNumeral * Fq12.rootFactorNumeral *
        Fq12.rootFactorNumeral * numeral.generatorY.conjugate * eigenMultiple.z ∧
      ¬(eigenMultiple.z.c0 % baseModulus = 0 ∧ eigenMultiple.z.c1 % baseModulus = 0) := by
  decide +kernel

/-- The endomorphism multiplies the generator by the eigenvalue. -/
theorem endomorphism_generatorPoint :
    endomorphism generatorPoint = eigenvalue • generatorPoint := by
  have keeps := QuadraticNumeral.keepsOperations_toField
  obtain ⟨xEq, yEq, zNonzero⟩ := eigenMultiple_coordinates
  apply ProjectivePoint.Denotes.unique _ eigenMultiple_denotes
  rw [generatorPoint, endomorphism_point]
  refine ProjectivePoint.denotes_point_iff.mpr ⟨?_, ?_, ?_⟩
  · rw [ProjectivePoint.map, Ne, QuadraticNumeral.toField_eq_zero_iff]
    exact zNonzero
  · rw [ProjectivePoint.map, xEq, keeps.map_mul, keeps.map_mul, keeps.map_mul,
      QuadraticNumeral.toField_conjugate, toField_rootFactorNumeral, toField_generatorX, pow_two]
  · rw [ProjectivePoint.map, yEq, keeps.map_mul, keeps.map_mul, keeps.map_mul, keeps.map_mul,
      QuadraticNumeral.toField_conjugate, toField_rootFactorNumeral, toField_generatorY,
      pow_three']

/-- The points on which the endomorphism acts by its eigenvalue. -/
def subgroup : AddSubgroup Curve.g2.Point :=
  endomorphism.eqLocus (nsmulAddMonoidHom eigenvalue)

theorem mem_subgroup
    {A : Curve.g2.Point} :
    A ∈ subgroup ↔ endomorphism A = eigenvalue • A :=
  Iff.rfl

/-- The members of the subgroup are the multiples of the generator. -/
theorem endomorphism_eq_iff
    (A : Curve.g2.Point) :
    endomorphism A = eigenvalue • A ↔ ∃ n : Nat, n • generatorPoint = A := by
  constructor
  · intro eigen
    exact exists_nsmul_generatorPoint (groupOrder_nsmul_of_endomorphism eigen)
  · rintro ⟨n, rfl⟩
    rw [map_nsmul, endomorphism_generatorPoint, smul_comm]

/-- The test for membership decides whether the endomorphism acts by its eigenvalue. -/
theorem isMember_iff
    {P : Projective}
    {A : Curve.g2.Point}
    (denotes : P.Denotes A) :
    SubgroupTest.isMember P = true ↔ endomorphism A = eigenvalue • A := by
  rw [← value_psiEigenvalue]
  exact (psi_denotes denotes).represents (denotes.mulWords psiEigenvalue)

end G2
end Groth16
