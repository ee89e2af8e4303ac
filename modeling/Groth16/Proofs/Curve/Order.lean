import Groth16.Proofs.Curve.Numeral
import Groth16.Proofs.Primality
import Mathlib.Data.Nat.ChineseRemainder
import Mathlib.GroupTheory.Perm.Cycle.Type
import Mathlib.GroupTheory.SpecificGroups.Cyclic

/-!
# The orders of the two groups

A curve has at most two points for each first coordinate and two at infinity, and without
points of order two its order is odd. These two facts settle the order from one large
divisor: the generator of `G1` has the order of the scalar field, and the twist has points
of that order and of the orders of the prime factors of its cofactor.
-/

namespace Groth16

section Counting

variable {F : Type} [Field F] {C : Curve F}

namespace Curve

/-- The first coordinate of a point other than the identity. -/
def firstCoordinate : C.Point → Option F
  | .zero => none
  | .some x _ _ => some x

variable [Complete C]

theorem eq_or_eq_neg_of_firstCoordinate
    {A B : C.Point}
    (equal : firstCoordinate A = firstCoordinate B) :
    B = A ∨ B = -A := by
  rcases eq_zero_or_eq_point A with rfl | ⟨x₁, y₁, first, rfl⟩ <;>
    rcases eq_zero_or_eq_point B with rfl | ⟨x₂, y₂, second, rfl⟩
  · exact Or.inl rfl
  · cases equal
  · cases equal
  · obtain rfl : x₁ = x₂ := Option.some.inj equal
    rw [neg_point, point_eq_point, point_eq_point]
    rcases eq_or_eq_neg second first with same | opposite
    · exact Or.inl ⟨rfl, same⟩
    · exact Or.inr ⟨rfl, opposite⟩

instance [Finite F] : Finite C.Point :=
  have : Finite (WithZero {xy : F × F // C.weierstrass.Nonsingular xy.1 xy.2}) :=
    inferInstanceAs (Finite (Option _))
  Finite.of_equiv _ C.weierstrass.nonsingularPointEquiv.symm

/-- There are at most two points for each first coordinate. -/
theorem card_point_le
    [Finite F] :
    Nat.card C.Point ≤ 2 * (Nat.card F + 1) := by
  classical
  have := Fintype.ofFinite C.Point
  have := Fintype.ofFinite F
  have fibers : ∀ x ∈ (Finset.univ : Finset C.Point).image firstCoordinate,
      (Finset.univ.filter fun A : C.Point => firstCoordinate A = x).card ≤ 2 := by
    intro x member
    obtain ⟨A, -, rfl⟩ := Finset.mem_image.mp member
    have subset : (Finset.univ.filter fun B : C.Point => firstCoordinate B = firstCoordinate A) ⊆
        {A, -A} := by
      intro B memberB
      rw [Finset.mem_filter] at memberB
      rw [Finset.mem_insert, Finset.mem_singleton]
      exact eq_or_eq_neg_of_firstCoordinate memberB.2.symm
    exact (Finset.card_le_card subset).trans Finset.card_le_two
  calc Nat.card C.Point
      = (Finset.univ : Finset C.Point).card := by
        rw [Nat.card_eq_fintype_card, Finset.card_univ]
    _ ≤ 2 * ((Finset.univ : Finset C.Point).image firstCoordinate).card :=
        Finset.card_le_mul_card_image _ 2 fibers
    _ ≤ 2 * (Nat.card F + 1) := by
        rw [Nat.card_eq_fintype_card, ← Fintype.card_option]
        exact Nat.mul_le_mul_left 2 (Finset.card_le_univ _)

variable [DecidableEq F]

theorem add_self_ne_zero
    {A : C.Point}
    (nonzero : A ≠ 0) :
    A + A ≠ 0 := by
  intro double
  rcases eq_zero_or_eq_point A with rfl | ⟨x, y, equation, rfl⟩
  · exact nonzero rfl
  · rw [← eq_neg_iff_add_eq_zero, neg_point, point_eq_point] at double
    apply two_mul_y_ne_zero equation
    rw [two_mul]
    nth_rewrite 1 [double.2]
    exact neg_add_cancel y

/-- Without points of order two, the order is odd. -/
theorem odd_card_point
    [Finite F] :
    Odd (Nat.card C.Point) := by
  rw [← Nat.not_even_iff_odd, even_iff_two_dvd]
  intro divides
  have : Fact (Nat.Prime 2) := ⟨Nat.prime_two⟩
  obtain ⟨A, order⟩ := exists_prime_addOrderOf_dvd_card' 2 divides
  have nonzero : A ≠ 0 := by
    rintro rfl
    rw [addOrderOf_zero] at order
    exact absurd order (by decide)
  apply add_self_ne_zero nonzero
  rw [← two_nsmul, ← order, addOrderOf_nsmul_eq_zero]

/-- A divisor of more than a third of the bound on the number of points is the order. -/
theorem card_point_eq
    [Finite F]
    {n : Nat}
    (divides : n ∣ Nat.card C.Point)
    (large : 2 * (Nat.card F + 1) < 3 * n) :
    Nat.card C.Point = n := by
  have le := card_point_le (C := C)
  have odd := odd_card_point (C := C)
  have pos : 0 < Nat.card C.Point := Nat.card_pos
  obtain ⟨quotient, equal⟩ := divides
  have less : quotient < 3 := by
    by_contra atLeast
    have : n * 3 ≤ n * quotient := Nat.mul_le_mul_left n (by omega)
    omega
  interval_cases quotient
  · omega
  · omega
  · rw [equal] at odd
    exact absurd odd (by rw [Nat.not_odd_iff_even]; exact even_two.mul_left n)

end Curve

end Counting

/-- The order of the pairing groups, the modulus of the scalar field. -/
def groupOrder : Nat :=
  21888242871839275222246405745257275088548364400416034343698204186575808495617

theorem toNat_modulus_scalar_eq : FieldParameters.scalar.modulus.toNat = groupOrder :=
  FieldParameters.toNat_modulus_scalar

instance : Fact groupOrder.Prime := ⟨toNat_modulus_scalar_eq ▸ FieldParameters.prime_scalar⟩

theorem value_lowest_groupOrder : Digits.value (Digits.lowest 254 groupOrder) = groupOrder := by
  rw [Digits.value_lowest]
  decide

namespace G1

theorem generator_equation : Curve.g1.generatorY ^ 2 = Curve.g1.generatorX ^ 3 + Curve.g1.b := by
  rw [b_eq, show Curve.g1.generatorX = .ofWord 1 from rfl,
    show Curve.g1.generatorY = .ofWord 2 from rfl, FieldElement.ofWord_eq, FieldElement.ofWord_eq,
    show (1 : UInt64).toNat = 1 from rfl, show (2 : UInt64).toNat = 2 from rfl]
  norm_num

/-- The generator. -/
def generatorPoint : Curve.g1.Point := Curve.point _ _ generator_equation

theorem generator_denotes : (ProjectivePoint.generator (C := Curve.g1)).Denotes generatorPoint :=
  AffinePoint.toProjective_denotes generatorPoint

theorem generatorPoint_ne_zero : generatorPoint ≠ 0 := Curve.point_ne_zero _

theorem groupOrder_nsmul_generatorPoint : groupOrder • generatorPoint = 0 := by
  have computed : ((ProjectivePoint.generator (C := numeral)).mulBits
      (Digits.lowest 254 groupOrder)).z.value % baseModulus = 0 := by
    decide +kernel
  have denotes : ((ProjectivePoint.generator (C := numeral)).map Curve.g1
      Numeral.toField).Denotes generatorPoint :=
    ProjectivePoint.map_denotes_point Numeral.keepsOperations_toField
      (FieldElement.ofWord_eq 1).symm (FieldElement.ofWord_eq 2).symm generator_equation
  rw [← value_lowest_groupOrder]
  exact nsmul_eq_zero_of_numeral _ denotes _ computed

theorem addOrderOf_generatorPoint : addOrderOf generatorPoint = groupOrder :=
  addOrderOf_eq_prime groupOrder_nsmul_generatorPoint generatorPoint_ne_zero

/-- The curve of `G1` has the order of the scalar field. -/
theorem card_point : Nat.card Curve.g1.Point = groupOrder := by
  apply Curve.card_point_eq
  · rw [← addOrderOf_generatorPoint]
    exact addOrderOf_dvd_natCard generatorPoint
  · rw [FieldElement.card_eq, toNat_modulus_base_eq]
    decide

/-- The order of the scalar field annihilates every point. -/
theorem groupOrder_nsmul (A : Curve.g1.Point) : groupOrder • A = 0 := by
  rw [← card_point, card_nsmul_eq_zero']

/-- Every point is a multiple of the generator. -/
theorem exists_nsmul_generatorPoint (A : Curve.g1.Point) : ∃ n : Nat, n • generatorPoint = A := by
  have cyclic : A ∈ AddSubgroup.zmultiples generatorPoint :=
    mem_zmultiples_of_prime_card card_point generatorPoint_ne_zero
  exact mem_multiples_iff_mem_zmultiples.mpr cyclic

end G1

namespace G2

/-- The number of points of the twist for each point of `G2`. -/
def cofactor : Nat :=
  10069 * 5864401 * 1875725156269 * 197620364512881247228717050342013327560683201906968909

/-- Certificates for the prime factors of the cofactor. -/
def cofactorCertificates : List PrimeCertificate := [
  ⟨10069, 2, [2, 2, 3, 839]⟩,
  ⟨5864401, 38, [2, 2, 2, 2, 3, 3, 3, 3, 5, 5, 181]⟩,
  ⟨601379, 2, [2, 199, 1511]⟩,
  ⟨17367825521, 3, [2, 2, 2, 2, 5, 19, 19, 601379]⟩,
  ⟨1875725156269, 2, [2, 2, 3, 3, 3, 17367825521]⟩,
  ⟨133769, 3, [2, 2, 2, 23, 727]⟩,
  ⟨5835139, 3, [2, 3, 61, 107, 149]⟩,
  ⟨758568071, 14, [2, 5, 13, 5835139]⟩,
  ⟨1309000310535827101, 2, [2, 2, 3, 5, 5, 43, 133769, 758568071]⟩,
  ⟨1233079, 11, [2, 3, 7, 11, 17, 157]⟩,
  ⟨38669, 2, [2, 2, 7, 1381]⟩,
  ⟨77339, 2, [2, 38669]⟩,
  ⟨268721, 3, [2, 2, 2, 2, 5, 3359]⟩,
  ⟨1612327, 5, [2, 3, 268721]⟩,
  ⟨677736056450657, 3, [2, 2, 2, 2, 2, 7, 23, 83, 983, 1612327]⟩,
  ⟨209661715479349446893, 2, [2, 2, 77339, 677736056450657]⟩,
  ⟨3458579658547348475946929, 3, [2, 2, 2, 2, 1031, 209661715479349446893]⟩,
  ⟨213235097339095295568608163219551, 31, [2, 5, 5, 1233079, 3458579658547348475946929]⟩,
  ⟨197620364512881247228717050342013327560683201906968909, 2,
    [2, 2, 3, 59, 1309000310535827101, 213235097339095295568608163219551]⟩]

theorem prime_of_mem_cofactorCertificates
    {number : Nat}
    (member : number ∈ cofactorCertificates.map PrimeCertificate.number) :
    number.Prime := by
  have checked : PrimeCertificate.checkAll [] cofactorCertificates = true := by decide +kernel
  obtain ⟨certificate, certificateMember, rfl⟩ := List.mem_map.mp member
  exact PrimeCertificate.prime_of_checkAll (by simp) checked certificateMember

theorem equation_of_numeral
    {x y : QuadraticNumeral}
    (equation : y * y = x * x * x + bNumeral) :
    y.toField ^ 2 = x.toField ^ 3 + Curve.g2.b := by
  have keeps := QuadraticNumeral.keepsOperations_toField
  have equal := congrArg QuadraticNumeral.toField equation
  rw [keeps.map_mul, keeps.map_add, keeps.map_mul, keeps.map_mul, toField_bNumeral] at equal
  rw [pow_two, equal]
  ring

/-- Numerals for the coordinates of a point of the twist, with the order of the point. -/
structure PointCertificate where
  order : Nat
  x : QuadraticNumeral
  y : QuadraticNumeral

namespace PointCertificate

/-- The multiple of the point by its order. -/
def multiple (certificate : PointCertificate) : ProjectivePoint numeral :=
  (⟨certificate.x, certificate.y, 1⟩ : ProjectivePoint numeral).mulBits
    (Digits.lowest (certificate.order.log2 + 1) certificate.order)

/-- The point lies on the twist, and its order annihilates it. -/
structure Checks (certificate : PointCertificate) : Prop where
  equation : certificate.y * certificate.y =
    certificate.x * certificate.x * certificate.x + bNumeral
  zero : certificate.multiple.z.c0 % baseModulus = 0 ∧
    certificate.multiple.z.c1 % baseModulus = 0

instance (certificate : PointCertificate) : Decidable certificate.Checks :=
  decidable_of_iff (certificate.y * certificate.y =
      certificate.x * certificate.x * certificate.x + bNumeral ∧
    certificate.multiple.z.c0 % baseModulus = 0 ∧ certificate.multiple.z.c1 % baseModulus = 0)
    ⟨fun checks => ⟨checks.1, checks.2⟩, fun checks => ⟨checks.equation, checks.zero⟩⟩

/-- The point of the twist with the coordinates of the certificate. -/
def point
    {certificate : PointCertificate}
    (checks : certificate.Checks) : Curve.g2.Point :=
  Curve.point _ _ (equation_of_numeral checks.equation)

theorem addOrderOf_point
    {certificate : PointCertificate}
    (prime : certificate.order.Prime)
    (checks : certificate.Checks) :
    addOrderOf (point checks) = certificate.order := by
  have denotes := ProjectivePoint.map_denotes_point (C := numeral) (E := Curve.g2)
    QuadraticNumeral.keepsOperations_toField rfl rfl (equation_of_numeral checks.equation)
  have annihilated := nsmul_eq_zero_of_numeral _ denotes _ checks.zero
  rw [Digits.value_lowest, Nat.mod_eq_of_lt Nat.lt_log2_self] at annihilated
  have : Fact certificate.order.Prime := ⟨prime⟩
  exact addOrderOf_eq_prime annihilated (Curve.point_ne_zero _)

/-- A point of prime order makes the prime a divisor of the order of the twist. -/
theorem dvd_card
    {certificate : PointCertificate}
    (prime : certificate.order.Prime)
    (checks : certificate.Checks) :
    certificate.order ∣ Nat.card Curve.g2.Point := by
  rw [← addOrderOf_point prime checks]
  exact addOrderOf_dvd_natCard _

end PointCertificate

/-- Points whose orders are the prime factors of the cofactor. -/
def cofactorPoints : List PointCertificate := [
  ⟨10069,
    ⟨9623466969819186210096099112386315455791237079390456581453738055980425269292,
      17692382642665795858331459766236260286187917687754477715501738521284345041308⟩,
    ⟨12865421648231312951340958604967729539437910403193079944083607760704855770454,
      14259550034904450902393517181334394889178378255868966757665071873786609510755⟩⟩,
  ⟨5864401,
    ⟨6802774311692061239147914588924630883413075268849005015308810083529713906404,
      2007449563763677219949445264447460429512417289314188260361517727208049572911⟩,
    ⟨2700652042107284435299279984891723478951608875333647380207543353466509472078,
      17997379348567724064770286098920279168964581121340791520190788106854174478668⟩⟩,
  ⟨1875725156269,
    ⟨9299345632973749624958914052096019679118660634734387053005749413756015057140,
      12832369548772185279177404432682282472020366604252211252632292338880691753111⟩,
    ⟨6899405629974735862643051094613982585316431174900338183523626950366625637392,
      13574025087019572892773054184368487053167116519138101118520768513514386056929⟩⟩,
  ⟨197620364512881247228717050342013327560683201906968909,
    ⟨5490625945880956701322516856606090112533827442273378112602046815279215459810,
      5256559682079401526478338507835237520546066524746659229454838606561515070957⟩,
    ⟨18336626198097072709156157380110605728840577171804651926704525737008246269551,
      15227366733205547649501293969420982421844579393002720848734642488450204116916⟩⟩]

theorem checks_cofactorPoints : ∀ certificate ∈ cofactorPoints, certificate.Checks := by
  decide +kernel

theorem prod_cofactorPoints : (cofactorPoints.map PointCertificate.order).prod = cofactor := by
  decide

theorem prime_of_mem_cofactorPoints :
    ∀ certificate ∈ cofactorPoints, certificate.order.Prime := by
  have orders : ∀ certificate ∈ cofactorPoints,
      certificate.order ∈ cofactorCertificates.map PrimeCertificate.number := by decide
  intro certificate member
  exact prime_of_mem_cofactorCertificates (orders certificate member)

theorem cofactor_dvd_card : cofactor ∣ Nat.card Curve.g2.Point := by
  have coprime : cofactorPoints.Pairwise (Function.onFun Nat.Coprime PointCertificate.order) :=
    List.pairwise_map.mp (by decide)
  rw [← prod_cofactorPoints, ← Nat.modEq_zero_iff_dvd,
    Nat.modEq_list_map_prod_iff coprime]
  intro certificate member
  rw [Nat.modEq_zero_iff_dvd]
  exact PointCertificate.dvd_card (prime_of_mem_cofactorPoints certificate member)
    (checks_cofactorPoints certificate member)

/-- The point of the twist whose order is the smallest prime factor of the cofactor. -/
def outsidePoint : Curve.g2.Point :=
  PointCertificate.point (checks_cofactorPoints cofactorPoints[0] (List.getElem_mem _))

theorem addOrderOf_outsidePoint : addOrderOf outsidePoint = 10069 :=
  PointCertificate.addOrderOf_point
    (prime_of_mem_cofactorPoints cofactorPoints[0] (List.getElem_mem _)) _

/-- The order of the scalar field does not annihilate the point. -/
theorem groupOrder_nsmul_outsidePoint : groupOrder • outsidePoint ≠ 0 := by
  intro annihilated
  have divides := addOrderOf_dvd_of_nsmul_eq_zero annihilated
  rw [addOrderOf_outsidePoint] at divides
  exact absurd divides (by decide)

theorem generator_equation : Curve.g2.generatorY ^ 2 = Curve.g2.generatorX ^ 3 + Curve.g2.b := by
  rw [← toField_generatorX, ← toField_generatorY]
  exact equation_of_numeral (by decide)

/-- The generator. -/
def generatorPoint : Curve.g2.Point := Curve.point _ _ generator_equation

theorem generatorPoint_ne_zero : generatorPoint ≠ 0 := Curve.point_ne_zero _

theorem generator_denotes : (ProjectivePoint.generator (C := Curve.g2)).Denotes generatorPoint :=
  AffinePoint.toProjective_denotes generatorPoint

theorem generator_numeral_denotes :
    ((ProjectivePoint.generator (C := numeral)).map Curve.g2
      QuadraticNumeral.toField).Denotes generatorPoint :=
  ProjectivePoint.map_denotes_point QuadraticNumeral.keepsOperations_toField
    toField_generatorX toField_generatorY generator_equation

theorem groupOrder_nsmul_generatorPoint : groupOrder • generatorPoint = 0 := by
  have computed : ((ProjectivePoint.generator (C := numeral)).mulBits
        (Digits.lowest 254 groupOrder)).z.c0 % baseModulus = 0 ∧
      ((ProjectivePoint.generator (C := numeral)).mulBits
        (Digits.lowest 254 groupOrder)).z.c1 % baseModulus = 0 := by
    decide +kernel
  rw [← value_lowest_groupOrder]
  exact nsmul_eq_zero_of_numeral _ generator_numeral_denotes _ computed

theorem addOrderOf_generatorPoint : addOrderOf generatorPoint = groupOrder :=
  addOrderOf_eq_prime groupOrder_nsmul_generatorPoint generatorPoint_ne_zero

theorem coprime_groupOrder_cofactor : groupOrder.Coprime cofactor := by
  decide

/-- The twist has the order of the scalar field times the cofactor. -/
theorem card_point : Nat.card Curve.g2.Point = groupOrder * cofactor := by
  apply Curve.card_point_eq
  · apply coprime_groupOrder_cofactor.mul_dvd_of_dvd_of_dvd _ cofactor_dvd_card
    rw [← addOrderOf_generatorPoint]
    exact addOrderOf_dvd_natCard generatorPoint
  · rw [Fq2.card_eq, toNat_modulus_base_eq]
    decide

end G2
end Groth16
