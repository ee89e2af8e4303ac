import Groth16.Proofs.Tower.Target
import Mathlib.Algebra.Polynomial.Degree.SmallDegree
import Mathlib.RingTheory.AdjoinRoot

/-!
# The tower as polynomials

The coordinates of an element are the coefficients of a polynomial over the level below.
The operations of each level are those of these polynomials modulo `u ^ 2 + 1`,
`v ^ 3 - (9 + u)` and `w ^ 2 - v`, and the short forms of products are full products.
-/

namespace Groth16

open Polynomial

section Levels

variable {R S : Type} [CommRing R] [CommRing S]

/-- The elements stand for the remainders modulo a polynomial, and the operations on them are
those on the remainders: they form the quotient by the polynomial. -/
structure ComputesModulo (modulus : R[X]) (toPolynomial : S → R[X]) : Prop where
  monic : modulus.Monic
  degree_lt : ∀ x, (toPolynomial x).degree < modulus.degree
  map_zero : toPolynomial 0 = 0
  map_one : toPolynomial 1 = 1
  map_add : ∀ x y, toPolynomial (x + y) = toPolynomial x + toPolynomial y
  map_neg : ∀ x, toPolynomial (-x) = -toPolynomial x
  map_sub : ∀ x y, toPolynomial (x - y) = toPolynomial x - toPolynomial y
  map_mul : ∀ x y, toPolynomial (x * y) = (toPolynomial x * toPolynomial y) %ₘ modulus
  quotient : ∃ e : S ≃+* AdjoinRoot modulus, ∀ x, e x = AdjoinRoot.mk modulus (toPolynomial x)

/-- Each element is the value of exactly one remainder modulo the polynomial at a root of it. -/
structure IsValueAtRoot
    (modulus : R[X])
    (toPolynomial : S → R[X])
    (lower : R →+* S)
    (root : S) : Prop where
  monic : modulus.Monic
  degree_pos : 0 < modulus.degree
  isRoot : modulus.eval₂ lower root = 0
  degree_lt : ∀ x, (toPolynomial x).degree < modulus.degree
  eval₂_eq : ∀ x, (toPolynomial x).eval₂ lower root = x
  exists_eq : ∀ p : R[X], p.degree < modulus.degree → ∃ x, toPolynomial x = p

namespace IsValueAtRoot

variable {modulus : R[X]} {toPolynomial : S → R[X]} {lower : R →+* S} {root : S}

/-- A remainder is the polynomial of its value. -/
theorem toPolynomial_eq
    (isValue : IsValueAtRoot modulus toPolynomial lower root)
    {p : R[X]}
    (small : p.degree < modulus.degree)
    {x : S}
    (value : p.eval₂ lower root = x) :
    toPolynomial x = p := by
  obtain ⟨y, rfl⟩ := isValue.exists_eq p small
  rw [← value, isValue.eval₂_eq]

theorem eval₂_modByMonic
    (isValue : IsValueAtRoot modulus toPolynomial lower root)
    (p : R[X]) :
    (p %ₘ modulus).eval₂ lower root = p.eval₂ lower root :=
  eval₂_modByMonic_eq_self_of_root isValue.isRoot

/-- Evaluation at the root makes the quotient by the polynomial a copy of the ring. -/
theorem lift_bijective
    [Nontrivial R]
    (isValue : IsValueAtRoot modulus toPolynomial lower root) :
    Function.Bijective (AdjoinRoot.lift lower root isValue.isRoot) := by
  constructor
  · rw [injective_iff_map_eq_zero]
    intro residue vanishes
    obtain ⟨p, rfl⟩ := AdjoinRoot.mk_surjective residue
    rw [AdjoinRoot.lift_mk, ← isValue.eval₂_modByMonic] at vanishes
    have zero : toPolynomial 0 = 0 :=
      isValue.toPolynomial_eq (degree_zero.trans_lt (bot_lt_of_lt isValue.degree_pos))
        (eval₂_zero lower root)
    have remainder : toPolynomial 0 = p %ₘ modulus :=
      isValue.toPolynomial_eq (degree_modByMonic_lt p isValue.monic) vanishes
    rw [AdjoinRoot.mk_eq_zero, ← modByMonic_eq_zero_iff_dvd isValue.monic, ← remainder, zero]
  · intro x
    refine ⟨AdjoinRoot.mk modulus (toPolynomial x), ?_⟩
    rw [AdjoinRoot.lift_mk, isValue.eval₂_eq]

/-- The operations are those on the remainders, because evaluation at the root respects them. -/
theorem computesModulo
    [Nontrivial R]
    (isValue : IsValueAtRoot modulus toPolynomial lower root) :
    ComputesModulo modulus toPolynomial where
  monic := isValue.monic
  degree_lt := isValue.degree_lt
  map_zero := isValue.toPolynomial_eq
    (degree_zero.trans_lt (bot_lt_of_lt isValue.degree_pos)) (eval₂_zero lower root)
  map_one := isValue.toPolynomial_eq
    (degree_one.trans_lt isValue.degree_pos) (eval₂_one lower root)
  map_add x y := by
    apply isValue.toPolynomial_eq
    · exact (degree_add_le _ _).trans_lt (max_lt (isValue.degree_lt x) (isValue.degree_lt y))
    · rw [eval₂_add, isValue.eval₂_eq, isValue.eval₂_eq]
  map_neg x := by
    apply isValue.toPolynomial_eq
    · rw [degree_neg]
      exact isValue.degree_lt x
    · rw [eval₂_neg, isValue.eval₂_eq]
  map_sub x y := by
    apply isValue.toPolynomial_eq
    · exact (degree_sub_le _ _).trans_lt (max_lt (isValue.degree_lt x) (isValue.degree_lt y))
    · rw [eval₂_sub, isValue.eval₂_eq, isValue.eval₂_eq]
  map_mul x y := by
    apply isValue.toPolynomial_eq
    · exact degree_modByMonic_lt _ isValue.monic
    · rw [isValue.eval₂_modByMonic, eval₂_mul, isValue.eval₂_eq, isValue.eval₂_eq]
  quotient := by
    refine ⟨(RingEquiv.ofBijective _ isValue.lift_bijective).symm, fun x => ?_⟩
    rw [RingEquiv.symm_apply_eq, RingEquiv.ofBijective_apply, AdjoinRoot.lift_mk,
      isValue.eval₂_eq]

end IsValueAtRoot

/-- The map is a ring homomorphism and its own inverse, fixes exactly the lower ring, and is
the only homomorphism beside the identity that fixes the lower ring. -/
structure IsConjugation (lower : R →+* S) (conjugate : S → S) : Prop where
  map_one : conjugate 1 = 1
  map_add : ∀ x y, conjugate (x + y) = conjugate x + conjugate y
  map_mul : ∀ x y, conjugate (x * y) = conjugate x * conjugate y
  involutive : Function.Involutive conjugate
  fixed_iff : ∀ x, conjugate x = x ↔ ∃ y, lower y = x
  eq_of_fixes : ∀ f : S →+* S, (∀ y, f (lower y) = lower y) → f ≠ RingHom.id S → ⇑f = conjugate

/-- Where every element is a sum of an element of the lower ring and a multiple of a square
root, the homomorphism that changes the sign of the root is the conjugation. -/
theorem isConjugation_of_root
    [IsDomain S]
    {lower : R →+* S}
    (conjugation : S →+* S)
    {root : S}
    (two_ne_zero : (2 : S) ≠ 0)
    (sq_mem : ∃ square, root ^ 2 = lower square)
    (exists_eq : ∀ x, ∃ a b, x = lower a + lower b * root)
    (conjugation_lower : ∀ y, conjugation (lower y) = lower y)
    (conjugation_root : conjugation root = -root) :
    IsConjugation lower conjugation where
  map_one := map_one conjugation
  map_add := map_add conjugation
  map_mul := map_mul conjugation
  involutive x := by
    obtain ⟨a, b, rfl⟩ := exists_eq x
    simp only [map_add, map_mul, conjugation_lower, conjugation_root, map_neg, neg_neg]
  fixed_iff x := by
    constructor
    · intro fixed
      obtain ⟨a, b, rfl⟩ := exists_eq x
      refine ⟨a, ?_⟩
      rw [map_add, map_mul, conjugation_lower, conjugation_lower, conjugation_root, mul_neg,
        add_right_inj] at fixed
      have twice : 2 * (lower b * root) = 0 := by
        rw [two_mul]
        nth_rewrite 1 [← fixed]
        exact neg_add_cancel _
      rw [(mul_eq_zero.mp twice).resolve_left two_ne_zero, add_zero]
    · rintro ⟨y, rfl⟩
      exact conjugation_lower y
  eq_of_fixes f fixes notIdentity := by
    have image_sq : f root ^ 2 = root ^ 2 := by
      obtain ⟨square, root_sq⟩ := sq_mem
      rw [← map_pow, root_sq, fixes]
    have image (x : S) : ∃ a b, x = lower a + lower b * root ∧
        f x = lower a + lower b * f root := by
      obtain ⟨a, b, rfl⟩ := exists_eq x
      exact ⟨a, b, rfl, by rw [map_add, map_mul, fixes, fixes]⟩
    -- The image of the root is a root as well, so one of the two square roots.
    rcases sq_eq_sq_iff_eq_or_eq_neg.mp image_sq with same | opposite
    · refine absurd (RingHom.ext fun x => ?_) notIdentity
      obtain ⟨a, b, equal, computed⟩ := image x
      rw [computed, same, ← equal, RingHom.id_apply]
    · funext x
      obtain ⟨a, b, rfl, computed⟩ := image x
      rw [computed, opposite, map_add, map_mul, conjugation_lower, conjugation_lower,
        conjugation_root]

end Levels

/-! ## Remainders by their coefficients -/

section Remainders

variable {R S : Type} [CommRing R] [CommRing S]

/-- Linear polynomials are the remainders modulo a monic polynomial of degree two. -/
theorem isValueAtRoot_linear
    {modulus : R[X]}
    (monic : modulus.Monic)
    (degree : modulus.degree = 2)
    {lower : R →+* S}
    {root : S}
    (isRoot : modulus.eval₂ lower root = 0)
    (c0 c1 : S → R)
    (eq_add : ∀ x, x = lower (c0 x) + lower (c1 x) * root)
    (exists_eq : ∀ a b, ∃ x, c0 x = a ∧ c1 x = b) :
    IsValueAtRoot modulus (fun x => C (c1 x) * X + C (c0 x)) lower root where
  monic := monic
  degree_pos := by
    rw [degree]
    decide
  isRoot := isRoot
  degree_lt x := by
    rw [degree]
    exact degree_linear_lt
  eval₂_eq x := by
    rw [eval₂_add, eval₂_mul, eval₂_C, eval₂_C, eval₂_X, add_comm]
    exact (eq_add x).symm
  exists_eq p small := by
    rw [degree] at small
    obtain ⟨x, low, high⟩ := exists_eq (p.coeff 0) (p.coeff 1)
    refine ⟨x, ?_⟩
    rw [low, high]
    exact (eq_X_add_C_of_degree_le_one (Order.le_of_lt_succ small)).symm

/-- Quadratic polynomials are the remainders modulo a monic polynomial of degree three. -/
theorem isValueAtRoot_quadratic
    {modulus : R[X]}
    (monic : modulus.Monic)
    (degree : modulus.degree = 3)
    {lower : R →+* S}
    {root : S}
    (isRoot : modulus.eval₂ lower root = 0)
    (c0 c1 c2 : S → R)
    (eq_add : ∀ x, x = lower (c0 x) + lower (c1 x) * root + lower (c2 x) * root ^ 2)
    (exists_eq : ∀ a b c, ∃ x, c0 x = a ∧ c1 x = b ∧ c2 x = c) :
    IsValueAtRoot modulus (fun x => C (c2 x) * X ^ 2 + C (c1 x) * X + C (c0 x)) lower root where
  monic := monic
  degree_pos := by
    rw [degree]
    decide
  isRoot := isRoot
  degree_lt x := by
    rw [degree]
    exact degree_quadratic_lt
  eval₂_eq x := by
    simp only [eval₂_add, eval₂_mul, eval₂_C, eval₂_X, eval₂_pow]
    rw [add_assoc, add_comm, add_comm (lower (c1 x) * root)]
    exact (eq_add x).symm
  exists_eq p small := by
    rw [degree] at small
    obtain ⟨x, low, middle, high⟩ := exists_eq (p.coeff 0) (p.coeff 1) (p.coeff 2)
    refine ⟨x, ?_⟩
    have natDegree_le : p.natDegree ≤ 2 :=
      natDegree_le_iff_degree_le.mpr (Order.le_of_lt_succ small)
    have sum := p.as_sum_range_C_mul_X_pow' (Nat.lt_succ_of_le natDegree_le)
    rw [Finset.sum_range_succ, Finset.sum_range_succ, Finset.sum_range_succ, Finset.sum_range_zero,
      zero_add, pow_zero, mul_one, pow_one] at sum
    rw [low, middle, high, add_assoc, add_comm, add_comm (C (p.coeff 1) * X)]
    exact sum.symm

end Remainders

/-! ## The three levels -/

namespace Fq2

/-- The polynomial `c1 * u + c0`. -/
noncomputable def toPolynomial (x : Fq2) : Fq[X] := C x.c1 * X + C x.c0

theorem isValueAtRoot : IsValueAtRoot (X ^ 2 + 1 : Fq[X]) toPolynomial ofBase imaginary := by
  rw [← C_1]
  refine isValueAtRoot_linear (monic_X_pow_add_C 1 two_ne_zero) (degree_X_pow_add_C two_pos 1) ?_
    c0 c1 eq_ofBase_add fun a b => ⟨⟨a, b⟩, rfl, rfl⟩
  rw [eval₂_add, eval₂_X_pow, eval₂_C, map_one, imaginary_sq, neg_add_cancel]

theorem base_two_ne_zero : (2 : Fq) ≠ 0 := by
  intro zero
  rw [← Nat.cast_ofNat, FieldElement.natCast_eq_zero_iff,
    FieldParameters.toNat_modulus_base] at zero
  exact absurd zero (by decide)

theorem isConjugation : IsConjugation ofBase conjugate := by
  refine isConjugation_of_root conjugateHom ?_ ⟨-1, ?_⟩
    (fun x => ⟨x.c0, x.c1, eq_ofBase_add x⟩) conjugate_ofBase ?_
  · rw [← map_ofNat ofBase, map_ne_zero_iff _ ofBase_injective]
    exact base_two_ne_zero
  · rw [imaginary_sq, map_neg, map_one]
  · ext1
    · rw [conjugateHom_apply, conjugate_c0, imaginary, neg_c0, neg_zero]
    · rw [conjugateHom_apply, conjugate_c1, neg_c1]

/-- The operations are those modulo `u ^ 2 + 1`, and each short form is the full product by the
element that it stands for. -/
structure IsExact : Prop where
  computesModulo : ComputesModulo (X ^ 2 + 1 : Fq[X]) toPolynomial
  square_eq : ∀ x : Fq2, x.square = x * x
  mulByNonresidue_eq : ∀ x : Fq2, x.mulByNonresidue = x * ⟨9, 1⟩
  mulByBase_eq : ∀ (x : Fq2) (factor : Fq), x.mulByBase factor = x * ⟨factor, 0⟩
  isConjugation : IsConjugation ofBase conjugate

theorem nonresidue_eq : nonresidue = ⟨9, 1⟩ := by
  ext1
  · exact nonresidue_c0
  · exact nonresidue_c1

theorem isExact : IsExact where
  computesModulo := isValueAtRoot.computesModulo
  square_eq x := by rw [square_eq, pow_two]
  mulByNonresidue_eq x := by rw [mulByNonresidue_eq, nonresidue_eq, mul_comm]
  mulByBase_eq x factor := mulByBase_eq x factor
  isConjugation := isConjugation

end Fq2

namespace Fq6

/-- The polynomial `c2 * v ^ 2 + c1 * v + c0`. -/
noncomputable def toPolynomial (x : Fq6) : Fq2[X] := C x.c2 * X ^ 2 + C x.c1 * X + C x.c0

theorem isValueAtRoot :
    IsValueAtRoot (X ^ 3 - C ⟨9, 1⟩ : Fq2[X]) toPolynomial ofQuadratic root := by
  refine isValueAtRoot_quadratic (monic_X_pow_sub_C _ three_ne_zero)
    (degree_X_pow_sub_C three_pos _) ?_ c0 c1 c2 eq_sum_root
    fun a b c => ⟨⟨a, b, c⟩, rfl, rfl, rfl⟩
  rw [eval₂_sub, eval₂_X_pow, eval₂_C, root_pow_three, Fq2.nonresidue_eq, sub_self]

/-- The operations are those modulo `v ^ 3 - (9 + u)`, and each short form is the full product
by the element that it stands for. -/
structure IsExact : Prop where
  computesModulo : ComputesModulo (X ^ 3 - C ⟨9, 1⟩ : Fq2[X]) toPolynomial
  square_eq : ∀ x : Fq6, x.square = x * x
  mulByNonresidue_eq : ∀ x : Fq6, x.mulByNonresidue = x * ⟨0, 1, 0⟩
  mulByQuadratic_eq : ∀ (x : Fq6) (factor : Fq2), x.mulByQuadratic factor = x * ⟨factor, 0, 0⟩
  mulBy01_eq : ∀ (x : Fq6) (b0 b1 : Fq2), x.mulBy01 b0 b1 = x * ⟨b0, b1, 0⟩
  mulBy1_eq : ∀ (x : Fq6) (b1 : Fq2), x.mulBy1 b1 = x * ⟨0, b1, 0⟩

theorem mk_eq_add (b0 b1 : Fq2) :
    (⟨b0, b1, 0⟩ : Fq6) = ofQuadratic b0 + ofQuadratic b1 * root := by
  ext1 <;> simp

theorem isExact : IsExact where
  computesModulo := isValueAtRoot.computesModulo
  square_eq x := rfl
  mulByNonresidue_eq x := by rw [mulByNonresidue_eq, mul_comm, root]
  mulByQuadratic_eq x factor := mulByQuadratic_eq x factor
  mulBy01_eq x b0 b1 := by rw [mulBy01_eq, mk_eq_add]
  mulBy1_eq x b1 := by rw [mulBy1_eq, mk_eq_add, map_zero, zero_add]

end Fq6

namespace Fq12

/-- The polynomial `c1 * w + c0`. -/
noncomputable def toPolynomial (x : Fq12) : Fq6[X] := C x.c1 * X + C x.c0

theorem isValueAtRoot :
    IsValueAtRoot (X ^ 2 - C ⟨0, 1, 0⟩ : Fq6[X]) toPolynomial ofSextic root := by
  refine isValueAtRoot_linear (monic_X_pow_sub_C _ two_ne_zero) (degree_X_pow_sub_C two_pos _) ?_
    c0 c1 eq_add_root fun a b => ⟨⟨a, b⟩, rfl, rfl⟩
  rw [eval₂_sub, eval₂_X_pow, eval₂_C, root_pow_two, Fq6.root, sub_self]

/-- Conjugation as a homomorphism. -/
def conjugateHom : Fq12 →+* Fq12 where
  toFun := conjugate
  map_zero' := by ext1 <;> simp [conjugate]
  map_one' := by ext1 <;> simp [conjugate]
  map_add' x y := by
    ext1
    · rfl
    · exact neg_add x.c1 y.c1
  map_mul' x y := by
    ext1
    · simp only [conjugate, mul_c0, neg_mul_neg]
    · simp only [conjugate, mul_c1]
      ring

@[simp] theorem conjugateHom_apply (x : Fq12) : conjugateHom x = x.conjugate := rfl

theorem conjugate_ofSextic (x : Fq6) : (ofSextic x).conjugate = ofSextic x := by
  ext1
  · rfl
  · exact neg_zero

theorem isConjugation : IsConjugation ofSextic conjugate := by
  refine isConjugation_of_root conjugateHom ?_ ⟨Fq6.root, root_pow_two⟩
    (fun x => ⟨x.c0, x.c1, eq_add_root x⟩) conjugate_ofSextic ?_
  · rw [← map_ofNat ofBase, map_ne_zero_iff _ ofBase.injective]
    exact Fq2.base_two_ne_zero
  · ext1
    · exact neg_zero.symm
    · rfl

/-- The operations are those modulo `w ^ 2 - v`, each short form is the full product by the
element that it stands for, and powers are powers. -/
structure IsExact : Prop where
  computesModulo : ComputesModulo (X ^ 2 - C ⟨0, 1, 0⟩ : Fq6[X]) toPolynomial
  square_eq : ∀ x : Fq12, x.square = x * x
  mulByLine_eq : ∀ (x : Fq12) (c0 c3 c4 : Fq2),
    x.mulByLine c0 c3 c4 = x * ⟨⟨c0, 0, 0⟩, ⟨c3, c4, 0⟩⟩
  isConjugation : IsConjugation ofSextic conjugate
  pow_eq : ∀ (x : Fq12) (exponent : UInt64), x.pow exponent = x ^ exponent.toNat

theorem mk_eq_add (c0 c3 c4 : Fq2) :
    (⟨⟨c0, 0, 0⟩, ⟨c3, c4, 0⟩⟩ : Fq12) =
      ofQuadratic c0 + ofQuadratic c3 * root + ofQuadratic c4 * root ^ 3 := by
  rw [eq_sum_root ⟨⟨c0, 0, 0⟩, ⟨c3, c4, 0⟩⟩]
  simp only [map_zero, zero_mul, add_zero]

theorem isExact : IsExact where
  computesModulo := isValueAtRoot.computesModulo
  square_eq x := by rw [square_eq, pow_two]
  mulByLine_eq x c0 c3 c4 := by rw [mulByLine_eq, mk_eq_add]
  isConjugation := isConjugation
  pow_eq := pow_eq

end Fq12

/-- The arithmetic of all three levels is exact. -/
theorem tower_isExact : Fq2.IsExact ∧ Fq6.IsExact ∧ Fq12.IsExact :=
  ⟨Fq2.isExact, Fq6.isExact, Fq12.isExact⟩

end Groth16
