import Groth16.Proofs.Field.Moduli
import Groth16.Tower.Quadratic
import Mathlib.FieldTheory.Finite.Basic

/-!
# The quadratic extension is a field

Minus one is no square in the base field, so the norm of a nonzero element is nonzero.
Conjugation is the power map of exponent the modulus.
-/

namespace Groth16
namespace Fq2

instance : NatCast Fq2 := ⟨fun n => ⟨n, 0⟩⟩
instance : IntCast Fq2 := ⟨fun n => ⟨n, 0⟩⟩

@[simp] theorem zero_c0 : (0 : Fq2).c0 = 0 := rfl
@[simp] theorem zero_c1 : (0 : Fq2).c1 = 0 := rfl
@[simp] theorem one_c0 : (1 : Fq2).c0 = 1 := rfl
@[simp] theorem one_c1 : (1 : Fq2).c1 = 0 := rfl
@[simp] theorem natCast_c0 (n : Nat) : (n : Fq2).c0 = n := rfl
@[simp] theorem natCast_c1 (n : Nat) : (n : Fq2).c1 = 0 := rfl
@[simp] theorem intCast_c0 (n : Int) : (n : Fq2).c0 = n := rfl
@[simp] theorem intCast_c1 (n : Int) : (n : Fq2).c1 = 0 := rfl
@[simp] theorem add_c0 (x y : Fq2) : (x + y).c0 = x.c0 + y.c0 := rfl
@[simp] theorem add_c1 (x y : Fq2) : (x + y).c1 = x.c1 + y.c1 := rfl
@[simp] theorem sub_c0 (x y : Fq2) : (x - y).c0 = x.c0 - y.c0 := rfl
@[simp] theorem sub_c1 (x y : Fq2) : (x - y).c1 = x.c1 - y.c1 := rfl
@[simp] theorem neg_c0 (x : Fq2) : (-x).c0 = -x.c0 := rfl
@[simp] theorem neg_c1 (x : Fq2) : (-x).c1 = -x.c1 := rfl

@[simp] theorem mul_c0 (x y : Fq2) : (x * y).c0 = x.c0 * y.c0 - x.c1 * y.c1 := rfl

@[simp] theorem mul_c1 (x y : Fq2) : (x * y).c1 = x.c0 * y.c1 + x.c1 * y.c0 := by
  change (x.c0 + x.c1) * (y.c0 + y.c1) - x.c0 * y.c0 - x.c1 * y.c1 = _
  ring

/-- The elements form a commutative ring. -/
instance : CommRing Fq2 where
  add_assoc x y z := by ext1 <;> simp only [add_c0, add_c1, add_assoc]
  zero_add x := by ext1 <;> simp only [add_c0, add_c1, zero_c0, zero_c1, zero_add]
  add_zero x := by ext1 <;> simp only [add_c0, add_c1, zero_c0, zero_c1, add_zero]
  add_comm x y := by ext1 <;> simp only [add_c0, add_c1, add_comm]
  mul_assoc x y z := by ext1 <;> simp only [mul_c0, mul_c1] <;> ring
  mul_comm x y := by ext1 <;> simp only [mul_c0, mul_c1] <;> ring
  one_mul x := by ext1 <;> simp only [mul_c0, mul_c1, one_c0, one_c1] <;> ring
  mul_one x := by ext1 <;> simp only [mul_c0, mul_c1, one_c0, one_c1] <;> ring
  zero_mul x := by ext1 <;> simp only [mul_c0, mul_c1, zero_c0, zero_c1] <;> ring
  mul_zero x := by ext1 <;> simp only [mul_c0, mul_c1, zero_c0, zero_c1] <;> ring
  left_distrib x y z := by ext1 <;> simp only [mul_c0, mul_c1, add_c0, add_c1] <;> ring
  right_distrib x y z := by ext1 <;> simp only [mul_c0, mul_c1, add_c0, add_c1] <;> ring
  neg_add_cancel x := by ext1 <;> simp only [add_c0, add_c1, neg_c0, neg_c1, zero_c0, zero_c1,
    neg_add_cancel]
  sub_eq_add_neg x y := by ext1 <;> simp only [sub_c0, sub_c1, add_c0, add_c1, neg_c0, neg_c1,
    sub_eq_add_neg]
  natCast_zero := by ext1 <;> simp only [natCast_c0, natCast_c1, zero_c0, zero_c1, Nat.cast_zero]
  natCast_succ n := by ext1 <;> simp only [natCast_c0, natCast_c1, add_c0, add_c1, one_c0, one_c1,
    Nat.cast_succ, add_zero]
  intCast_ofNat n := by ext1 <;> simp only [intCast_c0, intCast_c1, natCast_c0, natCast_c1,
    Int.cast_natCast]
  intCast_negSucc n := by ext1 <;> simp only [intCast_c0, intCast_c1, neg_c0, neg_c1, natCast_c0,
    natCast_c1, Int.cast_negSucc, neg_zero]
  nsmul := nsmulRec
  zsmul := zsmulRec

instance : Nontrivial Fq2 :=
  ⟨0, 1, fun equal => zero_ne_one (congrArg Fq2.c0 equal)⟩

/-- The base field inside the quadratic extension. -/
def ofBase : Fq →+* Fq2 where
  toFun x := ⟨x, 0⟩
  map_zero' := rfl
  map_one' := rfl
  map_add' x y := by ext1 <;> simp
  map_mul' x y := by ext1 <;> simp

@[simp] theorem ofBase_c0 (x : Fq) : (ofBase x).c0 = x := rfl
@[simp] theorem ofBase_c1 (x : Fq) : (ofBase x).c1 = 0 := rfl

theorem ofBase_injective : Function.Injective ofBase := ofBase.injective

/-- The square root of minus one. -/
def imaginary : Fq2 := ⟨0, 1⟩

theorem imaginary_sq : imaginary ^ 2 = -1 := by
  rw [pow_two]
  ext1 <;> simp [imaginary]

theorem eq_ofBase_add (x : Fq2) : x = ofBase x.c0 + ofBase x.c1 * imaginary := by
  ext1 <;> simp [imaginary]

theorem isZero_iff (x : Fq2) : x.isZero = true ↔ x = 0 := by
  rw [isZero, Bool.and_eq_true, FieldElement.isZero_eq_true, FieldElement.isZero_eq_true,
    Fq2.ext_iff]
  rfl

@[simp] theorem double_eq (x : Fq2) : x.double = 2 * x := by
  ext1 <;> simp [double, two_mul]

@[simp] theorem square_eq (x : Fq2) : x.square = x ^ 2 := by
  rw [pow_two]
  ext1
  · rw [square, mul_c0]
    ring
  · rw [square, mul_c1, FieldElement.double_eq]
    ring

@[simp] theorem mulByBase_eq (x : Fq2) (factor : Fq) : x.mulByBase factor = x * ofBase factor := by
  ext1 <;> simp [mulByBase]

theorem nonresidue_c0 : nonresidue.c0 = 9 := by
  rw [nonresidue, FieldElement.ofWord_eq]
  rfl

theorem nonresidue_c1 : nonresidue.c1 = 1 := rfl

theorem nineTimes_eq (x : Fq) : nineTimes x = 9 * x := by
  simp only [nineTimes, FieldElement.double_eq]
  ring

@[simp] theorem mulByNonresidue_eq (x : Fq2) : x.mulByNonresidue = nonresidue * x := by
  ext1
  · rw [mul_c0, nonresidue_c0, nonresidue_c1, mulByNonresidue, nineTimes_eq, one_mul]
  · simp only [mul_c1, nonresidue_c0, nonresidue_c1, mulByNonresidue, nineTimes_eq]
    ring

/-! ## Inversion -/

/-- The product of an element with its conjugate. -/
def norm (x : Fq2) : Fq := x.c0 ^ 2 + x.c1 ^ 2

theorem norm_neg (x : Fq2) : norm (-x) = norm x := by
  rw [norm, norm, neg_c0, neg_c1, neg_sq, neg_sq]

theorem norm_natCast (n : Nat) : norm n = n ^ 2 := by
  rw [norm, natCast_c0, natCast_c1, zero_pow two_ne_zero, add_zero]

theorem norm_mul (x y : Fq2) : norm (x * y) = norm x * norm y := by
  simp only [norm, mul_c0, mul_c1]
  ring

theorem exists_odd_half :
    ∃ half, Odd half ∧ FieldParameters.base.modulus.toNat = 2 * half + 1 := by
  refine ⟨(FieldParameters.base.modulus.toNat - 1) / 2, ?_, ?_⟩
  · rw [FieldParameters.toNat_modulus_base]
    decide
  · rw [FieldParameters.toNat_modulus_base]

/-- Minus one is no square in the base field. -/
theorem sq_ne_neg_one (x : Fq) : x ^ 2 ≠ -1 := by
  intro equal
  have nonzero : x ≠ 0 := by
    rintro rfl
    exact neg_ne_zero.2 one_ne_zero (equal.symm.trans (zero_pow two_ne_zero))
  obtain ⟨half, odd, modulus_eq⟩ := exists_odd_half
  have fermat := FieldElement.pow_modulus_sub_one nonzero
  rw [modulus_eq, Nat.add_sub_cancel, pow_mul, equal, odd.neg_one_pow] at fermat
  have two_zero : ((2 : Nat) : Fq) = 0 := by
    rw [Nat.cast_ofNat, ← one_add_one_eq_two]
    nth_rewrite 1 [← fermat]
    exact neg_add_cancel 1
  rw [FieldElement.natCast_eq_zero_iff, FieldParameters.toNat_modulus_base] at two_zero
  exact absurd two_zero (by decide)

theorem norm_ne_zero
    {x : Fq2}
    (nonzero : x ≠ 0) :
    norm x ≠ 0 := by
  intro normZero
  apply nonzero
  by_cases imaginaryZero : x.c1 = 0
  · rw [norm, imaginaryZero, zero_pow two_ne_zero, add_zero] at normZero
    ext1
    · exact pow_eq_zero_iff two_ne_zero |>.1 normZero
    · exact imaginaryZero
  · refine absurd ?_ (sq_ne_neg_one (x.c0 / x.c1))
    rw [norm] at normZero
    rw [div_pow, eq_neg_of_add_eq_zero_left normZero, neg_div,
      div_self (pow_ne_zero 2 imaginaryZero)]

instance : Inv Fq2 := ⟨fun x => x.inverse?.getD 0⟩

theorem inverse?_of_ne_zero
    {x : Fq2}
    (nonzero : x ≠ 0) :
    x.inverse? = some ⟨x.c0 * (norm x)⁻¹, -(x.c1 * (norm x)⁻¹)⟩ := by
  have norm_eq : x.c0.square + x.c1.square = norm x := by
    rw [FieldElement.square_eq, FieldElement.square_eq, norm]
  rw [inverse?, norm_eq, FieldElement.inverse?_eq, if_neg (norm_ne_zero nonzero), Option.map_some]

theorem inverse?_zero : (0 : Fq2).inverse? = none := by
  rw [inverse?, FieldElement.inverse?_eq, if_pos, Option.map_none]
  simp

theorem inv_eq_getD (x : Fq2) : x⁻¹ = x.inverse?.getD 0 := rfl

theorem mul_inv_of_ne_zero
    {x : Fq2}
    (nonzero : x ≠ 0) :
    x * x⁻¹ = 1 := by
  have norm_mul_inv := mul_inv_cancel₀ (norm_ne_zero nonzero)
  rw [inv_eq_getD, inverse?_of_ne_zero nonzero, Option.getD_some]
  ext1
  · rw [mul_c0, one_c0, ← norm_mul_inv, norm]
    ring
  · rw [mul_c1, one_c1]
    ring

theorem inv_of_zero : (0 : Fq2)⁻¹ = 0 := by
  rw [inv_eq_getD, inverse?_zero, Option.getD_none]

/-- The elements form a field. -/
instance : Field Fq2 := fieldOfInverse _ mul_inv_of_ne_zero inv_of_zero

/-- Inversion fails for zero only. -/
theorem inverse?_eq (x : Fq2) : x.inverse? = if x = 0 then none else some x⁻¹ := by
  by_cases zero : x = 0
  · rw [if_pos zero, zero, inverse?_zero]
  · rw [if_neg zero, inv_eq_getD, inverse?_of_ne_zero zero, Option.getD_some]

/-! ## Conjugation -/

@[simp] theorem conjugate_c0 (x : Fq2) : x.conjugate.c0 = x.c0 := rfl
@[simp] theorem conjugate_c1 (x : Fq2) : x.conjugate.c1 = -x.c1 := rfl

/-- Conjugation as a homomorphism. -/
def conjugateHom : Fq2 →+* Fq2 where
  toFun := conjugate
  map_zero' := by ext1 <;> simp only [conjugate_c0, conjugate_c1, zero_c0, zero_c1, neg_zero]
  map_one' := by ext1 <;> simp only [conjugate_c0, conjugate_c1, one_c0, one_c1, neg_zero]
  map_add' x y := by
    ext1
    · simp only [conjugate_c0, add_c0]
    · simp only [conjugate_c1, add_c1, neg_add]
  map_mul' x y := by
    ext1
    · simp only [conjugate_c0, conjugate_c1, mul_c0, neg_mul_neg]
    · simp only [conjugate_c0, conjugate_c1, mul_c1]
      ring

@[simp] theorem conjugateHom_apply (x : Fq2) : conjugateHom x = x.conjugate := rfl

@[simp] theorem conjugate_conjugate (x : Fq2) : x.conjugate.conjugate = x := by
  ext1
  · rw [conjugate_c0, conjugate_c0]
  · rw [conjugate_c1, conjugate_c1, neg_neg]

@[simp] theorem conjugate_ofBase (x : Fq) : (ofBase x).conjugate = ofBase x := by
  ext1
  · rw [conjugate_c0]
  · rw [conjugate_c1, ofBase_c1, neg_zero]

instance : CharP Fq2 FieldParameters.base.modulus.toNat :=
  charP_of_injective_ringHom ofBase_injective _

theorem imaginary_pow_modulus :
    imaginary ^ FieldParameters.base.modulus.toNat = -imaginary := by
  obtain ⟨half, odd, modulus_eq⟩ := exists_odd_half
  rw [modulus_eq, pow_succ, pow_mul, imaginary_sq, odd.neg_one_pow, neg_one_mul]

/-- Conjugation is the power map of exponent the modulus. -/
theorem pow_modulus (x : Fq2) :
    x ^ FieldParameters.base.modulus.toNat = x.conjugate := by
  nth_rewrite 1 [eq_ofBase_add x]
  rw [add_pow_char, mul_pow, imaginary_pow_modulus, ← map_pow, ← map_pow,
    FieldElement.pow_modulus, FieldElement.pow_modulus]
  nth_rewrite 3 [eq_ofBase_add x]
  rw [← conjugateHom_apply, map_add, map_mul, conjugateHom_apply, conjugateHom_apply,
    conjugateHom_apply, conjugate_ofBase, conjugate_ofBase]
  congr 2
  ext1
  · rw [conjugate_c0, neg_c0, imaginary, neg_zero]
  · rw [conjugate_c1, neg_c1]

/-- The coordinates of an element. -/
def coordinates : Fq2 ≃ Fq × Fq where
  toFun x := (x.c0, x.c1)
  invFun pair := ⟨pair.1, pair.2⟩
  left_inv _ := rfl
  right_inv _ := rfl

instance : Finite Fq2 := Finite.of_equiv _ coordinates.symm

theorem card_eq : Nat.card Fq2 = FieldParameters.base.modulus.toNat ^ 2 := by
  rw [Nat.card_congr coordinates, Nat.card_prod, FieldElement.card_eq, pow_two]

end Fq2
end Groth16
