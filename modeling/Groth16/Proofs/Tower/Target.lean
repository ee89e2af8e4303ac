import Groth16.Proofs.Tower.Sextic
import Groth16.Tower.Target

/-!
# The target field is a field

The square root `w` of `v` makes the target field a quadratic extension of the sextic
one, and a sextic extension of the quadratic one with `w ^ 6 = 9 + u`.
-/

namespace Groth16
namespace Fq12

instance : Add Fq12 := ⟨fun x y => ⟨x.c0 + y.c0, x.c1 + y.c1⟩⟩
instance : Sub Fq12 := ⟨fun x y => ⟨x.c0 - y.c0, x.c1 - y.c1⟩⟩
instance : NatCast Fq12 := ⟨fun n => ⟨n, 0⟩⟩
instance : IntCast Fq12 := ⟨fun n => ⟨n, 0⟩⟩

@[simp] theorem zero_c0 : (0 : Fq12).c0 = 0 := rfl
@[simp] theorem zero_c1 : (0 : Fq12).c1 = 0 := rfl
@[simp] theorem one_c0 : (1 : Fq12).c0 = 1 := rfl
@[simp] theorem one_c1 : (1 : Fq12).c1 = 0 := rfl
@[simp] theorem natCast_c0 (n : Nat) : (n : Fq12).c0 = n := rfl
@[simp] theorem natCast_c1 (n : Nat) : (n : Fq12).c1 = 0 := rfl
@[simp] theorem intCast_c0 (n : Int) : (n : Fq12).c0 = n := rfl
@[simp] theorem intCast_c1 (n : Int) : (n : Fq12).c1 = 0 := rfl
@[simp] theorem add_c0 (x y : Fq12) : (x + y).c0 = x.c0 + y.c0 := rfl
@[simp] theorem add_c1 (x y : Fq12) : (x + y).c1 = x.c1 + y.c1 := rfl
@[simp] theorem sub_c0 (x y : Fq12) : (x - y).c0 = x.c0 - y.c0 := rfl
@[simp] theorem sub_c1 (x y : Fq12) : (x - y).c1 = x.c1 - y.c1 := rfl
@[simp] theorem neg_c0 (x : Fq12) : (-x).c0 = -x.c0 := rfl
@[simp] theorem neg_c1 (x : Fq12) : (-x).c1 = -x.c1 := rfl

theorem mul_eq (x y : Fq12) : x * y = Fq12.mul x y := rfl

@[simp] theorem mul_c0 (x y : Fq12) : (x * y).c0 = x.c0 * y.c0 + Fq6.root * (x.c1 * y.c1) := by
  simp only [mul_eq, Fq12.mul, Fq6.mulByNonresidue_eq]
  ring

@[simp] theorem mul_c1 (x y : Fq12) : (x * y).c1 = x.c0 * y.c1 + x.c1 * y.c0 := by
  simp only [mul_eq, Fq12.mul]
  ring

/-- The elements form a commutative ring. -/
instance : CommRing Fq12 where
  add_assoc x y z := by ext1 <;> simp only [add_c0, add_c1, add_assoc]
  zero_add x := by ext1 <;> simp only [add_c0, add_c1, zero_c0, zero_c1, zero_add]
  add_zero x := by ext1 <;> simp only [add_c0, add_c1, zero_c0, zero_c1, add_zero]
  add_comm x y := by ext1 <;> simp only [add_c0, add_c1, add_comm]
  mul_assoc x y z := by ext1 <;> simp only [mul_c0, mul_c1] <;> ring
  mul_comm x y := by ext1 <;> simp only [mul_c0, mul_c1] <;> ring
  one_mul x := by ext1 <;> simp only [mul_c0, mul_c1, one_c0, one_c1] <;> ring
  mul_one x := by ext1 <;> simp only [mul_c0, mul_c1, one_c0, one_c1] <;> ring
  zero_mul x := by ext1 <;> simp only [mul_c0, mul_c1, zero_c0, zero_c1] <;> ring
  mul_zero x := by ext1 <;> simp only [mul_c0, mul_c1, zero_c0, zero_c1] <;> ring
  left_distrib x y z := by ext1 <;> simp only [mul_c0, mul_c1, add_c0, add_c1] <;> ring
  right_distrib x y z := by ext1 <;> simp only [mul_c0, mul_c1, add_c0, add_c1] <;> ring
  neg_add_cancel x := by ext1 <;> simp only [add_c0, add_c1, neg_c0, neg_c1, zero_c0, zero_c1,
    neg_add_cancel]
  sub_eq_add_neg x y := by ext1 <;> simp only [sub_c0, sub_c1, add_c0, add_c1, neg_c0, neg_c1,
    sub_eq_add_neg]
  natCast_zero := by ext1 <;> simp only [natCast_c0, natCast_c1, zero_c0, zero_c1, Nat.cast_zero]
  natCast_succ n := by ext1 <;> simp only [natCast_c0, natCast_c1, add_c0, add_c1, one_c0, one_c1,
    Nat.cast_succ, add_zero]
  intCast_ofNat n := by ext1 <;> simp only [intCast_c0, intCast_c1, natCast_c0, natCast_c1,
    Int.cast_natCast]
  intCast_negSucc n := by ext1 <;> simp only [intCast_c0, intCast_c1, neg_c0, neg_c1, natCast_c0,
    natCast_c1, Int.cast_negSucc, neg_zero]
  nsmul := nsmulRec
  zsmul := zsmulRec

instance : Nontrivial Fq12 :=
  ⟨0, 1, fun equal => zero_ne_one (congrArg Fq12.c0 equal)⟩

/-- The sextic extension inside the target field. -/
def ofSextic : Fq6 →+* Fq12 where
  toFun x := ⟨x, 0⟩
  map_zero' := rfl
  map_one' := rfl
  map_add' x y := by ext1 <;> simp
  map_mul' x y := by ext1 <;> simp

@[simp] theorem ofSextic_c0 (x : Fq6) : (ofSextic x).c0 = x := rfl
@[simp] theorem ofSextic_c1 (x : Fq6) : (ofSextic x).c1 = 0 := rfl

/-- The quadratic extension inside the target field. -/
def ofQuadratic : Fq2 →+* Fq12 := ofSextic.comp Fq6.ofQuadratic

theorem ofQuadratic_apply (x : Fq2) : ofQuadratic x = ofSextic (Fq6.ofQuadratic x) := rfl

/-- The base field inside the target field. -/
def ofBase : Fq →+* Fq12 := ofQuadratic.comp Fq2.ofBase

theorem ofBase_apply (x : Fq) : ofBase x = ofQuadratic (Fq2.ofBase x) := rfl

/-- The sixth root of the nonresidue. -/
def root : Fq12 := ⟨0, 1⟩

@[simp] theorem root_c0 : root.c0 = 0 := rfl
@[simp] theorem root_c1 : root.c1 = 1 := rfl

theorem root_pow_two : root ^ 2 = ofSextic Fq6.root := by
  rw [pow_two]
  ext1 <;> simp

theorem root_pow_six : root ^ 6 = ofQuadratic Fq2.nonresidue := by
  rw [show (6 : Nat) = 2 * 3 from rfl, pow_mul, root_pow_two, ← map_pow, Fq6.root_pow_three,
    ofQuadratic_apply]

theorem eq_add_root (x : Fq12) : x = ofSextic x.c0 + ofSextic x.c1 * root := by
  ext1 <;> simp

/-- The coordinates of an element over the quadratic extension. -/
theorem eq_sum_root (x : Fq12) :
    x = ofQuadratic x.c0.c0 + ofQuadratic x.c1.c0 * root + ofQuadratic x.c0.c1 * root ^ 2 +
      ofQuadratic x.c1.c1 * root ^ 3 + ofQuadratic x.c0.c2 * root ^ 4 +
      ofQuadratic x.c1.c2 * root ^ 5 := by
  have fourth : root ^ 4 = ofSextic (Fq6.root ^ 2) := by
    rw [show (4 : Nat) = 2 * 2 from rfl, pow_mul, root_pow_two, ← map_pow]
  nth_rewrite 1 [eq_add_root x, Fq6.eq_sum_root x.c0, Fq6.eq_sum_root x.c1]
  rw [pow_succ root 4, pow_succ root 2, fourth, root_pow_two]
  simp only [map_add, map_mul, ofQuadratic_apply]
  ring

theorem isZero_iff (x : Fq12) : x.isZero = true ↔ x = 0 := by
  rw [isZero, Bool.and_eq_true, Fq6.isZero_iff, Fq6.isZero_iff, Fq12.ext_iff]
  rfl

theorem isOne_iff (x : Fq12) : x.isOne = true ↔ x = 1 := by
  rw [isOne, beq_iff_eq]

@[simp] theorem square_eq (x : Fq12) : x.square = x ^ 2 := by
  rw [pow_two]
  ext1
  · simp only [square, mul_c0, Fq6.mulByNonresidue_eq]
    ring
  · simp only [square, mul_c1, Fq6.double_eq]
    ring

/-- The value of a line as an element. -/
theorem mulByLine_eq (x : Fq12) (c0 c3 c4 : Fq2) :
    x.mulByLine c0 c3 c4 =
      x * (ofQuadratic c0 + ofQuadratic c3 * root + ofQuadratic c4 * root ^ 3) := by
  rw [pow_succ root 2, root_pow_two]
  ext1
  · simp only [mulByLine, mul_c0, add_c0, add_c1, mul_c1, Fq6.mulByNonresidue_eq,
      Fq6.mulByQuadratic_eq, Fq6.mulBy01_eq, ofQuadratic_apply, ofSextic_c0, ofSextic_c1,
      root_c0, root_c1]
    ring
  · simp only [mulByLine, mul_c0, add_c0, add_c1, mul_c1, Fq6.mulByQuadratic_eq,
      Fq6.mulBy01_eq, ofQuadratic_apply, ofSextic_c0, ofSextic_c1, root_c0, root_c1, map_add]
    ring

/-- The power with a one-word exponent is the power. -/
theorem pow_eq
    (x : Fq12)
    (exponent : UInt64) :
    x.pow exponent = x ^ exponent.toNat := by
  have power_eq : x.pow exponent = Digits.power x ((Word.bits exponent).dropWhile (!·)) := by
    simp only [pow, Digits.power, square_eq, pow_two]
  rw [power_eq, Digits.power_eq, Digits.value_dropWhile, Digits.value_bits]

/-! ## Inversion -/

/-- The product of an element with its conjugate. -/
def norm (x : Fq12) : Fq6 := x.c0 ^ 2 - Fq6.root * x.c1 ^ 2

theorem mul_conjugate (x : Fq12) : x * x.conjugate = ofSextic x.norm := by
  ext1 <;> simp only [conjugate, norm, mul_c0, mul_c1, ofSextic_c0, ofSextic_c1] <;> ring

theorem norm_ne_zero
    {x : Fq12}
    (nonzero : x ≠ 0) :
    norm x ≠ 0 := by
  intro normZero
  rw [norm, sub_eq_zero] at normZero
  by_cases topZero : x.c1 = 0
  · rw [topZero, zero_pow two_ne_zero, mul_zero, pow_eq_zero_iff two_ne_zero] at normZero
    apply nonzero
    ext1
    · exact normZero
    · exact topZero
  · apply Fq6.pow_two_ne_root (x.c0 / x.c1)
    rw [div_pow, div_eq_iff (pow_ne_zero 2 topZero), normZero]

instance : Inv Fq12 := ⟨fun x => x.inverse?.getD 0⟩

theorem inv_eq_getD (x : Fq12) : x⁻¹ = x.inverse?.getD 0 := rfl

theorem inverse?_eq_map (x : Fq12) :
    x.inverse? = (norm x).inverse?.map fun normInverse =>
      x.conjugate * ofSextic normInverse := by
  have norm_eq : x.c0.square - x.c1.square.mulByNonresidue = norm x := by
    rw [Fq6.square_eq, Fq6.square_eq, Fq6.mulByNonresidue_eq, norm]
  rw [inverse?, norm_eq]
  congr 1
  funext normInverse
  ext1
  · simp only [conjugate, mul_c0, ofSextic_c0, ofSextic_c1]
    ring
  · simp only [conjugate, mul_c1, ofSextic_c0, ofSextic_c1]
    ring

theorem inverse?_zero : (0 : Fq12).inverse? = none := by
  rw [inverse?_eq_map, Fq6.inverse?_eq, if_pos, Option.map_none]
  simp [norm]

theorem mul_inv_of_ne_zero
    {x : Fq12}
    (nonzero : x ≠ 0) :
    x * x⁻¹ = 1 := by
  rw [inv_eq_getD, inverse?_eq_map, Fq6.inverse?_eq, if_neg (norm_ne_zero nonzero),
    Option.map_some, Option.getD_some, ← mul_assoc, mul_conjugate, ← map_mul,
    mul_inv_cancel₀ (norm_ne_zero nonzero), map_one]

theorem inv_of_zero : (0 : Fq12)⁻¹ = 0 := by
  rw [inv_eq_getD, inverse?_zero, Option.getD_none]

/-- The elements form a field. -/
instance : Field Fq12 := fieldOfInverse _ mul_inv_of_ne_zero inv_of_zero

/-- Inversion fails for zero only. -/
theorem inverse?_eq (x : Fq12) : x.inverse? = if x = 0 then none else some x⁻¹ := by
  by_cases zero : x = 0
  · rw [if_pos zero, zero, inverse?_zero]
  · rw [if_neg zero, inv_eq_getD, inverse?_eq_map, Fq6.inverse?_eq,
      if_neg (norm_ne_zero zero), Option.map_some, Option.getD_some]

theorem ofQuadratic_injective : Function.Injective ofQuadratic := ofQuadratic.injective

theorem root_ne_zero : root ≠ 0 := by
  intro equal
  exact one_ne_zero (congrArg Fq12.c1 equal)

instance : CharP Fq12 FieldParameters.base.modulus.toNat :=
  charP_of_injective_ringHom ofQuadratic_injective _

/-- The coordinates of an element. -/
def coordinates : Fq12 ≃ Fq6 × Fq6 where
  toFun x := (x.c0, x.c1)
  invFun pair := ⟨pair.1, pair.2⟩
  left_inv _ := rfl
  right_inv _ := rfl

instance : Finite Fq12 := Finite.of_equiv _ coordinates.symm

theorem card_eq : Nat.card Fq12 = FieldParameters.base.modulus.toNat ^ 12 := by
  rw [Nat.card_congr coordinates, Nat.card_prod, Fq6.card_eq]
  ring

end Fq12
end Groth16
