import Groth16.Proofs.Field.Numeral
import Groth16.Proofs.Tower.Quadratic
import Groth16.Tower.Sextic

/-!
# The sextic extension is a field

The element `9 + u` is no cube and no square in the quadratic extension, because its norm
`82` is neither in the base field. So the norm of a nonzero element of the sextic
extension is nonzero, and the cube root `v` of `9 + u` has no square root.
-/

namespace Groth16

namespace Fq2

theorem norm_nonresidue : norm nonresidue = (82 : Nat) := by
  rw [norm, nonresidue_c0, nonresidue_c1]
  norm_num

theorem norm_pow (x : Fq2) (exponent : Nat) : norm (x ^ exponent) = norm x ^ exponent := by
  induction exponent with
  | zero => simp [norm]
  | succ exponent inductionHypothesis =>
      rw [pow_succ, pow_succ, norm_mul, inductionHypothesis]

/-- The nonresidue has no root of a degree of which its norm has none. -/
theorem pow_ne_nonresidue
    {degree : Nat}
    (noRoot : HasNoRoot 82 degree)
    (x : Fq2) :
    x ^ degree ≠ nonresidue := by
  intro equal
  apply noRoot.pow_ne (norm x)
  rw [← norm_pow, equal, norm_nonresidue]

theorem pow_two_ne_nonresidue (x : Fq2) : x ^ 2 ≠ nonresidue :=
  pow_ne_nonresidue (by decide +kernel) x

theorem pow_three_ne_nonresidue (x : Fq2) : x ^ 3 ≠ nonresidue :=
  pow_ne_nonresidue (by decide +kernel) x

end Fq2

namespace Fq6

instance : NatCast Fq6 := ⟨fun n => ⟨n, 0, 0⟩⟩
instance : IntCast Fq6 := ⟨fun n => ⟨n, 0, 0⟩⟩

@[simp] theorem zero_c0 : (0 : Fq6).c0 = 0 := rfl
@[simp] theorem zero_c1 : (0 : Fq6).c1 = 0 := rfl
@[simp] theorem zero_c2 : (0 : Fq6).c2 = 0 := rfl
@[simp] theorem one_c0 : (1 : Fq6).c0 = 1 := rfl
@[simp] theorem one_c1 : (1 : Fq6).c1 = 0 := rfl
@[simp] theorem one_c2 : (1 : Fq6).c2 = 0 := rfl
@[simp] theorem natCast_c0 (n : Nat) : (n : Fq6).c0 = n := rfl
@[simp] theorem natCast_c1 (n : Nat) : (n : Fq6).c1 = 0 := rfl
@[simp] theorem natCast_c2 (n : Nat) : (n : Fq6).c2 = 0 := rfl
@[simp] theorem intCast_c0 (n : Int) : (n : Fq6).c0 = n := rfl
@[simp] theorem intCast_c1 (n : Int) : (n : Fq6).c1 = 0 := rfl
@[simp] theorem intCast_c2 (n : Int) : (n : Fq6).c2 = 0 := rfl
@[simp] theorem add_c0 (x y : Fq6) : (x + y).c0 = x.c0 + y.c0 := rfl
@[simp] theorem add_c1 (x y : Fq6) : (x + y).c1 = x.c1 + y.c1 := rfl
@[simp] theorem add_c2 (x y : Fq6) : (x + y).c2 = x.c2 + y.c2 := rfl
@[simp] theorem sub_c0 (x y : Fq6) : (x - y).c0 = x.c0 - y.c0 := rfl
@[simp] theorem sub_c1 (x y : Fq6) : (x - y).c1 = x.c1 - y.c1 := rfl
@[simp] theorem sub_c2 (x y : Fq6) : (x - y).c2 = x.c2 - y.c2 := rfl
@[simp] theorem neg_c0 (x : Fq6) : (-x).c0 = -x.c0 := rfl
@[simp] theorem neg_c1 (x : Fq6) : (-x).c1 = -x.c1 := rfl
@[simp] theorem neg_c2 (x : Fq6) : (-x).c2 = -x.c2 := rfl

theorem mul_eq (x y : Fq6) : x * y = Fq6.mul x y := rfl

@[simp] theorem mul_c0 (x y : Fq6) :
    (x * y).c0 = x.c0 * y.c0 + Fq2.nonresidue * (x.c1 * y.c2 + x.c2 * y.c1) := by
  simp only [mul_eq, Fq6.mul, Fq2.mulByNonresidue_eq]
  ring

@[simp] theorem mul_c1 (x y : Fq6) :
    (x * y).c1 = x.c0 * y.c1 + x.c1 * y.c0 + Fq2.nonresidue * (x.c2 * y.c2) := by
  simp only [mul_eq, Fq6.mul, Fq2.mulByNonresidue_eq]
  ring

@[simp] theorem mul_c2 (x y : Fq6) :
    (x * y).c2 = x.c0 * y.c2 + x.c1 * y.c1 + x.c2 * y.c0 := by
  simp only [mul_eq, Fq6.mul]
  ring

/-- The elements form a commutative ring. -/
instance : CommRing Fq6 where
  add_assoc x y z := by ext1 <;> simp only [add_c0, add_c1, add_c2, add_assoc]
  zero_add x := by
    ext1 <;> simp only [add_c0, add_c1, add_c2, zero_c0, zero_c1, zero_c2, zero_add]
  add_zero x := by
    ext1 <;> simp only [add_c0, add_c1, add_c2, zero_c0, zero_c1, zero_c2, add_zero]
  add_comm x y := by ext1 <;> simp only [add_c0, add_c1, add_c2, add_comm]
  mul_assoc x y z := by ext1 <;> simp only [mul_c0, mul_c1, mul_c2] <;> ring
  mul_comm x y := by ext1 <;> simp only [mul_c0, mul_c1, mul_c2] <;> ring
  one_mul x := by
    ext1 <;> simp only [mul_c0, mul_c1, mul_c2, one_c0, one_c1, one_c2] <;> ring
  mul_one x := by
    ext1 <;> simp only [mul_c0, mul_c1, mul_c2, one_c0, one_c1, one_c2] <;> ring
  zero_mul x := by
    ext1 <;> simp only [mul_c0, mul_c1, mul_c2, zero_c0, zero_c1, zero_c2] <;> ring
  mul_zero x := by
    ext1 <;> simp only [mul_c0, mul_c1, mul_c2, zero_c0, zero_c1, zero_c2] <;> ring
  left_distrib x y z := by
    ext1 <;> simp only [mul_c0, mul_c1, mul_c2, add_c0, add_c1, add_c2] <;> ring
  right_distrib x y z := by
    ext1 <;> simp only [mul_c0, mul_c1, mul_c2, add_c0, add_c1, add_c2] <;> ring
  neg_add_cancel x := by
    ext1 <;> simp only [add_c0, add_c1, add_c2, neg_c0, neg_c1, neg_c2, zero_c0, zero_c1, zero_c2,
      neg_add_cancel]
  sub_eq_add_neg x y := by
    ext1 <;> simp only [sub_c0, sub_c1, sub_c2, add_c0, add_c1, add_c2, neg_c0, neg_c1, neg_c2,
      sub_eq_add_neg]
  natCast_zero := by
    ext1 <;> simp only [natCast_c0, natCast_c1, natCast_c2, zero_c0, zero_c1, zero_c2,
      Nat.cast_zero]
  natCast_succ n := by
    ext1 <;> simp only [natCast_c0, natCast_c1, natCast_c2, add_c0, add_c1, add_c2, one_c0, one_c1,
      one_c2, Nat.cast_succ, add_zero]
  intCast_ofNat n := by
    ext1 <;> simp only [intCast_c0, intCast_c1, intCast_c2, natCast_c0, natCast_c1, natCast_c2,
      Int.cast_natCast]
  intCast_negSucc n := by
    ext1 <;> simp only [intCast_c0, intCast_c1, intCast_c2, neg_c0, neg_c1, neg_c2, natCast_c0,
      natCast_c1, natCast_c2, Int.cast_negSucc, neg_zero]
  nsmul := nsmulRec
  zsmul := zsmulRec

instance : Nontrivial Fq6 :=
  ⟨0, 1, fun equal => zero_ne_one (congrArg Fq6.c0 equal)⟩

/-- The quadratic extension inside the sextic one. -/
def ofQuadratic : Fq2 →+* Fq6 where
  toFun x := ⟨x, 0, 0⟩
  map_zero' := rfl
  map_one' := rfl
  map_add' x y := by ext1 <;> simp
  map_mul' x y := by ext1 <;> simp

@[simp] theorem ofQuadratic_c0 (x : Fq2) : (ofQuadratic x).c0 = x := rfl
@[simp] theorem ofQuadratic_c1 (x : Fq2) : (ofQuadratic x).c1 = 0 := rfl
@[simp] theorem ofQuadratic_c2 (x : Fq2) : (ofQuadratic x).c2 = 0 := rfl

/-- The cube root of the nonresidue. -/
def root : Fq6 := ⟨0, 1, 0⟩

@[simp] theorem root_c0 : root.c0 = 0 := rfl
@[simp] theorem root_c1 : root.c1 = 1 := rfl
@[simp] theorem root_c2 : root.c2 = 0 := rfl

theorem root_pow_three : root ^ 3 = ofQuadratic Fq2.nonresidue := by
  rw [pow_succ, pow_two]
  ext1 <;> simp

theorem eq_sum_root (x : Fq6) :
    x = ofQuadratic x.c0 + ofQuadratic x.c1 * root + ofQuadratic x.c2 * root ^ 2 := by
  rw [pow_two]
  ext1 <;> simp

theorem isZero_iff (x : Fq6) : x.isZero = true ↔ x = 0 := by
  rw [isZero, Bool.and_eq_true, Bool.and_eq_true, Fq2.isZero_iff, Fq2.isZero_iff, Fq2.isZero_iff,
    Fq6.ext_iff, and_assoc]
  rfl

@[simp] theorem double_eq (x : Fq6) : x.double = 2 * x := by
  rw [two_mul]
  ext1 <;> simp [double, two_mul]

@[simp] theorem square_eq (x : Fq6) : x.square = x ^ 2 := (pow_two x).symm

@[simp] theorem mulByNonresidue_eq (x : Fq6) : x.mulByNonresidue = root * x := by
  ext1 <;> simp [mulByNonresidue]

@[simp] theorem mulByQuadratic_eq (x : Fq6) (factor : Fq2) :
    x.mulByQuadratic factor = x * ofQuadratic factor := by
  ext1 <;> simp [mulByQuadratic]

@[simp] theorem mulBy01_eq (x : Fq6) (b0 b1 : Fq2) :
    x.mulBy01 b0 b1 = x * (ofQuadratic b0 + ofQuadratic b1 * root) := by
  ext1 <;>
    simp only [mulBy01, Fq2.mulByNonresidue_eq, mul_c0, mul_c1, mul_c2, add_c0, add_c1, add_c2,
      ofQuadratic_c0, ofQuadratic_c1, ofQuadratic_c2, root_c0, root_c1, root_c2] <;>
    ring

theorem mulBy1_eq (x : Fq6) (b1 : Fq2) :
    x.mulBy1 b1 = x * (ofQuadratic b1 * root) := by
  ext1 <;>
    simp only [mulBy1, Fq2.mulByNonresidue_eq, mul_c0, mul_c1, mul_c2, ofQuadratic_c0,
      ofQuadratic_c1, ofQuadratic_c2, root_c0, root_c1, root_c2] <;>
    ring

/-! ## Inversion -/

/-- The adjoint, whose product with the element is the norm. -/
def adjoint (x : Fq6) : Fq6 where
  c0 := x.c0 ^ 2 - Fq2.nonresidue * (x.c1 * x.c2)
  c1 := Fq2.nonresidue * x.c2 ^ 2 - x.c0 * x.c1
  c2 := x.c1 ^ 2 - x.c0 * x.c2

/-- The determinant of the multiplication by the element. -/
def norm (x : Fq6) : Fq2 :=
  x.c0 ^ 3 + Fq2.nonresidue * x.c1 ^ 3 + Fq2.nonresidue ^ 2 * x.c2 ^ 3 -
    3 * Fq2.nonresidue * (x.c0 * x.c1 * x.c2)

theorem mul_adjoint (x : Fq6) : x * x.adjoint = ofQuadratic x.norm := by
  ext1 <;>
    simp only [mul_c0, mul_c1, mul_c2, ofQuadratic_c0, ofQuadratic_c1, ofQuadratic_c2, adjoint,
      norm] <;>
    ring

theorem adjoint_adjoint (x : Fq6) : x.adjoint.adjoint = ofQuadratic x.norm * x := by
  ext1 <;>
    simp only [mul_c0, mul_c1, mul_c2, ofQuadratic_c0, ofQuadratic_c1, ofQuadratic_c2, adjoint,
      norm] <;>
    ring

theorem norm_mul (x y : Fq6) : norm (x * y) = norm x * norm y := by
  simp only [norm, mul_c0, mul_c1, mul_c2]
  ring

theorem norm_root : norm root = Fq2.nonresidue := by
  simp [norm]

/-- The adjoint of a nonzero element is nonzero, since the nonresidue is no cube. -/
theorem eq_zero_of_adjoint_eq_zero
    {x : Fq6}
    (adjointZero : x.adjoint = 0) :
    x = 0 := by
  have first : x.c0 ^ 2 = Fq2.nonresidue * (x.c1 * x.c2) :=
    sub_eq_zero.1 (congrArg Fq6.c0 adjointZero)
  have third : x.c1 ^ 2 = x.c0 * x.c2 := sub_eq_zero.1 (congrArg Fq6.c2 adjointZero)
  have second : Fq2.nonresidue * x.c2 ^ 2 = x.c0 * x.c1 :=
    sub_eq_zero.1 (congrArg Fq6.c1 adjointZero)
  have topZero : x.c2 = 0 := by
    by_contra topNonzero
    apply Fq2.pow_three_ne_nonresidue (x.c1 / x.c2)
    rw [div_pow, div_eq_iff (pow_ne_zero 3 topNonzero)]
    calc x.c1 ^ 3 = x.c1 ^ 2 * x.c1 := by ring
      _ = x.c0 * x.c1 * x.c2 := by rw [third]; ring
      _ = Fq2.nonresidue * x.c2 ^ 3 := by rw [← second]; ring
  rw [topZero, mul_zero, pow_eq_zero_iff two_ne_zero] at third
  rw [topZero, mul_zero, mul_zero, pow_eq_zero_iff two_ne_zero] at first
  ext1
  · exact first
  · exact third
  · exact topZero

theorem norm_ne_zero
    {x : Fq6}
    (nonzero : x ≠ 0) :
    norm x ≠ 0 := by
  intro normZero
  apply nonzero
  apply eq_zero_of_adjoint_eq_zero
  apply eq_zero_of_adjoint_eq_zero
  rw [adjoint_adjoint, normZero, map_zero, zero_mul]

instance : Inv Fq6 := ⟨fun x => x.inverse?.getD 0⟩

theorem inv_eq_getD (x : Fq6) : x⁻¹ = x.inverse?.getD 0 := rfl

theorem inverse?_eq_map (x : Fq6) :
    x.inverse? = (norm x).inverse?.map fun normInverse =>
      x.adjoint * ofQuadratic normInverse := by
  have norm_eq : (x.c2 * x.adjoint.c1 + x.c1 * x.adjoint.c2).mulByNonresidue +
      x.c0 * x.adjoint.c0 = norm x := by
    simp only [Fq2.mulByNonresidue_eq, adjoint, norm]
    ring
  rw [← norm_eq]
  simp only [inverse?, adjoint, Fq2.square_eq, Fq2.mulByNonresidue_eq]
  congr 1
  funext normInverse
  ext1 <;> simp

theorem inverse?_zero : (0 : Fq6).inverse? = none := by
  rw [inverse?_eq_map, Fq2.inverse?_eq, if_pos, Option.map_none]
  simp [norm]

theorem mul_inv_of_ne_zero
    {x : Fq6}
    (nonzero : x ≠ 0) :
    x * x⁻¹ = 1 := by
  rw [inv_eq_getD, inverse?_eq_map, Fq2.inverse?_eq, if_neg (norm_ne_zero nonzero),
    Option.map_some, Option.getD_some, ← mul_assoc, mul_adjoint, ← map_mul,
    mul_inv_cancel₀ (norm_ne_zero nonzero), map_one]

theorem inv_of_zero : (0 : Fq6)⁻¹ = 0 := by
  rw [inv_eq_getD, inverse?_zero, Option.getD_none]

/-- The elements form a field. -/
instance : Field Fq6 := fieldOfInverse _ mul_inv_of_ne_zero inv_of_zero

/-- Inversion fails for zero only. -/
theorem inverse?_eq (x : Fq6) : x.inverse? = if x = 0 then none else some x⁻¹ := by
  by_cases zero : x = 0
  · rw [if_pos zero, zero, inverse?_zero]
  · rw [if_neg zero, inv_eq_getD, inverse?_eq_map, Fq2.inverse?_eq,
      if_neg (norm_ne_zero zero), Option.map_some, Option.getD_some]

/-- The cube root of the nonresidue has no square root. -/
theorem pow_two_ne_root (x : Fq6) : x ^ 2 ≠ root := by
  intro equal
  apply Fq2.pow_two_ne_nonresidue (norm x)
  rw [pow_two, ← norm_mul, ← pow_two, equal, norm_root]

/-- The coordinates of an element. -/
def coordinates : Fq6 ≃ Fq2 × Fq2 × Fq2 where
  toFun x := (x.c0, x.c1, x.c2)
  invFun triple := ⟨triple.1, triple.2.1, triple.2.2⟩
  left_inv _ := rfl
  right_inv _ := rfl

instance : Finite Fq6 := Finite.of_equiv _ coordinates.symm

theorem card_eq : Nat.card Fq6 = FieldParameters.base.modulus.toNat ^ 6 := by
  rw [Nat.card_congr coordinates, Nat.card_prod, Nat.card_prod, Fq2.card_eq]
  ring

end Fq6
end Groth16
