import Groth16.Proofs.Field.Numeral
import Groth16.Proofs.Tower.Quadratic

/-!
# Numerals of the quadratic extension

Pairs of natural numbers that stand for elements of the quadratic extension.
-/

namespace Groth16

/-- Two numbers that stand for the coordinates of an element. -/
structure QuadraticNumeral where
  c0 : Nat
  c1 : Nat
  deriving DecidableEq

namespace QuadraticNumeral

instance : Zero QuadraticNumeral := ⟨⟨0, 0⟩⟩
instance : One QuadraticNumeral := ⟨⟨1, 0⟩⟩

instance : Add QuadraticNumeral :=
  ⟨fun x y => ⟨(x.c0 + y.c0) % baseModulus, (x.c1 + y.c1) % baseModulus⟩⟩

instance : Sub QuadraticNumeral :=
  ⟨fun x y =>
    ⟨(x.c0 + (baseModulus - y.c0 % baseModulus)) % baseModulus,
      (x.c1 + (baseModulus - y.c1 % baseModulus)) % baseModulus⟩⟩

instance : Mul QuadraticNumeral :=
  ⟨fun x y =>
    ⟨(x.c0 * y.c0 + x.c1 * (baseModulus - y.c1 % baseModulus)) % baseModulus,
      (x.c0 * y.c1 + x.c1 * y.c0) % baseModulus⟩⟩

/-- The conjugate. -/
def conjugate (x : QuadraticNumeral) : QuadraticNumeral :=
  ⟨x.c0, baseModulus - x.c1 % baseModulus⟩

/-- The field element that the numeral stands for. -/
def toField (x : QuadraticNumeral) : Fq2 := ⟨x.c0, x.c1⟩

@[simp] theorem toField_c0 (x : QuadraticNumeral) : x.toField.c0 = x.c0 := rfl
@[simp] theorem toField_c1 (x : QuadraticNumeral) : x.toField.c1 = x.c1 := rfl

theorem add_eq (x y : QuadraticNumeral) :
    x + y = ⟨(x.c0 + y.c0) % baseModulus, (x.c1 + y.c1) % baseModulus⟩ := rfl

theorem sub_eq (x y : QuadraticNumeral) :
    x - y = ⟨(x.c0 + (baseModulus - y.c0 % baseModulus)) % baseModulus,
      (x.c1 + (baseModulus - y.c1 % baseModulus)) % baseModulus⟩ := rfl

theorem mul_eq (x y : QuadraticNumeral) :
    x * y = ⟨(x.c0 * y.c0 + x.c1 * (baseModulus - y.c1 % baseModulus)) % baseModulus,
      (x.c0 * y.c1 + x.c1 * y.c0) % baseModulus⟩ := rfl

theorem keepsOperations_toField : KeepsOperations toField where
  map_zero := by
    ext1
    · exact Nat.cast_zero
    · exact Nat.cast_zero
  map_one := by
    ext1
    · exact Nat.cast_one
    · exact Nat.cast_zero
  map_add x y := by
    rw [add_eq]
    ext1
    · rw [toField_c0, natCast_mod, Nat.cast_add, Fq2.add_c0, toField_c0, toField_c0]
    · rw [toField_c1, natCast_mod, Nat.cast_add, Fq2.add_c1, toField_c1, toField_c1]
  map_sub x y := by
    rw [sub_eq]
    ext1
    · rw [toField_c0, natCast_mod, Nat.cast_add, natCast_complement, Fq2.sub_c0, toField_c0,
        toField_c0, sub_eq_add_neg]
    · rw [toField_c1, natCast_mod, Nat.cast_add, natCast_complement, Fq2.sub_c1, toField_c1,
        toField_c1, sub_eq_add_neg]
  map_mul x y := by
    rw [mul_eq]
    ext1
    · rw [toField_c0, natCast_mod, Nat.cast_add, Nat.cast_mul, Nat.cast_mul, natCast_complement,
        Fq2.mul_c0]
      simp only [toField_c0, toField_c1]
      ring
    · rw [toField_c1, natCast_mod, Nat.cast_add, Nat.cast_mul, Nat.cast_mul, Fq2.mul_c1]
      simp only [toField_c0, toField_c1]

theorem toField_conjugate (x : QuadraticNumeral) : x.conjugate.toField = x.toField.conjugate := by
  ext1
  · rw [Fq2.conjugate_c0, toField_c0, toField_c0, conjugate]
  · rw [Fq2.conjugate_c1, toField_c1, toField_c1, conjugate, natCast_complement]

/-- The numeral of two numbers of four words. -/
theorem toField_limbs (c0 c1 : Limbs) : toField ⟨c0.toNat, c1.toNat⟩ = Fq2.ofLimbs c0 c1 := by
  ext1
  · exact (FieldElement.ofLimbs_eq c0).symm
  · exact (FieldElement.ofLimbs_eq c1).symm

theorem toField_eq_zero_iff (x : QuadraticNumeral) :
    x.toField = 0 ↔ x.c0 % baseModulus = 0 ∧ x.c1 % baseModulus = 0 := by
  rw [Fq2.ext_iff, toField_c0, toField_c1, Fq2.zero_c0, Fq2.zero_c1,
    FieldElement.natCast_eq_zero_iff, FieldElement.natCast_eq_zero_iff, toNat_modulus_base_eq,
    Nat.dvd_iff_mod_eq_zero, Nat.dvd_iff_mod_eq_zero]

end QuadraticNumeral

theorem Fq2.toField_nonresidue : QuadraticNumeral.toField ⟨9, 1⟩ = nonresidue := by
  ext1
  · rw [nonresidue_c0, QuadraticNumeral.toField_c0]
    exact Nat.cast_ofNat
  · rw [nonresidue_c1, QuadraticNumeral.toField_c1, Nat.cast_one]

end Groth16
