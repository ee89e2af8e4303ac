import Groth16.Proofs.Tower.Frobenius

/-!
# Numerals of the target field

Polynomials of degree five in the sixth root, with numerals of the quadratic extension for
coefficients, that stand for elements of the target field.
-/

namespace Groth16

/-- The coefficients of the powers of the sixth root. -/
structure TargetNumeral where
  a0 : QuadraticNumeral
  a1 : QuadraticNumeral
  a2 : QuadraticNumeral
  a3 : QuadraticNumeral
  a4 : QuadraticNumeral
  a5 : QuadraticNumeral

namespace TargetNumeral

/-- The field element that the numeral stands for. -/
def toField (x : TargetNumeral) : Fq12 :=
  ⟨⟨x.a0.toField, x.a2.toField, x.a4.toField⟩, ⟨x.a1.toField, x.a3.toField, x.a5.toField⟩⟩

instance : One TargetNumeral := ⟨⟨1, 0, 0, 0, 0, 0⟩⟩

/-- The product, with the sixth power of the root replaced by the nonresidue. -/
def mul (x y : TargetNumeral) : TargetNumeral :=
  ⟨x.a0 * y.a0 + ⟨9, 1⟩ * (x.a1 * y.a5 + x.a2 * y.a4 + x.a3 * y.a3 + x.a4 * y.a2 + x.a5 * y.a1),
    x.a0 * y.a1 + x.a1 * y.a0 +
      ⟨9, 1⟩ * (x.a2 * y.a5 + x.a3 * y.a4 + x.a4 * y.a3 + x.a5 * y.a2),
    x.a0 * y.a2 + x.a1 * y.a1 + x.a2 * y.a0 +
      ⟨9, 1⟩ * (x.a3 * y.a5 + x.a4 * y.a4 + x.a5 * y.a3),
    x.a0 * y.a3 + x.a1 * y.a2 + x.a2 * y.a1 + x.a3 * y.a0 +
      ⟨9, 1⟩ * (x.a4 * y.a5 + x.a5 * y.a4),
    x.a0 * y.a4 + x.a1 * y.a3 + x.a2 * y.a2 + x.a3 * y.a1 + x.a4 * y.a0 + ⟨9, 1⟩ * (x.a5 * y.a5),
    x.a0 * y.a5 + x.a1 * y.a4 + x.a2 * y.a3 + x.a3 * y.a2 + x.a4 * y.a1 + x.a5 * y.a0⟩

instance : Mul TargetNumeral := ⟨mul⟩

/-- The conjugate. -/
def conjugate (x : TargetNumeral) : TargetNumeral :=
  ⟨x.a0, 0 - x.a1, x.a2, 0 - x.a3, x.a4, 0 - x.a5⟩

/-- The power map of exponent the base modulus. -/
def frobenius (x : TargetNumeral) : TargetNumeral :=
  let factor := Fq12.rootFactorNumeral
  let square := factor * factor
  let cube := square * factor
  ⟨x.a0.conjugate, x.a1.conjugate * factor, x.a2.conjugate * square, x.a3.conjugate * cube,
    x.a4.conjugate * (square * square), x.a5.conjugate * (square * cube)⟩

theorem mul_eq (x y : TargetNumeral) : x * y = x.mul y := rfl

theorem toField_one : toField 1 = 1 := by
  have keeps := QuadraticNumeral.keepsOperations_toField
  ext1
  · exact congrArg₂ (fun one zero => (⟨one, zero, zero⟩ : Fq6)) keeps.map_one keeps.map_zero
  · exact congrArg (fun zero => (⟨zero, zero, zero⟩ : Fq6)) keeps.map_zero

theorem toField_mul (x y : TargetNumeral) : (x * y).toField = x.toField * y.toField := by
  have keeps := QuadraticNumeral.keepsOperations_toField
  rw [mul_eq]
  ext1 <;> ext1 <;>
    simp only [toField, mul, keeps.map_add, keeps.map_mul, Fq2.toField_nonresidue, Fq12.mul_c0,
      Fq12.mul_c1, Fq6.add_c0, Fq6.add_c1, Fq6.add_c2, Fq6.mul_c0, Fq6.mul_c1, Fq6.mul_c2,
      Fq6.root_c0, Fq6.root_c1, Fq6.root_c2] <;>
    ring

theorem toField_conjugate (x : TargetNumeral) : x.conjugate.toField = x.toField.conjugate := by
  have keeps := QuadraticNumeral.keepsOperations_toField
  simp only [conjugate, toField, Fq12.conjugate, keeps.map_sub, keeps.map_zero, zero_sub]
  rfl

theorem toField_frobenius (x : TargetNumeral) : x.frobenius.toField = x.toField.frobenius 1 := by
  have keeps := QuadraticNumeral.keepsOperations_toField
  have conjugate_eq (y : Fq2) : y.frobenius 1 = y.conjugate := rfl
  simp only [frobenius, toField, Fq12.frobenius, Fq6.frobenius, Fq12.frobeniusFactors1_get,
    Fq12.frobeniusFactors2_get, Fq6.mulByQuadratic, keeps.map_mul, conjugate_eq,
    QuadraticNumeral.toField_conjugate, ← Fq12.rootFactor_one]
  rw [Fq12.get_frobeniusFactors]
  simp only [Fq12.mk.injEq, Fq6.mk.injEq, true_and]
  refine ⟨⟨?_, ?_⟩, ?_, ?_⟩ <;> ring

end TargetNumeral
end Groth16
