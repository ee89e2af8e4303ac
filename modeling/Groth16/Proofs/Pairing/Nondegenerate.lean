import Groth16.Proofs.Pairing.Numeral

/-!
# The pairing is not degenerate

The value at the generators is not one, which a computation on numerals shows. Every point
of `G1` and of the subgroup of the twist is a multiple of its generator, so a value is one
only when one of the points is the identity.
-/

namespace Groth16
namespace Pairing

/-- The power of exponent `-x` on numerals. -/
def powNegNumeral (f : TargetNumeral) : TargetNumeral :=
  (Digits.power f (Word.bits curveParameter)).conjugate

theorem toField_powNegNumeral (f : TargetNumeral) :
    (powNegNumeral f).toField = powNegParameter f.toField := by
  rw [powNegNumeral, TargetNumeral.toField_conjugate,
    Digits.map_power TargetNumeral.toField_one TargetNumeral.toField_mul, Digits.power_eq,
    Digits.value_bits, powNegParameter, Fq12.pow_eq]

/-- The hard part of the final exponentiation on numerals. -/
def hardNumeral (f : TargetNumeral) : TargetNumeral :=
  let y0 := powNegNumeral f
  let y1 := y0 * y0
  let y2 := y1 * y1
  let y3 := y2 * y1
  let y4 := powNegNumeral y3
  let y5 := y4 * y4
  let y6 := powNegNumeral y5
  let y7 := y6.conjugate * y4
  let y8 := y7 * y3.conjugate
  let y9 := y8 * y1
  let y10 := y8 * y4
  let y11 := y10 * f
  let y13 := y9.frobenius * y11
  let y14 := y8.frobenius.frobenius * y13
  let y15 := (f.conjugate * y9).frobenius.frobenius.frobenius
  y15 * y14

theorem toField_hardNumeral (f : TargetNumeral) :
    (hardNumeral f).toField = hardPart f.toField := by
  simp only [hardNumeral, hardPart, TargetNumeral.toField_mul, TargetNumeral.toField_conjugate,
    TargetNumeral.toField_frobenius, toField_powNegNumeral, Fq12.square_eq, pow_two,
    Fq12.frobenius_succ _ 2, Fq12.frobenius_succ _ 1]

/-- The pairing of the generators before the power `q ^ 6 - 1`. -/
def generatorNumeral : TargetNumeral :=
  let f := loopNumeral ateDigits
  hardNumeral (f.frobenius.frobenius * f)

theorem generatorNumeral_ne : generatorNumeral.a1.c0 % baseModulus ≠ 0 := by
  decide +kernel

theorem toField_generatorNumeral :
    generatorNumeral.toField = (loopNumeral ateDigits).toField ^
      ((baseModulus ^ 2 + 1) * hardExponent baseModulus curveParameter.toNat) := by
  rw [generatorNumeral, toField_hardNumeral, hardPart_eq, TargetNumeral.toField_mul,
    TargetNumeral.toField_frobenius, TargetNumeral.toField_frobenius, ← Fq12.frobenius_succ,
    Fq12.frobenius_eq, toNat_modulus_base_eq, ← pow_succ, ← pow_mul]

/-- An element that the first factor of the final exponentiation sends to one is its own
conjugate. -/
theorem c1_eq_zero_of_pow_eq_one
    {z : Fq12}
    (power : z ^ (baseModulus ^ 6 - 1) = 1) :
    z.c1 = 0 := by
  have pos : 1 ≤ baseModulus ^ 6 := by decide
  have conjugate : z.conjugate = z := by
    rw [Fq12.conjugate_eq, toNat_modulus_base_eq, ← Nat.sub_add_cancel pos, pow_succ, power,
      one_mul]
  have two_ne : (2 : Fq6) ≠ 0 := by
    rw [← map_ofNat Fq6.ofQuadratic]
    exact (map_ne_zero _).mpr (Curve.Complete.two_ne_zero Curve.g2)
  have opposite : -z.c1 = z.c1 := congrArg Fq12.c1 conjugate
  have double : 2 * z.c1 = 0 := by linear_combination -opposite
  exact (mul_eq_zero.mp double).resolve_left two_ne

/-- The value at the generators. -/
noncomputable def generatorUnit : Fq12ˣ := ateUnit G1.generatorPoint G2.generatorPoint

theorem generatorUnit_ne_one : generatorUnit ≠ 1 := by
  intro one
  obtain ⟨nonzero, unit⟩ :=
    finalUnit_trackProduct G1.generator_equation G2.generator_equation
      G2.generatorPoint_mem
  rw [trackProduct_numeral] at nonzero unit
  have power := congrArg Units.val (unit.trans one)
  rw [val_finalUnit nonzero, Units.val_one, finalExponent, mul_comm, pow_mul,
    ← toField_generatorNumeral] at power
  have zero : generatorNumeral.a1.toField = 0 :=
    congrArg Fq6.c0 (c1_eq_zero_of_pow_eq_one power)
  exact generatorNumeral_ne ((QuadraticNumeral.toField_eq_zero_iff _).mp zero).1

theorem orderOf_generatorUnit : orderOf generatorUnit = groupOrder :=
  orderOf_eq_prime (ateUnit_pow_groupOrder _ G2.generatorPoint_mem) generatorUnit_ne_one

/-- The value at multiples of the generators. -/
theorem ateUnit_nsmul_nsmul (a b : Nat) :
    ateUnit (a • G1.generatorPoint) (b • G2.generatorPoint) = generatorUnit ^ (a * b) := by
  rw [ateUnit_nsmul_left _ _ (G2.subgroup.nsmul_mem G2.generatorPoint_mem b),
    ateUnit_nsmul_right _ _ G2.generatorPoint_mem, ← pow_mul, mul_comm, generatorUnit]

/-- A value is one only when one of the points is the identity. -/
theorem ateUnit_eq_one_iff
    (P : Curve.g1.Point)
    {Q : Curve.g2.Point}
    (member : Q ∈ G2.subgroup) :
    ateUnit P Q = 1 ↔ P = 0 ∨ Q = 0 := by
  obtain ⟨a, rfl⟩ := G1.exists_nsmul_generatorPoint P
  obtain ⟨b, rfl⟩ := (G2.endomorphism_eq_iff Q).mp member
  rw [ateUnit_nsmul_nsmul, ← orderOf_dvd_iff_pow_eq_one, orderOf_generatorUnit,
    (Fact.out : groupOrder.Prime).dvd_mul, ← addOrderOf_dvd_iff_nsmul_eq_zero,
    ← addOrderOf_dvd_iff_nsmul_eq_zero, G1.addOrderOf_generatorPoint,
    G2.addOrderOf_generatorPoint]

end Pairing
end Groth16
