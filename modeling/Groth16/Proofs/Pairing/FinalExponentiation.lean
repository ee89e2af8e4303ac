import Groth16.Pairing.FinalExponentiation
import Groth16.Proofs.Curve.Order
import Groth16.Proofs.Tower.Frobenius

/-!
# The final exponentiation is a power

Conjugation and the power maps are powers, so the final exponentiation is one power. Its
exponent is a multiple of `q ^ 6 - 1`, which sends the sextic extension to one, and its
product with the order of the pairing groups is a multiple of `q ^ 12 - 1`.
-/

namespace Groth16

theorem Gt.value_one : (1 : Gt).value = 1 := rfl

theorem Gt.value_mul (x y : Gt) : (x * y).value = x.value * y.value := rfl

namespace Pairing

/-- The exponent of the hard part, as the chain of powers builds it. -/
def hardExponent (q x : Nat) : Nat :=
  let y0 := x * q ^ 6
  let y1 := y0 * 2
  let y3 := y1 * 2 + y1
  let y4 := y3 * x * q ^ 6
  let y6 := y4 * 2 * x * q ^ 6
  let y8 := y6 * q ^ 6 + y4 + y3 * q ^ 6
  let y9 := y8 + y1
  (q ^ 6 + y9) * q ^ 3 + (y8 * q ^ 2 + (y9 * q + (y8 + y4 + 1)))

/-- The exponent of the final exponentiation. -/
def finalExponent : Nat :=
  (baseModulus ^ 6 - 1) *
    ((baseModulus ^ 2 + 1) * hardExponent baseModulus curveParameter.toNat)

theorem powNegParameter_eq (f : Fq12) :
    powNegParameter f = f ^ (curveParameter.toNat * baseModulus ^ 6) := by
  rw [powNegParameter, Fq12.pow_eq, Fq12.conjugate_eq, toNat_modulus_base_eq, ← pow_mul]

theorem hardPart_eq (f : Fq12) :
    hardPart f = f ^ hardExponent baseModulus curveParameter.toNat := by
  generalize exponent_eq : curveParameter.toNat = x
  generalize modulus_eq : baseModulus = q
  have conjugate_eq (g : Fq12) : g.conjugate = g ^ q ^ 6 := by
    rw [Fq12.conjugate_eq, toNat_modulus_base_eq, modulus_eq]
  have frobenius_eq (g : Fq12) (power : Nat) : g.frobenius power = g ^ q ^ power := by
    rw [Fq12.frobenius_eq, toNat_modulus_base_eq, modulus_eq]
  simp only [hardPart, powNegParameter_eq, exponent_eq, modulus_eq, conjugate_eq, frobenius_eq,
    Fq12.square_eq, ← pow_mul, ← pow_add, ← pow_succ, hardExponent]
  congr 1
  ring

theorem easyPart_eq
    {f : Fq12}
    (nonzero : f ≠ 0) :
    easyPart f f⁻¹ = f ^ ((baseModulus ^ 6 - 1) * (baseModulus ^ 2 + 1)) := by
  have pos : 1 ≤ baseModulus ^ 6 := by decide
  have unitary : f.conjugate * f⁻¹ = f ^ (baseModulus ^ 6 - 1) := by
    rw [pow_sub₀ f nonzero pos, pow_one, Fq12.conjugate_eq, toNat_modulus_base_eq]
  rw [easyPart, unitary, Fq12.frobenius_eq, toNat_modulus_base_eq, ← pow_succ, ← pow_mul]

/-- The final exponentiation is a power. -/
theorem finalExponentiation_eq (f : Fq12) :
    finalExponentiation f = ⟨f ^ finalExponent⟩ := by
  have finalExponent_ne : finalExponent ≠ 0 := by decide
  by_cases zero : f = 0
  · rw [zero, finalExponentiation, Fq12.inverse?_zero, Option.elim_none,
      zero_pow finalExponent_ne]
  · rw [finalExponentiation, Fq12.inverse?_eq, if_neg zero, Option.elim_some,
      easyPart_eq zero, hardPart_eq, ← pow_mul, mul_assoc, finalExponent]

theorem finalExponentiation_one : finalExponentiation 1 = 1 := by
  rw [finalExponentiation_eq, one_pow]
  rfl

theorem finalExponentiation_mul (f g : Fq12) :
    finalExponentiation (f * g) = finalExponentiation f * finalExponentiation g := by
  apply Gt.ext
  rw [Gt.value_mul, finalExponentiation_eq, finalExponentiation_eq, finalExponentiation_eq, mul_pow]

/-- Elements of the sextic extension are sent to one. -/
theorem pow_finalExponent_ofSextic
    {x : Fq6}
    (nonzero : x ≠ 0) :
    Fq12.ofSextic x ^ finalExponent = 1 := by
  have image_ne : Fq12.ofSextic x ≠ 0 := (map_ne_zero _).mpr nonzero
  have fixed : Fq12.ofSextic x ^ baseModulus ^ 6 = Fq12.ofSextic x := by
    rw [← toNat_modulus_base_eq, ← Fq12.conjugate_eq]
    ext1
    · rfl
    · exact neg_zero
  have pos : 1 ≤ baseModulus ^ 6 := by decide
  rw [finalExponent, pow_mul, pow_sub₀ _ image_ne pos, fixed, pow_one, mul_inv_cancel₀ image_ne,
    one_pow]

/-- The sixth root of the nonresidue is sent to one. -/
theorem pow_finalExponent_root : Fq12.root ^ finalExponent = 1 := by
  have opposite : Fq12.root ^ baseModulus ^ 6 = -Fq12.root := by
    rw [← toNat_modulus_base_eq, ← Fq12.conjugate_eq]
    ext1
    · exact neg_zero.symm
    · rfl
  have pos : 1 ≤ baseModulus ^ 6 := by decide
  have even : Even (baseModulus ^ 2 + 1) := by decide
  rw [finalExponent, pow_mul, pow_sub₀ _ Fq12.root_ne_zero pos, opposite, pow_one, neg_mul,
    mul_inv_cancel₀ Fq12.root_ne_zero, pow_mul, even.neg_one_pow, one_pow]

theorem dvd_finalExponent_mul_groupOrder :
    baseModulus ^ 12 - 1 ∣ finalExponent * groupOrder := by
  decide

/-- The order of the group of units annihilates every nonzero element. -/
theorem pow_unitOrder
    {x : Fq12}
    (nonzero : x ≠ 0) :
    x ^ (baseModulus ^ 12 - 1) = 1 := by
  have fixed : x ^ baseModulus ^ 12 = x := by
    have twice : x.conjugate.conjugate = x := by
      ext1
      · rfl
      · exact neg_neg _
    rw [show (12 : Nat) = 6 + 6 from rfl, pow_add, pow_mul, ← toNat_modulus_base_eq,
      ← Fq12.conjugate_eq, ← Fq12.conjugate_eq, twice]
  have pos : 1 ≤ baseModulus ^ 12 := by decide
  rw [pow_sub₀ _ nonzero pos, fixed, pow_one, mul_inv_cancel₀ nonzero]

/-- The values of the final exponentiation have the order of the pairing groups. -/
theorem pow_finalExponent_pow_groupOrder
    {x : Fq12}
    (nonzero : x ≠ 0) :
    (x ^ finalExponent) ^ groupOrder = 1 := by
  obtain ⟨quotient, equal⟩ := dvd_finalExponent_mul_groupOrder
  rw [← pow_mul, equal, pow_mul, pow_unitOrder nonzero, one_pow]

/-! ## The unit that an element is sent to -/

/-- The value of the final exponentiation as a unit; zero counts as one. -/
def finalUnit (x : Fq12) : Fq12ˣ :=
  (if nonzero : x ≠ 0 then Units.mk0 x nonzero else 1) ^ finalExponent

theorem val_finalUnit
    {x : Fq12}
    (nonzero : x ≠ 0) :
    (finalUnit x : Fq12) = x ^ finalExponent := by
  rw [finalUnit, dif_pos nonzero, Units.val_pow_eq_pow_val, Units.val_mk0]

theorem finalExponentiation_eq_finalUnit
    {x : Fq12}
    (nonzero : x ≠ 0) :
    finalExponentiation x = ⟨finalUnit x⟩ := by
  rw [finalExponentiation_eq, val_finalUnit nonzero]

@[simp] theorem finalUnit_one : finalUnit 1 = 1 := by
  apply Units.ext
  rw [val_finalUnit one_ne_zero, one_pow, Units.val_one]

theorem finalUnit_mul
    {x y : Fq12}
    (left : x ≠ 0)
    (right : y ≠ 0) :
    finalUnit (x * y) = finalUnit x * finalUnit y := by
  apply Units.ext
  rw [Units.val_mul, val_finalUnit left, val_finalUnit right,
    val_finalUnit (mul_ne_zero left right), mul_pow]

theorem finalUnit_pow
    {x : Fq12}
    (nonzero : x ≠ 0)
    (exponent : Nat) :
    finalUnit (x ^ exponent) = finalUnit x ^ exponent := by
  apply Units.ext
  rw [Units.val_pow_eq_pow_val, val_finalUnit nonzero, val_finalUnit (pow_ne_zero _ nonzero),
    ← pow_mul, ← pow_mul, mul_comm]

@[simp] theorem finalUnit_ofSextic (x : Fq6) : finalUnit (Fq12.ofSextic x) = 1 := by
  by_cases zero : x = 0
  · rw [zero, map_zero, finalUnit, dif_neg (by simp), one_pow]
  · apply Units.ext
    rw [val_finalUnit ((map_ne_zero _).mpr zero), pow_finalExponent_ofSextic zero, Units.val_one]

@[simp] theorem finalUnit_ofQuadratic (x : Fq2) : finalUnit (Fq12.ofQuadratic x) = 1 :=
  finalUnit_ofSextic _

@[simp] theorem finalUnit_root : finalUnit Fq12.root = 1 := by
  apply Units.ext
  rw [val_finalUnit Fq12.root_ne_zero, pow_finalExponent_root, Units.val_one]

/-- Factors in the sextic extension do not matter. -/
theorem finalUnit_mul_ofSextic
    {x : Fq12}
    (nonzero : x ≠ 0)
    {y : Fq6}
    (factor : y ≠ 0) :
    finalUnit (x * Fq12.ofSextic y) = finalUnit x := by
  rw [finalUnit_mul nonzero ((map_ne_zero _).mpr factor), finalUnit_ofSextic, mul_one]

theorem finalUnit_neg
    {x : Fq12}
    (nonzero : x ≠ 0) :
    finalUnit (-x) = finalUnit x := by
  have factor : (-1 : Fq6) ≠ 0 := neg_ne_zero.mpr one_ne_zero
  rw [← finalUnit_mul_ofSextic nonzero factor, map_neg, map_one, mul_neg, mul_one]

theorem finalUnit_pow_groupOrder (x : Fq12) : finalUnit x ^ groupOrder = 1 := by
  by_cases nonzero : x ≠ 0
  · apply Units.ext
    rw [Units.val_pow_eq_pow_val, val_finalUnit nonzero,
      pow_finalExponent_pow_groupOrder nonzero, Units.val_one]
  · rw [finalUnit, dif_neg nonzero, one_pow, one_pow]

end Pairing
end Groth16
