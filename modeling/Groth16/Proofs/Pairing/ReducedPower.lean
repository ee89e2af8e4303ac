import Groth16.Proofs.Pairing.FinalExponentiation

/-!
# The final exponentiation against the reduced power

The power that takes the units of the target field to the elements of the order of the pairing
groups has the exponent `(q ^ 12 - 1) / r`. The chain of powers computes the power of this one
with exponent `2 * x * (6 * x ^ 2 + 3 * x + 1)`, which is prime to `r`. So the value is one
exactly when the reduced power is one.
-/

namespace Groth16
namespace Pairing

/-- The exponent `(q ^ 12 - 1) / r`. -/
def reducedExponent : Nat := (baseModulus ^ 12 - 1) / groupOrder

/-- The factor `2 * x * (6 * x ^ 2 + 3 * x + 1)` by which the chain exceeds the reduced
exponent. -/
def chainFactor (x : Nat) : Nat := 2 * x * (6 * x ^ 2 + 3 * x + 1)

/-- The group order divides the order of the group of units. -/
theorem reducedExponent_mul_groupOrder :
    reducedExponent * groupOrder = baseModulus ^ 12 - 1 := by
  decide

/-- On units the exponent of the chain is the multiple of the reduced one. -/
theorem finalExponent_modEq :
    finalExponent ≡ chainFactor curveParameter.toNat * reducedExponent
      [MOD baseModulus ^ 12 - 1] := by
  decide

theorem coprime_chainFactor_groupOrder :
    (chainFactor curveParameter.toNat).Coprime groupOrder := by
  decide

section Unit

variable {f : Fq12}

/-- The chain of powers computes a power of the reduced power. -/
theorem pow_finalExponent
    (nonzero : f ≠ 0) :
    f ^ finalExponent = f ^ (chainFactor curveParameter.toNat * reducedExponent) :=
  pow_eq_pow_of_modEq finalExponent_modEq (pow_unitOrder nonzero)

theorem pow_reducedExponent_pow_groupOrder
    (nonzero : f ≠ 0) :
    (f ^ reducedExponent) ^ groupOrder = 1 := by
  rw [← pow_mul, reducedExponent_mul_groupOrder, pow_unitOrder nonzero]

/-- A factor prime to the order of the reduced power does not change whether it is one. -/
theorem pow_finalExponent_eq_one_iff
    (nonzero : f ≠ 0) :
    f ^ finalExponent = 1 ↔ f ^ reducedExponent = 1 := by
  rw [pow_finalExponent nonzero, mul_comm, pow_mul]
  constructor
  · intro multiple
    have common := pow_gcd_eq_one.mpr ⟨multiple, pow_reducedExponent_pow_groupOrder nonzero⟩
    rwa [coprime_chainFactor_groupOrder, pow_one] at common
  · intro reduced
    rw [reduced, one_pow]

end Unit

/-- On a nonzero element the final exponentiation is a fixed multiple of the reduced power: it
has the order of the pairing groups, and it is one exactly when the reduced power is one. -/
structure IsReducedPower (f : Fq12) : Prop where
  value_eq : (finalExponentiation f).value = f ^ (2 * curveParameter.toNat *
    (6 * curveParameter.toNat ^ 2 + 3 * curveParameter.toNat + 1) *
      ((baseModulus ^ 12 - 1) / groupOrder))
  isOne_iff : (finalExponentiation f).isOne = true ↔ f ^ ((baseModulus ^ 12 - 1) / groupOrder) = 1
  pow_groupOrder : (finalExponentiation f).value ^ groupOrder = 1

theorem isReducedPower_of_ne_zero
    {f : Fq12}
    (nonzero : f ≠ 0) :
    IsReducedPower f where
  value_eq := by
    rw [finalExponentiation_eq, pow_finalExponent nonzero]
    rfl
  isOne_iff := by
    rw [Gt.isOne, Fq12.isOne_iff, finalExponentiation_eq]
    exact pow_finalExponent_eq_one_iff nonzero
  pow_groupOrder := by
    rw [finalExponentiation_eq]
    exact pow_finalExponent_pow_groupOrder nonzero

/-- The final exponentiation sends the nonzero elements of the sextic extension to one. -/
theorem finalExponentiation_ofSextic
    {y : Fq6}
    (nonzero : y ≠ 0) :
    finalExponentiation (Fq12.ofSextic y) = 1 := by
  apply Gt.ext
  rw [finalExponentiation_eq, pow_finalExponent_ofSextic nonzero, Gt.value_one]

/-- The final exponentiation is a power by a fixed multiple of `(q ^ 12 - 1) / r` that is one
only together with the reduced power. It is multiplicative, also at zero, and it forgets factors
in the sextic extension. -/
theorem finalExponentiation_isReducedPower :
    groupOrder ∣ baseModulus ^ 12 - 1 ∧
      (∀ f, f ≠ 0 → IsReducedPower f) ∧
      (∀ f g, finalExponentiation (f * g) = finalExponentiation f * finalExponentiation g) ∧
      finalExponentiation 0 = ⟨0⟩ ∧
      ∀ y : Fq6, y ≠ 0 → finalExponentiation (Fq12.ofSextic y) = 1 := by
  have divides : groupOrder ∣ baseModulus ^ 12 - 1 :=
    ⟨reducedExponent, by rw [← reducedExponent_mul_groupOrder, mul_comm]⟩
  refine ⟨divides, ?_, finalExponentiation_mul, ?_, ?_⟩
  · intro f nonzero
    exact isReducedPower_of_ne_zero nonzero
  · have exponent_ne : finalExponent ≠ 0 := by decide
    rw [finalExponentiation_eq, zero_pow exponent_ne]
  · intro y nonzero
    exact finalExponentiation_ofSextic nonzero

/-- The sixth root of the nonresidue, and the cube root of it in the sextic extension. -/
theorem finalExponentiation_isReducedPower_roots :
    (Fq12.root ≠ 0 ∧ Fq6.root ≠ 0) ∧
      IsReducedPower Fq12.root ∧ finalExponentiation (Fq12.ofSextic Fq6.root) = 1 := by
  have cubeRoot_ne : Fq6.root ≠ 0 := by
    intro zero
    exact one_ne_zero (congrArg Fq6.c1 zero)
  obtain ⟨-, reduced, -, -, sextic⟩ := finalExponentiation_isReducedPower
  exact ⟨⟨Fq12.root_ne_zero, cubeRoot_ne⟩, reduced _ Fq12.root_ne_zero, sextic _ cubeRoot_ne⟩

end Pairing
end Groth16
