import Groth16.Proofs.Tower.Numeral
import Groth16.Proofs.Tower.Target

/-!
# The power maps of the tower

The tables of factors hold the powers of the nonresidue by which the roots `w` and `v`
are multiplied under the power maps, so `Fq12.frobenius` is the power map of exponent a
power of the base modulus, and conjugation is the one of exponent its sixth power. The
sextic extension inherits its power maps from the target field.
-/

namespace Groth16

namespace Fq2

theorem frobenius_succ (x : Fq2) (power : Nat) :
    x.frobenius (power + 1) = (x.frobenius power).conjugate := by
  rcases Nat.mod_two_eq_zero_or_one power with even | odd
  · rw [frobenius, frobenius, if_pos (by omega), if_neg (by omega)]
  · rw [frobenius, frobenius, if_neg (by omega), if_pos odd, conjugate_conjugate]

/-- The power map of the quadratic extension. -/
theorem frobenius_eq (x : Fq2) (power : Nat) :
    x.frobenius power = x ^ FieldParameters.base.modulus.toNat ^ power := by
  induction power with
  | zero => rw [pow_zero, pow_one]; rfl
  | succ power inductionHypothesis =>
      rw [frobenius_succ, inductionHypothesis, pow_succ, pow_mul, pow_modulus]

end Fq2

namespace Fq12

/-- The factor of the sixth root under the power map. -/
def rootFactor (power : Nat) : Fq2 :=
  frobeniusFactors.get ⟨power % 12, Nat.mod_lt power (by decide)⟩

theorem get_frobeniusFactors (power : Nat) :
    frobeniusFactors.get (Fin.ofNat 12 power) = rootFactor power := rfl

/-- A sixth of the base modulus less one. -/
def sixth : Nat := 3648040478639879203707734290876212514782718526216303943781506315774204368097

theorem modulus_eq_sixth : FieldParameters.base.modulus.toNat = 6 * sixth + 1 := by
  rw [FieldParameters.toNat_modulus_base, sixth]

/-- The numeral of the factor of the sixth root. -/
def rootFactorNumeral : QuadraticNumeral :=
  ⟨8376118865763821496583973867626364092589906065868298776909617916018768340080,
    16469823323077808223889137241176536799009286646108169935659301613961712198316⟩

/-- The numerals of the factors of the sixth root under the power maps. -/
def factorNumeral : Nat → QuadraticNumeral
  | 0 => 1
  | power + 1 => (factorNumeral power).conjugate * rootFactorNumeral

theorem frobeniusFactors_eq (index : Fin 12) :
    frobeniusFactors.get index = (factorNumeral index).toField := by
  fin_cases index <;> exact (QuadraticNumeral.toField_limbs _ _).symm

theorem rootFactor_eq (power : Nat) :
    rootFactor power = (factorNumeral (power % 12)).toField :=
  frobeniusFactors_eq ⟨power % 12, Nat.mod_lt power (by decide)⟩

theorem rootFactor_one : rootFactor 1 = rootFactorNumeral.toField := by
  have numeral : factorNumeral 1 = rootFactorNumeral := by decide
  rw [rootFactor_eq, numeral]

theorem nonresidue_pow_sixth : Fq2.nonresidue ^ sixth = rootFactor 1 := by
  have numeral : Digits.power (⟨9, 1⟩ : QuadraticNumeral) (Digits.lowest 254 sixth) =
      rootFactorNumeral := by
    decide +kernel
  have fits : sixth < 2 ^ 254 := by decide
  have keeps := QuadraticNumeral.keepsOperations_toField
  rw [rootFactor_one, ← numeral, Digits.map_power keeps.map_one keeps.map_mul,
    Fq2.toField_nonresidue, Digits.power_eq, Digits.value_lowest, Nat.mod_eq_of_lt fits]

/-- The factors repeat after twelve powers. -/
theorem factorNumeral_succ_mod (power : Nat) :
    factorNumeral ((power + 1) % 12) =
      (factorNumeral (power % 12)).conjugate * rootFactorNumeral := by
  rw [← factorNumeral]
  by_cases last : power % 12 = 11
  · rw [last, show (power + 1) % 12 = 0 by omega]
    decide
  · rw [show (power + 1) % 12 = power % 12 + 1 by omega]

theorem rootFactor_succ (power : Nat) :
    rootFactor (power + 1) = (rootFactor power).conjugate * rootFactor 1 := by
  rw [rootFactor_eq, factorNumeral_succ_mod, QuadraticNumeral.keepsOperations_toField.map_mul,
    QuadraticNumeral.toField_conjugate, ← rootFactor_eq, ← rootFactor_one]

theorem root_pow_modulus :
    root ^ FieldParameters.base.modulus.toNat = root * ofQuadratic (rootFactor 1) := by
  rw [modulus_eq_sixth, pow_succ', pow_mul, root_pow_six, ← map_pow, nonresidue_pow_sixth]

/-- The power map multiplies the sixth root by a factor of the quadratic extension. -/
theorem root_pow_modulus_pow (power : Nat) :
    root ^ FieldParameters.base.modulus.toNat ^ power =
      root * ofQuadratic (rootFactor power) := by
  induction power with
  | zero =>
      have factor_one : rootFactor 0 = 1 :=
        (rootFactor_eq 0).trans QuadraticNumeral.keepsOperations_toField.map_one
      rw [pow_zero, pow_one, factor_one, map_one, mul_one]
  | succ power inductionHypothesis =>
      rw [pow_succ, pow_mul, inductionHypothesis, mul_pow, root_pow_modulus, ← map_pow,
        Fq2.pow_modulus, rootFactor_succ power, map_mul]
      ring

theorem root_pow_pow_modulus_pow (exponent power : Nat) :
    (root ^ exponent) ^ FieldParameters.base.modulus.toNat ^ power =
      root ^ exponent * ofQuadratic (rootFactor power) ^ exponent := by
  rw [← pow_mul, mul_comm, pow_mul, root_pow_modulus_pow, mul_pow]

theorem frobeniusFactors1_eq (index : Fin 12) :
    Fq6.frobeniusFactors1.get (Fin.ofNat 6 index.val) =
      (factorNumeral index * factorNumeral index).toField := by
  fin_cases index <;> exact (QuadraticNumeral.toField_limbs _ _).symm

theorem frobeniusFactors2_eq (index : Fin 12) :
    Fq6.frobeniusFactors2.get (Fin.ofNat 6 index.val) =
      (factorNumeral index * factorNumeral index *
        (factorNumeral index * factorNumeral index)).toField := by
  fin_cases index <;> exact (QuadraticNumeral.toField_limbs _ _).symm

theorem ofNat_six_eq (power : Nat) : Fin.ofNat 6 power = Fin.ofNat 6 (Fin.ofNat 12 power).val := by
  apply Fin.ext
  simp only [Fin.ofNat]
  omega

theorem frobeniusFactors1_get (power : Nat) :
    Fq6.frobeniusFactors1.get (Fin.ofNat 6 power) = rootFactor power ^ 2 := by
  rw [ofNat_six_eq, frobeniusFactors1_eq, QuadraticNumeral.keepsOperations_toField.map_mul,
    ← frobeniusFactors_eq, get_frobeniusFactors, pow_two]

theorem frobeniusFactors2_get (power : Nat) :
    Fq6.frobeniusFactors2.get (Fin.ofNat 6 power) = rootFactor power ^ 4 := by
  rw [ofNat_six_eq, frobeniusFactors2_eq, QuadraticNumeral.keepsOperations_toField.map_mul,
    QuadraticNumeral.keepsOperations_toField.map_mul, ← frobeniusFactors_eq, get_frobeniusFactors]
  ring

/-- The power map of the target field. -/
theorem frobenius_eq (x : Fq12) (power : Nat) :
    x.frobenius power = x ^ FieldParameters.base.modulus.toNat ^ power := by
  have powers : x ^ FieldParameters.base.modulus.toNat ^ power =
      ofQuadratic (x.c0.c0.frobenius power) +
      ofQuadratic (x.c1.c0.frobenius power) * (root * ofQuadratic (rootFactor power)) +
      ofQuadratic (x.c0.c1.frobenius power) * (root ^ 2 * ofQuadratic (rootFactor power) ^ 2) +
      ofQuadratic (x.c1.c1.frobenius power) * (root ^ 3 * ofQuadratic (rootFactor power) ^ 3) +
      ofQuadratic (x.c0.c2.frobenius power) * (root ^ 4 * ofQuadratic (rootFactor power) ^ 4) +
      ofQuadratic (x.c1.c2.frobenius power) * (root ^ 5 * ofQuadratic (rootFactor power) ^ 5) := by
    nth_rewrite 1 [eq_sum_root x]
    simp only [add_pow_char_pow, mul_pow, root_pow_pow_modulus_pow, root_pow_modulus_pow,
      ← map_pow, ← Fq2.frobenius_eq]
  rw [powers, eq_sum_root (x.frobenius power)]
  simp only [frobenius, Fq6.frobenius, frobeniusFactors1_get, frobeniusFactors2_get,
    Fq6.mulByQuadratic, map_mul, map_pow]
  rw [get_frobeniusFactors]
  ring

theorem frobenius_succ (x : Fq12) (power : Nat) :
    x.frobenius (power + 1) = (x.frobenius power).frobenius 1 := by
  rw [frobenius_eq, frobenius_eq, frobenius_eq, pow_one, pow_succ, pow_mul]

theorem rootFactor_six : rootFactor 6 = -1 := by
  have keeps := QuadraticNumeral.keepsOperations_toField
  have numeral : factorNumeral 6 + 1 = 0 := by decide
  have sum := congrArg QuadraticNumeral.toField numeral
  rw [keeps.map_add, keeps.map_one, keeps.map_zero] at sum
  exact (rootFactor_eq 6).trans (eq_neg_of_add_eq_zero_left sum)

/-- Conjugation is the power map of exponent the sixth power of the base modulus. -/
theorem conjugate_eq (x : Fq12) :
    x.conjugate = x ^ FieldParameters.base.modulus.toNat ^ 6 := by
  have first : Fq6.frobeniusFactors1.get (Fin.ofNat 6 6) = 1 := by
    rw [frobeniusFactors1_get, rootFactor_six]
    ring
  have second : Fq6.frobeniusFactors2.get (Fin.ofNat 6 6) = 1 := by
    rw [frobeniusFactors2_get, rootFactor_six]
    ring
  have even (y : Fq2) : y.frobenius 6 = y := by
    rw [Fq2.frobenius, if_neg (by decide)]
  rw [← frobenius_eq]
  simp only [conjugate, frobenius, Fq6.frobenius, Fq6.mulByQuadratic, first, second, even, mul_one]
  rw [get_frobeniusFactors, rootFactor_six]
  ext1
  · rfl
  · ext1 <;> simp only [Fq6.neg_c0, Fq6.neg_c1, Fq6.neg_c2, mul_neg, mul_one]

end Fq12

namespace Fq6

/-- The sextic extension keeps its power maps inside the target field. -/
theorem frobenius_ofSextic (x : Fq6) (power : Nat) :
    (Fq12.ofSextic x).frobenius power = Fq12.ofSextic (x.frobenius power) := by
  have zero : (0 : Fq6).frobenius power = 0 := by
    have fixed : (0 : Fq2).frobenius power = 0 := by
      rw [Fq2.frobenius_eq, zero_pow (pow_ne_zero _ FieldParameters.base.modulus_pos.ne')]
    ext1 <;> simp only [frobenius, zero_c0, zero_c1, zero_c2, fixed, zero_mul]
  ext1
  · rfl
  · rw [Fq12.frobenius, Fq12.ofSextic_c1, Fq12.ofSextic_c1, zero, mulByQuadratic_eq, zero_mul]

/-- The power map of the sextic extension. -/
theorem frobenius_eq (x : Fq6) (power : Nat) :
    x.frobenius power = x ^ FieldParameters.base.modulus.toNat ^ power := by
  apply Fq12.ofSextic.injective
  rw [← frobenius_ofSextic, Fq12.frobenius_eq, map_pow]

end Fq6

/-- The power maps of all three levels, for every power: the exponent is that power of the
modulus of the base field. -/
theorem tower_frobenius_eq_pow (power : Nat) :
    (∀ x : Fq2, x.frobenius power = x ^ FieldParameters.base.modulus.toNat ^ power) ∧
      (∀ x : Fq6, x.frobenius power = x ^ FieldParameters.base.modulus.toNat ^ power) ∧
      ∀ x : Fq12, x.frobenius power = x ^ FieldParameters.base.modulus.toNat ^ power := by
  refine ⟨fun x => ?_, fun x => ?_, fun x => ?_⟩
  · exact Fq2.frobenius_eq x power
  · exact Fq6.frobenius_eq x power
  · exact Fq12.frobenius_eq x power

end Groth16
