import Groth16.Field.Moduli
import Groth16.Proofs.Digits
import Groth16.Proofs.Field.Residues
import Groth16.Proofs.Primality

/-!
# The fields of prime modulus

Both moduli are prime, so `Fq` and `Fr` are fields with `FieldElement.inverse?` as
their inversion.
-/

namespace Groth16

namespace FieldParameters

theorem toNat_modulus_base :
    base.modulus.toNat =
      21888242871839275222246405745257275088696311157297823662689037894645226208583 := by
  decide

theorem toNat_modulus_scalar :
    scalar.modulus.toNat =
      21888242871839275222246405745257275088548364400416034343698204186575808495617 := by
  decide

/-- The certificates that lead to the modulus of the base field. -/
def baseCertificates : List PrimeCertificate := [
  ⟨405928799, 22, [2, 11, 3691, 4999]⟩,
  ⟨327599, 19, [2, 19, 37, 233]⟩,
  ⟨11465965001, 3, [2, 2, 2, 5, 5, 5, 5, 7, 327599]⟩,
  ⟨1853641, 17, [2, 2, 2, 3, 3, 5, 19, 271]⟩,
  ⟨4562087, 5, [2, 17, 109, 1231]⟩,
  ⟨173171039, 13, [2, 73, 89, 13327]⟩,
  ⟨1263766531, 10, [2, 3, 5, 13, 911, 3557]⟩,
  ⟨35385462869, 2, [2, 2, 7, 1263766531]⟩,
  ⟨2480874801745591, 6, [2, 3, 3, 5, 19, 41, 35385462869]⟩,
  ⟨13427688667394608761327070753331941386769, 17,
    [2, 2, 2, 2, 3, 7, 11, 1853641, 4562087, 173171039, 2480874801745591]⟩,
  ⟨21888242871839275222246405745257275088696311157297823662689037894645226208583, 3,
    [2, 3, 3, 13, 29, 67, 229, 311, 983, 11003, 405928799, 11465965001,
      13427688667394608761327070753331941386769]⟩]

/-- The certificates that lead to the modulus of the scalar field. -/
def scalarCertificates : List PrimeCertificate := [
  ⟨237073, 15, [2, 2, 2, 2, 3, 11, 449]⟩,
  ⟨405928799, 22, [2, 11, 3691, 4999]⟩,
  ⟨93001, 14, [2, 2, 2, 3, 5, 5, 5, 31]⟩,
  ⟨12048837557, 2, [2, 2, 7, 7, 661, 93001]⟩,
  ⟨5156902474397, 2, [2, 2, 107, 12048837557]⟩,
  ⟨1670836401704629, 2, [2, 2, 3, 3, 3, 3, 5156902474397]⟩,
  ⟨20963, 2, [2, 47, 223]⟩,
  ⟨41927, 5, [2, 20963]⟩,
  ⟨1593227, 2, [2, 19, 41927]⟩,
  ⟨639533339, 2, [2, 229, 853, 1637]⟩,
  ⟨65865678001877903, 5, [2, 83, 379, 1637, 639533339]⟩,
  ⟨13818364434197438864469338081, 3, [2, 2, 2, 2, 2, 5, 823, 1593227, 65865678001877903]⟩,
  ⟨21888242871839275222246405745257275088548364400416034343698204186575808495617, 5,
    List.replicate 28 2 ++ [3, 3, 13, 29, 983, 11003, 237073, 405928799, 1670836401704629,
      13818364434197438864469338081]⟩]

theorem prime_base : base.modulus.toNat.Prime := by
  rw [toNat_modulus_base]
  have checked : PrimeCertificate.checkAll [] baseCertificates = true := by decide +kernel
  have member : baseCertificates.getLast (by decide) ∈ baseCertificates := List.getLast_mem _
  exact PrimeCertificate.prime_of_checkAll (by simp) checked member

theorem prime_scalar : scalar.modulus.toNat.Prime := by
  rw [toNat_modulus_scalar]
  have checked : PrimeCertificate.checkAll [] scalarCertificates = true := by decide +kernel
  have member : scalarCertificates.getLast (by decide) ∈ scalarCertificates :=
    List.getLast_mem _
  exact PrimeCertificate.prime_of_checkAll (by simp) checked member

instance : Fact base.modulus.toNat.Prime := ⟨prime_base⟩

instance : Fact scalar.modulus.toNat.Prime := ⟨prime_scalar⟩

end FieldParameters

/-- A commutative ring with an inversion is a field. -/
abbrev fieldOfInverse
    {R : Type*} [CommRing R] [Nontrivial R]
    (inverse : R → R)
    (mul_inverse : ∀ {x : R}, x ≠ 0 → x * inverse x = 1)
    (inverse_zero : inverse 0 = 0) : Field R where
  inv := inverse
  mul_inv_cancel _ nonzero := mul_inverse nonzero
  inv_zero := inverse_zero
  nnqsmul := _
  nnqsmul_def := fun _ _ => rfl
  qsmul := _
  qsmul_def := fun _ _ => rfl

namespace FieldElement

variable {F : FieldParameters}

@[simp] theorem isZero_eq_true (x : FieldElement F) : x.isZero = true ↔ x = 0 := by
  rw [isZero, Limbs.isZero_iff]
  constructor
  · intro residueZero
    apply ext_residue
    apply Limbs.toNat_inj.1
    rw [residueZero, residue_zero]
    rfl
  · intro equal
    rw [equal, residue_zero]
    rfl

@[simp] theorem double_eq (x : FieldElement F) : x.double = 2 * x := (two_mul x).symm

@[simp] theorem square_eq (x : FieldElement F) : x.square = x ^ 2 := (pow_two x).symm

theorem ofLimbs_eq (n : Limbs) : (ofLimbs n : FieldElement F) = (n.toNat : FieldElement F) :=
  toZMod_injective (by rw [toZMod_ofLimbs, toZMod_natCast])

theorem ofWord_eq (n : UInt64) : (ofWord n : FieldElement F) = (n.toNat : FieldElement F) := by
  rw [ofWord, ofLimbs_eq, Limbs.toNat_ofWord]

theorem ofNat_eq (n : Nat) :
    (ofNat n : FieldElement F) = (n % 2 ^ 256 : Nat) := by
  rw [ofNat, ofLimbs_eq, Limbs.toNat_ofNat]

/-- The power by squaring is the power. -/
theorem pow_eq
    (x : FieldElement F)
    (exponent : Limbs) :
    x.pow exponent = x ^ exponent.toNat := by
  rw [← Digits.value_limbs_bits]
  simp only [pow, select_eq]
  exact Digits.power_eq x exponent.bits

theorem toNat_inverseExponent (F : FieldParameters) :
    (inverseExponent F).toNat = F.modulus.toNat - 2 := by
  obtain ⟨borrow, -, equation⟩ := F.modulus.subWithBorrow_equation (.ofWord 2)
  have borrow_le := borrow.toNat_le
  have difference_lt := (F.modulus.subWithBorrow (.ofWord 2)).1.toNat_lt
  have modulus_lt := F.modulus.toNat_lt
  have one_lt := F.one_lt_modulus
  have two : (Limbs.ofWord 2).toNat = 2 := by rw [Limbs.toNat_ofWord]; rfl
  rw [two] at equation
  rw [inverseExponent]
  omega

instance : Inv (FieldElement F) := ⟨fun x => (inverse? x).getD 0⟩

theorem inv_eq_getD (x : FieldElement F) : x⁻¹ = (inverse? x).getD 0 := rfl

theorem inv_of_zero : (0 : FieldElement F)⁻¹ = 0 := by
  rw [inv_eq_getD, inverse?, if_pos ((isZero_eq_true _).2 rfl), Option.getD_none]

/-- Inversion fails for zero only. -/
theorem inverse?_eq (x : FieldElement F) :
    x.inverse? = if x = 0 then none else some x⁻¹ := by
  by_cases zero : x = 0
  · rw [if_pos zero, inverse?, if_pos ((isZero_eq_true x).2 zero)]
  · have notZero : ¬x.isZero = true := by simpa using zero
    rw [if_neg zero, inv_eq_getD, inverse?, if_neg notZero, Option.getD_some]

section Prime

variable [Fact F.modulus.toNat.Prime]

/-- Fermat's inversion inverts every nonzero element. -/
theorem mul_pow_inverseExponent
    {x : FieldElement F}
    (nonzero : x ≠ 0) :
    x * x.pow (inverseExponent F) = 1 := by
  have two_le := (Fact.out : F.modulus.toNat.Prime).two_le
  rw [pow_eq, toNat_inverseExponent, ← pow_succ']
  apply toZMod_injective
  have residue_ne : x.toZMod ≠ 0 := by
    intro equal
    exact nonzero (toZMod_injective (equal.trans toZMod_zero.symm))
  have exponent : F.modulus.toNat - 2 + 1 = F.modulus.toNat - 1 := by omega
  rw [exponent, ← toZModHom_apply, ← toZModHom_apply, map_pow, map_one, toZModHom_apply,
    ZMod.pow_card_sub_one_eq_one residue_ne]

instance : Nontrivial (FieldElement F) where
  exists_pair_ne := by
    refine ⟨0, 1, ?_⟩
    intro equal
    have zeroOne : (0 : ZMod F.modulus.toNat) = 1 := by
      rw [← toZMod_zero, equal, toZMod_one]
    exact zero_ne_one zeroOne

theorem mul_inv_of_ne_zero
    {x : FieldElement F}
    (nonzero : x ≠ 0) :
    x * x⁻¹ = 1 := by
  have notZero : ¬x.isZero = true := by simpa using nonzero
  rw [inv_eq_getD, inverse?, if_neg notZero, Option.getD_some, mul_pow_inverseExponent nonzero]

/-- The elements form a field. -/
instance : Field (FieldElement F) := fieldOfInverse _ mul_inv_of_ne_zero inv_of_zero

end Prime

/-- Every element is its own power of exponent the modulus. -/
theorem pow_modulus
    [Fact F.modulus.toNat.Prime]
    (x : FieldElement F) :
    x ^ F.modulus.toNat = x := by
  apply (equivZMod F).injective
  rw [map_pow, ZMod.pow_card]

theorem pow_modulus_sub_one
    [Fact F.modulus.toNat.Prime]
    {x : FieldElement F}
    (nonzero : x ≠ 0) :
    x ^ (F.modulus.toNat - 1) = 1 := by
  have pos := F.modulus_pos
  apply mul_left_cancel₀ nonzero
  rw [← pow_succ', Nat.sub_add_cancel pos, pow_modulus, mul_one]

theorem natCast_eq_zero_iff (n : Nat) : (n : FieldElement F) = 0 ↔ F.modulus.toNat ∣ n :=
  CharP.cast_eq_zero_iff _ _ n

/-- A power of a small number, computed on natural numbers. -/
theorem natCast_pow
    (digits base exponent : Nat)
    (fits : exponent < 2 ^ digits) :
    (base : FieldElement F) ^ exponent =
      (powerModulo F.modulus.toNat digits base exponent 1 : Nat) := by
  apply (equivZMod F).injective
  rw [map_pow, map_natCast, map_natCast, cast_powerModulo _ _ _ _ _ fits, Nat.cast_one, one_mul]

/-- A number is no power of exponent `degree` in the base field when its power of exponent
`(q - 1) / degree` is not one. -/
theorem natCast_ne_pow
    [Fact F.modulus.toNat.Prime]
    (base degree exponent : Nat)
    (exponent_eq : degree * exponent = F.modulus.toNat - 1)
    (fits : exponent < 2 ^ 256)
    (not_dvd : base % F.modulus.toNat ≠ 0)
    (residual : powerModulo F.modulus.toNat 256 base exponent 1 % F.modulus.toNat ≠ 1)
    (root : FieldElement F) :
    root ^ degree ≠ base := by
  intro equal
  have base_ne : (base : FieldElement F) ≠ 0 := by
    rw [Ne, natCast_eq_zero_iff]
    exact fun divides => not_dvd (Nat.mod_eq_zero_of_dvd divides)
  have root_ne : root ≠ 0 := by
    intro rootZero
    apply base_ne
    have degree_ne : degree ≠ 0 := by
      rintro rfl
      have one_lt := F.one_lt_modulus
      omega
    rw [← equal, rootZero, zero_pow degree_ne]
  have power := natCast_pow (F := F) 256 base exponent fits
  rw [← equal, ← pow_mul, exponent_eq, pow_modulus_sub_one root_ne, ← Nat.cast_one,
    CharP.natCast_eq_natCast (FieldElement F) F.modulus.toNat, Nat.ModEq,
    Nat.mod_eq_of_lt F.one_lt_modulus] at power
  exact residual power.symm

end FieldElement
end Groth16
