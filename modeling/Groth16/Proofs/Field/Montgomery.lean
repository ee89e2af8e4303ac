import Groth16.Proofs.Field.Encoding

/-!
# Montgomery form

The rounds of a product are correct for any first factor, also one that is not reduced, as long as
the second factor is. So a number of four words is brought into Montgomery form and reduced by one
product with a reduced constant, and back by a product with one.
-/

namespace Groth16

namespace FieldElement

variable {F : FieldParameters}

theorem isUnit_two_pow (F : FieldParameters) : IsUnit (2 ^ 256 : ZMod F.modulus.toNat) := by
  have unit := isUnit_radixResidue F
  rwa [radixResidue_eq, Nat.cast_pow, Nat.cast_ofNat] at unit

/-- A product is the plain product divided by `2 ^ 256`. -/
theorem toNat_montgomery_mul
    (a b : Limbs)
    (b_lt : b.toNat < F.modulus.toNat) :
    ((Montgomery.mul F.modulus F.negInv a b).toNat : ZMod F.modulus.toNat) =
      a.toNat * b.toNat * (2 ^ 256)⁻¹ := by
  have equation := radixResidue_mul_montgomery (F := F) a b b_lt
  rw [radixResidue_eq, Nat.cast_pow, Nat.cast_ofNat] at equation
  rw [← equation, mul_right_comm, ZMod.mul_inv_of_unit _ (isUnit_two_pow F), one_mul]

theorem toNat_canonical_ofLimbs (n : Limbs) :
    (ofLimbs n : FieldElement F).canonical.toNat = n.toNat % F.modulus.toNat := by
  rw [ofLimbs_eq, toNat_canonical_natCast]

theorem canonical_ofLimbs
    {n : Limbs}
    (reduced : n.toNat < F.modulus.toNat) :
    (ofLimbs n : FieldElement F).canonical = n := by
  apply Limbs.toNat_inj.mp
  rw [toNat_canonical_ofLimbs, Nat.mod_eq_of_lt reduced]

theorem ofLimbs_canonical (x : FieldElement F) : ofLimbs x.canonical = x := by
  rw [ofLimbs_eq, natCast_toNat_canonical]

end FieldElement

namespace FieldParameters

/-- What multiplication with a modulus in Montgomery form does with any first factor and a second
factor below the modulus, and what follows for the numbers that enter and leave that form. -/
structure MultipliesInMontgomeryForm (F : FieldParameters) : Prop where
  mul_lt : ∀ a b : Limbs, b.toNat < F.modulus.toNat →
    (Montgomery.mul F.modulus F.negInv a b).toNat < F.modulus.toNat
  isUnit_radix : IsUnit (2 ^ 256 : ZMod F.modulus.toNat)
  mul_eq : ∀ a b : Limbs, b.toNat < F.modulus.toNat →
    ((Montgomery.mul F.modulus F.negInv a b).toNat : ZMod F.modulus.toNat) =
      a.toNat * b.toNat * (2 ^ 256)⁻¹
  /-- The two words that are added into the highest word of a round do not overflow it. -/
  top_lt : ∀ (a : Limbs) (word : UInt64) (t : Montgomery.Accumulator),
    let sum := Montgomery.addMultiple a word t
    sum.w5.toNat + (Montgomery.dropLowest F.modulus F.negInv sum).2.toNat < 2 ^ 64
  /-- One subtraction of the modulus is enough after the rounds. -/
  rounds_lt : ∀ a b : Limbs, b.toNat < F.modulus.toNat →
    (Montgomery.rounds F.modulus F.negInv a b).toNat < 2 * F.modulus.toNat
  toNat_canonical_ofLimbs : ∀ n : Limbs,
    (FieldElement.ofLimbs n : FieldElement F).canonical.toNat = n.toNat % F.modulus.toNat
  canonical_ofLimbs : ∀ n : Limbs, n.toNat < F.modulus.toNat →
    (FieldElement.ofLimbs n : FieldElement F).canonical = n
  ofLimbs_canonical : ∀ x : FieldElement F, FieldElement.ofLimbs x.canonical = x

theorem multipliesInMontgomeryForm (F : FieldParameters) : F.MultipliesInMontgomeryForm where
  mul_lt a b b_lt := Montgomery.mul_lt _ _ _ _ F.negInv_mul_modulus b_lt
  isUnit_radix := FieldElement.isUnit_two_pow F
  mul_eq := FieldElement.toNat_montgomery_mul
  top_lt a word t := by
    have top_le := Montgomery.top_words_le_two F.modulus F.negInv a word t F.negInv_mul_modulus
    exact top_le.trans_lt (by norm_num)
  rounds_lt a b b_lt := Montgomery.rounds_lt _ _ _ _ F.negInv_mul_modulus b_lt
  toNat_canonical_ofLimbs := FieldElement.toNat_canonical_ofLimbs
  canonical_ofLimbs _ reduced := FieldElement.canonical_ofLimbs reduced
  ofLimbs_canonical := FieldElement.ofLimbs_canonical

/-- Both fields of the curve multiply in Montgomery form. -/
theorem multipliesInMontgomeryForm_scalar_and_base :
    scalar.MultipliesInMontgomeryForm ∧ base.MultipliesInMontgomeryForm :=
  ⟨multipliesInMontgomeryForm scalar, multipliesInMontgomeryForm base⟩

end FieldParameters
end Groth16
