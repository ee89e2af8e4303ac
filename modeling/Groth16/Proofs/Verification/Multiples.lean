import Groth16.Proofs.Verification.ProofFormat

/-!
# Multiples of the generators as bytes

Nonzero multiples of the generators have byte forms, which encode the key and the proof that are
made of them. Verification of the bytes decides the equation between the scalars.
-/

namespace Groth16

/-- A nonzero scalar multiple of a point of the group order is not the identity. -/
theorem canonical_nsmul_ne_zero
    {Point : Type}
    [AddMonoid Point]
    {A : Point}
    (order : addOrderOf A = groupOrder)
    {x : Fr}
    (nonzero : x ≠ 0) :
    x.canonical.toNat • A ≠ 0 := by
  intro zero
  have divides := addOrderOf_dvd_of_nsmul_eq_zero zero
  have below := FieldElement.canonical_lt x
  rw [order] at divides
  rw [toNat_modulus_scalar_eq] at below
  exact nonzero (x.toNat_canonical_eq_zero_iff.mp (Nat.eq_zero_of_dvd_of_lt divides below))

theorem G1.isIdentity_mul_generator {x : Fr} (nonzero : x ≠ 0) :
    ((ProjectivePoint.generator (C := Curve.g1)).mul x).toAffine.isIdentity = false := by
  rw [toAffine_mul_generator, AffinePoint.isIdentity_ofPoint_eq_false]
  exact canonical_nsmul_ne_zero addOrderOf_generatorPoint nonzero

theorem G2.isIdentity_mul_generator {x : Fr} (nonzero : x ≠ 0) :
    ((ProjectivePoint.generator (C := Curve.g2)).mul x).toAffine.isIdentity = false := by
  rw [toAffine_mul_generator, AffinePoint.isIdentity_ofPoint_eq_false]
  exact canonical_nsmul_ne_zero addOrderOf_generatorPoint nonzero

section Proof

variable {a b c : Fr}

theorem Proof.isFinite_ofScalars
    (a_ne_zero : a ≠ 0)
    (b_ne_zero : b ≠ 0)
    (c_ne_zero : c ≠ 0) :
    (ofScalars a b c).IsFinite :=
  ⟨G1.isIdentity_mul_generator a_ne_zero, G2.isIdentity_mul_generator b_ne_zero,
    G1.isIdentity_mul_generator c_ne_zero⟩

theorem Proof.ofBytes?_ofScalars
    (a_ne_zero : a ≠ 0)
    (b_ne_zero : b ≠ 0)
    (c_ne_zero : c ≠ 0) :
    ofBytes? (ofScalars a b c).toBytes = .ok (ofScalars a b c) :=
  ofBytes?_eq_ok_iff.mpr (isDecoded_iff.mpr
    ⟨⟨isValid_ofScalars a b c, isFinite_ofScalars a_ne_zero b_ne_zero c_ne_zero⟩, rfl⟩)

end Proof

/-- The bytes of the proof with the given multiples of the generators. -/
def Proof.multipleBytes (a b c : Nat) : List UInt8 := (ofScalars a b c).toBytes

/-- Scalars are decoded from their byte forms. -/
theorem decodeInputs_toBytes
    {inputs : List Fr}
    (bounded : inputs.length ≤ VerifyingKey.maxPublicInputs) :
    decodeInputs (inputs.map FieldElement.toBytes) = .ok inputs := by
  have goesOn : decodeInputs (inputs.map FieldElement.toBytes) =
      (inputs.map FieldElement.toBytes).mapM fun bytes =>
        (FieldElement.ofBytes? bytes).mapError VerifyError.outOfRange := by
    refine if_neg ?_
    rw [List.length_map]
    exact Nat.not_lt.mpr bounded
  rw [goesOn, List.mapM_map, Checks.mapM_eq_ok id, List.map_id]
  intro x _
  rw [Function.comp_apply, FieldElement.ofBytes?_toBytes]
  rfl

namespace VerifyingKey

theorem ofBytes?_ofScalars
    {alpha beta gamma delta : Fr}
    (alpha_ne_zero : alpha ≠ 0)
    (beta_ne_zero : beta ≠ 0)
    (gamma_ne_zero : gamma ≠ 0)
    (delta_ne_zero : delta ≠ 0)
    (constant : Fr)
    {ic : List Fr}
    (bounded : ic.length ≤ maxPublicInputs) :
    ofBytes? (ofScalars alpha beta gamma delta (constant :: ic)).toBytes =
      .ok (ofScalars alpha beta gamma delta (constant :: ic)) := by
  apply ofBytes?_toBytes (isValid_ofScalars alpha beta gamma delta constant ic)
  · exact ⟨G1.isIdentity_mul_generator alpha_ne_zero, G2.isIdentity_mul_generator beta_ne_zero,
      G2.isIdentity_mul_generator gamma_ne_zero, G2.isIdentity_mul_generator delta_ne_zero⟩
  · rw [ofScalars, List.length_map, List.length_cons]
    exact Nat.succ_le_succ bounded

/-- Verification of the bytes of a proof decides the equation between the scalars. -/
theorem verifyBytes_ofScalars
    (alpha beta gamma delta constant : Fr)
    {a b c : Fr}
    (a_ne_zero : a ≠ 0)
    (b_ne_zero : b ≠ 0)
    (c_ne_zero : c ≠ 0)
    (terms : List (Fr × Fr))
    (bounded : terms.length ≤ maxPublicInputs) :
    (ofScalars alpha beta gamma delta (constant :: terms.map Prod.snd)).verifyBytes
        (Proof.ofScalars a b c).toBytes ((terms.map Prod.fst).map FieldElement.toBytes) =
      .ok (a * b =
        alpha * beta + (constant + (terms.map fun term => term.1 * term.2).sum) * gamma +
          c * delta) := by
  have count : (terms.map Prod.fst).length =
      (ofScalars alpha beta gamma delta (constant :: terms.map Prod.snd)).publicInputs := by
    rw [publicInputs, ofScalars, List.length_map, List.length_map, List.length_cons,
      List.length_map, Nat.add_sub_cancel]
  obtain ⟨holds, verified, decides⟩ := verify_eq
    (isValid_ofScalars alpha beta gamma delta constant (terms.map Prod.snd))
    (Proof.isValid_ofScalars a b c) count
  have equation := decides.trans
    (equationUnit_ofScalars_eq_one_iff alpha beta gamma delta constant a b c terms)
  rw [verifyBytes, List.length_map, checkInputCount, if_pos count, Checks.ok_bind,
    Proof.ofBytes?_ofScalars a_ne_zero b_ne_zero c_ne_zero, Checks.ok_bind, decodeInputs_toBytes,
    Checks.ok_bind, verified]
  · exact congrArg Except.ok (Bool.eq_iff_iff.mpr (equation.trans decide_eq_true_iff.symm))
  · rw [List.length_map]
    exact bounded

/-- A key with one public input. -/
def oneInput : VerifyingKey := ofScalars (2 : Nat) (3 : Nat) (5 : Nat) (7 : Nat) [1, (4 : Nat)]

theorem isValid_oneInput : oneInput.IsValid := isValid_ofScalars _ _ _ _ _ _

theorem ofBytes?_oneInput : ofBytes? oneInput.toBytes = .ok oneInput :=
  ofBytes?_ofScalars (by decide +kernel) (by decide +kernel) (by decide +kernel)
    (by decide +kernel) 1 (by decide)

/-- The key with one public input accepts the proofs that satisfy an equation. -/
theorem verifyBytes_oneInput
    {a b c : Nat}
    (a_ne_zero : (a : Fr) ≠ 0)
    (b_ne_zero : (b : Fr) ≠ 0)
    (c_ne_zero : (c : Fr) ≠ 0)
    (x : Fr) :
    oneInput.verifyBytes (Proof.multipleBytes a b c) [x.toBytes] =
      .ok ((a : Fr) * b = 2 * 3 + (1 + (x * 4 + 0)) * 5 + c * 7) :=
  verifyBytes_ofScalars (2 : Nat) (3 : Nat) (5 : Nat) (7 : Nat) 1 a_ne_zero b_ne_zero c_ne_zero
    [(x, (4 : Nat))] (Nat.le_add_left 1 63)

end VerifyingKey
end Groth16
