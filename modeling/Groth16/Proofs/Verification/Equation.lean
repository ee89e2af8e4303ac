import Groth16.Proofs.Pairing.Value
import Groth16.Verification

/-!
# The verification equation

For valid points, verification computes the input point as a sum in the group and decides
whether the product of four units is one. For points given as multiples of the generators
this is an equation between the scalars.
-/

namespace Groth16

/-- The points of the proof have passed the checks of decoding. -/
structure Proof.IsValid (proof : Proof) : Prop where
  a : proof.a.IsValid
  b : proof.b.IsValid
  c : proof.c.IsValid

namespace VerifyingKey

/-- The points of the key have passed the checks of decoding, and one of them is the constant
input point. -/
structure IsValid (key : VerifyingKey) : Prop where
  alpha : key.alpha.IsValid
  beta : key.beta.IsValid
  gamma : key.gamma.IsValid
  delta : key.delta.IsValid
  ic : ∀ P ∈ key.ic, P.IsValid
  ic_ne_nil : key.ic ≠ []

/-- The constant input point plus the multiples of the others by the numbers. -/
def inputSum (key : VerifyingKey) (numbers : List Nat) : Curve.g1.Point :=
  match key.ic with
  | [] => 0
  | constant :: points =>
    constant.toPoint + ((numbers.zip points).map fun term => term.1 • term.2.toPoint).sum

variable {key : VerifyingKey} {proof : Proof}

theorem inputPoint_cons
    {constant : G1.Affine}
    {points : List G1.Affine}
    (icEq : key.ic = constant :: points)
    {inputs : List Fr}
    (count : inputs.length = points.length) :
    key.inputPoint inputs = .ok ((inputs.zip points).foldl
      (fun acc term => acc.add (term.2.toProjective.mul term.1)) constant.toProjective) := by
  unfold inputPoint
  rw [icEq]
  exact if_pos count

/-- A key with an input point has a verdict on every proof for as many inputs as it expects. -/
theorem exists_verify_eq_ok
    (nonempty : key.ic ≠ [])
    (proof : Proof)
    {inputs : List Fr}
    (count : inputs.length = key.publicInputs) :
    ∃ holds, key.verify proof inputs = .ok holds := by
  obtain ⟨constant, points, icEq⟩ := List.exists_cons_of_ne_nil nonempty
  rw [publicInputs, icEq, List.length_cons, Nat.add_sub_cancel] at count
  rw [verify, inputPoint_cons icEq count]
  exact ⟨_, rfl⟩

theorem inputSum_cons
    {constant : G1.Affine}
    {points : List G1.Affine}
    (icEq : key.ic = constant :: points)
    (inputs : List Fr) :
    key.inputSum (inputs.map fun x => x.canonical.toNat) =
      constant.toPoint +
        ((inputs.zip points).map fun term => term.1.canonical.toNat • term.2.toPoint).sum := by
  unfold inputSum
  rw [icEq]
  simp only
  rw [List.zip_map_left, List.map_map]
  congr 1

/-- The input point is computed whenever the number of inputs fits. -/
theorem inputPoint_denotes
    (valid : key.IsValid)
    {inputs : List Fr}
    (count : inputs.length = key.publicInputs) :
    ∃ X, key.inputPoint inputs = .ok X ∧
      X.Denotes (key.inputSum (inputs.map fun x => x.canonical.toNat)) := by
  obtain ⟨constant, points, icEq⟩ := List.exists_cons_of_ne_nil valid.ic_ne_nil
  have icValid := valid.ic
  rw [icEq] at icValid
  rw [publicInputs, icEq, List.length_cons, Nat.add_sub_cancel] at count
  refine ⟨_, inputPoint_cons icEq count, ?_⟩
  rw [inputSum_cons icEq]
  apply ProjectivePoint.Denotes.foldl_add
  · intro term member
    have pointMember := List.mem_cons_of_mem constant (List.of_mem_zip member).2
    exact (AffinePoint.toProjective_denotes_toPoint (icValid _ pointMember).isOnCurve).mul _
  · exact AffinePoint.toProjective_denotes_toPoint
      (icValid constant List.mem_cons_self).isOnCurve

/-- The product of the units of the four pairs of a proof. -/
noncomputable def equationUnit
    (key : VerifyingKey)
    (proof : Proof)
    (X : Curve.g1.Point) : Fq12ˣ :=
  ((key.pairsFor proof (.ofPoint X)).map Pairing.pairUnit).prod

theorem isValidPair_of_mem_pairsFor
    (keyValid : key.IsValid)
    (proofValid : proof.IsValid)
    (X : Curve.g1.Point) :
    ∀ pair ∈ key.pairsFor proof (.ofPoint X), Pairing.IsValidPair pair := by
  intro pair member
  rw [pairsFor, AffinePoint.neg_eq_ofPoint proofValid.a.isOnCurve] at member
  simp only [List.mem_cons, List.not_mem_nil, or_false] at member
  rcases member with rfl | rfl | rfl | rfl
  · exact ⟨G1.isValid_ofPoint _, proofValid.b⟩
  · exact ⟨keyValid.alpha, keyValid.beta⟩
  · exact ⟨G1.isValid_ofPoint _, keyValid.gamma⟩
  · exact ⟨proofValid.c, keyValid.delta⟩

theorem pairingProduct_pairsFor
    (keyValid : key.IsValid)
    (proofValid : proof.IsValid)
    (X : Curve.g1.Point) :
    Pairing.pairingProduct (key.pairsFor proof (.ofPoint X)) = ⟨key.equationUnit proof X⟩ :=
  Pairing.pairingProduct_eq_prod (isValidPair_of_mem_pairsFor keyValid proofValid X)

/-- Verification of a valid proof for as many inputs as the key expects has a verdict, which
is whether the equation holds. -/
theorem verify_eq
    (keyValid : key.IsValid)
    (proofValid : proof.IsValid)
    {inputs : List Fr}
    (count : inputs.length = key.publicInputs) :
    ∃ holds, key.verify proof inputs = .ok holds ∧
      (holds = true ↔
        key.equationUnit proof (key.inputSum (inputs.map fun x => x.canonical.toNat)) = 1) := by
  obtain ⟨X, computed, denotes⟩ := inputPoint_denotes keyValid count
  rw [verify, computed]
  refine ⟨_, rfl, ?_⟩
  rw [denotes.toAffine, pairingProduct_pairsFor keyValid proofValid, Pairing.isOne_eq_true_iff]

end VerifyingKey

section Scalars

/-- The multiple of the generator by a scalar, in affine form. -/
theorem G1.toAffine_mul_generator (x : Fr) :
    ((ProjectivePoint.generator (C := Curve.g1)).mul x).toAffine =
      .ofPoint (x.canonical.toNat • generatorPoint) :=
  (generator_denotes.mul x).toAffine

theorem G2.toAffine_mul_generator (x : Fr) :
    ((ProjectivePoint.generator (C := Curve.g2)).mul x).toAffine =
      .ofPoint (x.canonical.toNat • generatorPoint) :=
  (generator_denotes.mul x).toAffine

/-- The key of the given multiples of the generators. -/
def VerifyingKey.ofScalars (alpha beta gamma delta : Fr) (ic : List Fr) : VerifyingKey where
  alpha := (ProjectivePoint.generator.mul alpha).toAffine
  beta := (ProjectivePoint.generator.mul beta).toAffine
  gamma := (ProjectivePoint.generator.mul gamma).toAffine
  delta := (ProjectivePoint.generator.mul delta).toAffine
  ic := ic.map fun scalar => (ProjectivePoint.generator.mul scalar).toAffine

/-- The proof of the given multiples of the generators. -/
def Proof.ofScalars (a b c : Fr) : Proof where
  a := (ProjectivePoint.generator.mul a).toAffine
  b := (ProjectivePoint.generator.mul b).toAffine
  c := (ProjectivePoint.generator.mul c).toAffine

theorem G1.isValid_mul_generator (x : Fr) :
    ((ProjectivePoint.generator (C := Curve.g1)).mul x).toAffine.IsValid := by
  rw [G1.toAffine_mul_generator]
  exact G1.isValid_ofPoint _

theorem G2.isValid_mul_generator (x : Fr) :
    ((ProjectivePoint.generator (C := Curve.g2)).mul x).toAffine.IsValid := by
  rw [G2.toAffine_mul_generator]
  exact G2.isValid_ofPoint (subgroup.nsmul_mem generatorPoint_mem _)

theorem Proof.isValid_ofScalars (a b c : Fr) : (ofScalars a b c).IsValid :=
  ⟨G1.isValid_mul_generator a, G2.isValid_mul_generator b, G1.isValid_mul_generator c⟩

namespace VerifyingKey

theorem isValid_ofScalars
    (alpha beta gamma delta constant : Fr)
    (ic : List Fr) :
    (ofScalars alpha beta gamma delta (constant :: ic)).IsValid where
  alpha := G1.isValid_mul_generator alpha
  beta := G2.isValid_mul_generator beta
  gamma := G2.isValid_mul_generator gamma
  delta := G2.isValid_mul_generator delta
  ic P member := by
    obtain ⟨scalar, -, rfl⟩ := List.mem_map.mp member
    exact G1.isValid_mul_generator scalar
  ic_ne_nil := by
    unfold ofScalars
    exact List.cons_ne_nil _ _

/-- The number whose multiple of the generator is the input point. -/
def inputNumber (constant : Fr) (terms : List (Fr × Fr)) : Nat :=
  constant.canonical.toNat +
    (terms.map fun term => term.1.canonical.toNat * term.2.canonical.toNat).sum

theorem natCast_inputNumber (constant : Fr) (terms : List (Fr × Fr)) :
    (inputNumber constant terms : Fr) =
      constant + (terms.map fun term => term.1 * term.2).sum := by
  rw [inputNumber, Nat.cast_add, FieldElement.natCast_toNat_canonical, Nat.cast_list_sum,
    List.map_map]
  congr 2
  apply List.map_congr_left
  intro term _
  rw [Function.comp_apply, Nat.cast_mul, FieldElement.natCast_toNat_canonical,
    FieldElement.natCast_toNat_canonical]

theorem inputSum_ofScalars
    (alpha beta gamma delta constant : Fr)
    (terms : List (Fr × Fr)) :
    (ofScalars alpha beta gamma delta (constant :: terms.map Prod.snd)).inputSum
        ((terms.map Prod.fst).map fun x => x.canonical.toNat) =
      inputNumber constant terms • G1.generatorPoint := by
  have toPoint (k : Fr) :
      ((ProjectivePoint.generator (C := Curve.g1)).mul k).toAffine.toPoint =
        k.canonical.toNat • G1.generatorPoint := by
    rw [G1.toAffine_mul_generator, AffinePoint.toPoint_ofPoint]
  have icEq : (ofScalars alpha beta gamma delta (constant :: terms.map Prod.snd)).ic =
      (ProjectivePoint.generator.mul constant).toAffine ::
        (terms.map Prod.snd).map fun k => (ProjectivePoint.generator.mul k).toAffine := rfl
  rw [inputSum_cons icEq, toPoint, inputNumber, add_nsmul, List.map_map, List.zip_map',
    List.map_map, List.sum_smul, List.map_map]
  congr 2
  apply List.map_congr_left
  intro term _
  rw [Function.comp_apply, Function.comp_apply, Function.comp_apply, toPoint, mul_nsmul']

end VerifyingKey

theorem Pairing.ateUnit_neg_left
    (P : Curve.g1.Point)
    {Q : Curve.g2.Point}
    (member : Q ∈ G2.subgroup) :
    ateUnit (-P) Q = (ateUnit P Q)⁻¹ := by
  rw [eq_inv_iff_mul_eq_one, ← ateUnit_add_left _ _ member, neg_add_cancel,
    ateUnit_zero_left member]

/-- Equal powers of the value at the generators have equal exponents as scalars. -/
theorem Pairing.generatorUnit_pow_eq_pow_iff (m n : Nat) :
    generatorUnit ^ m = generatorUnit ^ n ↔ (m : Fr) = n := by
  rw [pow_eq_pow_iff_modEq, orderOf_generatorUnit, ← toNat_modulus_scalar_eq,
    CharP.natCast_eq_natCast Fr FieldParameters.scalar.modulus.toNat]

namespace VerifyingKey

/-- For multiples of the generators, the product of the four pairings is one if and only if an
equation between the scalars holds. -/
theorem equationUnit_ofScalars_eq_one_iff
    (alpha beta gamma delta constant a b c : Fr)
    (terms : List (Fr × Fr)) :
    let key := ofScalars alpha beta gamma delta (constant :: terms.map Prod.snd)
    key.equationUnit (.ofScalars a b c)
        (key.inputSum ((terms.map Prod.fst).map fun x => x.canonical.toNat)) = 1 ↔
      a * b =
        alpha * beta + (constant + (terms.map fun term => term.1 * term.2).sum) * gamma +
          c * delta := by
  intro key
  rw [inputSum_ofScalars]
  simp only [key, equationUnit, pairsFor, ofScalars, Proof.ofScalars, G1.toAffine_mul_generator,
    G2.toAffine_mul_generator, AffinePoint.neg_ofPoint, List.map_cons, List.map_nil,
    List.prod_cons, List.prod_nil, mul_one, Pairing.pairUnit, AffinePoint.toPoint_ofPoint]
  rw [Pairing.ateUnit_neg_left _ (G2.subgroup.nsmul_mem G2.generatorPoint_mem _)]
  simp only [Pairing.ateUnit_nsmul_nsmul]
  rw [inv_mul_eq_one, ← pow_add, ← pow_add, Pairing.generatorUnit_pow_eq_pow_iff]
  simp only [Nat.cast_add, Nat.cast_mul, FieldElement.natCast_toNat_canonical,
    natCast_inputNumber, add_assoc]

/-- For multiples of the generators, verification decides an equation between scalars. -/
theorem verify_ofScalars
    (alpha beta gamma delta constant a b c : Fr)
    (terms : List (Fr × Fr)) :
    ∃ holds,
      (ofScalars alpha beta gamma delta (constant :: terms.map Prod.snd)).verify
        (.ofScalars a b c) (terms.map Prod.fst) = .ok holds ∧
      (holds = true ↔
        a * b =
          alpha * beta + (constant + (terms.map fun term => term.1 * term.2).sum) * gamma +
            c * delta) := by
  have count : (terms.map Prod.fst).length =
      (ofScalars alpha beta gamma delta (constant :: terms.map Prod.snd)).publicInputs := by
    simp [publicInputs, ofScalars]
  obtain ⟨holds, computed, decides⟩ := verify_eq
    (isValid_ofScalars alpha beta gamma delta constant (terms.map Prod.snd))
    (Proof.isValid_ofScalars a b c) count
  exact ⟨holds, computed,
    decides.trans (equationUnit_ofScalars_eq_one_iff alpha beta gamma delta constant a b c terms)⟩

end VerifyingKey

end Scalars
end Groth16
