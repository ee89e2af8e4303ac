import Groth16.Poseidon.Permutation
import Groth16.Proofs.Field.Moduli
import Mathlib.LinearAlgebra.Matrix.NonsingularInverse

/-!
# The Poseidon permutation

Every part of a round can be undone: constants are subtracted again, each scalar has one fifth
root because five does not divide `r - 1`, and the mixing matrix has an inverse because its
determinant is not zero. So a round is a bijection of the states, whichever scalars are added, and
so are all rounds in order.
-/

namespace Groth16
namespace Poseidon

/-! ## Fifth powers -/

theorem fifthPower_eq (x : Fr) : fifthPower x = x ^ 5 := by
  rw [fifthPower, FieldElement.square_eq, FieldElement.square_eq]
  ring

/-- The inverse of five modulo `r - 1`. -/
def fifthRootExponent : Nat := (4 * FieldParameters.scalar.modulus.toNat - 3) / 5

theorem five_mul_fifthRootExponent :
    5 * fifthRootExponent = (FieldParameters.scalar.modulus.toNat - 1) * 4 + 1 := by
  rw [fifthRootExponent, FieldParameters.toNat_modulus_scalar]

theorem pow_five_mul_fifthRootExponent (x : Fr) : x ^ (5 * fifthRootExponent) = x := by
  rw [five_mul_fifthRootExponent, pow_succ]
  by_cases zero : x = 0
  · rw [zero, mul_zero]
  · rw [pow_mul, FieldElement.pow_modulus_sub_one zero, one_pow, one_mul]

/-- Every scalar has exactly one fifth root. -/
theorem fifthPower_bijective : Function.Bijective fifthPower := by
  refine Function.bijective_iff_has_inverse.mpr ⟨(· ^ fifthRootExponent), fun x => ?_, fun x => ?_⟩
  · dsimp only
    rw [fifthPower_eq, ← pow_mul, pow_five_mul_fifthRootExponent]
  · dsimp only
    rw [fifthPower_eq, ← pow_mul, Nat.mul_comm, pow_five_mul_fifthRootExponent]

namespace State

-- States are taken apart below: comparing a state with its image unfolds the products.

theorem powerAll_mk (a b c : Fr) :
    powerAll ⟨a, b, c⟩ = ⟨fifthPower a, fifthPower b, fifthPower c⟩ := rfl

theorem powerFirst_mk (a b c : Fr) : powerFirst ⟨a, b, c⟩ = ⟨fifthPower a, b, c⟩ := rfl

theorem powerAll_bijective : Function.Bijective powerAll := by
  obtain ⟨injective, surjective⟩ := fifthPower_bijective
  constructor
  · rintro ⟨a, b, c⟩ ⟨a', b', c'⟩ equal
    rw [powerAll_mk, powerAll_mk, mk.injEq] at equal
    obtain ⟨first, second, third⟩ := equal
    rw [injective first, injective second, injective third]
  · rintro ⟨a, b, c⟩
    obtain ⟨rootA, rfl⟩ := surjective a
    obtain ⟨rootB, rfl⟩ := surjective b
    obtain ⟨rootC, rfl⟩ := surjective c
    exact ⟨⟨rootA, rootB, rootC⟩, powerAll_mk _ _ _⟩

theorem powerFirst_bijective : Function.Bijective powerFirst := by
  obtain ⟨injective, surjective⟩ := fifthPower_bijective
  constructor
  · rintro ⟨a, b, c⟩ ⟨a', b', c'⟩ equal
    rw [powerFirst_mk, powerFirst_mk, mk.injEq] at equal
    obtain ⟨first, rfl, rfl⟩ := equal
    rw [injective first]
  · rintro ⟨a, b, c⟩
    obtain ⟨root, rfl⟩ := surjective a
    exact ⟨⟨root, b, c⟩, powerFirst_mk _ _ _⟩

theorem add_bijective (constants : State) : Function.Bijective (State.add · constants) := by
  refine Function.bijective_iff_has_inverse.mpr
    ⟨fun x => ⟨x.s0 - constants.s0, x.s1 - constants.s1, x.s2 - constants.s2⟩,
      fun x => ?_, fun x => ?_⟩
  · simp only [State.add, add_sub_cancel_right]
  · simp only [State.add, sub_add_cancel]

/-! ## Mixing -/

/-- The elements as a vector. -/
def toVector (x : State) : Fin 3 → Fr := ![x.s0, x.s1, x.s2]

theorem toVector_bijective : Function.Bijective toVector := by
  refine Function.bijective_iff_has_inverse.mpr
    ⟨fun v => ⟨v 0, v 1, v 2⟩, fun x => rfl, fun v => ?_⟩
  funext i
  fin_cases i <;> rfl

/-- The matrix with the given rows. -/
def rowMatrix (rows : Vector State 3) : Matrix (Fin 3) (Fin 3) Fr :=
  Matrix.of fun i => (rows.get i).toVector

theorem det_rowMatrix (x y z : State) :
    (rowMatrix #v[x, y, z]).det =
      x.s0 * y.s1 * z.s2 + x.s1 * y.s2 * z.s0 + x.s2 * y.s0 * z.s1 -
        (x.s0 * y.s2 * z.s1 + x.s1 * y.s0 * z.s2 + x.s2 * y.s1 * z.s0) := by
  rw [Matrix.det_fin_three]
  change x.s0 * y.s1 * z.s2 - x.s0 * y.s2 * z.s1 - x.s1 * y.s0 * z.s2 + x.s1 * y.s2 * z.s0 +
    x.s2 * y.s0 * z.s1 - x.s2 * y.s1 * z.s0 = _
  ring

end State

/-- The mixing matrix. -/
def mixingMatrix : Matrix (Fin 3) (Fin 3) Fr := State.rowMatrix mixingRows

theorem det_mixingMatrix_ne_zero : mixingMatrix.det ≠ 0 := by
  rw [mixingMatrix, mixingRows, State.det_rowMatrix, sub_ne_zero]
  simp only [State.ofNats, FieldElement.ofNat_eq, ← Nat.cast_mul, ← Nat.cast_add]
  rw [Ne, CharP.natCast_eq_natCast Fr FieldParameters.scalar.modulus.toNat,
    FieldParameters.toNat_modulus_scalar, Nat.ModEq]
  decide

theorem State.toVector_mix (x : State) : x.mix.toVector = mixingMatrix.mulVec x.toVector := by
  funext i
  rw [Matrix.mulVec, dotProduct, Fin.sum_univ_three]
  fin_cases i <;> rfl

theorem State.mix_bijective : Function.Bijective State.mix := by
  have invertible : IsUnit mixingMatrix :=
    (Matrix.isUnit_iff_isUnit_det _).mpr det_mixingMatrix_ne_zero.isUnit
  have onVectors : Function.Bijective mixingMatrix.mulVec :=
    ⟨Matrix.mulVec_injective_iff_isUnit.mpr invertible,
      Matrix.mulVec_surjective_iff_isUnit.mpr invertible⟩
  have mixed : State.toVector ∘ State.mix = mixingMatrix.mulVec ∘ State.toVector :=
    funext State.toVector_mix
  apply (State.toVector_bijective.of_comp_iff' _).mp
  rw [mixed]
  exact onVectors.comp State.toVector_bijective

/-! ## Rounds -/

/-- A round can be undone, whatever its constants and its number are. -/
theorem round_bijective (numbered : State × Nat) : Function.Bijective (round · numbered) := by
  have summed := State.add_bijective numbered.1
  unfold round
  cases isFullRound numbered.2 with
  | false => exact State.mix_bijective.comp (State.powerFirst_bijective.comp summed)
  | true => exact State.mix_bijective.comp (State.powerAll_bijective.comp summed)

/-- Rounds in order can be undone. -/
theorem foldl_round_bijective (rounds : List (State × Nat)) :
    Function.Bijective (rounds.foldl round ·) := by
  induction rounds with
  | nil => exact Function.bijective_id
  | cons first rest inductionHypothesis =>
      -- The first round is the last one to be undone.
      simp only [List.foldl_cons]
      exact inductionHypothesis.comp (round_bijective first)

/-- No two states are permuted to the same one, and every state is reached. -/
theorem permute_bijective : Function.Bijective permute :=
  foldl_round_bijective roundConstants.zipIdx

end Poseidon
end Groth16
