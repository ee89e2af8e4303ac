import Groth16.Proofs.Pairing.FinalExponentiation
import Mathlib.Algebra.Field.IsField

/-!
# Inversion in the tower

Minus one is no square in the base field, `9 + u` is no cube in the quadratic extension and `v`
is no square in the sextic one. So no nonzero element of a level has a vanishing norm, and
inversion, which goes down through the norms, fails for zero alone. The final exponentiation
tells zero from all other elements in the same way.
-/

namespace Groth16

/-- The elements form a field. Inversion fails for zero and for nothing else, and what it gives
is an inverse. -/
structure IsFieldWithInversion
    {K : Type}
    [CommRing K]
    (inverse? : K → Option K) : Prop where
  isField : IsField K
  eq_none_iff : ∀ x, inverse? x = none ↔ x = 0
  exists_mul_eq_one : ∀ x, x ≠ 0 → ∃ y, inverse? x = some y ∧ x * y = 1

/-- An inversion that gives the inverse of each nonzero element of a field. -/
theorem isFieldWithInversion_of_eq
    {K : Type}
    [Field K]
    [DecidableEq K]
    {inverse? : K → Option K}
    (inverse?_eq : ∀ x, inverse? x = if x = 0 then none else some x⁻¹) :
    IsFieldWithInversion inverse? where
  isField := Field.toIsField K
  eq_none_iff x := by
    rw [inverse?_eq]
    by_cases zero : x = 0
    · rw [if_pos zero]
      exact iff_of_true rfl zero
    · rw [if_neg zero]
      exact iff_of_false nofun zero
  exists_mul_eq_one x nonzero := by
    refine ⟨x⁻¹, ?_, mul_inv_cancel₀ nonzero⟩
    rw [inverse?_eq, if_neg nonzero]

namespace Pairing

/-- The final exponentiation has a zero branch and a branch that goes on with the inverse. The
element decides by being zero which of the two is taken, and so does the value. -/
structure SeparatesZero (f : Fq12) : Prop where
  inverse?_eq_none_iff : f.inverse? = none ↔ f = 0
  value_eq_zero_iff : (finalExponentiation f).value = 0 ↔ f = 0
  eq_hardPart : f ≠ 0 → ∃ inverse, f.inverse? = some inverse ∧ f * inverse = 1 ∧
    finalExponentiation f = ⟨hardPart (easyPart f inverse)⟩

theorem separatesZero (f : Fq12) : SeparatesZero f := by
  have inversion := isFieldWithInversion_of_eq Fq12.inverse?_eq
  refine ⟨inversion.eq_none_iff f, ?_, fun nonzero => ?_⟩
  · have exponent_ne : finalExponent ≠ 0 := by decide
    rw [finalExponentiation_eq, pow_eq_zero_iff exponent_ne]
  · obtain ⟨inverse, found, product⟩ := inversion.exists_mul_eq_one f nonzero
    refine ⟨inverse, found, product, ?_⟩
    rw [finalExponentiation, found, Option.elim_some]

end Pairing

/-- All three levels are fields in which inversion fails for zero alone, and the final
exponentiation takes its zero branch for zero alone. -/
theorem tower_isFieldWithInversion :
    IsFieldWithInversion Fq2.inverse? ∧ IsFieldWithInversion Fq6.inverse? ∧
      IsFieldWithInversion Fq12.inverse? ∧ ∀ f, Pairing.SeparatesZero f := by
  refine ⟨?_, ?_, ?_, Pairing.separatesZero⟩
  · exact isFieldWithInversion_of_eq Fq2.inverse?_eq
  · exact isFieldWithInversion_of_eq Fq6.inverse?_eq
  · exact isFieldWithInversion_of_eq Fq12.inverse?_eq

end Groth16
