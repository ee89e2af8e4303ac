import Groth16.Proofs.Curve.Sum
import Mathlib.Algebra.Module.MinimalAxioms

/-!
# Points as vectors over the scalars

The curve of `G1` has the order of the scalar field, so that a multiple of a point depends
only on the scalar, and sums of multiples may be computed with sums of scalars.
-/

namespace Groth16
namespace G1

/-- Numbers that are equal as scalars have equal multiples. -/
theorem nsmul_congr
    {m n : Nat}
    (equal : (m : Fr) = n)
    (A : Curve.g1.Point) :
    m • A = n • A := by
  rw [CharP.natCast_eq_natCast Fr FieldParameters.scalar.modulus.toNat,
    toNat_modulus_scalar_eq] at equal
  rw [nsmul_eq_nsmul_iff_modEq]
  exact equal.of_dvd (addOrderOf_dvd_of_nsmul_eq_zero (groupOrder_nsmul A))

/-- The multiple of a point by a scalar. -/
instance : SMul Fr Curve.g1.Point := ⟨fun x A => x.canonical.toNat • A⟩

theorem smul_eq (x : Fr) (A : Curve.g1.Point) : x • A = x.canonical.toNat • A := rfl

theorem smul_eq_nsmul
    {x : Fr}
    {n : Nat}
    (equal : x = n)
    (A : Curve.g1.Point) :
    x • A = n • A :=
  nsmul_congr (by rw [FieldElement.natCast_toNat_canonical, equal]) A

instance : Module Fr Curve.g1.Point := Module.ofMinimalAxioms
  (fun x A B => nsmul_add A B x.canonical.toNat)
  (fun x y A => by
    rw [smul_eq x, smul_eq y, ← add_nsmul]
    apply smul_eq_nsmul
    rw [Nat.cast_add, FieldElement.natCast_toNat_canonical, FieldElement.natCast_toNat_canonical])
  (fun x y A => by
    rw [smul_eq x, smul_eq y, ← mul_nsmul']
    apply smul_eq_nsmul
    rw [Nat.cast_mul, FieldElement.natCast_toNat_canonical, FieldElement.natCast_toNat_canonical])
  (fun A => by rw [smul_eq_nsmul Nat.cast_one.symm, one_nsmul])

end G1
end Groth16
