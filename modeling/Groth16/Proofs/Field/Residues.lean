import Groth16.Field.Element
import Mathlib.Data.ZMod.Basic
import Mathlib.FieldTheory.Finite.Basic

/-!
# Field elements as residues

The number that a field element stands for, as a residue modulo the modulus. The
operations on Montgomery residues are those of the ring of residues, so the elements
form a commutative ring, and a field when the modulus is prime.
-/

namespace Groth16
namespace FieldElement

variable {F : FieldParameters}

/-- The residue that the element stands for. -/
def toZMod (x : FieldElement F) : ZMod F.modulus.toNat :=
  (x.canonical.toNat : ZMod F.modulus.toNat)

theorem odd_modulus (F : FieldParameters) : F.modulus.toNat % 2 = 1 := by
  have inverse := congrArg UInt64.toNat F.negInv_mul_modulus
  have ones : (0xffffffffffffffff : UInt64).toNat = 2 ^ 64 - 1 := rfl
  rw [UInt64.toNat_mul, ones] at inverse
  have oddProduct : F.negInv.toNat * F.modulus.w0.toNat % 2 = 1 := by omega
  have oddWord : F.modulus.w0.toNat % 2 = 1 := by
    rw [Nat.mul_mod] at oddProduct
    rcases Nat.mod_two_eq_zero_or_one F.modulus.w0.toNat with even | odd
    · rw [even, Nat.mul_zero] at oddProduct
      exact absurd oddProduct (by decide)
    · exact odd
  simp only [Limbs.toNat]
  omega

/-- The radix `2 ^ 256` of the Montgomery form, as a residue. -/
def radixResidue (F : FieldParameters) : ZMod F.modulus.toNat := F.radix.toNat

theorem radixResidue_eq (F : FieldParameters) :
    radixResidue F = ((2 ^ 256 : Nat) : ZMod F.modulus.toNat) := by
  rw [radixResidue, F.toNat_radix, ZMod.natCast_mod]

/-- The radix of the Montgomery form is invertible. -/
theorem isUnit_radixResidue (F : FieldParameters) : IsUnit (radixResidue F) := by
  rw [radixResidue_eq, ZMod.isUnit_iff_coprime]
  apply Nat.Coprime.pow_left
  rw [Nat.coprime_two_left]
  exact Nat.odd_iff.2 (odd_modulus F)

theorem radixResidue_mul_montgomery
    (x y : Limbs)
    (y_lt : y.toNat < F.modulus.toNat) :
    radixResidue F * (Montgomery.mul F.modulus F.negInv x y).toNat = x.toNat * y.toNat := by
  have equation := Montgomery.mul_equation F.modulus F.negInv x y F.negInv_mul_modulus y_lt
  have congruent := (ZMod.natCast_eq_natCast_iff' _ _ _).2 equation
  rwa [Nat.cast_mul, Nat.cast_mul, ← radixResidue_eq] at congruent

theorem radixResidue_mul_toZMod (x : FieldElement F) :
    radixResidue F * x.toZMod = x.residue.toNat := by
  have one_lt : (Limbs.ofWord 1).toNat < F.modulus.toNat := by
    rw [Limbs.toNat_ofWord]
    exact F.one_lt_modulus
  rw [toZMod, canonical, radixResidue_mul_montgomery _ _ one_lt, Limbs.toNat_ofWord]
  simp

/-- The residue kept by an element determines what it stands for. -/
theorem toZMod_eq_iff
    (x : FieldElement F)
    (value : ZMod F.modulus.toNat) :
    x.toZMod = value ↔ (x.residue.toNat : ZMod F.modulus.toNat) = radixResidue F * value := by
  rw [← radixResidue_mul_toZMod]
  exact (isUnit_radixResidue F).mul_right_inj.symm

theorem canonical_lt (x : FieldElement F) : x.canonical.toNat < F.modulus.toNat := by
  apply Montgomery.mul_lt _ _ _ _ F.negInv_mul_modulus
  rw [Limbs.toNat_ofWord]
  exact F.one_lt_modulus

@[simp] theorem val_toZMod (x : FieldElement F) : x.toZMod.val = x.canonical.toNat :=
  ZMod.val_cast_of_lt x.canonical_lt

/-- Elements that stand for the same residue are equal. -/
theorem toZMod_injective :
    Function.Injective (toZMod : FieldElement F → ZMod F.modulus.toNat) := by
  intro x y equal
  apply ext_residue
  apply Limbs.toNat_inj.1
  have residues := (toZMod_eq_iff x _).1 equal
  rw [radixResidue_mul_toZMod, ZMod.natCast_eq_natCast_iff'] at residues
  rwa [Nat.mod_eq_of_lt x.residue_lt, Nat.mod_eq_of_lt y.residue_lt] at residues

theorem residue_zero : (0 : FieldElement F).residue = ⟨0, 0, 0, 0⟩ := rfl

theorem residue_one : (1 : FieldElement F).residue = F.radix := rfl

theorem residue_add (x y : FieldElement F) :
    (x + y).residue = Montgomery.add x.residue y.residue F.modulus := rfl

theorem residue_sub (x y : FieldElement F) :
    (x - y).residue = Montgomery.sub x.residue y.residue F.modulus := rfl

theorem residue_mul (x y : FieldElement F) :
    (x * y).residue = Montgomery.mul F.modulus F.negInv x.residue y.residue := rfl

theorem residue_ofLimbs (n : Limbs) :
    (ofLimbs n : FieldElement F).residue =
      Montgomery.mul F.modulus F.negInv n F.radixSquared := rfl

theorem neg_eq_zero_sub (x : FieldElement F) : -x = 0 - x := rfl

@[simp] theorem toZMod_zero : (0 : FieldElement F).toZMod = 0 := by
  rw [toZMod_eq_iff, mul_zero, residue_zero]
  exact Nat.cast_zero

@[simp] theorem toZMod_one : (1 : FieldElement F).toZMod = 1 := by
  rw [toZMod_eq_iff, mul_one, residue_one, radixResidue]

@[simp] theorem toZMod_add (x y : FieldElement F) :
    (x + y).toZMod = x.toZMod + y.toZMod := by
  rw [toZMod_eq_iff, mul_add, radixResidue_mul_toZMod, radixResidue_mul_toZMod, residue_add,
    Montgomery.toNat_add _ _ _ x.residue_lt y.residue_lt, ZMod.natCast_mod, Nat.cast_add]

@[simp] theorem toZMod_sub (x y : FieldElement F) :
    (x - y).toZMod = x.toZMod - y.toZMod := by
  rw [toZMod_eq_iff, mul_sub, radixResidue_mul_toZMod, radixResidue_mul_toZMod, residue_sub,
    Montgomery.toNat_sub _ _ _ x.residue_lt y.residue_lt, ZMod.natCast_mod, Nat.cast_add,
    Nat.cast_sub y.residue_lt.le, ZMod.natCast_self, zero_sub, sub_eq_add_neg]

@[simp] theorem toZMod_mul (x y : FieldElement F) :
    (x * y).toZMod = x.toZMod * y.toZMod := by
  rw [toZMod_eq_iff]
  apply (isUnit_radixResidue F).mul_left_cancel
  rw [residue_mul, radixResidue_mul_montgomery _ _ y.residue_lt, ← radixResidue_mul_toZMod,
    ← radixResidue_mul_toZMod]
  ring

@[simp] theorem toZMod_neg (x : FieldElement F) : (-x).toZMod = -x.toZMod := by
  rw [neg_eq_zero_sub, toZMod_sub, toZMod_zero, zero_sub]

@[simp] theorem toZMod_ofLimbs (n : Limbs) :
    (ofLimbs n : FieldElement F).toZMod = n.toNat := by
  rw [toZMod_eq_iff]
  apply (isUnit_radixResidue F).mul_left_cancel
  rw [residue_ofLimbs, radixResidue_mul_montgomery _ _ F.radixSquared_lt_modulus,
    F.toNat_radixSquared, ZMod.natCast_mod, Nat.cast_mul, ← radixResidue_eq]
  ring

theorem toZMod_ofNat
    (n : Nat)
    (n_lt : n < 2 ^ 256) :
    (ofNat n : FieldElement F).toZMod = n := by
  rw [ofNat, toZMod_ofLimbs, Limbs.toNat_ofNat, Nat.mod_eq_of_lt n_lt]

theorem toZMod_ofNat_mod (n : Nat) :
    (ofNat (n % F.modulus.toNat) : FieldElement F).toZMod = n := by
  have mod_lt := Nat.mod_lt n F.modulus_pos
  rw [toZMod_ofNat _ (mod_lt.trans F.modulus.toNat_lt), ZMod.natCast_mod]

instance : NatCast (FieldElement F) := ⟨fun n => ofNat (n % F.modulus.toNat)⟩

instance : IntCast (FieldElement F) := ⟨fun n => ofNat (n % F.modulus.toNat).toNat⟩

@[simp] theorem toZMod_natCast (n : Nat) : (n : FieldElement F).toZMod = n :=
  toZMod_ofNat_mod n

@[simp] theorem toZMod_intCast (n : Int) : (n : FieldElement F).toZMod = n := by
  have modulus_ne : (F.modulus.toNat : Int) ≠ 0 := by
    exact_mod_cast F.modulus_pos.ne'
  have nonneg := Int.emod_nonneg n modulus_ne
  have mod_lt := Int.emod_lt_of_pos n (Int.natCast_pos.2 F.modulus_pos)
  change (ofNat (n % F.modulus.toNat).toNat : FieldElement F).toZMod = _
  rw [toZMod_ofNat _ (by have := F.modulus.toNat_lt; omega), ← Int.cast_natCast,
    Int.toNat_of_nonneg nonneg, ZMod.intCast_mod]

/-- The elements form a commutative ring. -/
instance : CommRing (FieldElement F) where
  add_assoc x y z := toZMod_injective (by simp only [toZMod_add, add_assoc])
  zero_add x := toZMod_injective (by simp only [toZMod_add, toZMod_zero, zero_add])
  add_zero x := toZMod_injective (by simp only [toZMod_add, toZMod_zero, add_zero])
  add_comm x y := toZMod_injective (by simp only [toZMod_add, add_comm])
  mul_assoc x y z := toZMod_injective (by simp only [toZMod_mul, mul_assoc])
  mul_comm x y := toZMod_injective (by simp only [toZMod_mul, mul_comm])
  one_mul x := toZMod_injective (by simp only [toZMod_mul, toZMod_one, one_mul])
  mul_one x := toZMod_injective (by simp only [toZMod_mul, toZMod_one, mul_one])
  zero_mul x := toZMod_injective (by simp only [toZMod_mul, toZMod_zero, zero_mul])
  mul_zero x := toZMod_injective (by simp only [toZMod_mul, toZMod_zero, mul_zero])
  left_distrib x y z := toZMod_injective (by simp only [toZMod_mul, toZMod_add, mul_add])
  right_distrib x y z := toZMod_injective (by simp only [toZMod_mul, toZMod_add, add_mul])
  neg_add_cancel x := toZMod_injective (by
    simp only [toZMod_add, toZMod_neg, toZMod_zero, neg_add_cancel])
  sub_eq_add_neg x y := toZMod_injective (by
    simp only [toZMod_sub, toZMod_add, toZMod_neg, sub_eq_add_neg])
  natCast_zero := toZMod_injective (by simp only [toZMod_natCast, toZMod_zero, Nat.cast_zero])
  natCast_succ n := toZMod_injective (by
    simp only [toZMod_natCast, toZMod_add, toZMod_one, Nat.cast_succ])
  intCast_ofNat n := toZMod_injective (by simp only [toZMod_intCast, toZMod_natCast,
    Int.cast_natCast])
  intCast_negSucc n := toZMod_injective (by
    simp only [toZMod_intCast, toZMod_neg, toZMod_natCast, Int.cast_negSucc])
  nsmul := nsmulRec
  zsmul := zsmulRec

/-- The residues, as a homomorphism of rings. -/
def toZModHom (F : FieldParameters) : FieldElement F →+* ZMod F.modulus.toNat where
  toFun := toZMod
  map_zero' := toZMod_zero
  map_one' := toZMod_one
  map_add' := toZMod_add
  map_mul' := toZMod_mul

@[simp] theorem toZModHom_apply (x : FieldElement F) : toZModHom F x = x.toZMod := rfl

/-- The elements are the residues modulo the modulus. -/
noncomputable def equivZMod (F : FieldParameters) : FieldElement F ≃+* ZMod F.modulus.toNat :=
  RingEquiv.ofBijective (toZModHom F) (by
    refine ⟨toZMod_injective, ?_⟩
    intro value
    have := NeZero.mk F.modulus_pos.ne'
    refine ⟨(value.val : FieldElement F), ?_⟩
    rw [toZModHom_apply, toZMod_natCast, ZMod.natCast_zmod_val])

instance : CharP (FieldElement F) F.modulus.toNat :=
  charP_of_injective_ringHom (f := (equivZMod F).symm.toRingHom)
    (equivZMod F).symm.injective F.modulus.toNat

instance : Finite (FieldElement F) := by
  have := NeZero.mk F.modulus_pos.ne'
  exact Finite.of_equiv _ (equivZMod F).symm.toEquiv

theorem card_eq (F : FieldParameters) : Nat.card (FieldElement F) = F.modulus.toNat := by
  rw [Nat.card_congr (equivZMod F).toEquiv, Nat.card_zmod]

end FieldElement
end Groth16
