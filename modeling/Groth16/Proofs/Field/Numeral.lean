import Groth16.Proofs.Field.Moduli

/-!
# Numerals

Residues of the base field as plain natural numbers, on which closed computations run
fast, and maps between types of numbers that keep the operations. What a formula gives
on numerals, it gives on the field elements that they stand for.
-/

namespace Groth16

/-- A map that keeps the operations that formulas are built from. -/
structure KeepsOperations
    {A B : Type*}
    [Zero A] [One A] [Add A] [Sub A] [Mul A]
    [Zero B] [One B] [Add B] [Sub B] [Mul B]
    (f : A → B) : Prop where
  map_zero : f 0 = 0
  map_one : f 1 = 1
  map_add : ∀ x y, f (x + y) = f x + f y
  map_sub : ∀ x y, f (x - y) = f x - f y
  map_mul : ∀ x y, f (x * y) = f x * f y

/-- The modulus of the base field. -/
def baseModulus : Nat :=
  21888242871839275222246405745257275088696311157297823662689037894645226208583

theorem toNat_modulus_base_eq : FieldParameters.base.modulus.toNat = baseModulus :=
  FieldParameters.toNat_modulus_base

theorem natCast_baseModulus : (baseModulus : Fq) = 0 := by
  rw [← toNat_modulus_base_eq]
  exact CharP.cast_eq_zero Fq _

theorem natCast_mod (n : Nat) : ((n % baseModulus : Nat) : Fq) = n := by
  conv_rhs => rw [← Nat.mod_add_div n baseModulus]
  rw [Nat.cast_add, Nat.cast_mul, natCast_baseModulus, zero_mul, add_zero]

theorem natCast_complement (n : Nat) :
    ((baseModulus - n % baseModulus : Nat) : Fq) = -n := by
  have le := (Nat.mod_lt n (by decide : 0 < baseModulus)).le
  rw [Nat.cast_sub le, natCast_baseModulus, natCast_mod, zero_sub]

/-- The power of exponent `(q - 1) / degree` shows that a number has no root of that degree in
the base field. -/
structure HasNoRoot (number degree : Nat) : Prop where
  divides : degree * ((baseModulus - 1) / degree) = baseModulus - 1
  nonzero : number % baseModulus ≠ 0
  residual : powerModulo baseModulus 256 number ((baseModulus - 1) / degree) 1 % baseModulus ≠ 1

instance (number degree : Nat) : Decidable (HasNoRoot number degree) :=
  decidable_of_iff (degree * ((baseModulus - 1) / degree) = baseModulus - 1 ∧
      number % baseModulus ≠ 0 ∧
      powerModulo baseModulus 256 number ((baseModulus - 1) / degree) 1 % baseModulus ≠ 1)
    ⟨fun checks => ⟨checks.1, checks.2.1, checks.2.2⟩,
      fun checks => ⟨checks.divides, checks.nonzero, checks.residual⟩⟩

theorem HasNoRoot.pow_ne
    {number degree : Nat}
    (noRoot : HasNoRoot number degree)
    (root : Fq) :
    root ^ degree ≠ number := by
  have fits : (baseModulus - 1) / degree < 2 ^ 256 :=
    (Nat.div_le_self _ _).trans_lt (by decide)
  obtain ⟨divides, nonzero, residual⟩ := noRoot
  rw [← toNat_modulus_base_eq] at divides nonzero residual fits
  exact FieldElement.natCast_ne_pow number degree _ divides fits nonzero residual root

/-- A number that stands for its residue in the base field. -/
structure Numeral where
  value : Nat
  deriving DecidableEq

namespace Numeral

instance : Zero Numeral := ⟨⟨0⟩⟩
instance : One Numeral := ⟨⟨1⟩⟩
instance : Add Numeral := ⟨fun x y => ⟨(x.value + y.value) % baseModulus⟩⟩
instance : Mul Numeral := ⟨fun x y => ⟨x.value * y.value % baseModulus⟩⟩

instance : Sub Numeral :=
  ⟨fun x y => ⟨(x.value + (baseModulus - y.value % baseModulus)) % baseModulus⟩⟩

/-- The field element that the numeral stands for. -/
def toField (x : Numeral) : Fq := x.value

theorem keepsOperations_toField : KeepsOperations toField where
  map_zero := Nat.cast_zero
  map_one := Nat.cast_one
  map_add x y := by
    change (((x.value + y.value) % baseModulus : Nat) : Fq) = x.value + y.value
    rw [natCast_mod, Nat.cast_add]
  map_sub x y := by
    change (((x.value + (baseModulus - y.value % baseModulus)) % baseModulus : Nat) : Fq) =
      x.value - y.value
    rw [natCast_mod, Nat.cast_add, natCast_complement, sub_eq_add_neg]
  map_mul x y := by
    change ((x.value * y.value % baseModulus : Nat) : Fq) = x.value * y.value
    rw [natCast_mod, Nat.cast_mul]

theorem toField_eq_zero_iff (x : Numeral) : x.toField = 0 ↔ x.value % baseModulus = 0 := by
  rw [toField, FieldElement.natCast_eq_zero_iff, toNat_modulus_base_eq, Nat.dvd_iff_mod_eq_zero]

end Numeral
end Groth16
