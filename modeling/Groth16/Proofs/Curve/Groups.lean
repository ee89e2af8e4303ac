import Groth16.Curve.Groups
import Groth16.Proofs.Curve.Affine
import Groth16.Proofs.Tower.Numeral
import Groth16.Proofs.Tower.Sextic

/-!
# The two curves have no points of order two

A point of order two on the curve of `G1` would be a cube root of `3` in the base field,
and one on the twist would have a norm that is a cube root of `9 / 82`.
-/

namespace Groth16

instance {F : FieldParameters} [Fact F.modulus.toNat.Prime] : LawfulInverse (FieldElement F) where
  inverse?_zero := by
    rw [show (PartialInverse.inverse? (0 : FieldElement F)) = FieldElement.inverse? 0 from rfl,
      FieldElement.inverse?_eq, if_pos rfl]
  inverse?_of_ne_zero x nonzero := by
    rw [show PartialInverse.inverse? x = FieldElement.inverse? x from rfl,
      FieldElement.inverse?_eq, if_neg nonzero]

instance : LawfulInverse Fq2 where
  inverse?_zero := by
    rw [show (PartialInverse.inverse? (0 : Fq2)) = Fq2.inverse? 0 from rfl,
      Fq2.inverse?_eq, if_pos rfl]
  inverse?_of_ne_zero x nonzero := by
    rw [show PartialInverse.inverse? x = Fq2.inverse? x from rfl,
      Fq2.inverse?_eq, if_neg nonzero]

theorem FieldElement.natCast_ne_zero_of_lt
    {n : Nat}
    (pos : 0 < n)
    (lt : n < baseModulus) :
    (n : Fq) ≠ 0 := by
  rw [Ne, natCast_eq_zero_iff, toNat_modulus_base_eq]
  exact Nat.not_dvd_of_pos_of_lt pos lt

namespace G1

theorem b_eq : Curve.g1.b = 3 := by
  rw [show Curve.g1.b = .ofWord 3 from rfl, FieldElement.ofWord_eq]
  rfl

theorem b3_eq : Curve.g1.b3 = 3 * Curve.g1.b := by
  rw [show Curve.g1.b3 = .ofWord 9 from rfl, FieldElement.ofWord_eq, b_eq,
    show (9 : UInt64).toNat = 9 from rfl]
  norm_num

theorem pow_three_ne_three (x : Fq) : x ^ 3 ≠ (3 : Nat) :=
  HasNoRoot.pow_ne (by decide +kernel) x

/-- No point of the curve has first coordinate zero. -/
theorem pow_two_ne_three (x : Fq) : x ^ 2 ≠ (3 : Nat) :=
  HasNoRoot.pow_ne (by decide +kernel) x

instance : Curve.Complete Curve.g1 where
  two_ne_zero := FieldElement.natCast_ne_zero_of_lt (n := 2) (by decide) (by decide)
  three_ne_zero := FieldElement.natCast_ne_zero_of_lt (n := 3) (by decide) (by decide)
  b3_eq := b3_eq
  cube_add_ne_zero x := by
    intro root
    apply pow_three_ne_three (-x)
    rw [b_eq] at root
    rw [Odd.neg_pow (by decide), Nat.cast_ofNat]
    exact neg_eq_of_add_eq_zero_right root

end G1

namespace G2

/-- The constant of the twist as a numeral. -/
def bNumeral : QuadraticNumeral :=
  ⟨19485874751759354771024239261021720505790618469301721065564631296452457478373,
    266929791119991161246907387137283842545076965332900288569378510910307636690⟩

/-- Three times the constant of the twist as a numeral. -/
def b3Numeral : QuadraticNumeral :=
  ⟨14681138511599513868579906292550611339979233093309515871315818100066920017953,
    800789373359973483740722161411851527635230895998700865708135532730922910070⟩

theorem toField_bNumeral : bNumeral.toField = Curve.g2.b :=
  QuadraticNumeral.toField_limbs
    ⟨0x3267e6dc24a138e5, 0xb5b4c5e559dbefa3, 0x81be18991be06ac3, 0x2b149d40ceb8aaae⟩
    ⟨0xe4a2bd0685c315d2, 0xa74fa084e52d1852, 0xcd2cafadeed8fdf4, 0x009713b03af0fed4⟩

theorem toField_b3Numeral : b3Numeral.toField = Curve.g2.b3 :=
  QuadraticNumeral.toField_limbs
    ⟨0x1ef69c66bce9b021, 0xf21b7c8d3cb039cf, 0x1499be5e509e8f8f, 0x20753adca9c6bfb8⟩
    ⟨0xade8371391494176, 0xf5eee18eaf8748f8, 0x67860f09cc8af9dd, 0x01c53b10b0d2fc7e⟩

theorem toField_natCast (n : Nat) : QuadraticNumeral.toField ⟨n, 0⟩ = n := by
  ext1
  · rw [QuadraticNumeral.toField_c0, Fq2.natCast_c0]
  · rw [QuadraticNumeral.toField_c1, Nat.cast_zero, Fq2.natCast_c1]

theorem b3_eq : Curve.g2.b3 = 3 * Curve.g2.b := by
  have numeral : (⟨3, 0⟩ : QuadraticNumeral) * bNumeral = b3Numeral := by decide
  rw [← toField_bNumeral, ← toField_b3Numeral, ← numeral,
    QuadraticNumeral.keepsOperations_toField.map_mul, toField_natCast, Nat.cast_ofNat]

/-- The constant of the twist is three divided by the nonresidue. -/
theorem nonresidue_mul_b : Fq2.nonresidue * Curve.g2.b = 3 := by
  have numeral : (⟨9, 1⟩ : QuadraticNumeral) * bNumeral = ⟨3, 0⟩ := by decide
  rw [← toField_bNumeral, ← Fq2.toField_nonresidue,
    ← QuadraticNumeral.keepsOperations_toField.map_mul, numeral, toField_natCast, Nat.cast_ofNat]

instance : Curve.Complete Curve.g2 where
  two_ne_zero := by
    intro zero
    have coordinate := congrArg Fq2.c0 zero
    exact FieldElement.natCast_ne_zero_of_lt (n := 2) (by decide) (by decide) coordinate
  three_ne_zero := by
    intro zero
    have coordinate := congrArg Fq2.c0 zero
    exact FieldElement.natCast_ne_zero_of_lt (n := 3) (by decide) (by decide) coordinate
  b3_eq := b3_eq
  cube_add_ne_zero x := by
    intro root
    have norms : 82 * (Fq2.norm x) ^ 3 = 9 := by
      have cube : Fq2.nonresidue * x ^ 3 = -3 := by
        rw [eq_neg_of_add_eq_zero_left root, mul_neg, nonresidue_mul_b]
      have equal := congrArg Fq2.norm cube
      rw [Fq2.norm_mul, Fq2.norm_nonresidue, Fq2.norm_pow, ← Nat.cast_ofNat (R := Fq2),
        Fq2.norm_neg, Fq2.norm_natCast] at equal
      rw [← Nat.cast_ofNat, equal]
      norm_num
    have noRoot : HasNoRoot 60516 3 := by decide +kernel
    apply noRoot.pow_ne (82 * Fq2.norm x)
    rw [mul_pow, pow_succ, mul_assoc, norms]
    norm_num

end G2

end Groth16
