import Groth16.Proofs.Curve.Groups

/-!
# Multiples computed on numerals

The formulas for points commute with the maps that keep the operations, so multiples of a
point are found on numerals and carried over to the group.
-/

namespace Groth16
namespace ProjectivePoint

section Map

variable {A B : Type}
variable [Zero A] [One A] [Add A] [Sub A] [Mul A] [Zero B] [One B] [Add B] [Sub B] [Mul B]
variable {C : Curve A} {D : Curve B} {f : A → B}

/-- The point with the images of the coordinates. -/
def map
    (D : Curve B)
    (f : A → B)
    (P : ProjectivePoint C) : ProjectivePoint D :=
  ⟨f P.x, f P.y, f P.z⟩

theorem map_identity
    (keeps : KeepsOperations f) :
    (identity : ProjectivePoint C).map D f = identity := by
  rw [map, identity, identity, keeps.map_zero, keeps.map_one]

theorem map_add
    (keeps : KeepsOperations f)
    (b3 : f C.b3 = D.b3)
    (P Q : ProjectivePoint C) :
    (P.add Q).map D f = (P.map D f).add (Q.map D f) := by
  simp only [map, ProjectivePoint.add, keeps.map_add, keeps.map_sub, keeps.map_mul, b3]

theorem map_double
    (keeps : KeepsOperations f)
    (b3 : f C.b3 = D.b3)
    (P : ProjectivePoint C) :
    P.double.map D f = (P.map D f).double := by
  simp only [map, ProjectivePoint.double, keeps.map_add, keeps.map_sub, keeps.map_mul, b3]

theorem map_mulBits
    (keeps : KeepsOperations f)
    (b3 : f C.b3 = D.b3)
    (P : ProjectivePoint C)
    (digits : List Bool) :
    (P.mulBits digits).map D f = (P.map D f).mulBits digits := by
  rw [mulBits, mulBits, ← map_identity (C := C) keeps]
  symm
  apply List.foldl_hom (map D f)
  intro acc digit
  cases digit <;>
    simp only [Bool.false_eq_true, if_false, if_true, map_add keeps b3, map_double keeps b3]

/-- Coordinates on numerals give the point with the coordinates that they stand for. -/
theorem map_denotes_point
    {K : Type} [Field K] {E : Curve K} [Curve.Complete E] {f : A → K}
    (keeps : KeepsOperations f)
    {x y : A}
    {x' y' : K}
    (xEq : f x = x')
    (yEq : f y = y')
    (equation : y' ^ 2 = x' ^ 3 + E.b) :
    ((⟨x, y, 1⟩ : ProjectivePoint C).map E f).Denotes (Curve.point x' y' equation) := by
  refine denotes_point_iff.mpr ⟨?_, ?_, ?_⟩
  · exact ne_of_eq_of_ne keeps.map_one one_ne_zero
  · rw [map, keeps.map_one, xEq, mul_one]
  · rw [map, keeps.map_one, yEq, mul_one]

end Map
end ProjectivePoint

namespace G1

/-- The curve with numerals for its constants. -/
def numeral : Curve Numeral where
  name := "G1"
  b := ⟨3⟩
  b3 := ⟨9⟩
  generatorX := ⟨1⟩
  generatorY := ⟨2⟩

theorem numeral_b3 : Numeral.toField numeral.b3 = Curve.g1.b3 :=
  (FieldElement.ofWord_eq 9).symm

/-- A number annihilates a point when it does on numerals. -/
theorem nsmul_eq_zero_of_numeral
    {A : Curve.g1.Point}
    (P : ProjectivePoint numeral)
    (denotes : (P.map Curve.g1 Numeral.toField).Denotes A)
    (digits : List Bool)
    (zero : (P.mulBits digits).z.value % baseModulus = 0) :
    Digits.value digits • A = 0 := by
  rw [← (denotes.mulBits digits).isIdentity, ProjectivePoint.isIdentity, decide_eq_true_iff,
    ← ProjectivePoint.map_mulBits Numeral.keepsOperations_toField numeral_b3]
  exact (Numeral.toField_eq_zero_iff _).mpr zero

end G1

namespace G2

/-- The twist with numerals for its constants. -/
def numeral : Curve QuadraticNumeral where
  name := "G2"
  b := bNumeral
  b3 := b3Numeral
  generatorX :=
    ⟨10857046999023057135944570762232829481370756359578518086990519993285655852781,
      11559732032986387107991004021392285783925812861821192530917403151452391805634⟩
  generatorY :=
    ⟨8495653923123431417604973247489272438418190587263600148770280649306958101930,
      4082367875863433681332203403145435568316851327593401208105741076214120093531⟩

theorem toField_generatorX : numeral.generatorX.toField = Curve.g2.generatorX :=
  QuadraticNumeral.toField_limbs
    ⟨0x46debd5cd992f6ed, 0x674322d4f75edadd, 0x426a00665e5c4479, 0x1800deef121f1e76⟩
    ⟨0x97e485b7aef312c2, 0xf1aa493335a9e712, 0x7260bfb731fb5d25, 0x198e9393920d483a⟩

theorem toField_generatorY : numeral.generatorY.toField = Curve.g2.generatorY :=
  QuadraticNumeral.toField_limbs
    ⟨0x4ce6cc0166fa7daa, 0xe3d1e7690c43d37b, 0x4aab71808dcb408f, 0x12c85ea5db8c6deb⟩
    ⟨0x55acdadcd122975b, 0xbc4b313370b38ef3, 0xec9e99ad690c3395, 0x090689d0585ff075⟩

/-- A number annihilates a point when it does on numerals. -/
theorem nsmul_eq_zero_of_numeral
    {A : Curve.g2.Point}
    (P : ProjectivePoint numeral)
    (denotes : (P.map Curve.g2 QuadraticNumeral.toField).Denotes A)
    (digits : List Bool)
    (zero : (P.mulBits digits).z.c0 % baseModulus = 0 ∧
      (P.mulBits digits).z.c1 % baseModulus = 0) :
    Digits.value digits • A = 0 := by
  rw [← (denotes.mulBits digits).isIdentity, ProjectivePoint.isIdentity, decide_eq_true_iff,
    ← ProjectivePoint.map_mulBits QuadraticNumeral.keepsOperations_toField toField_b3Numeral]
  exact (QuadraticNumeral.toField_eq_zero_iff _).mpr zero

end G2
end Groth16
