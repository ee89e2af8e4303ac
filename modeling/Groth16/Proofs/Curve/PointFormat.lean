import Groth16.Proofs.Checks
import Groth16.Proofs.Curve.Subgroup

/-!
# The format of points is exact

A point is a row of 32-byte numbers below the base modulus: those of `x`, then those of `y`, and
in the quadratic extension the part of `u` comes first. Zero bytes alone stand for the identity.
Decoding accepts exactly the rows whose coordinates satisfy the curve equation and pass the test
for the subgroup, and reports the first check that fails. It reverses encoding, so that accepted
byte strings and valid points correspond one to one.
-/

namespace Groth16

namespace Bytes

/-- The number in the 32 bytes at the given place, counted from zero. -/
def numberAt (bytes : List UInt8) (place : Nat) : Nat := toNat (slice bytes (32 * place) 32)

theorem numberAt_slice
    {count place : Nat}
    (inside : place < count)
    (bytes : List UInt8)
    (skipped : Nat) :
    numberAt (slice bytes (32 * skipped) (32 * count)) place =
      numberAt bytes (skipped + place) := by
  rw [numberAt, numberAt, slice, slice, List.drop_take, List.take_take,
    Nat.min_eq_left (by omega), List.drop_drop, Nat.mul_add]
  rfl

theorem numberAt_zero
    {bytes : List UInt8}
    (length : bytes.length = 32) :
    numberAt bytes 0 = toNat bytes := by
  rw [numberAt, slice_of_add_eq (by omega), Nat.mul_zero, List.drop_zero]

end Bytes

/-- Coordinates whose byte form is a row of numbers below the base modulus. -/
class NumberedCoordinate
    (F : Type)
    [Zero F]
    [Coordinate F] where
  /-- How many numbers an element takes. -/
  count : Nat
  /-- The element of the numbers, in the order of their bytes. -/
  ofNumbers : (Nat → Nat) → F
  size_eq : Coordinate.size F = 32 * count
  ofBytes?_eq : ∀ {bytes : List UInt8}, bytes.length = 32 * count →
    Coordinate.ofBytes? bytes =
      if ∀ place < count, Bytes.numberAt bytes place < baseModulus
      then some (ofNumbers (Bytes.numberAt bytes)) else none
  ofNumbers_congr : ∀ {numbers others : Nat → Nat},
    (∀ place < count, numbers place = others place) → ofNumbers numbers = ofNumbers others
  ofNumbers_zero : ofNumbers (fun _ => 0) = 0

/-- Bytes are read as a base field element if their number is below the modulus. -/
theorem Fq.ofBytes?_eq
    {bytes : List UInt8}
    (length : bytes.length = 32) :
    (Coordinate.ofBytes? bytes : Option Fq) =
      if Bytes.toNat bytes < baseModulus then some (Bytes.toNat bytes : Fq) else none := by
  change (FieldElement.ofBytes? bytes : Except FieldError Fq).toOption = _
  rw [FieldElement.ofBytes?_eq, if_pos length, toNat_modulus_base_eq]
  split <;> rfl

instance : NumberedCoordinate Fq where
  count := 1
  ofNumbers numbers := numbers 0
  size_eq := rfl
  ofBytes?_eq {bytes} length := by
    simp only [Fq.ofBytes?_eq length, Nat.lt_one_iff, forall_eq, Bytes.numberAt_zero length]
  ofNumbers_congr same := by rw [same 0 Nat.one_pos]
  ofNumbers_zero := Nat.cast_zero

instance : NumberedCoordinate Fq2 where
  count := 2
  ofNumbers numbers := ⟨numbers 1, numbers 0⟩
  size_eq := rfl
  ofBytes?_eq {bytes} length := by
    have first : (bytes.take 32).length = 32 := by
      rw [List.length_take, length]
      rfl
    have second : (bytes.drop 32).length = 32 := by
      rw [List.length_drop, length]
    have c1 : Bytes.toNat (bytes.take 32) = Bytes.numberAt bytes 0 := rfl
    have c0 : Bytes.toNat (bytes.drop 32) = Bytes.numberAt bytes 1 :=
      congrArg Bytes.toNat (Bytes.slice_of_add_eq (by omega)).symm
    have both : (∀ place < 2, Bytes.numberAt bytes place < baseModulus) ↔
        Bytes.numberAt bytes 0 < baseModulus ∧ Bytes.numberAt bytes 1 < baseModulus := by
      simp only [Nat.forall_lt_succ_right, Nat.not_lt_zero, false_imp_iff, implies_true, true_and]
    change Fq2.ofBytes? bytes = _
    rw [Fq2.ofBytes?, if_pos length, Fq.ofBytes?_eq first, Fq.ofBytes?_eq second, c1, c0,
      if_congr both rfl rfl]
    by_cases firstBelow : Bytes.numberAt bytes 0 < baseModulus
    · by_cases secondBelow : Bytes.numberAt bytes 1 < baseModulus
      · rw [if_pos firstBelow, if_pos secondBelow, if_pos ⟨firstBelow, secondBelow⟩]
        rfl
      · rw [if_pos firstBelow, if_neg secondBelow, if_neg (not_and_of_not_right _ secondBelow)]
        rfl
    · rw [if_neg firstBelow, if_neg (not_and_of_not_left _ firstBelow)]
      rfl
  ofNumbers_congr same := by rw [same 0 Nat.two_pos, same 1 Nat.one_lt_two]
  ofNumbers_zero := by
    rw [Nat.cast_zero]
    rfl

namespace AffinePoint

section Format

variable {F : Type} [Zero F] [Coordinate F] [NumberedCoordinate F]

section

variable (F)

/-- The coordinate of the numbers from the given place on. -/
def coordinateAt (bytes : List UInt8) (skipped : Nat) : F :=
  NumberedCoordinate.ofNumbers fun place => Bytes.numberAt bytes (skipped + place)

/-- The first coordinate, from the first half of the numbers. -/
def xAt (bytes : List UInt8) : F := coordinateAt F bytes 0

/-- The second coordinate, from the second half of the numbers. -/
def yAt (bytes : List UInt8) : F := coordinateAt F bytes (NumberedCoordinate.count F)

/-- All numbers of a byte string are below the base modulus. -/
def InRange (bytes : List UInt8) : Prop :=
  ∀ place < 2 * NumberedCoordinate.count F, Bytes.numberAt bytes place < baseModulus

instance (bytes : List UInt8) : Decidable (InRange F bytes) :=
  inferInstanceAs (Decidable (∀ _ < _, _))

end

theorem inRange_iff
    {bytes : List UInt8} :
    InRange F bytes ↔
      (∀ place < NumberedCoordinate.count F, Bytes.numberAt bytes (0 + place) < baseModulus) ∧
        ∀ place < NumberedCoordinate.count F,
          Bytes.numberAt bytes (NumberedCoordinate.count F + place) < baseModulus := by
  constructor
  · intro inRange
    exact ⟨fun place inside => inRange _ (by omega), fun place inside => inRange _ (by omega)⟩
  · rintro ⟨first, second⟩ place inside
    by_cases low : place < NumberedCoordinate.count F
    · rw [← Nat.zero_add place]
      exact first place low
    · rw [← Nat.add_sub_cancel' (Nat.le_of_not_lt low)]
      exact second _ (by omega)

variable (F) in
/-- A range of a byte string is read as the coordinate of the numbers in it. -/
theorem ofBytes?_slice
    (bytes : List UInt8)
    (skipped : Nat)
    (fits : skipped + NumberedCoordinate.count F ≤ bytes.length / 32) :
    Coordinate.ofBytes? (Bytes.slice bytes (32 * skipped) (32 * NumberedCoordinate.count F)) =
      if ∀ place < NumberedCoordinate.count F, Bytes.numberAt bytes (skipped + place) < baseModulus
      then some (coordinateAt F bytes skipped) else none := by
  have length : (Bytes.slice bytes (32 * skipped) (32 * NumberedCoordinate.count F)).length =
      32 * NumberedCoordinate.count F := by
    rw [Bytes.slice, List.length_take, List.length_drop]
    omega
  have same (place : Nat) (inside : place < NumberedCoordinate.count F) :=
    Bytes.numberAt_slice inside bytes skipped
  rw [NumberedCoordinate.ofBytes?_eq length, NumberedCoordinate.ofNumbers_congr same]
  exact if_congr (forall₂_congr fun place inside => by rw [same place inside]) rfl rfl

variable (C : Curve F)

/-- The point that a byte string of the right length denotes if it passes all checks. -/
def pointAt (bytes : List UInt8) : AffinePoint C :=
  if Bytes.areZero bytes then identity else finite (xAt F bytes) (yAt F bytes)

variable {C}

theorem numberAt_of_areZero
    {bytes : List UInt8}
    (zero : Bytes.areZero bytes = true)
    (place : Nat) :
    Bytes.numberAt bytes place = 0 :=
  Bytes.toNat_eq_zero_of_areZero (Bytes.areZero_slice zero _ _)

/-- Zero bytes alone are in range. -/
theorem inRange_of_areZero
    {bytes : List UInt8}
    (zero : Bytes.areZero bytes = true) :
    InRange F bytes := by
  intro place _
  rw [numberAt_of_areZero zero]
  decide

theorem coordinateAt_of_areZero
    {bytes : List UInt8}
    (zero : Bytes.areZero bytes = true)
    (skipped : Nat) :
    coordinateAt F bytes skipped = 0 := by
  simp only [coordinateAt, numberAt_of_areZero zero]
  exact NumberedCoordinate.ofNumbers_zero

/-- Bytes are read as coordinates after checks of their length and range. -/
theorem ofBytesUnchecked_eq (bytes : List UInt8) :
    ofBytesUnchecked bytes =
      if bytes.length = encodedSize C then
        if InRange F bytes then .ok (pointAt C bytes) else .error .coordinateOutOfRange
      else .error (.invalidLength (encodedSize C) bytes.length) := by
  by_cases length : bytes.length = encodedSize C
  swap
  · rw [ofBytesUnchecked, if_pos length, if_neg length]
  rw [ofBytesUnchecked, if_neg (not_not_intro length), if_pos length, pointAt]
  by_cases zero : Bytes.areZero bytes = true
  · rw [if_pos zero, if_pos zero, if_pos (inRange_of_areZero zero)]
  rw [if_neg zero, if_neg zero]
  have halves : 2 * (32 * NumberedCoordinate.count F) = bytes.length := by
    rw [length, encodedSize, NumberedCoordinate.size_eq]
  have first := ofBytes?_slice F bytes 0 (by omega)
  have second := ofBytes?_slice F bytes (NumberedCoordinate.count F) (by omega)
  rw [Bytes.slice_of_add_eq (by omega)] at second
  rw [Nat.mul_zero, Bytes.slice_zero] at first
  rw [NumberedCoordinate.size_eq, first, second, if_congr inRange_iff rfl rfl]
  by_cases firstBelow : ∀ place < NumberedCoordinate.count F,
      Bytes.numberAt bytes (0 + place) < baseModulus
  · rw [if_pos firstBelow]
    by_cases secondBelow : ∀ place < NumberedCoordinate.count F,
        Bytes.numberAt bytes (NumberedCoordinate.count F + place) < baseModulus
    · rw [if_pos secondBelow, if_pos ⟨firstBelow, secondBelow⟩]
      rfl
    · rw [if_neg secondBelow, if_neg (not_and_of_not_right _ secondBelow)]
  · rw [if_neg firstBelow, if_neg (not_and_of_not_left _ firstBelow)]

end Format

section Checks

variable {F : Type} [Field F] [Coordinate F] [NumberedCoordinate F]

/-- Zero bytes are not the coordinates of a point of the curve. -/
theorem areZero_eq_false
    {C : Curve F}
    [Curve.Complete C]
    {bytes : List UInt8}
    (equation : yAt F bytes ^ 2 = xAt F bytes ^ 3 + C.b) :
    Bytes.areZero bytes = false := by
  rw [Bool.eq_false_iff]
  intro zero
  apply Curve.Complete.cube_add_ne_zero (C := C) (xAt F bytes)
  rw [← equation, yAt, coordinateAt_of_areZero zero, zero_pow two_ne_zero]

variable [DecidableEq F] (C : Curve F)

/-- Zero bytes alone, or coordinates that satisfy the curve equation. -/
def SatisfiesEquation (bytes : List UInt8) : Prop :=
  Bytes.areZero bytes = true ∨ yAt F bytes ^ 2 = xAt F bytes ^ 3 + C.b

instance (bytes : List UInt8) : Decidable (SatisfiesEquation C bytes) :=
  inferInstanceAs (Decidable (_ ∨ _))

theorem isOnCurve_pointAt_iff
    {bytes : List UInt8} :
    (pointAt C bytes).isOnCurve = true ↔ SatisfiesEquation C bytes := by
  unfold pointAt SatisfiesEquation
  by_cases zero : Bytes.areZero bytes = true
  · rw [if_pos zero]
    exact iff_of_true rfl (Or.inl zero)
  · rw [if_neg zero, isOnCurve_finite_iff]
    exact (or_iff_right zero).symm

variable [SubgroupTest C]

/-- The checks on an encoded point in their order, each with its error if it fails. -/
def checks (bytes : List UInt8) : List (Option PointError) :=
  [if bytes.length = encodedSize C then none
    else some (.invalidLength (encodedSize C) bytes.length),
    if InRange F bytes then none else some .coordinateOutOfRange,
    if SatisfiesEquation C bytes then none else some .notOnCurve,
    if (pointAt C bytes).isInSubgroup = true then none else some .notInSubgroup]

/-- The error of the first check that fails. -/
def firstError (bytes : List UInt8) : Option PointError := (checks C bytes).findSome? id

variable {C}

/-- Decoding reports the first check that fails, or gives the point of the coordinates. -/
theorem ofBytes?_eq_unlessError (bytes : List UInt8) :
    ofBytes? bytes = Checks.unlessError (firstError C bytes) (.ok (pointAt C bytes)) := by
  rw [ofBytes?_eq, ofBytesUnchecked_eq, firstError, checks]
  by_cases length : bytes.length = encodedSize C
  swap
  · rw [if_neg length, if_neg length]
    rfl
  rw [if_pos length, if_pos length]
  by_cases inRange : InRange F bytes
  swap
  · rw [if_neg inRange, if_neg inRange]
    rfl
  rw [if_pos inRange, if_pos inRange, Except.bind, if_congr (isOnCurve_pointAt_iff C) rfl rfl]
  by_cases equation : SatisfiesEquation C bytes
  swap
  · rw [if_neg equation, if_neg equation]
    rfl
  rw [if_pos equation, if_pos equation]
  by_cases member : (pointAt C bytes).isInSubgroup = true
  · rw [if_pos member, if_pos member]
    rfl
  · rw [if_neg member, if_neg member]
    rfl

theorem firstError_eq_none_iff
    {bytes : List UInt8} :
    firstError C bytes = none ↔
      bytes.length = encodedSize C ∧ InRange F bytes ∧ SatisfiesEquation C bytes ∧
        (pointAt C bytes).isInSubgroup = true := by
  simp only [firstError, checks, List.findSome?_eq_none_iff, List.forall_mem_cons, id,
    List.not_mem_nil, false_imp_iff, implies_true, and_true, ite_eq_left_iff, reduceCtorEq,
    imp_false, not_not]

/-- A byte string encodes the identity, or the point of coordinates that are in range, satisfy the
curve equation and pass the test for the subgroup. -/
inductive Encodes : List UInt8 → AffinePoint C → Prop where
  | identity : Encodes (List.replicate (encodedSize C) 0) identity
  | finite
    {bytes : List UInt8}
    (length : bytes.length = encodedSize C)
    (inRange : InRange F bytes)
    (equation : yAt F bytes ^ 2 = xAt F bytes ^ 3 + C.b)
    (member : (finite (C := C) (xAt F bytes) (yAt F bytes)).isInSubgroup = true) :
    Encodes bytes (finite (xAt F bytes) (yAt F bytes))

variable [Curve.Complete C] [LawfulSubgroupTest C]

/-- Decoding accepts what encodes a point. -/
theorem ofBytes?_eq_ok_iff_encodes
    {bytes : List UInt8}
    {P : AffinePoint C} :
    ofBytes? bytes = .ok P ↔ Encodes bytes P := by
  rw [ofBytes?_eq_unlessError, Checks.unlessError_eq_ok_iff, Except.ok.injEq,
    firstError_eq_none_iff]
  constructor
  · rintro ⟨⟨length, inRange, equation, member⟩, rfl⟩
    unfold pointAt at member ⊢
    by_cases zero : Bytes.areZero bytes = true
    · rw [if_pos zero, Bytes.eq_replicate_of_areZero zero, length]
      exact .identity
    · rw [if_neg zero] at member ⊢
      exact .finite length inRange (equation.resolve_left zero) member
  · intro encodes
    cases encodes with
    | identity =>
        have zero := Bytes.areZero_replicate (encodedSize C)
        have point : pointAt C (List.replicate (encodedSize C) 0) = identity := if_pos zero
        rw [point]
        exact ⟨⟨List.length_replicate, inRange_of_areZero zero, Or.inl zero,
          isInSubgroup_identity⟩, rfl⟩
    | finite length inRange equation member =>
        have point : pointAt C bytes = finite (xAt F bytes) (yAt F bytes) :=
          if_neg (Bool.eq_false_iff.mp (areZero_eq_false equation))
        rw [point]
        exact ⟨⟨length, inRange, Or.inr equation, member⟩, rfl⟩

end Checks

section Exact

variable {F : Type} [Field F] [DecidableEq F] [Coordinate F] [NumberedCoordinate F]
variable (C : Curve F) [SubgroupTest C] [Curve.Complete C]

/-- The format of points: decoding accepts what encodes a point and otherwise reports the first
check that fails. Accepted byte strings are the byte forms of the valid points, which are the
points that the group order annihilates, each accepted as the point that it is the byte form
of. -/
structure HasExactFormat : Prop where
  ofBytes?_eq_ok_iff : ∀ (bytes : List UInt8) (P : AffinePoint C),
    ofBytes? bytes = .ok P ↔ Encodes bytes P
  ofBytes?_eq_error_iff : ∀ (bytes : List UInt8) (error : PointError),
    (ofBytes? bytes : Except PointError (AffinePoint C)) = .error error ↔
      firstError C bytes = some error
  ofBytes?_eq_ok_iff_isValid : ∀ (bytes : List UInt8) (P : AffinePoint C),
    ofBytes? bytes = .ok P ↔ P.IsValid ∧ P.toBytes = bytes
  isValid_iff : ∀ P : AffinePoint C,
    P.IsValid ↔ ∃ A : C.Point, groupOrder • A = 0 ∧ ofPoint A = P
  bijOn_toBytes : Set.BijOn toBytes {P : AffinePoint C | P.IsValid}
    {bytes | ∃ P : AffinePoint C, ofBytes? bytes = .ok P}

variable [LawfulCoordinate F] [CanonicalCoordinate F] [LawfulSubgroupTest C]

theorem hasExactFormat : HasExactFormat C where
  ofBytes?_eq_ok_iff bytes P := ofBytes?_eq_ok_iff_encodes
  ofBytes?_eq_error_iff bytes error := by
    rw [ofBytes?_eq_unlessError]
    exact Checks.unlessError_ok_eq_error_iff
  ofBytes?_eq_ok_iff_isValid bytes P := AffinePoint.ofBytes?_eq_ok_iff_isValid
  isValid_iff P := AffinePoint.isValid_iff
  bijOn_toBytes := by
    refine ⟨fun P valid => ?_, fun P validP Q validQ same => ?_, fun bytes accepted => ?_⟩
    · exact ⟨P, AffinePoint.ofBytes?_eq_ok_iff_isValid.mpr ⟨valid, rfl⟩⟩
    · have readP := AffinePoint.ofBytes?_eq_ok_iff_isValid.mpr ⟨validP, rfl⟩
      have readQ := AffinePoint.ofBytes?_eq_ok_iff_isValid.mpr ⟨validQ, rfl⟩
      rw [same, readQ] at readP
      exact (Except.ok.inj readP).symm
    · obtain ⟨P, read⟩ := accepted
      exact ⟨P, AffinePoint.ofBytes?_eq_ok_iff_isValid.mp read⟩

end Exact

/-- The format of points is exact for both groups: two numbers of 32 bytes for a point of `G1`, and
four for a point of `G2`, in which the part of `u` comes first. -/
theorem hasExactFormat_g1_g2 :
    (HasExactFormat Curve.g1 ∧ encodedSize Curve.g1 = 64 ∧ ∀ bytes,
        (InRange Fq bytes ↔ ∀ place < 2, Bytes.numberAt bytes place < baseModulus) ∧
          xAt Fq bytes = Bytes.numberAt bytes 0 ∧ yAt Fq bytes = Bytes.numberAt bytes 1) ∧
      HasExactFormat Curve.g2 ∧ encodedSize Curve.g2 = 128 ∧ ∀ bytes,
        (InRange Fq2 bytes ↔ ∀ place < 4, Bytes.numberAt bytes place < baseModulus) ∧
          xAt Fq2 bytes = ⟨Bytes.numberAt bytes 1, Bytes.numberAt bytes 0⟩ ∧
          yAt Fq2 bytes = ⟨Bytes.numberAt bytes 3, Bytes.numberAt bytes 2⟩ := by
  refine ⟨⟨hasExactFormat Curve.g1, rfl, fun bytes => ?_⟩, hasExactFormat Curve.g2, rfl,
    fun bytes => ?_⟩
  · exact ⟨Iff.rfl, rfl, rfl⟩
  · exact ⟨Iff.rfl, rfl, rfl⟩

end AffinePoint
end Groth16
