import Groth16.Proofs.Curve.Complete
import Groth16.Proofs.Digits

/-!
# Affine forms and multiples

Every point has one affine form, and normalization of a projective form gives the affine
form of the point it denotes. The digits of a multiple are read by doubling and adding, or
by the ladder, whose two rungs always differ by the point itself.
-/

namespace Groth16

/-- A partial inversion that agrees with the inverses of the field. -/
class LawfulInverse
    (F : Type)
    [Field F]
    [PartialInverse F] : Prop where
  inverse?_zero : PartialInverse.inverse? (0 : F) = none
  inverse?_of_ne_zero : ∀ x : F, x ≠ 0 → PartialInverse.inverse? x = some x⁻¹

variable {F : Type} [Field F] {C : Curve F}

namespace AffinePoint

/-- The affine form of a point. -/
def ofPoint : C.Point → AffinePoint C
  | .zero => identity
  | .some x y _ => finite x y

@[simp] theorem ofPoint_zero : ofPoint (0 : C.Point) = identity := rfl

variable [Curve.Complete C]

@[simp] theorem ofPoint_point
    {x y : F}
    (equation : y ^ 2 = x ^ 3 + C.b) :
    ofPoint (Curve.point x y equation) = finite x y := rfl

theorem ofPoint_injective : Function.Injective (ofPoint (C := C)) := by
  intro A B equal
  rcases Curve.eq_zero_or_eq_point A with rfl | ⟨x₁, y₁, first, rfl⟩ <;>
    rcases Curve.eq_zero_or_eq_point B with rfl | ⟨x₂, y₂, second, rfl⟩
  · rfl
  · cases equal
  · cases equal
  · rw [ofPoint_point, ofPoint_point, finite.injEq] at equal
    exact Curve.point_eq_point.mpr equal

theorem ofPoint_eq_identity
    {A : C.Point} :
    ofPoint A = identity ↔ A = 0 := by
  rw [← ofPoint_zero, ofPoint_injective.eq_iff]

theorem isIdentity_ofPoint
    {A : C.Point} :
    (ofPoint A).isIdentity = true ↔ A = 0 := by
  rw [← ofPoint_eq_identity]
  cases ofPoint A <;> simp [isIdentity]

theorem neg_ofPoint
    (A : C.Point) :
    -ofPoint A = ofPoint (-A) := by
  rcases Curve.eq_zero_or_eq_point A with rfl | ⟨x, y, equation, rfl⟩
  · rfl
  · rw [Curve.neg_point]
    rfl

omit [Curve.Complete C] in
theorem isOnCurve_finite_iff
    [DecidableEq F]
    {x y : F} :
    (finite (C := C) x y).isOnCurve = true ↔ y ^ 2 = x ^ 3 + C.b := by
  rw [isOnCurve, decide_eq_true_iff, pow_two, pow_three']

/-- The points on the curve are the affine forms. -/
theorem isOnCurve_iff
    [DecidableEq F]
    {P : AffinePoint C} :
    P.isOnCurve = true ↔ ∃ A : C.Point, ofPoint A = P := by
  cases P with
  | identity => exact iff_of_true rfl ⟨0, rfl⟩
  | finite x y =>
      rw [isOnCurve_finite_iff]
      constructor
      · intro equation
        exact ⟨Curve.point x y equation, rfl⟩
      · rintro ⟨A, equal⟩
        rcases Curve.eq_zero_or_eq_point A with rfl | ⟨x', y', equation, rfl⟩
        · cases equal
        · rw [ofPoint_point, finite.injEq] at equal
          rw [← equal.1, ← equal.2, equation]

theorem toProjective_denotes
    (A : C.Point) :
    (ofPoint A).toProjective.Denotes A := by
  rcases Curve.eq_zero_or_eq_point A with rfl | ⟨x, y, equation, rfl⟩
  · exact ProjectivePoint.denotes_identity
  · exact ProjectivePoint.denotes_point_iff.mpr
      ⟨one_ne_zero, (mul_one x).symm, (mul_one y).symm⟩

end AffinePoint

namespace ProjectivePoint

variable [Curve.Complete C] {P Q : ProjectivePoint C} {A B : C.Point}

/-- Normalization gives the affine form of the denoted point. -/
theorem Denotes.toAffine
    [PartialInverse F]
    [LawfulInverse F]
    (denotes : P.Denotes A) :
    P.toAffine = .ofPoint A := by
  rcases Curve.eq_zero_or_eq_point A with rfl | ⟨x, y, equation, rfl⟩
  · rw [ProjectivePoint.toAffine, (denotes_zero_iff.mp denotes).2.2, LawfulInverse.inverse?_zero]
    rfl
  · obtain ⟨nonzero, xEq, yEq⟩ := denotes_point_iff.mp denotes
    rw [ProjectivePoint.toAffine, LawfulInverse.inverse?_of_ne_zero _ nonzero, xEq, yEq]
    simp only [mul_inv_cancel_right₀ nonzero]
    rfl

theorem Denotes.isIdentity
    [DecidableEq F]
    (denotes : P.Denotes A) :
    P.isIdentity = true ↔ A = 0 := by
  rw [ProjectivePoint.isIdentity, decide_eq_true_iff]
  rcases Curve.eq_zero_or_eq_point A with rfl | ⟨x, y, equation, rfl⟩
  · exact iff_of_true (denotes_zero_iff.mp denotes).2.2 rfl
  · exact iff_of_false (denotes_point_iff.mp denotes).1 (Curve.point_ne_zero equation)

/-- Comparison across the denominators decides whether the denoted points are equal. -/
theorem Denotes.represents
    [DecidableEq F]
    (left : P.Denotes A)
    (right : Q.Denotes B) :
    P.represents Q = true ↔ A = B := by
  rw [ProjectivePoint.represents, Bool.and_eq_true, decide_eq_true_iff, decide_eq_true_iff]
  rcases Curve.eq_zero_or_eq_point A with rfl | ⟨x₁, y₁, first, rfl⟩ <;>
    rcases Curve.eq_zero_or_eq_point B with rfl | ⟨x₂, y₂, second, rfl⟩
  · rw [(denotes_zero_iff.mp left).2.2, (denotes_zero_iff.mp right).2.2]
    simp
  · obtain ⟨_, nonzero, zZero⟩ := denotes_zero_iff.mp left
    refine iff_of_false (fun equal => ?_) (Curve.point_ne_zero second).symm
    rw [zZero, mul_zero, mul_zero] at equal
    exact mul_ne_zero nonzero (denotes_point_iff.mp right).1 equal.2
  · obtain ⟨_, nonzero, zZero⟩ := denotes_zero_iff.mp right
    refine iff_of_false (fun equal => ?_) (Curve.point_ne_zero first)
    rw [zZero, mul_zero, mul_zero] at equal
    exact mul_ne_zero nonzero (denotes_point_iff.mp left).1 equal.2.symm
  · obtain ⟨zLeft, xLeft, yLeft⟩ := denotes_point_iff.mp left
    obtain ⟨zRight, xRight, yRight⟩ := denotes_point_iff.mp right
    have nonzero : P.z * Q.z ≠ 0 := mul_ne_zero zLeft zRight
    rw [Curve.point_eq_point, xLeft, yLeft, xRight, yRight, mul_assoc, mul_assoc, mul_assoc,
      mul_assoc, mul_comm Q.z, mul_left_inj' nonzero, mul_left_inj' nonzero]

variable [DecidableEq F]

theorem Denotes.addAffine
    (denotes : P.Denotes A) :
    (P.addAffine (.ofPoint B)).Denotes (A + B) :=
  denotes.add (AffinePoint.toProjective_denotes B)

theorem Denotes.sub
    (left : P.Denotes A)
    (right : Q.Denotes B) :
    (P.sub Q).Denotes (A - B) := by
  rw [sub_eq_add_neg]
  exact left.add right.neg

/-- One digit of doubling and adding. -/
theorem Denotes.doubleAndAdd
    (denotes : P.Denotes A)
    {number : Nat}
    (acc : Q.Denotes (number • A))
    (digit : Bool) :
    (if digit then Q.double.add P else Q.double).Denotes ((2 * number + digit.toNat) • A) := by
  rw [add_nsmul, two_mul, add_nsmul]
  cases digit with
  | false =>
      rw [Bool.toNat_false, zero_nsmul, add_zero]
      exact acc.double
  | true =>
      rw [Bool.toNat_true, one_nsmul]
      exact acc.double.add denotes

/-- Doubling and adding gives the multiple by the number of the digits. -/
theorem Denotes.mulBits
    (denotes : P.Denotes A)
    (digits : List Bool) :
    (P.mulBits digits).Denotes (Digits.value digits • A) := by
  have start : (identity : ProjectivePoint C).Denotes (0 • A) := by
    rw [zero_nsmul]
    exact denotes_identity
  have final := Digits.foldl_relation
    (fun number (acc : ProjectivePoint C) => acc.Denotes (number • A))
    (fun acc digit => if digit then acc.double.add P else acc.double)
    (fun number acc digit accDenotes => denotes.doubleAndAdd accDenotes digit)
    digits 0 identity start
  rwa [zero_mul, zero_add] at final

theorem Denotes.mulWords
    (denotes : P.Denotes A)
    (words : List UInt64) :
    (P.mulWords words).Denotes (Digits.value (words.reverse.flatMap Word.bits) • A) :=
  denotes.mulBits _

/-- The rungs of the ladder are the multiple by a number and the next one. -/
def RungsDenote
    (A : C.Point)
    (number : Nat)
    (rungs : ProjectivePoint C × ProjectivePoint C) : Prop :=
  rungs.1.Denotes (number • A) ∧ rungs.2.Denotes ((number + 1) • A)

/-- One digit of the ladder. -/
theorem RungsDenote.ladderStep
    {number : Nat}
    {rungs : ProjectivePoint C × ProjectivePoint C}
    (rungsDenote : RungsDenote A number rungs)
    (digit : Bool) :
    RungsDenote A (2 * number + digit.toNat) (ladderStep rungs digit) := by
  obtain ⟨low, high⟩ := rungsDenote
  cases digit with
  | false =>
      have lowEq : (2 * number + false.toNat) • A = number • A + number • A := by
        rw [Bool.toNat_false, add_zero, two_mul, add_nsmul]
      have highEq : (2 * number + false.toNat + 1) • A = number • A + (number + 1) • A := by
        rw [← add_nsmul, Bool.toNat_false]
        congr 1
        ring
      rw [RungsDenote, lowEq, highEq]
      exact ⟨low.double, low.add high⟩
  | true =>
      have lowEq : (2 * number + true.toNat) • A = (number + 1) • A + number • A := by
        rw [← add_nsmul, Bool.toNat_true]
        congr 1
        ring
      have highEq : (2 * number + true.toNat + 1) • A =
          (number + 1) • A + (number + 1) • A := by
        rw [← add_nsmul, Bool.toNat_true]
        congr 1
        ring
      rw [RungsDenote, lowEq, highEq]
      exact ⟨high.add low, high.double⟩

/-- The lower rung of the ladder is the multiple by the number of the digits. -/
theorem Denotes.ladder
    (denotes : P.Denotes A)
    (digits : List Bool) :
    (P.ladder digits).Denotes (Digits.value digits • A) := by
  have start : RungsDenote A 0 (identity, P) := by
    rw [RungsDenote, zero_nsmul, zero_add, one_nsmul]
    exact ⟨denotes_identity, denotes⟩
  have final := Digits.foldl_relation (RungsDenote A) ladderStep
    (fun number rungs digit rungsDenote => rungsDenote.ladderStep digit)
    digits 0 (identity, P) start
  rw [zero_mul, zero_add] at final
  exact final.1

/-- The ladder gives the multiple by the scalar. -/
theorem Denotes.mul
    (denotes : P.Denotes A)
    (scalar : Fr) :
    (P.mul scalar).Denotes (scalar.canonical.toNat • A) := by
  have ladder := denotes.ladder scalar.canonical.bits
  rw [Digits.value_limbs_bits] at ladder
  exact ladder

end ProjectivePoint
end Groth16
