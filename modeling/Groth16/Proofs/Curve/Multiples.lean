import Groth16.Proofs.Curve.GroupLaw
import Mathlib.Data.Nat.Digits.Defs

/-!
# Multiples of points

A scalar multiplies a point by the ladder, and words multiply it by doubling and adding. Both
start from any triple on the curve, in the subgroup or not, and give a triple for the multiple.
A ladder may also keep its two rungs in exchanged order as long as the digits are ones, so that
it exchanges them only where the digit changes: its rungs are the same.
-/

namespace Groth16

/-- The digits of words denote the number of the words, least significant first. -/
theorem Digits.value_reverse_flatMap_bits (words : List UInt64) :
    value (words.reverse.flatMap Word.bits) = Nat.ofDigits (2 ^ 64) (words.map UInt64.toNat) := by
  induction words with
  | nil => rfl
  | cons word rest inductionHypothesis =>
      rw [List.reverse_cons, List.flatMap_append, List.flatMap_singleton, value_append, value_bits,
        length_bits, inductionHypothesis, List.map_cons, Nat.ofDigits_cons, mul_comm, add_comm]

/-! ## Rungs in exchanged order -/

section Exchange

variable {F : Type} {C : Curve F}

/-- The registers of a ladder that undoes an exchange only when the digit changes. -/
structure LadderRegisters (C : Curve F) where
  first : ProjectivePoint C
  second : ProjectivePoint C
  /-- Whether the registers hold the rungs in exchanged order. -/
  exchanged : Bool

namespace LadderRegisters

/-- The two registers, exchanged on demand. -/
def exchange (registers : LadderRegisters C) (choice : Bool) :
    ProjectivePoint C × ProjectivePoint C :=
  (if choice then registers.second else registers.first,
    if choice then registers.first else registers.second)

/-- The rungs that the registers hold. -/
def rungs (registers : LadderRegisters C) : ProjectivePoint C × ProjectivePoint C :=
  registers.exchange registers.exchanged

variable [Add F] [Sub F] [Mul F]

/-- One digit: the registers are exchanged if the digit differs from the last one; then the second
one becomes the sum and the first one is doubled. -/
def step (registers : LadderRegisters C) (digit : Bool) : LadderRegisters C :=
  let operands := registers.exchange (registers.exchanged ^^ digit)
  ⟨operands.1.double, operands.1.add operands.2, digit⟩

/-- A digit moves the rungs as a ladder does that keeps them in order. -/
theorem rungs_step (registers : LadderRegisters C) (digit : Bool) :
    (registers.step digit).rungs = ProjectivePoint.ladderStep registers.rungs digit := by
  obtain ⟨first, second, exchanged⟩ := registers
  cases exchanged <;> cases digit <;> rfl

theorem rungs_foldl_step (digits : List Bool) (registers : LadderRegisters C) :
    (digits.foldl step registers).rungs =
      digits.foldl ProjectivePoint.ladderStep registers.rungs := by
  induction digits generalizing registers with
  | nil => rfl
  | cons digit rest inductionHypothesis =>
      rw [List.foldl_cons, List.foldl_cons, inductionHypothesis, rungs_step]

variable [Zero F] [One F]

/-- The multiple that is left in the lower rung after all digits, from the identity and the
point. -/
def multiple (P : ProjectivePoint C) (digits : List Bool) : ProjectivePoint C :=
  (digits.foldl step ⟨.identity, P, false⟩).rungs.1

/-- The exchanges do not change the multiple, down to the coordinates. -/
theorem multiple_eq_ladder (P : ProjectivePoint C) (digits : List Bool) :
    multiple P digits = P.ladder digits := by
  rw [multiple, rungs_foldl_step]
  rfl

end LadderRegisters
end Exchange

/-! ## Multiples -/

namespace ProjectivePoint

variable {F : Type} [Field F] [DecidableEq F] {C : Curve F} [Curve.Complete C]
variable [PartialInverse F] [LawfulInverse F]

/-- The ladder and doubling and adding compute the multiples of the point that the triple stands
for. -/
structure ComputesMultiples (P : ProjectivePoint C) : Prop where
  mul : ∀ scalar : Fr, (P.mul scalar).StandsFor (scalar.canonical.toNat • P.toPoint)
  mul_eq_exchanging : ∀ scalar : Fr,
    P.mul scalar = LadderRegisters.multiple P scalar.canonical.bits
  mulWords : ∀ words : List UInt64, (P.mulWords words).StandsFor
    (Nat.ofDigits (2 ^ 64) (words.map UInt64.toNat) • P.toPoint)
  represents : ∀ scalar : Fr, (P.mul scalar).represents (P.mulWords scalar.canonical.toList) = true

/-- Both algorithms compute the multiples of every triple on the curve. -/
theorem IsOnCurve.computesMultiples
    {P : ProjectivePoint C}
    (onCurve : P.IsOnCurve) :
    P.ComputesMultiples := by
  have denotes := onCurve.denotes_toPoint
  have multiple (words : List UInt64) : (P.mulWords words).Denotes
      (Nat.ofDigits (2 ^ 64) (words.map UInt64.toNat) • P.toPoint) := by
    rw [← Digits.value_reverse_flatMap_bits]
    exact denotes.mulWords words
  refine ⟨fun scalar => (denotes.mul scalar).standsFor, fun scalar => ?_,
    fun words => (multiple words).standsFor, fun scalar => ?_⟩
  · exact (LadderRegisters.multiple_eq_ladder P scalar.canonical.bits).symm
  · have canonical := denotes.mulWords scalar.canonical.toList
    rw [Digits.value_toList] at canonical
    exact ((denotes.mul scalar).represents canonical).mpr rfl

end ProjectivePoint

/-- On both curves, in the subgroup or not, a scalar multiplies by its canonical number and words
multiply by the number that they denote, so that both agree on the words of a scalar. -/
theorem computesMultiples_g1_g2 :
    (∀ P : G1.Projective, P.IsOnCurve → P.ComputesMultiples) ∧
      ∀ P : G2.Projective, P.IsOnCurve → P.ComputesMultiples :=
  ⟨fun _ onCurve => onCurve.computesMultiples, fun _ onCurve => onCurve.computesMultiples⟩

/-- The double of a point of `G1`, which is not normalized, and a point of the twist outside the
subgroup. -/
theorem computesMultiples_doubled_outside :
    let P : G1.Projective := (AffinePoint.ofPoint G1.generatorPoint).toProjective.double
    let R : G2.Projective := (AffinePoint.ofPoint G2.outsidePoint).toProjective
    (P.IsOnCurve ∧ R.IsOnCurve) ∧ P.ComputesMultiples ∧ R.ComputesMultiples := by
  have onCurveP := (AffinePoint.toProjective_denotes G1.generatorPoint).double.isOnCurve
  have onCurveR := (AffinePoint.toProjective_denotes G2.outsidePoint).isOnCurve
  exact ⟨⟨onCurveP, onCurveR⟩, computesMultiples_g1_g2.1 _ onCurveP,
    computesMultiples_g1_g2.2 _ onCurveR⟩

end Groth16
