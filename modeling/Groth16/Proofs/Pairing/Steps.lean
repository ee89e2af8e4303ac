import Groth16.Proofs.Curve.GroupLaw
import Groth16.Proofs.Curve.Subgroup
import Groth16.Proofs.Pairing.Single

/-!
# The steps of the loop

The formulas of the loop fail at some points: a doubling at the identity, an addition at the
identity and at the summand and its negative. On a validated finite point of the twist the loop
meets none of them. Its running multiples are multiples of the point by known integers, and no
integer that would be exceptional is divisible by the group order. So every step takes a finite
representative of one multiple to one of the next, and its line is the tangent or the chord.
-/

namespace Groth16
namespace Pairing

/-! ## The loop as a list of steps -/

/-- A move of all running multiples. -/
inductive LoopStep where
  | double
  | addDigit (digit : Int)
  | addFrobenius
  | subFrobeniusSquared
  deriving DecidableEq

namespace LoopStep

/-- The line and the next state of one track. -/
def move : LoopStep → Track → Line × Track
  | double => Track.double
  | addDigit digit => Track.addDigit digit
  | addFrobenius => Track.addFrobenius
  | subFrobeniusSquared => Track.subFrobeniusSquared

/-- Moves all tracks; a doubling squares their product first. -/
def perform (state : MillerState) (step : LoopStep) : MillerState :=
  MillerState.advance step.move
    { state with product := if step = double then state.product.square else state.product }

/-- The steps of one digit. -/
def ofDigit (digit : Int) : List LoopStep :=
  double :: if digit = 0 then [] else [addDigit digit]

/-- The steps of the loop, in order. -/
def all : List LoopStep :=
  ateDigits.flatMap ofDigit ++ [addFrobenius, subFrobeniusSquared]

end LoopStep

/-- The shared state after some steps. -/
def stateAfter (pairs : List (G1.Affine × G2.Affine)) (steps : List LoopStep) : MillerState :=
  steps.foldl LoopStep.perform (.start pairs)

/-- One track after some steps. -/
def trackAfter (track : Track) (steps : List LoopStep) : Track :=
  steps.foldl (fun track step => (step.move track).2) track

theorem processDigit_eq
    (state : MillerState)
    (digit : Int) :
    state.processDigit digit = (LoopStep.ofDigit digit).foldl LoopStep.perform state := by
  rw [MillerState.processDigit, LoopStep.ofDigit]
  split <;> rfl

theorem foldl_processDigit
    (digits : List Int)
    (state : MillerState) :
    digits.foldl MillerState.processDigit state =
      (digits.flatMap LoopStep.ofDigit).foldl LoopStep.perform state := by
  rw [List.foldl_flatMap]
  congr 1
  funext state digit
  exact processDigit_eq state digit

/-- The loop performs its steps. -/
theorem millerLoop_eq_stateAfter (pairs : List (G1.Affine × G2.Affine)) :
    millerLoop pairs = (stateAfter pairs LoopStep.all).product := by
  rw [millerLoop, stateAfter, LoopStep.all, List.foldl_append, ← foldl_processDigit]
  generalize ateDigits.foldl MillerState.processDigit (.start pairs) = state
  rfl

theorem tracks_foldl_perform
    (steps : List LoopStep)
    (state : MillerState) :
    (steps.foldl LoopStep.perform state).tracks =
      state.tracks.map fun track => trackAfter track steps := by
  induction steps generalizing state with
  | nil => exact (List.map_id' _).symm
  | cons step rest inductionHypothesis =>
      rw [List.foldl_cons, inductionHypothesis, LoopStep.perform, MillerState.advance,
        List.map_map, List.map_map]
      rfl

/-- The track of a pair among those of all pairs, which moves by itself. -/
theorem getElem?_tracks_stateAfter
    {pair : G1.Affine × G2.Affine}
    {track : Track}
    (start : Track.ofPair? pair = some track)
    (before after : List (G1.Affine × G2.Affine))
    (steps : List LoopStep) :
    (stateAfter (before ++ pair :: after) steps).tracks[(before.filterMap Track.ofPair?).length]? =
      some (trackAfter track steps) := by
  rw [stateAfter, tracks_foldl_perform, MillerState.start, List.filterMap_append,
    List.filterMap_cons_some start, List.getElem?_map, List.getElem?_append_right le_rfl,
    Nat.sub_self]
  rfl

/-! ## The multiples that the loop reaches -/

namespace LoopStep

/-- The point that the step adds to the running multiple `A` of `Q`. -/
def summand (Q A : Curve.g2.Point) : LoopStep → Curve.g2.Point
  | double => A
  | addDigit digit => digit • Q
  | addFrobenius => G2.endomorphism Q
  | subFrobeniusSquared => -G2.endomorphism (G2.endomorphism Q)

/-- The number that the step adds to the factor of the running multiple. -/
def increment (number : Int) : LoopStep → Int
  | double => number
  | addDigit digit => digit
  | addFrobenius => G2.eigenvalue
  | subFrobeniusSquared => -(G2.eigenvalue : Int) ^ 2

/-- On the subgroup every step adds a multiple of the point. -/
theorem summand_zsmul
    {Q : Curve.g2.Point}
    (member : Q ∈ G2.subgroup)
    (number : Int)
    (step : LoopStep) :
    step.summand Q (number • Q) = step.increment number • Q := by
  cases step with
  | double => rfl
  | addDigit digit => rfl
  | addFrobenius => exact endomorphism_eq_zsmul member
  | subFrobeniusSquared => exact neg_endomorphism_endomorphism_eq_zsmul member

end LoopStep

/-- The running multiple of `Q` after some steps from `A`. -/
def pointAfter (Q A : Curve.g2.Point) (steps : List LoopStep) : Curve.g2.Point :=
  steps.foldl (fun A step => A + step.summand Q A) A

theorem pointAfter_append
    (Q A : Curve.g2.Point)
    (first last : List LoopStep) :
    pointAfter Q A (first ++ last) = pointAfter Q (pointAfter Q A first) last :=
  List.foldl_append

/-- After the steps of some digits the running multiple is the multiple by the number that the
digits denote. -/
theorem pointAfter_flatMap_ofDigit
    (Q : Curve.g2.Point)
    (number : Int)
    (digits : List Int) :
    pointAfter Q (number • Q) (digits.flatMap LoopStep.ofDigit) =
      signedValue number digits • Q := by
  induction digits generalizing number with
  | nil => rfl
  | cons digit rest inductionHypothesis =>
      have next : pointAfter Q (number • Q) (LoopStep.ofDigit digit) =
          (2 * number + digit) • Q := by
        rw [add_zsmul, two_mul, add_zsmul, LoopStep.ofDigit]
        split
        next zero => rw [zero, zero_zsmul, add_zero]; rfl
        next => rfl
      rw [List.flatMap_cons, pointAfter_append, next, inductionHypothesis]
      rfl

theorem pointAfter_digits
    (Q : Curve.g2.Point)
    (digits : List Int) :
    pointAfter Q Q (digits.flatMap LoopStep.ofDigit) = signedValue 1 digits • Q := by
  have multiple := pointAfter_flatMap_ofDigit Q 1 digits
  rwa [one_zsmul] at multiple

theorem signedValue_ateDigits_eq :
    signedValue 1 ateDigits = 6 * curveParameter.toNat + 2 := by
  rw [signedValue_ateDigits]
  rfl

/-! ## Steps without exceptional cases -/

/-- The line is a nonzero multiple of the tangent at a point, or of the chord through two points
with different first coordinates. -/
inductive Line.Joins (line : Line) : Curve.g2.Point → Curve.g2.Point → Prop
  | intro
      {x₁ y₁ x₂ y₂ slope factor : Fq2}
      (first : y₁ ^ 2 = x₁ ^ 3 + Curve.g2.b)
      (second : y₂ ^ 2 = x₂ ^ 3 + Curve.g2.b)
      (isSlope : Curve.IsSlope x₁ y₁ x₂ y₂ slope)
      (factor_ne : factor ≠ 0)
      (value : ∀ x y,
        line.c0 * y + line.c1 * x + line.c2 = factor * (y - (slope * (x - x₁) + y₁))) :
      Joins line (Curve.point x₁ y₁ first) (Curve.point x₂ y₂ second)

/-- The track keeps its pair, and its running multiple is a finite representative of a point. -/
structure Track.Reaches
    (track : Track)
    (pair : G1.Affine × G2.Affine)
    (A : Curve.g2.Point) : Prop where
  pair_eq : (.finite track.px track.py, .finite track.qx track.qy) = pair
  standsFor : track.multiple.StandsFor A
  z_ne_zero : track.multiple.z ≠ 0

/-- The step adds the coordinates of a finite point that is neither the running multiple nor its
negative. -/
structure LoopStep.AddsApart
    (step : LoopStep)
    (track : Track)
    (A B : Curve.g2.Point) : Prop where
  move_eq : ∃ x y, AffinePoint.ofPoint B = .finite x y ∧ step.move track = track.add x y
  different : A ≠ B
  opposite : A ≠ -B

/-- The step takes a finite representative of `A` to one of the sum with the summand, its line
joins the two, and an addition meets no exceptional case. -/
structure LoopStep.IsRegular
    (step : LoopStep)
    (pair : G1.Affine × G2.Affine)
    (A : Curve.g2.Point)
    (track : Track) : Prop where
  before : track.Reaches pair A
  after : (step.move track).2.Reaches pair (A + step.summand pair.2.toPoint A)
  joins : (step.move track).1.Joins A (step.summand pair.2.toPoint A)
  apart : step ≠ .double → step.AddsApart track A (step.summand pair.2.toPoint A)

namespace Track.Reaches

variable {track : Track} {pair : G1.Affine × G2.Affine} {A : Curve.g2.Point}

theorem withMultiple
    (reaches : track.Reaches pair A)
    {multiple : G2.Projective}
    {B : Curve.g2.Point}
    (denotes : multiple.Denotes B)
    (finite : B ≠ 0) :
    (Pairing.withMultiple track multiple).Reaches pair B := by
  obtain ⟨x, y, equation, rfl⟩ := (Curve.eq_zero_or_eq_point B).resolve_left finite
  exact ⟨reaches.pair_eq, denotes.standsFor, (ProjectivePoint.denotes_point_iff.mp denotes).1⟩

/-- A doubling has no exceptional case at a finite point. -/
theorem double
    (reaches : track.Reaches pair A)
    (finite : A ≠ 0) :
    LoopStep.double.IsRegular pair A track := by
  obtain ⟨x, y, equation, rfl⟩ := (Curve.eq_zero_or_eq_point A).resolve_left finite
  have denotes := reaches.standsFor.denotes
  obtain ⟨slope, tangent⟩ := Curve.exists_tangent equation
  have isSlope : Curve.IsSlope x y x y slope :=
    .tangent ⟨rfl, rfl⟩ (Curve.two_mul_y_ne_zero equation) tangent
  have line : (LoopStep.double.move track).1 = _ := tangentStep_line denotes tangent
  refine ⟨reaches, ?_, ?_, fun different => absurd rfl different⟩
  · exact reaches.withMultiple (tangentStep_denotes denotes) (Curve.add_self_ne_zero finite)
  · rw [line]
    refine .intro equation equation isSlope (tangent_factor_ne_zero denotes) ?_
    intro x' y'
    ring

/-- An addition has no exceptional case at a finite point apart from its summand. -/
theorem add
    (reaches : track.Reaches pair A)
    (finite : A ≠ 0)
    {step : LoopStep}
    {x y : Fq2}
    (equation : y ^ 2 = x ^ 3 + Curve.g2.b)
    (summand : step.summand pair.2.toPoint A = Curve.point x y equation)
    (moves : step.move track = track.add x y)
    (different : A ≠ Curve.point x y equation)
    (opposite : A ≠ -Curve.point x y equation) :
    step.IsRegular pair A track := by
  obtain ⟨x₁, y₁, first, rfl⟩ := (Curve.eq_zero_or_eq_point A).resolve_left finite
  have denotes := reaches.standsFor.denotes
  have xDifferent := Curve.x_ne_of_apart different opposite
  obtain ⟨slope, chord⟩ := Curve.exists_chord xDifferent y₁ y
  have line : (track.add x y).1 = _ := chordStep_line denotes chord
  have finiteSum : Curve.point x₁ y₁ first + Curve.point x y equation ≠ 0 :=
    fun zero => opposite (eq_neg_of_add_eq_zero_left zero)
  refine ⟨reaches, ?_, ?_, fun _ => ?_⟩
  · rw [summand, moves]
    exact reaches.withMultiple (chordStep_denotes equation denotes xDifferent) finiteSum
  · rw [summand, moves, line]
    refine .intro first equation (.chord xDifferent chord)
      (chord_factor_ne_zero denotes xDifferent) ?_
    intro x' y'
    ring
  · rw [summand]
    exact ⟨⟨x, y, AffinePoint.ofPoint_point equation, moves⟩, different, opposite⟩

end Track.Reaches

/-! ## The run of the loop -/

namespace LoopStep

/-- The step meets no exceptional case at the multiple by the number. -/
def IsSafe (number : Int) : LoopStep → Prop
  | double => ¬(groupOrder : Int) ∣ number
  | addDigit digit => (digit = -1 ∨ digit = 1) ∧ AreApart number digit
  | addFrobenius => AreApart number G2.eigenvalue
  | subFrobeniusSquared => AreApart number (-(G2.eigenvalue : Int) ^ 2)

instance (number : Int) : (step : LoopStep) → Decidable (step.IsSafe number)
  | double => inferInstanceAs (Decidable (¬_))
  | addDigit digit => inferInstanceAs (Decidable (_ ∧ AreApart number digit))
  | addFrobenius => inferInstanceAs (Decidable (AreApart number G2.eigenvalue))
  | subFrobeniusSquared =>
      inferInstanceAs (Decidable (AreApart number (-(G2.eigenvalue : Int) ^ 2)))

/-- No step of a run meets an exceptional case. -/
def AreSafe (number : Int) : List LoopStep → Prop
  | [] => True
  | step :: rest => step.IsSafe number ∧ AreSafe (number + step.increment number) rest

instance decidableAreSafe (number : Int) :
    (steps : List LoopStep) → Decidable (AreSafe number steps)
  | [] => inferInstanceAs (Decidable True)
  | step :: rest =>
      have := decidableAreSafe (number + step.increment number) rest
      inferInstanceAs (Decidable (step.IsSafe number ∧ AreSafe _ rest))

/-- The last step of the loop. -/
theorem all_eq :
    ateDigits.flatMap ofDigit ++ [addFrobenius] ++ subFrobeniusSquared :: [] = all := by
  rw [all, List.append_assoc]
  rfl

theorem areSafe_all : AreSafe 1 all := by decide +kernel

end LoopStep

section Run

variable {px py : Fq} {qx qy : Fq2}

theorem Track.Reaches.coordinates
    {track : Track}
    {A : Curve.g2.Point}
    (reaches : track.Reaches (.finite px py, .finite qx qy) A) :
    track.qx = qx ∧ track.qy = qy :=
  AffinePoint.finite.inj (Prod.mk.inj reaches.pair_eq).2

variable (onTwist : qy ^ 2 = qx ^ 3 + Curve.g2.b)

theorem toPoint_finite :
    (AffinePoint.finite qx qy : G2.Affine).toPoint = Curve.point qx qy onTwist :=
  dif_pos onTwist

variable (member : Curve.point qx qy onTwist ∈ G2.subgroup)
variable {number : Int} {track : Track}
variable (reaches :
  track.Reaches (.finite px py, .finite qx qy) (number • Curve.point qx qy onTwist))

include member reaches

/-- An addition of a multiple by a number that keeps apart. -/
theorem Track.Reaches.addMultiple
    {step : LoopStep}
    (apart : AreApart number (step.increment number))
    {x y : Fq2}
    (equation : y ^ 2 = x ^ 3 + Curve.g2.b)
    (summand : step.increment number • Curve.point qx qy onTwist = Curve.point x y equation)
    (moves : step.move track = track.add x y) :
    step.IsRegular (.finite px py, .finite qx qy) (number • Curve.point qx qy onTwist) track := by
  have separate := apart.zsmul member (Curve.point_ne_zero onTwist)
  rw [summand] at separate
  obtain ⟨finite, different, opposite⟩ := separate
  refine reaches.add finite equation ?_ moves different opposite
  rw [toPoint_finite onTwist, LoopStep.summand_zsmul member, summand]

/-- A safe step meets no exceptional case. -/
theorem LoopStep.IsSafe.isRegular
    {step : LoopStep}
    (safe : step.IsSafe number) :
    step.IsRegular (.finite px py, .finite qx qy) (number • Curve.point qx qy onTwist) track := by
  obtain ⟨qxEq, qyEq⟩ := reaches.coordinates
  have once := G2.frobenius_equation onTwist
  have twice := G2.frobenius_equation once
  cases step with
  | double =>
      exact reaches.double (zsmul_ne_zero member (Curve.point_ne_zero onTwist) safe)
  | addDigit digit =>
      refine reaches.addMultiple onTwist member safe.2 (signed_equation onTwist digit)
        (signed_point onTwist safe.1).symm ?_
      rw [LoopStep.move, Track.addDigit, qxEq, qyEq]
  | addFrobenius =>
      refine reaches.addMultiple onTwist member safe once (endomorphism_eq_zsmul member).symm ?_
      rw [LoopStep.move, addFrobenius_eq_add, qxEq, qyEq]
  | subFrobeniusSquared =>
      refine reaches.addMultiple onTwist member safe (Curve.neg_equation twice)
        ((neg_endomorphism_endomorphism_eq_zsmul member).symm.trans (Curve.neg_point twice)) ?_
      rw [LoopStep.move, subFrobeniusSquared_eq_add, qxEq, qyEq]

/-- Every step of a safe run meets no exceptional case. -/
theorem LoopStep.AreSafe.isRegular
    {done rest : List LoopStep}
    {step : LoopStep}
    (safe : LoopStep.AreSafe number (done ++ step :: rest)) :
    step.IsRegular (.finite px py, .finite qx qy)
      (pointAfter (Curve.point qx qy onTwist) (number • Curve.point qx qy onTwist) done)
      (trackAfter track done) := by
  -- The track after the first step reaches the next multiple, from which the rest is safe.
  induction done generalizing number track with
  | nil => exact safe.1.isRegular onTwist member reaches
  | cons first others inductionHypothesis =>
      have after := (safe.1.isRegular onTwist member reaches).after
      rw [toPoint_finite onTwist, LoopStep.summand_zsmul member, ← add_zsmul] at after
      have regular := inductionHypothesis after safe.2
      rw [add_zsmul, ← LoopStep.summand_zsmul member] at regular
      exact regular

omit member reaches in
theorem startTrack_reaches :
    (startTrack px py qx qy).Reaches (.finite px py, .finite qx qy)
      (Curve.point qx qy onTwist) :=
  ⟨rfl, (AffinePoint.toProjective_denotes (Curve.point qx qy onTwist)).standsFor, one_ne_zero⟩

end Run

/-- Before the last step the running multiple is the sum with the first image. -/
theorem pointAfter_addFrobenius (Q : Curve.g2.Point) :
    pointAfter Q Q (ateDigits.flatMap LoopStep.ofDigit ++ [.addFrobenius]) =
      (6 * curveParameter.toNat + 2) • Q + G2.endomorphism Q := by
  have digits := pointAfter_digits Q ateDigits
  rw [signedValue_ateDigits_eq] at digits
  rw [pointAfter_append, digits, ← natCast_zsmul]
  rfl

/-- Among the tracks of some pairs, the one with the given index takes each step of the loop from
one running multiple of the second point of its pair to the next, without an exceptional case. -/
def StepsAreRegular
    (pairs : List (G1.Affine × G2.Affine))
    (index : Nat)
    (pair : G1.Affine × G2.Affine) : Prop :=
  ∀ done step rest, done ++ step :: rest = LoopStep.all →
    ∃ track, (stateAfter pairs done).tracks[index]? = some track ∧
      (stateAfter pairs (done ++ [step])).tracks[index]? = some (step.move track).2 ∧
      step.IsRegular pair (pointAfter pair.2.toPoint pair.2.toPoint done) track

/-- The second point of the pair is multiplied by the numbers that the digits denote, and then
its images under `psi` are added and subtracted. -/
structure TrackIsRegular
    (pairs : List (G1.Affine × G2.Affine))
    (index : Nat)
    (pair : G1.Affine × G2.Affine) : Prop where
  steps : StepsAreRegular pairs index pair
  digits : ∀ digits, pointAfter pair.2.toPoint pair.2.toPoint (digits.flatMap LoopStep.ofDigit) =
    signedValue 1 digits • pair.2.toPoint
  psi : (G2.psi pair.2.toProjective).StandsFor (G2.endomorphism pair.2.toPoint)
  psi_psi : (G2.psi (G2.psi pair.2.toProjective)).StandsFor
    (G2.endomorphism (G2.endomorphism pair.2.toPoint))
  last : ∃ track, (stateAfter pairs LoopStep.all).tracks[index]? = some track ∧
    track.Reaches pair ((6 * curveParameter.toNat + 2) • pair.2.toPoint +
      G2.endomorphism pair.2.toPoint - G2.endomorphism (G2.endomorphism pair.2.toPoint))

theorem stepsAreRegular_of_member
    (px py : Fq)
    {qx qy : Fq2}
    (onTwist : qy ^ 2 = qx ^ 3 + Curve.g2.b)
    (member : Curve.point qx qy onTwist ∈ G2.subgroup)
    (before after : List (G1.Affine × G2.Affine)) :
    StepsAreRegular (before ++ (.finite px py, .finite qx qy) :: after)
      (before.filterMap Track.ofPair?).length (.finite px py, .finite qx qy) := by
  intro done step rest split
  have start : Track.ofPair? (.finite px py, .finite qx qy) = some (startTrack px py qx qy) := rfl
  have safe := LoopStep.areSafe_all
  rw [← split] at safe
  have reaches : (startTrack px py qx qy).Reaches _ _ := startTrack_reaches onTwist
  -- The loop starts at the multiple by one.
  rw [← one_zsmul (Curve.point qx qy onTwist)] at reaches
  have regular := safe.isRegular onTwist member reaches
  rw [one_zsmul, ← toPoint_finite onTwist] at regular
  refine ⟨_, getElem?_tracks_stateAfter start before after done, ?_, regular⟩
  rw [getElem?_tracks_stateAfter start before after (done ++ [step]), trackAfter,
    List.foldl_append]
  rfl

theorem StepsAreRegular.last
    {pairs : List (G1.Affine × G2.Affine)}
    {index : Nat}
    {pair : G1.Affine × G2.Affine}
    (steps : StepsAreRegular pairs index pair) :
    ∃ track, (stateAfter pairs LoopStep.all).tracks[index]? = some track ∧
      track.Reaches pair ((6 * curveParameter.toNat + 2) • pair.2.toPoint +
        G2.endomorphism pair.2.toPoint - G2.endomorphism (G2.endomorphism pair.2.toPoint)) := by
  obtain ⟨track, -, next, regular⟩ := steps _ _ _ LoopStep.all_eq
  have reaches := regular.after
  rw [pointAfter_addFrobenius] at reaches
  rw [LoopStep.all_eq] at next
  refine ⟨_, next, ?_⟩
  rw [sub_eq_add_neg]
  exact reaches

/-- The loop is the run of its steps, and its digits denote `6 * x + 2`. If the second point of a
pair is accepted and both points are finite, then its track meets no exceptional case, whatever
the other pairs are. -/
theorem millerLoop_isRegular
    {bytes : List UInt8}
    {P : G1.Affine}
    {Q : G2.Affine}
    (accepted : AffinePoint.ofBytes? bytes = .ok Q)
    (finiteLeft : P.isIdentity = false)
    (finiteRight : Q.isIdentity = false)
    (before after : List (G1.Affine × G2.Affine)) :
    let pairs := before ++ (P, Q) :: after
    millerLoop pairs = (stateAfter pairs LoopStep.all).product ∧
      signedValue 1 ateDigits = 6 * curveParameter.toNat + 2 ∧
      TrackIsRegular pairs (before.filterMap Track.ofPair?).length (P, Q) := by
  refine ⟨millerLoop_eq_stateAfter _, signedValue_ateDigits_eq, ?_⟩
  have valid := AffinePoint.isValid_of_ofBytes? accepted
  have psi := G2.psi_denotes (AffinePoint.toProjective_denotes_toPoint valid.isOnCurve)
  obtain ⟨A, member, rfl⟩ := G2.exists_ofPoint accepted
  have finite := AffinePoint.isIdentity_ofPoint_eq_false.mp finiteRight
  obtain ⟨qx, qy, onTwist, rfl⟩ := (Curve.eq_zero_or_eq_point A).resolve_left finite
  obtain _ | ⟨px, py⟩ := P
  · cases finiteLeft
  have steps := stepsAreRegular_of_member px py onTwist member before after
  exact ⟨steps, pointAfter_digits _, psi.standsFor, (G2.psi_denotes psi).standsFor, steps.last⟩

/-- The loop over the pair of the generators between a pair with an identity and a pair off the
curves. -/
theorem millerLoop_isRegular_generators :
    let P := AffinePoint.ofPoint G1.generatorPoint
    let Q := AffinePoint.ofPoint G2.generatorPoint
    let pairs : List (G1.Affine × G2.Affine) := [(.identity, Q), (P, Q), (.finite 0 0, Q)]
    (AffinePoint.ofBytes? Q.toBytes = .ok Q ∧ P.isIdentity = false ∧ Q.isIdentity = false) ∧
      millerLoop pairs = (stateAfter pairs LoopStep.all).product ∧
      TrackIsRegular pairs 0 (P, Q) := by
  intro P Q pairs
  have accepted := G2.ofBytes?_toBytes G2.generatorPoint_mem
  have finiteLeft : P.isIdentity = false := rfl
  have finiteRight : Q.isIdentity = false := rfl
  obtain ⟨product, -, regular⟩ :=
    millerLoop_isRegular accepted finiteLeft finiteRight [(.identity, Q)] [(.finite 0 0, Q)]
  exact ⟨⟨accepted, finiteLeft, finiteRight⟩, product, regular⟩

end Pairing
end Groth16
