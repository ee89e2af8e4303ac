import Groth16.Curve.Encoded
import Groth16.Proofs.Arena.Scratch
import Groth16.Proofs.Curve.MultiScalar
import Groth16.Proofs.Pairing.Product

/-!
# Encoded points in scratch space

The pairing check and the sum of multiples ask for an arena of the default capacity, however
many points they are given. What they need grows with the number of points.
-/

namespace Groth16
namespace Encoded

/-- An error that bytes are refused with is none of an arena. -/
def IsPointError : VerifyError → Prop
  | .allocationFailed _ => False
  | _ => True

section Reports

variable {Result : Type}

theorem not_isExhausted_of_reports
    {answer : Except VerifyError Result}
    (reports : Checks.Reports IsPointError answer) :
    ¬Scratch.IsExhausted answer := by
  rintro ⟨requested, available, exhausted⟩
  exact reports _ exhausted

variable {F : Type} [Zero F] [One F] [Add F] [Mul F] [DecidableEq F] [Coordinate F]

theorem reports_decode (C : Curve F) [SubgroupTest C] (bytes : List UInt8) :
    Checks.Reports IsPointError (decode C bytes) :=
  .mapError fun _ => trivial

theorem reports_decodeScalar (bytes : List UInt8) :
    Checks.Reports IsPointError (decodeScalar bytes) :=
  .mapError fun _ => trivial

theorem reports_decodePairs (count : Nat) (bytes : List UInt8) :
    Checks.Reports IsPointError (decodePairs count bytes) := by
  induction count generalizing bytes with
  | zero => exact .ok []
  | succ count inductionHypothesis =>
      refine .bind (reports_decode _ _) fun P => .bind (reports_decode _ _) fun Q => ?_
      exact .bind (inductionHypothesis _) fun rest => .ok _

end Reports

theorem length_decodePairs
    {count : Nat}
    {bytes : List UInt8}
    {pairs : List (G1.Affine × G2.Affine)}
    (decoded : decodePairs count bytes = .ok pairs) :
    pairs.length = count := by
  induction count generalizing bytes pairs with
  | zero =>
      cases decoded
      rfl
  | succ count inductionHypothesis =>
      obtain ⟨P, -, decoded⟩ := Checks.bind_eq_ok.mp decoded
      obtain ⟨Q, -, decoded⟩ := Checks.bind_eq_ok.mp decoded
      obtain ⟨rest, decodedRest, equal⟩ := Checks.bind_eq_ok.mp decoded
      cases equal
      rw [List.length_cons, inductionHypothesis decodedRest]

section InScratch

variable {Result : Type} {computation : ArenaM Result} {bytes : Nat} {value : Result}

theorem isRested_inScratch
    (takes : computation.Takes bytes value)
    {space : Scratch}
    (rested : space.IsRested) :
    ((inScratch computation).run space).2.IsRested :=
  rested.useArena takes.sameRegion

/-- Whatever the scratch space, a result is the value that the computation takes room for. -/
theorem eq_of_inScratch_eq_ok
    (takes : computation.Takes bytes value)
    {space : Scratch}
    {result : Result}
    (run : ((inScratch computation).run space).1 = .ok result) :
    value = result := by
  change ((Scratch.useArena Scratch.defaultCapacity false computation.run space).1.bind
    id).mapError VerifyError.allocationFailed = .ok result at run
  cases used : (Scratch.useArena Scratch.defaultCapacity false computation.run space).1 with
  | error error =>
      rw [used] at run
      cases run
  | ok outcome =>
      obtain ⟨arena, ran⟩ := Scratch.exists_of_useArena_eq_ok used
      rw [used] at run
      have outcomeEq : outcome = .ok result := Checks.mapError_eq_ok.mp run
      rw [outcomeEq] at ran
      exact takes.toGives.eq_of_run_eq_ok (Prod.ext ran rfl)

/-- A computation in scratch space needs the room that it takes. -/
theorem needsRoom_inScratch (takes : computation.Takes bytes value) :
    Scratch.NeedsRoom (fun space => ((inScratch computation).run space).1)
      Scratch.defaultCapacity false bytes (.ok value) := by
  have answers (space : Scratch) : ((inScratch computation).run space).1 =
      ((Scratch.useArena Scratch.defaultCapacity false
        ((·.mapError VerifyError.allocationFailed) <$> computation.run) space).1.mapError
          VerifyError.allocationFailed).bind id := by
    change ((Scratch.useArena Scratch.defaultCapacity false computation.run space).1.bind
      id).mapError VerifyError.allocationFailed = _
    cases space with
    | inUse => rfl
    | idle kept =>
        rw [Scratch.useArena_fst, Scratch.useArena_fst]
        cases Scratch.arenaFor kept Scratch.defaultCapacity false with
        | error error => rfl
        | ok arena => rfl
  simp only [answers]
  refine .of_useArena nofun (fun arena rested fits => ?_) fun arena rested small => ?_
  · have run := takes.run_eq_ok rested.used_eq rested.region.capacity_lt_word fits
    change ((computation.run.run arena).1).mapError VerifyError.allocationFailed = _
    rw [run]
    rfl
  · obtain ⟨requested, available, run⟩ := takes.run_eq_exhausted rested.used_eq small
    change Scratch.IsExhausted ((computation.run.run arena).1.mapError VerifyError.allocationFailed)
    rw [run]
    exact ⟨requested, available, rfl⟩

end InScratch

/-- A call has its answer at once, or finds it by a computation in scratch space that takes the
given number of bytes. -/
inductive FindsAnswer
    {Final : Type}
    (call : ExceptT VerifyError (StateM Scratch) Final) :
    Nat → Except VerifyError Final → Prop where
  | atOnce
    {answer : Except VerifyError Final}
    (possible : ¬Scratch.IsExhausted answer)
    (run : ∀ space, call.run.run space = (answer, space)) : FindsAnswer call 0 answer
  | inScratch
    {Result : Type}
    {computation : ArenaM Result}
    {bytes : Nat}
    {value : Result}
    (takes : computation.Takes bytes value)
    (finish : Result → Final)
    (run : ∀ space, call.run.run space =
      (((inScratch computation).run space).1.map finish, ((inScratch computation).run space).2)) :
    FindsAnswer call bytes (.ok (finish value))

namespace FindsAnswer

variable {Final : Type} {call : ExceptT VerifyError (StateM Scratch) Final} {bytes : Nat}
variable {value : Except VerifyError Final}

theorem needsRoom (finds : FindsAnswer call bytes value) :
    Scratch.NeedsRoom (fun space => (call.run.run space).1) Scratch.defaultCapacity false bytes
      value := by
  cases finds with
  | atOnce possible run =>
      simp only [run]
      exact .of_const possible
  | inScratch takes finish run =>
      simp only [run]
      exact (needsRoom_inScratch takes).map finish

/-- Whatever the scratch space, a result is the answer. -/
theorem eq_of_run_eq_ok
    (finds : FindsAnswer call bytes value)
    {space : Scratch}
    {final : Final}
    (run : (call.run.run space).1 = .ok final) :
    value = .ok final := by
  cases finds with
  | atOnce possible answers =>
      rw [answers] at run
      exact run
  | inScratch takes finish answers =>
      rw [answers] at run
      obtain ⟨result, used, rfl⟩ := Checks.map_eq_ok.mp run
      rw [eq_of_inScratch_eq_ok takes used]

theorem isRested
    (finds : FindsAnswer call bytes value)
    {space : Scratch}
    (rested : space.IsRested) :
    (call.run.run space).2.IsRested := by
  cases finds with
  | atOnce possible run =>
      rw [run]
      exact rested
  | inScratch takes finish run =>
      rw [run]
      exact isRested_inScratch takes rested

end FindsAnswer

theorem run_inScratch_finish
    {Result Final : Type}
    (computation : ArenaM Result)
    (finish : Result → Final)
    (space : Scratch) :
    (do return finish (← ExceptT.mk (inScratch computation)) :
        ExceptT VerifyError (StateM Scratch) Final).run.run space =
      (((inScratch computation).run space).1.map finish,
        ((inScratch computation).run space).2) := by
  have used : (ExceptT.mk (inScratch computation) :
      ExceptT VerifyError (StateM Scratch) Result).run.run space =
        (inScratch computation).run space := rfl
  rw [Checks.run_bind, used]
  rcases (inScratch computation).run space with ⟨error | result, after⟩ <;> rfl

theorem run_liftM
    {Result : Type}
    (decoded : Except VerifyError Result)
    (space : Scratch) :
    (liftM decoded : ExceptT VerifyError (StateM Scratch) Result).run.run space =
      (decoded, space) := rfl

theorem mapM_liftM
    {Value Result : Type}
    (compute : Value → Except VerifyError Result)
    (values : List Value) :
    (values.mapM fun value => (liftM (compute value) :
        ExceptT VerifyError (StateM Scratch) Result)) = liftM (values.mapM compute) := by
  induction values with
  | nil => rfl
  | cons value rest inductionHypothesis =>
      rw [List.mapM_cons, List.mapM_cons, inductionHypothesis]
      cases compute value with
      | error error => rfl
      | ok result => cases rest.mapM compute <;> rfl

/-- The number of bytes that a pairing check needs: none for bytes that are refused. -/
def pairingCheckBytes (bytes : List UInt8) : Nat :=
  if bytes.length % pairSize = 0 ∧ (decodePairs (bytes.length / pairSize) bytes).isOk then
    bytes.length
  else 0

/-- Pairs that decode are checked in scratch space. -/
theorem findsAnswer_pairingCheck
    {bytes : List UInt8}
    (nonempty : bytes ≠ [])
    (whole : bytes.length % pairSize = 0)
    {pairs : List (G1.Affine × G2.Affine)}
    (decoded : decodePairs (bytes.length / pairSize) bytes = .ok pairs) :
    FindsAnswer (pairingCheck bytes) (pairingCheckBytes bytes)
      (.ok (Pairing.pairingProduct pairs).isOne) := by
  have all : pairingCheckBytes bytes = ProjectivePoint.storedSize Curve.g2 * pairs.length := by
    rw [pairingCheckBytes, decoded, if_pos ⟨whole, rfl⟩, length_decodePairs decoded]
    exact (Nat.mul_div_cancel' (Nat.dvd_of_mod_eq_zero whole)).symm
  rw [all]
  refine .inScratch (Pairing.pairingProductIn_takes pairs) Gt.isOne fun space => ?_
  unfold pairingCheck
  dsimp only
  rw [if_neg (not_not_intro whole), if_neg (by rwa [List.isEmpty_iff]), decoded, Checks.run_bind,
    run_liftM]
  exact run_inScratch_finish _ Gt.isOne space

theorem exists_findsAnswer_pairingCheck (bytes : List UInt8) :
    ∃ value, FindsAnswer (pairingCheck bytes) (pairingCheckBytes bytes) value := by
  by_cases whole : bytes.length % pairSize = 0
  · by_cases empty : bytes = []
    · subst empty
      exact ⟨.ok true, .atOnce nofun fun _ => rfl⟩
    cases decoded : decodePairs (bytes.length / pairSize) bytes with
    | error error =>
        have none : pairingCheckBytes bytes = 0 := by
          rw [pairingCheckBytes, decoded]
          exact if_neg fun both => nomatch both.2
        have refused := reports_decodePairs _ _ error decoded
        rw [none]
        refine ⟨.error error, .atOnce (not_isExhausted_of_reports (.error refused)) fun space => ?_⟩
        unfold pairingCheck
        dsimp only
        rw [if_neg (not_not_intro whole), if_neg (by rwa [List.isEmpty_iff]), decoded]
        rfl
    | ok pairs => exact ⟨_, findsAnswer_pairingCheck empty whole decoded⟩
  · have none : pairingCheckBytes bytes = 0 := if_neg fun both => whole both.1
    rw [none]
    refine ⟨.error (.invalidPoint (.invalidLength ((bytes.length / pairSize + 1) * pairSize)
      bytes.length)), .atOnce nofun fun space => ?_⟩
    unfold pairingCheck
    dsimp only
    rw [if_pos whole]
    rfl

/-- The default capacity is enough for 1365 pairs. -/
theorem pairingCheckBytes_le_defaultCapacity
    {bytes : List UInt8}
    (few : bytes.length < 192 * 1366) :
    pairingCheckBytes bytes ≤ Scratch.defaultCapacity := by
  unfold pairingCheckBytes
  split
  · rename_i whole
    have pairs := whole.1
    unfold pairSize at pairs
    unfold Scratch.defaultCapacity
    omega
  · exact Nat.zero_le _

/-- The number of bytes that a sum of multiples needs: none for bytes that are refused. -/
def multiScalarMulBytes (points scalars : List (List UInt8)) : Nat :=
  if points.length = scalars.length ∧ (points.mapM (decode Curve.g1)).isOk ∧
      (scalars.mapM decodeScalar).isOk then
    ProjectivePoint.multiScalarBytes Curve.g1 points.length
  else 0

/-- Points and scalars that decode are summed in scratch space. -/
theorem findsAnswer_multiScalarMul
    {points scalars : List (List UInt8)}
    (lengths : points.length = scalars.length)
    {decoded : List G1.Affine}
    (decodedPoints : points.mapM (decode Curve.g1) = .ok decoded)
    {multipliers : List Fr}
    (decodedScalars : scalars.mapM decodeScalar = .ok multipliers) :
    FindsAnswer (multiScalarMul points scalars) (multiScalarMulBytes points scalars)
      (.ok (encode (ProjectivePoint.multiScalarSum decoded multipliers))) := by
  have all : multiScalarMulBytes points scalars =
      ProjectivePoint.multiScalarBytes Curve.g1 (decoded.zip multipliers).length := by
    rw [multiScalarMulBytes, decodedPoints, decodedScalars, if_pos ⟨lengths, rfl, rfl⟩,
      List.length_zip, Checks.length_eq_of_mapM_eq_ok decodedPoints,
      Checks.length_eq_of_mapM_eq_ok decodedScalars, ← lengths, Nat.min_self]
  rw [all]
  refine .inScratch
    (ProjectivePoint.multiScalarMul_takes (by decide) decoded multipliers) encode fun space => ?_
  unfold multiScalarMul
  rw [if_neg (not_not_intro lengths), mapM_liftM, mapM_liftM, decodedPoints, decodedScalars]
  dsimp only
  rw [Checks.run_bind, run_liftM]
  dsimp only
  rw [Checks.run_bind, run_liftM]
  exact run_inScratch_finish _ encode space

/-- Points and scalars that do not decode, or differ in number, are refused. -/
theorem findsAnswer_multiScalarMul_of_refused
    {points scalars : List (List UInt8)}
    (refused : ¬(points.length = scalars.length ∧ (points.mapM (decode Curve.g1)).isOk ∧
      (scalars.mapM decodeScalar).isOk)) :
    ∃ error, FindsAnswer (multiScalarMul points scalars) (multiScalarMulBytes points scalars)
      (.error error) := by
  rw [multiScalarMulBytes, if_neg refused]
  by_cases lengths : points.length = scalars.length
  swap
  · refine ⟨.badInputs points.length scalars.length, .atOnce nofun fun space => ?_⟩
    unfold multiScalarMul
    rw [if_pos lengths]
    rfl
  have reportsPoints := Checks.Reports.mapM (reports_decode Curve.g1) points
  have reportsScalars := Checks.Reports.mapM reports_decodeScalar scalars
  cases decodedPoints : points.mapM (decode Curve.g1) with
  | error error =>
      have failed := reportsPoints error decodedPoints
      refine ⟨error, .atOnce (not_isExhausted_of_reports (.error failed)) fun space => ?_⟩
      unfold multiScalarMul
      rw [if_neg (not_not_intro lengths), mapM_liftM, decodedPoints]
      rfl
  | ok decoded =>
      cases decodedScalars : scalars.mapM decodeScalar with
      | error error =>
          have failed := reportsScalars error decodedScalars
          refine ⟨error, .atOnce (not_isExhausted_of_reports (.error failed)) fun space => ?_⟩
          unfold multiScalarMul
          rw [if_neg (not_not_intro lengths), mapM_liftM, mapM_liftM, decodedPoints,
            decodedScalars]
          rfl
      | ok multipliers =>
          rw [decodedPoints, decodedScalars] at refused
          exact absurd ⟨lengths, rfl, rfl⟩ refused

/-- A sum of multiples has its answer at once or finds it in scratch space. -/
theorem multiScalarMul_cases (points scalars : List (List UInt8)) :
    (∃ error, FindsAnswer (multiScalarMul points scalars) (multiScalarMulBytes points scalars)
        (.error error)) ∨
      ∃ decoded multipliers, points.length = scalars.length ∧
        points.mapM (decode Curve.g1) = .ok decoded ∧
        scalars.mapM decodeScalar = .ok multipliers ∧
        FindsAnswer (multiScalarMul points scalars) (multiScalarMulBytes points scalars)
          (.ok (encode (ProjectivePoint.multiScalarSum decoded multipliers))) := by
  by_cases accepted : points.length = scalars.length ∧ (points.mapM (decode Curve.g1)).isOk ∧
      (scalars.mapM decodeScalar).isOk
  · obtain ⟨lengths, pointsOk, scalarsOk⟩ := accepted
    obtain ⟨decoded, decodedPoints⟩ := Checks.isOk_iff.mp pointsOk
    obtain ⟨multipliers, decodedScalars⟩ := Checks.isOk_iff.mp scalarsOk
    exact Or.inr ⟨decoded, multipliers, lengths, decodedPoints, decodedScalars,
      findsAnswer_multiScalarMul lengths decodedPoints decodedScalars⟩
  · exact Or.inl (findsAnswer_multiScalarMul_of_refused accepted)

theorem exists_findsAnswer_multiScalarMul (points scalars : List (List UInt8)) :
    ∃ value, FindsAnswer (multiScalarMul points scalars)
      (multiScalarMulBytes points scalars) value := by
  rcases multiScalarMul_cases points scalars with ⟨error, finds⟩ | ⟨_, _, -, -, -, finds⟩
  · exact ⟨_, finds⟩
  · exact ⟨_, finds⟩

/-- The default capacity is enough for the sum of 7427 multiples. -/
theorem multiScalarMulBytes_le
    {points : List (List UInt8)}
    (few : points.length ≤ 7427)
    (scalars : List (List UInt8)) :
    multiScalarMulBytes points scalars ≤ Scratch.defaultCapacity := by
  have size : ProjectivePoint.storedSize Curve.g1 = 96 := by decide
  unfold multiScalarMulBytes ProjectivePoint.multiScalarBytes ProjectivePoint.windowWidth
    Scratch.defaultCapacity
  rw [size]
  split_ifs <;> omega

/-! ## Identities -/

theorem decodePairs_zeros (count : Nat) :
    decodePairs count (List.replicate (count * pairSize) 0) =
      .ok (List.replicate count (.identity, .identity)) := by
  have first : decode Curve.g1 (List.replicate 64 0) = .ok .identity :=
    congrArg (·.mapError VerifyError.invalidPoint) (G1.ofBytes?_toBytes 0)
  have second : decode Curve.g2 (List.replicate 128 0) = .ok .identity :=
    congrArg (·.mapError VerifyError.invalidPoint) (G2.ofBytes?_toBytes (zero_mem G2.subgroup))
  induction count with
  | zero => rfl
  | succ count inductionHypothesis =>
      have take : (List.replicate ((count + 1) * pairSize) (0 : UInt8)).take 64 =
          List.replicate 64 0 := by
        rw [List.take_replicate, Nat.min_eq_left (by unfold pairSize; omega)]
      have middle : ((List.replicate ((count + 1) * pairSize) (0 : UInt8)).drop 64).take 128 =
          List.replicate 128 0 := by
        rw [List.drop_replicate, List.take_replicate, Nat.min_eq_left (by unfold pairSize; omega)]
      have rest : (List.replicate ((count + 1) * pairSize) (0 : UInt8)).drop pairSize =
          List.replicate (count * pairSize) 0 := by
        rw [List.drop_replicate, Nat.succ_mul, Nat.add_sub_cancel]
      rw [decodePairs, take, first, middle, second, rest, inductionHypothesis,
        List.replicate_succ]
      rfl

theorem pairingProduct_identities (count : Nat) :
    (Pairing.pairingProduct (List.replicate count (.identity, .identity))).isOne = true := by
  induction count with
  | zero =>
      rw [List.replicate_zero, Pairing.pairingProduct_nil]
      exact (Fq12.isOne_iff _).mpr Gt.value_one
  | succ count inductionHypothesis =>
      rwa [List.replicate_succ, Pairing.pairingProduct_cons_of_hasIdentity (Or.inl rfl)]

/-- Pairs of identities pass the check, which needs 192 bytes for each of them. -/
theorem findsAnswer_pairingCheck_zeros {count : Nat} (positive : 0 < count) :
    FindsAnswer (pairingCheck (List.replicate (count * pairSize) 0)) (count * pairSize)
      (.ok true) := by
  have length : (List.replicate (count * pairSize) (0 : UInt8)).length = count * pairSize :=
    List.length_replicate
  have nonempty : List.replicate (count * pairSize) (0 : UInt8) ≠ [] := by
    rw [← List.length_pos_iff, length]
    exact Nat.mul_pos positive (by decide)
  have whole : (List.replicate (count * pairSize) (0 : UInt8)).length % pairSize = 0 := by
    rw [length, Nat.mul_mod_left]
  have decoded : decodePairs ((List.replicate (count * pairSize) (0 : UInt8)).length / pairSize)
      (List.replicate (count * pairSize) 0) =
        .ok (List.replicate count (.identity, .identity)) := by
    rw [length, Nat.mul_div_cancel _ (by decide)]
    exact decodePairs_zeros count
  have finds := findsAnswer_pairingCheck nonempty whole decoded
  rwa [pairingCheckBytes, if_pos ⟨whole, by rw [decoded]; rfl⟩, length,
    pairingProduct_identities] at finds

end Encoded
end Groth16
