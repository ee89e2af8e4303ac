import Groth16.Proofs.Batch.Recording
import Groth16.Proofs.Reputation.EnvelopeFormat
import Groth16.Proofs.Reputation.ExclusionPath
import Groth16.Proofs.Verification.Encoded
import Groth16.Reputation.Policy

/-!
# Decisions of relying parties

A relying party makes its checks in a fixed order. It accepts an envelope that passes all of
them, and otherwise the first one that fails gives the reason of the rejection or the error.
Errors come from thresholds out of range and from malformed paths, proofs and commitments alone.
-/

namespace Groth16

/-- Why a check fails. -/
inductive Obstacle where
  | malformed (error : VerifyError)
  | reject (reason : Rejection)

namespace Obstacle

/-- The outcome of checks of which the first to fail fails for this reason. -/
def outcome : Option Obstacle → Except VerifyError Verdict
  | none => .ok .accepted
  | some (malformed error) => .error error
  | some (reject reason) => .ok (.rejected reason)

/-- The check fails unless the condition holds. -/
def require (condition : Prop) [Decidable condition] (obstacle : Obstacle) : Option Obstacle :=
  if condition then none else some obstacle

/-- The check fails if its computation does or has a negative result. -/
def ofCheck (reason : Rejection) : Except VerifyError Bool → Option Obstacle
  | .ok true => none
  | .ok false => some (reject reason)
  | .error error => some (malformed error)

theorem require_eq_none_iff
    {condition : Prop}
    [Decidable condition]
    {obstacle : Obstacle} :
    require condition obstacle = none ↔ condition := by
  unfold require
  split_ifs with holds
  · exact iff_of_true rfl holds
  · exact iff_of_false nofun holds

theorem ofCheck_eq_none_iff
    {reason : Rejection}
    {check : Except VerifyError Bool} :
    ofCheck reason check = none ↔ check = .ok true := by
  rcases check with error | _ | _
  · exact iff_of_false nofun nofun
  · exact iff_of_false nofun nofun
  · exact iff_of_true rfl rfl

theorem require_eq_some_iff
    {condition : Prop}
    [Decidable condition]
    {expected obstacle : Obstacle} :
    require condition expected = some obstacle ↔ ¬condition ∧ expected = obstacle := by
  unfold require
  split_ifs with holds
  · exact iff_of_false nofun fun both => both.1 holds
  · rw [Option.some_inj]
    exact (and_iff_right holds).symm

theorem ofCheck_eq_malformed_iff
    {reason : Rejection}
    {check : Except VerifyError Bool}
    {error : VerifyError} :
    ofCheck reason check = some (malformed error) ↔ check = .error error := by
  rcases check with given | _ | _
  · rw [ofCheck, Option.some_inj, malformed.injEq, Except.error.injEq]
  · exact iff_of_false nofun nofun
  · exact iff_of_false nofun nofun

theorem outcome_injective : Function.Injective outcome := by
  rintro (_ | _ | _) (_ | _ | _) same <;> cases same <;> rfl

end Obstacle

namespace RelyingParty

open Obstacle

/-- An envelope is in time if there is no limit or the limit is not passed. Times are words. -/
def InTime (policy : Policy) (timestamp : UInt32) (now : UInt64) : Prop :=
  policy.maxProofAge = 0 ∨ now ≤ timestamp.toUInt64 + policy.maxProofAge.toUInt64

instance (policy : Policy) (timestamp : UInt32) (now : UInt64) :
    Decidable (InTime policy timestamp now) :=
  inferInstanceAs (Decidable (_ ∨ _))

def rangeCheck (threshold : UInt16) : Option Obstacle :=
  require (threshold.toNat ≤ 100) (.malformed (.outOfRange (.scoreOutOfRange threshold.toNat)))

/-- The checks on the statement of an envelope. -/
def statementChecks (policy : Policy) (envelope : Envelope) (demand : Demand) :
    List (Option Obstacle) :=
  [require (envelope.kind = .reputation) (.reject (.wrongKind envelope.kind)),
    require (envelope.commitment = demand.expectedCommitment) (.reject .commitmentMismatch),
    require (demand.threshold ≤ envelope.threshold)
      (.reject (.belowThreshold envelope.threshold demand.threshold)),
    require (policy.minThreshold ≤ envelope.threshold)
      (.reject (.belowThreshold envelope.threshold policy.minThreshold)),
    require (InTime policy envelope.timestamp demand.now)
      (.reject (.expired envelope.timestamp demand.now))]

def absenceCheck (policy : Policy) (envelope : Envelope) (demand : Demand) : Option Obstacle :=
  ofCheck .blacklisted (isCleared policy envelope.agent demand.exclusionPath)

def proofCheck (key : VerifyingKey) (envelope : Envelope) : Option Obstacle :=
  ofCheck .proofRejected (key.verifyBytes envelope.proof.val envelope.publicInputs)

/-- The checks before the blacklist. -/
def firstChecks (policy : Policy) (envelope : Envelope) (demand : Demand) :
    List (Option Obstacle) :=
  rangeCheck envelope.threshold :: rangeCheck demand.threshold ::
    statementChecks policy envelope demand

/-- All checks in their order. -/
def checks (party : RelyingParty) (envelope : Envelope) (demand : Demand) :
    List (Option Obstacle) :=
  firstChecks party.policy envelope demand ++
    [absenceCheck party.policy envelope demand, proofCheck party.key envelope]

/-- The sum of two times does not overflow. -/
theorem toNat_deadline (timestamp maxProofAge : UInt32) :
    (timestamp.toUInt64 + maxProofAge.toUInt64).toNat = timestamp.toNat + maxProofAge.toNat := by
  have := timestamp.toNat_lt
  have := maxProofAge.toNat_lt
  rw [UInt64.toNat_add, UInt32.toNat_toUInt64, UInt32.toNat_toUInt64]
  omega

theorem isExpired_eq_false_iff
    {policy : Policy}
    {timestamp : UInt32}
    {now : UInt64} :
    isExpired policy timestamp now = false ↔ InTime policy timestamp now := by
  rw [isExpired, InTime, UInt64.le_iff_toNat_le, toNat_deadline, Bool.and_eq_false_iff]
  simp only [ne_eq, decide_not, Bool.not_eq_false', decide_eq_true_eq, decide_eq_false_iff_not,
    Nat.not_lt]

/-- What screening gives if this is the first of its checks to fail. -/
def screened : Option Obstacle → Except VerifyError (Option Rejection)
  | none => .ok none
  | some (.malformed error) => .error error
  | some (.reject reason) => .ok (some reason)

/-- The checks of screening. -/
def screenChecks (policy : Policy) (envelope : Envelope) (demand : Demand) :
    List (Option Obstacle) :=
  statementChecks policy envelope demand ++ [absenceCheck policy envelope demand]

/-- Screening with one more check in front. -/
theorem screened_cons
    {failed condition : Prop}
    [Decidable failed]
    [Decidable condition]
    {reason : Rejection}
    {next : Except VerifyError (Option Rejection)}
    {checks : List (Option Obstacle)}
    (opposite : failed ↔ ¬condition)
    (rest : next = screened (checks.findSome? id)) :
    (if failed then pure (some reason) else next) =
      screened ((require condition (.reject reason) :: checks).findSome? id) := by
  by_cases holds : condition
  · rw [if_neg (mt opposite.mp (not_not_intro holds)), require, if_pos holds, rest]
    rfl
  · rw [if_pos (opposite.mpr holds), require, if_neg holds]
    rfl

theorem screen_eq
    (policy : Policy)
    (envelope : Envelope)
    (demand : Demand) :
    screen policy envelope demand =
      screened ((screenChecks policy envelope demand).findSome? id) := by
  apply screened_cons Iff.rfl
  apply screened_cons Iff.rfl
  apply screened_cons UInt16.not_le.symm
  apply screened_cons UInt16.not_le.symm
  apply screened_cons
  · rw [← isExpired_eq_false_iff, Bool.not_eq_false]
  · unfold absenceCheck
    rcases isCleared policy envelope.agent demand.exclusionPath with error | _ | _ <;> rfl

theorem run_engine_verify_bind
    {Value : Type}
    (key : VerifyingKey)
    (proof : List UInt8)
    (inputs : List (List UInt8))
    (nanoseconds : Nat)
    (value : Bool → Value)
    (engine : Engine) :
    ((Engine.verify key proof inputs nanoseconds >>= fun holds =>
      pure (value holds)).run.run engine).1 = (key.verifyBytes proof inputs).map value := by
  obtain ⟨statistics, run, -⟩ := Engine.verify_run key proof inputs nanoseconds engine
  rw [Checks.run_bind, run]
  cases key.verifyBytes proof inputs <;> rfl

/-- The decision is that of the first check that fails; what the engine records does not
matter. -/
theorem run_verify_fst
    (party : RelyingParty)
    (envelope : Envelope)
    (demand : Demand)
    (nanoseconds : Nat)
    (engine : Engine) :
    ((party.verify envelope demand nanoseconds).run.run engine).1 =
      outcome ((party.checks envelope demand).findSome? id) := by
  unfold verify checks firstChecks rangeCheck
  rw [Envelope.checkThreshold_eq, Envelope.checkThreshold_eq, screen_eq]
  by_cases inRange : envelope.threshold.toNat ≤ 100
  swap
  · rw [if_neg inRange, require, if_neg inRange]
    rfl
  by_cases demandInRange : demand.threshold.toNat ≤ 100
  swap
  · rw [if_pos inRange, if_neg demandInRange, require, require, if_pos inRange,
      if_neg demandInRange]
    rfl
  rw [if_pos inRange, if_pos demandInRange, require, require, if_pos inRange, if_pos demandInRange]
  change _ = outcome ((screenChecks party.policy envelope demand ++
    [proofCheck party.key envelope]).findSome? id)
  rw [List.findSome?_append]
  rcases (screenChecks party.policy envelope demand).findSome? id with _ | error | reason
  · refine (run_engine_verify_bind _ _ _ _ _ _).trans ?_
    unfold proofCheck
    rcases party.key.verifyBytes envelope.proof.val envelope.publicInputs with error | _ | _ <;> rfl
  · rfl
  · rfl

/-! ## What the checks mean -/

/-- The agent is shown not to be on the blacklist, if there is one. -/
def IsAbsent (policy : Policy) (envelope : Envelope) (demand : Demand) : Prop :=
  policy.blacklistRoot = none ∨ ∃ root path, policy.blacklistRoot = some root ∧
    demand.exclusionPath = some path ∧
    ExclusionTree.verifyAbsent root.val envelope.agent.val path = .ok true

/-- The envelope states what is demanded. -/
structure Suits (policy : Policy) (envelope : Envelope) (demand : Demand) : Prop where
  threshold_le : envelope.threshold.toNat ≤ 100
  demanded_le : demand.threshold.toNat ≤ 100
  kind_eq : envelope.kind = .reputation
  commitment_eq : envelope.commitment = demand.expectedCommitment
  demanded_reached : demand.threshold ≤ envelope.threshold
  minimum_reached : policy.minThreshold ≤ envelope.threshold
  inTime : InTime policy envelope.timestamp demand.now

/-- The envelope meets the demand and the policy. -/
structure Meets (party : RelyingParty) (envelope : Envelope) (demand : Demand) : Prop
    extends Suits party.policy envelope demand where
  isAbsent : IsAbsent party.policy envelope demand
  holds : party.key.verifyBytes envelope.proof.val
    [Bytes.ofNat 32 envelope.threshold.toNat, envelope.commitment.val] = .ok true

theorem isCleared_eq_true_iff
    {policy : Policy}
    {envelope : Envelope}
    {demand : Demand} :
    isCleared policy envelope.agent demand.exclusionPath = .ok true ↔
      IsAbsent policy envelope demand := by
  unfold isCleared IsAbsent
  cases policy.blacklistRoot with
  | none => exact iff_of_true rfl (Or.inl rfl)
  | some root =>
      cases demand.exclusionPath with
      | none =>
          refine iff_of_false nofun ?_
          rintro (impossible | ⟨_, _, -, impossible, -⟩)
          · cases impossible
          · cases impossible
      | some path =>
          constructor
          · intro absent
            exact Or.inr ⟨root, path, rfl, rfl, absent⟩
          · rintro (impossible | ⟨_, _, sameRoot, samePath, absent⟩)
            · cases impossible
            · cases sameRoot
              cases samePath
              exact absent

/-- The check of the blacklist is an error if there is one and the path is malformed. -/
theorem isCleared_eq_error_iff
    {policy : Policy}
    {envelope : Envelope}
    {demand : Demand} :
    (∃ error, isCleared policy envelope.agent demand.exclusionPath = .error error) ↔
      ∃ root path, policy.blacklistRoot = some root ∧ demand.exclusionPath = some path ∧
        ¬ExclusionTree.IsPath path := by
  unfold isCleared
  cases policy.blacklistRoot with
  | none => exact iff_of_false nofun nofun
  | some root =>
      cases demand.exclusionPath with
      | none => exact iff_of_false nofun nofun
      | some path =>
          rw [Checks.exists_eq_error_iff, ExclusionTree.exists_verifyAbsent_eq_ok_iff]
          constructor
          · intro malformed
            exact ⟨root, path, rfl, rfl, malformed⟩
          · rintro ⟨_, _, -, samePath, malformed⟩
            cases samePath
            exact malformed

/-- The public inputs of an envelope, with their size. -/
def statementInputs (envelope : Envelope) : List (Bytes.Fixed 32) :=
  [⟨Bytes.ofNat 32 envelope.threshold.toNat, Bytes.length_ofNat _ _⟩, envelope.commitment]

/-- A threshold is always below the group order. -/
theorem toNat_threshold_lt (threshold : UInt16) :
    Bytes.toNat (Bytes.ofNat 32 threshold.toNat) < groupOrder := by
  have word_lt : 2 ^ 16 < groupOrder := by decide
  rw [Bytes.toNat_ofNat]
  exact lt_of_le_of_lt (Nat.mod_le _ _) (threshold.toNat_lt.trans word_lt)

theorem findSome?_inputError (envelope : Envelope) :
    (statementInputs envelope).findSome? inputError = inputError envelope.commitment := by
  have passes : inputError ⟨Bytes.ofNat 32 envelope.threshold.toNat, Bytes.length_ofNat _ _⟩ =
      none := if_pos (toNat_threshold_lt envelope.threshold)
  exact (List.findSome?_cons_of_isNone (Option.isNone_iff_eq_none.mpr passes)).trans
    List.findSome?_singleton

/-- Under a key with two inputs verification is an error for a malformed proof or commitment
alone. -/
theorem verifyBytes_eq_error_iff
    {key : VerifyingKey}
    (two : key.publicInputs = 2)
    (envelope : Envelope) :
    (∃ error, key.verifyBytes envelope.proof.val envelope.publicInputs = .error error) ↔
      (∃ error, Proof.ofBytes? envelope.proof.val = .error error) ∨
        groupOrder ≤ Bytes.toNat envelope.commitment.val := by
  have counted : key.checkInputCount envelope.publicInputs.length = .ok () := if_pos two.symm
  have bounded : (statementInputs envelope).length ≤ VerifyingKey.maxPublicInputs :=
    show 2 ≤ 64 by decide
  have decoded : decodeInputs envelope.publicInputs = _ := decodeInputs_eq bounded
  rw [VerifyingKey.verifyBytes, counted, Checks.ok_bind, decoded, findSome?_inputError, inputError]
  rcases Proof.ofBytes? envelope.proof.val with error | proof
  · exact iff_of_true ⟨error, rfl⟩ (Or.inl ⟨error, rfl⟩)
  · by_cases canonical : Bytes.toNat envelope.commitment.val < groupOrder
    · have nonempty : key.ic ≠ [] := by
        intro empty
        rw [VerifyingKey.publicInputs, empty] at two
        cases two
      obtain ⟨holds, verified⟩ := key.exists_verify_eq_ok nonempty proof
        (show ((statementInputs envelope).map fun bytes => (Bytes.toNat bytes.val : Fr)).length = _
          from two.symm)
      rw [if_pos canonical, Checks.ok_bind, Checks.unlessError_none, Checks.ok_bind, verified]
      constructor
      · rintro ⟨_, impossible⟩
        cases impossible
      · rintro (⟨_, impossible⟩ | large)
        · cases impossible
        · exact absurd canonical (Nat.not_lt_of_le large)
    · rw [if_neg canonical]
      exact iff_of_true ⟨_, rfl⟩ (Or.inr (Nat.le_of_not_lt canonical))

theorem publicInputs_of_make?
    {key : VerifyingKey}
    {policy : Policy}
    {party : RelyingParty}
    (made : make? key policy = .ok party) :
    party.key.publicInputs = 2 := by
  obtain ⟨-, -, fits⟩ := Checks.bind_eq_ok.mp made
  obtain ⟨two, equal⟩ := Checks.guard_eq_ok.mp fits
  cases equal
  exact not_not.mp two

theorem firstChecks_eq_none_iff
    {policy : Policy}
    {envelope : Envelope}
    {demand : Demand} :
    (firstChecks policy envelope demand).findSome? id = none ↔ Suits policy envelope demand := by
  simp only [List.findSome?_eq_none_iff, firstChecks, statementChecks, rangeCheck,
    List.forall_mem_cons, id, require_eq_none_iff, List.not_mem_nil, false_imp_iff, implies_true,
    and_true]
  constructor
  · rintro ⟨inRange, demandInRange, kind, commitment, demanded, minimum, inTime⟩
    exact ⟨inRange, demandInRange, kind, commitment, demanded, minimum, inTime⟩
  · rintro ⟨inRange, demandInRange, kind, commitment, demanded, minimum, inTime⟩
    exact ⟨inRange, demandInRange, kind, commitment, demanded, minimum, inTime⟩

/-- The first checks decide before those of the blacklist and the proof. -/
theorem findSome?_checks
    (party : RelyingParty)
    (envelope : Envelope)
    (demand : Demand) :
    (party.checks envelope demand).findSome? id =
      ((firstChecks party.policy envelope demand).findSome? id).or
        ((absenceCheck party.policy envelope demand).or (proofCheck party.key envelope)) := by
  rw [checks, List.findSome?_append, List.findSome?_cons, List.findSome?_singleton, id, id]
  cases absenceCheck party.policy envelope demand <;> rfl

theorem findSome?_checks_eq_none_iff
    {party : RelyingParty}
    {envelope : Envelope}
    {demand : Demand} :
    (party.checks envelope demand).findSome? id = none ↔ party.Meets envelope demand := by
  rw [findSome?_checks, Option.or_eq_none_iff, Option.or_eq_none_iff, firstChecks_eq_none_iff,
    absenceCheck, proofCheck, ofCheck_eq_none_iff, ofCheck_eq_none_iff, isCleared_eq_true_iff]
  constructor
  · rintro ⟨suits, isAbsent, holds⟩
    exact ⟨suits, isAbsent, holds⟩
  · rintro ⟨suits, isAbsent, holds⟩
    exact ⟨suits, isAbsent, holds⟩

/-- Of the first checks those on the range alone are errors. -/
theorem exists_firstChecks_malformed_iff
    {policy : Policy}
    {envelope : Envelope}
    {demand : Demand} :
    (∃ error, (firstChecks policy envelope demand).findSome? id = some (.malformed error)) ↔
      100 < envelope.threshold.toNat ∨ 100 < demand.threshold.toNat := by
  constructor
  · rintro ⟨error, found⟩
    obtain ⟨check, member, failed⟩ := List.exists_of_findSome?_eq_some found
    simp only [firstChecks, statementChecks, rangeCheck, List.mem_cons, List.not_mem_nil,
      or_false] at member
    rcases member with rfl | rfl | rfl | rfl | rfl | rfl | rfl <;>
      obtain ⟨violated, same⟩ := require_eq_some_iff.mp failed
    · exact Or.inl (Nat.lt_of_not_le violated)
    · exact Or.inr (Nat.lt_of_not_le violated)
    all_goals cases same
  · intro outside
    by_cases inRange : envelope.threshold.toNat ≤ 100
    · have demandOutside : ¬demand.threshold.toNat ≤ 100 := by omega
      rw [firstChecks, rangeCheck, rangeCheck, require, require, if_pos inRange,
        if_neg demandOutside]
      exact ⟨_, rfl⟩
    · rw [firstChecks, rangeCheck, require, if_neg inRange]
      exact ⟨_, rfl⟩

/-- The decision on an envelope. -/
def decision
    (party : RelyingParty)
    (envelope : Envelope)
    (demand : Demand)
    (nanoseconds : Nat)
    (engine : Engine) : Except VerifyError Verdict :=
  ((party.verify envelope demand nanoseconds).run.run engine).1

/-- An error comes from a threshold out of range, or, when the checks before pass, from a
malformed path, proof or commitment. -/
theorem exists_checks_malformed_iff
    {party : RelyingParty}
    (two : party.key.publicInputs = 2)
    {envelope : Envelope}
    {demand : Demand} :
    (∃ error, (party.checks envelope demand).findSome? id = some (.malformed error)) ↔
      100 < envelope.threshold.toNat ∨ 100 < demand.threshold.toNat ∨
        Suits party.policy envelope demand ∧
          ((∃ root path, party.policy.blacklistRoot = some root ∧
              demand.exclusionPath = some path ∧ ¬ExclusionTree.IsPath path) ∨
            IsAbsent party.policy envelope demand ∧
              ((∃ error, Proof.ofBytes? envelope.proof.val = .error error) ∨
                groupOrder ≤ Bytes.toNat envelope.commitment.val)) := by
  constructor
  · rintro ⟨error, found⟩
    rw [findSome?_checks, Option.or_eq_some_iff] at found
    rcases found with early | ⟨passed, late⟩
    · exact or_assoc.mp (Or.inl (exists_firstChecks_malformed_iff.mp ⟨error, early⟩))
    · refine Or.inr (Or.inr ⟨firstChecks_eq_none_iff.mp passed, ?_⟩)
      rcases Option.or_eq_some_iff.mp late with malformed | ⟨cleared, malformed⟩
      · exact Or.inl (isCleared_eq_error_iff.mp ⟨error, ofCheck_eq_malformed_iff.mp malformed⟩)
      · exact Or.inr ⟨isCleared_eq_true_iff.mp (ofCheck_eq_none_iff.mp cleared),
          (verifyBytes_eq_error_iff two envelope).mp
            ⟨error, ofCheck_eq_malformed_iff.mp malformed⟩⟩
  · intro cause
    rw [← or_assoc, ← exists_firstChecks_malformed_iff] at cause
    simp only [findSome?_checks, Option.or_eq_some_iff]
    rcases cause with ⟨error, early⟩ | ⟨suits, malformedPath | ⟨isAbsent, malformedRest⟩⟩
    · exact ⟨error, Or.inl early⟩
    · obtain ⟨error, failed⟩ := isCleared_eq_error_iff.mpr malformedPath
      exact ⟨error, Or.inr ⟨firstChecks_eq_none_iff.mpr suits,
        Or.inl (ofCheck_eq_malformed_iff.mpr failed)⟩⟩
    · obtain ⟨error, failed⟩ := (verifyBytes_eq_error_iff two envelope).mpr malformedRest
      have cleared : absenceCheck party.policy envelope demand = none :=
        ofCheck_eq_none_iff.mpr (isCleared_eq_true_iff.mpr isAbsent)
      exact ⟨error, Or.inr ⟨firstChecks_eq_none_iff.mpr suits,
        Or.inr ⟨cleared, ofCheck_eq_malformed_iff.mpr failed⟩⟩⟩

/-- A relying party accepts exactly the envelopes that meet the demand and its policy. It rejects
for the first check that fails, and gives an error only for a threshold out of range or for a
malformed path, proof or commitment when the checks before pass. -/
theorem decision_spec
    {key : VerifyingKey}
    {policy : Policy}
    {party : RelyingParty}
    (made : make? key policy = .ok party)
    (envelope : Envelope)
    (demand : Demand)
    (nanoseconds : Nat)
    (engine : Engine) :
    (party.decision envelope demand nanoseconds engine = .ok .accepted ↔
      party.Meets envelope demand) ∧
    (∀ reason, party.decision envelope demand nanoseconds engine = .ok (.rejected reason) ↔
      (party.checks envelope demand).findSome? id = some (.reject reason)) ∧
    (∀ error, party.decision envelope demand nanoseconds engine = .error error ↔
      (party.checks envelope demand).findSome? id = some (.malformed error)) ∧
    ((∃ error, party.decision envelope demand nanoseconds engine = .error error) ↔
      100 < envelope.threshold.toNat ∨ 100 < demand.threshold.toNat ∨
        Suits party.policy envelope demand ∧
          ((∃ root path, party.policy.blacklistRoot = some root ∧
              demand.exclusionPath = some path ∧ ¬ExclusionTree.IsPath path) ∨
            IsAbsent party.policy envelope demand ∧
              ((∃ error, Proof.ofBytes? envelope.proof.val = .error error) ∨
                groupOrder ≤ Bytes.toNat envelope.commitment.val))) ∧
    (envelope.timestamp.toUInt64 + party.policy.maxProofAge.toUInt64).toNat =
      envelope.timestamp.toNat + party.policy.maxProofAge.toNat := by
  have error_iff (error : VerifyError) :
      party.decision envelope demand nanoseconds engine = .error error ↔
        (party.checks envelope demand).findSome? id = some (.malformed error) := by
    rw [decision, run_verify_fst]
    exact outcome_injective.eq_iff (b := some (.malformed error))
  refine ⟨?_, fun reason => ?_, error_iff, ?_, toNat_deadline _ _⟩
  · rw [decision, run_verify_fst, ← findSome?_checks_eq_none_iff]
    exact outcome_injective.eq_iff (b := none)
  · rw [decision, run_verify_fst]
    exact outcome_injective.eq_iff (b := some (.reject reason))
  · rw [exists_congr error_iff]
    exact exists_checks_malformed_iff (publicInputs_of_make? made)

/-- An envelope in its last second that lacks the path it needs. -/
theorem decision_spec_of_missing_path :
    let key := VerifyingKey.ofScalars 1 2 3 4 [5, 6, 7]
    let policy : Policy := ⟨3600, 25, some (.zero 32)⟩
    let envelope : Envelope := ⟨.reputation, 25, 1000, .zero 32, .zero 32, .zero 256⟩
    let demand : Demand := ⟨.zero 32, 25, 4600, none⟩
    make? key policy = .ok ⟨key, policy⟩ ∧
      decision ⟨key, policy⟩ envelope demand 0 Engine.initial = .ok (.rejected .blacklisted) := by
  intro key policy envelope demand
  have made : make? key policy = .ok ⟨key, policy⟩ := rfl
  have spec := decision_spec made envelope demand 0 Engine.initial
  have suits : Suits policy envelope demand :=
    ⟨by decide, by decide, rfl, rfl, by decide, by decide, Or.inr (by decide)⟩
  refine ⟨made, (spec.2.1 .blacklisted).mpr ?_⟩
  rw [findSome?_checks, firstChecks_eq_none_iff.mpr suits]
  rfl

end RelyingParty
end Groth16
