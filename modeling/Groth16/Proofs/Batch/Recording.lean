import Groth16.Engine
import Groth16.Proofs.Batch.Entry

/-!
# What calls record

A tally counts proofs and batches without bound; the counters of the statistics follow it modulo
their size. What a computation adds to the counters is the sum of what its parts add.
-/

namespace Groth16

/-- Numbers of accepted proofs, of failed ones, of batches and of the proofs in them. -/
@[ext]
structure Tally where
  verified : Nat := 0
  failed : Nat := 0
  batches : Nat := 0
  batchedProofs : Nat := 0

namespace Tally

instance : Zero Tally := ⟨{}⟩

instance : Add Tally where
  add first second :=
    ⟨first.verified + second.verified, first.failed + second.failed,
      first.batches + second.batches, first.batchedProofs + second.batchedProofs⟩

theorem add_zero (tally : Tally) : tally + 0 = tally := rfl

/-- The tally of verdicts outside of batches. -/
def ofVerdicts (verdicts : List Bool) : Tally where
  verified := verdicts.count true
  failed := verdicts.count false

theorem ofVerdicts_cons (verdict : Bool) (verdicts : List Bool) :
    ofVerdicts (verdict :: verdicts) = ofVerdicts [verdict] + ofVerdicts verdicts := by
  ext
  · change List.count true ([verdict] ++ verdicts) = _
    exact List.count_append
  · change List.count false ([verdict] ++ verdicts) = _
    exact List.count_append
  · rfl
  · rfl

theorem ofVerdicts_map_false {Value : Type} (values : List Value) :
    ofVerdicts (values.map fun _ => false) = { failed := values.length } := by
  rw [List.map_const']
  ext
  · exact List.count_eq_zero.mpr fun member => nomatch List.eq_of_mem_replicate member
  · exact List.count_replicate_self
  · rfl
  · rfl

/-- The tally of one proof: an error counts as a failure. -/
def ofResult : Except VerifyError Bool → Tally
  | .ok holds => ofVerdicts [holds]
  | .error _ => ofVerdicts [false]

/-- The tally of a batch of decoded items: nothing, unless there are verdicts on them. -/
def ofBatch (size : Nat) : Except VerifyError (List Bool) → Tally
  | .ok verdicts => { ofVerdicts verdicts with batches := 1, batchedProofs := size }
  | .error _ => 0

theorem ofBatch_ok (size : Nat) (verdicts : List Bool) :
    ofBatch size (.ok verdicts) =
      { batches := 1, batchedProofs := size } + (ofVerdicts verdicts + 0) := by
  ext
  · exact (Nat.zero_add _).symm
  · exact (Nat.zero_add _).symm
  · rfl
  · rfl

/-- The tally of a batch by its outcomes: an entry that could not be decoded has failed, and is no
proof of the batch. -/
def ofOutcomes : Except VerifyError (List Batch.Outcome) → Tally
  | .ok outcomes => {
      verified := outcomes.countP Batch.Outcome.isValid
      failed := outcomes.countP Batch.Outcome.isRejected +
        outcomes.countP Batch.Outcome.isMalformed
      batches := 1
      batchedProofs := outcomes.countP fun outcome => !outcome.isMalformed }
  | .error _ => 0

/-- The outcomes count the verdicts on the items, and each entry without an item as failed. -/
theorem ofOutcomes_ofList
    {Item : Type}
    {results : List (Except VerifyError Item)}
    {verdicts : List Bool}
    (length : verdicts.length = (Batch.Entries.ofList results).items.length) :
    let entries := Batch.Entries.ofList results
    ofOutcomes (.ok (entries.outcomes verdicts)) = ofBatch entries.items.length (.ok verdicts) +
      (ofVerdicts ((List.range entries.malformedCount).map fun _ => false) + 0) := by
  intro entries
  obtain ⟨valid, rejected, malformed, decoded⟩ := Batch.Entries.countP_outcomes length
  rw [add_zero, ofVerdicts_map_false, List.length_range]
  ext
  · exact valid
  · exact congrArg₂ (· + ·) rejected malformed
  · rfl
  · exact decoded.trans length

end Tally

namespace Statistics

/-- The counters have gone up by the tally. -/
structure Adds (tally : Tally) (before after : Statistics) : Prop where
  verified_eq : after.verified = before.verified + .ofNat tally.verified
  failed_eq : after.failed = before.failed + .ofNat tally.failed
  batches_eq : after.batches = before.batches + .ofNat tally.batches
  batchedProofs_eq : after.batchedProofs = before.batchedProofs + .ofNat tally.batchedProofs

namespace Adds

theorem refl (statistics : Statistics) : Adds 0 statistics statistics where
  verified_eq := (UInt64.add_zero _).symm
  failed_eq := (UInt64.add_zero _).symm
  batches_eq := (UInt64.add_zero _).symm
  batchedProofs_eq := (UInt64.add_zero _).symm

theorem trans
    {first second : Tally}
    {before between after : Statistics}
    (addsFirst : Adds first before between)
    (addsSecond : Adds second between after) :
    Adds (first + second) before after where
  verified_eq := by
    rw [addsSecond.verified_eq, addsFirst.verified_eq, UInt64.add_assoc, ← UInt64.ofNat_add]
    rfl
  failed_eq := by
    rw [addsSecond.failed_eq, addsFirst.failed_eq, UInt64.add_assoc, ← UInt64.ofNat_add]
    rfl
  batches_eq := by
    rw [addsSecond.batches_eq, addsFirst.batches_eq, UInt64.add_assoc, ← UInt64.ofNat_add]
    rfl
  batchedProofs_eq := by
    rw [addsSecond.batchedProofs_eq, addsFirst.batchedProofs_eq, UInt64.add_assoc,
      ← UInt64.ofNat_add]
    rfl

theorem countOutcome (accepted : Bool) (statistics : Statistics) :
    Adds (.ofVerdicts [accepted]) statistics (statistics.countOutcome accepted) := by
  cases accepted with
  | true =>
      exact ⟨rfl, (UInt64.add_zero _).symm, (UInt64.add_zero _).symm, (UInt64.add_zero _).symm⟩
  | false =>
      exact ⟨(UInt64.add_zero _).symm, rfl, (UInt64.add_zero _).symm, (UInt64.add_zero _).symm⟩

theorem countCall (accepted : Bool) (nanoseconds : Nat) (statistics : Statistics) :
    Adds (.ofVerdicts [accepted]) statistics (statistics.countCall accepted nanoseconds) := by
  obtain ⟨verified, failed, batches, batchedProofs⟩ := countOutcome accepted statistics
  exact ⟨verified, failed, batches, batchedProofs⟩

theorem countBatch (size : Nat) (statistics : Statistics) :
    Adds { batches := 1, batchedProofs := size } statistics (statistics.countBatch size) :=
  ⟨(UInt64.add_zero _).symm, (UInt64.add_zero _).symm, rfl, rfl⟩

theorem notePeak (bytes : Nat) (statistics : Statistics) :
    Adds 0 statistics (statistics.notePeak bytes) := by
  obtain ⟨verified, failed, batches, batchedProofs⟩ := refl statistics
  exact ⟨verified, failed, batches, batchedProofs⟩

end Adds
end Statistics

namespace Engine

/-- The computation gives the value and changes nothing but the statistics, where it adds the
tally. -/
def Records {Value : Type} (computation : EngineM Value) (value : Value) (tally : Tally) : Prop :=
  ∀ engine, ∃ statistics, computation.run.run engine = (.ok value, ⟨engine.scratch, statistics⟩) ∧
    engine.statistics.Adds tally statistics

namespace Records

variable {Value Result : Type}

theorem pure (value : Value) : Records (Pure.pure value) value 0 :=
  fun engine => ⟨engine.statistics, rfl, .refl _⟩

theorem record
    {change : Statistics → Statistics}
    {tally : Tally}
    (adds : ∀ statistics : Statistics, statistics.Adds tally (change statistics)) :
    Records (liftM (Engine.record change)) () tally :=
  fun engine => ⟨change engine.statistics, rfl, adds _⟩

theorem bind
    {first : EngineM Value}
    {next : Value → EngineM Result}
    {value : Value}
    {result : Result}
    {tally tallyNext : Tally}
    (recordsFirst : Records first value tally)
    (recordsNext : Records (next value) result tallyNext) :
    Records (first >>= next) result (tally + tallyNext) := by
  intro engine
  obtain ⟨between, run, adds⟩ := recordsFirst engine
  obtain ⟨statistics, runNext, addsNext⟩ := recordsNext ⟨engine.scratch, between⟩
  refine ⟨statistics, ?_, adds.trans addsNext⟩
  rw [Checks.run_bind, run]
  exact runNext

theorem andThen
    {first : EngineM Value}
    {second : EngineM Result}
    {value : Value}
    {result : Result}
    {tally tallySecond : Tally}
    (recordsFirst : Records first value tally)
    (recordsSecond : Records second result tallySecond) :
    Records (first >>= fun _ => second) result (tally + tallySecond) :=
  recordsFirst.bind recordsSecond

/-- Recording a verdict for each element of a list. -/
theorem forIn
    (values : List Value)
    (verdict : Value → Bool) :
    Records
      (ForIn.forIn values PUnit.unit fun value _ => do
        liftM (Engine.record (.countOutcome (verdict value)))
        Pure.pure (ForInStep.yield PUnit.unit))
      PUnit.unit (.ofVerdicts (values.map verdict)) := by
  induction values with
  | nil => exact pure PUnit.unit
  | cons value rest inductionHypothesis =>
      rw [List.forIn_cons, List.map_cons, Tally.ofVerdicts_cons,
        ← Tally.add_zero (.ofVerdicts [verdict value])]
      have recordsFirst : Records
          (do
            liftM (Engine.record (.countOutcome (verdict value)))
            Pure.pure (ForInStep.yield PUnit.unit))
          (ForInStep.yield PUnit.unit) (.ofVerdicts [verdict value] + 0) :=
        (record (.countOutcome _)).bind (pure _)
      exact recordsFirst.bind inductionHypothesis

end Records

/-- Verification of one proof answers with its result and records it. -/
theorem verify_run
    (key : VerifyingKey)
    (proof : List UInt8)
    (inputs : List (List UInt8))
    (nanoseconds : Nat)
    (engine : Engine) :
    ∃ statistics, (verify key proof inputs nanoseconds).run.run engine =
        (key.verifyBytes proof inputs, ⟨engine.scratch, statistics⟩) ∧
      engine.statistics.Adds (.ofResult (key.verifyBytes proof inputs)) statistics := by
  unfold verify
  dsimp only
  cases key.verifyBytes proof inputs with
  | error error => exact ⟨_, rfl, .countCall false nanoseconds _⟩
  | ok holds => exact ⟨_, rfl, .countCall holds nanoseconds _⟩

end Engine
end Groth16
