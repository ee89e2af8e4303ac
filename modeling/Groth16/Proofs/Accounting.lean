import Groth16.Proofs.Batch.History
import Groth16.Proofs.Calls
import Groth16.Proofs.Verification.KeyEncoding
import Groth16.Service
import Mathlib.Data.List.DropRight

/-!
# The accounts of the service

The statistics show what the calls since the last stop have answered: every proof that was
accepted or failed is counted once, whether it was verified by itself or in a batch, and calls that
were refused as a whole are not counted. Keys stay usable when the service is stopped and started
again. What a run answers is decided by its calls.
-/

namespace Groth16

/-- A proof that cannot be verified is refused with the error of a check on its bytes. -/
theorem VerifyingKey.reports_verifyBytes
    (key : VerifyingKey)
    (proof : List UInt8)
    (inputs : List (List UInt8)) :
    Checks.Reports Submission.IsDecodingError (key.verifyBytes proof inputs) := by
  have reportsPoint (inputs : List Fr) :
      Checks.Reports Submission.IsDecodingError (key.inputPoint inputs) := by
    unfold inputPoint
    split
    · split
      · exact .ok _
      · exact .error trivial
    · exact .error trivial
  unfold verifyBytes
  exact (Submission.reports_checkInputCount _ _).bind fun _ =>
    (Submission.reports_proof _).bind fun proof =>
      (Submission.reports_decodeInputs _).bind fun inputs =>
        (reportsPoint inputs).bind fun X => .ok _

namespace Statistics

/-- The counters show the numbers of the tally, as far as words can hold them, and the average
size of a batch. -/
structure Shows (statistics : Statistics) (tally : Tally) : Prop where
  verified_eq : statistics.verified.toNat = tally.verified % 2 ^ 64
  failed_eq : statistics.failed.toNat = tally.failed % 2 ^ 64
  batches_eq : statistics.batches.toNat = tally.batches % 2 ^ 64
  averageBatchSize_eq : statistics.averageBatchSize.toNat =
    tally.batchedProofs % 2 ^ 64 / (tally.batches % 2 ^ 64)

theorem Adds.shows
    {tally : Tally}
    {statistics : Statistics}
    (adds : Adds tally {} statistics) :
    statistics.Shows tally := by
  obtain ⟨verified, failed, batches, batchedProofs⟩ := adds
  rw [UInt64.zero_add] at verified failed batches batchedProofs
  constructor
  · rw [verified, UInt64.toNat_ofNat']
  · rw [failed, UInt64.toNat_ofNat']
  · rw [batches, UInt64.toNat_ofNat']
  · rw [averageBatchSize, UInt64.toNat_div, batches, batchedProofs, UInt64.toNat_ofNat',
      UInt64.toNat_ofNat']

end Statistics

namespace Service

/-- A call of the service. Loaded keys are handles, which the caller keeps. -/
inductive Call where
  | start
  | stop
  | loadKey (bytes : List UInt8)
  | verify
    (key : VerifyingKey)
    (proof : List UInt8)
    (inputs : List (List UInt8))
    (nanoseconds : Nat)
  | verifyBatch
    (key : VerifyingKey)
    (proofs : List (List UInt8))
    (inputs : List (List (List UInt8)))
    (config : EngineConfig)
    (weights : Nat → Weight)

namespace Call

/-- Whether the call starts or stops the service. -/
def switches : Call → Bool
  | start | stop => true
  | loadKey _ | verify .. | verifyBatch .. => false

def isStop : Call → Bool
  | stop => true
  | _ => false

theorem eq_stop_of_isStop
    {call : Call}
    (stops : call.isStop = true) :
    call = stop := by
  cases call with
  | stop => rfl
  | _ => cases stops

end Call

/-- What a call answers. -/
inductive Answer where
  | loaded (key : Except VerifyError VerifyingKey)
  | verified (holds : Except VerifyError Bool)
  | batchVerified (outcomes : Except VerifyError (List Batch.Outcome))
  | done

namespace Answer

/-- The answer that a call is refused because the service is not started. -/
def isRefusal : Answer → Bool
  | loaded (.error .notInitialized) | verified (.error .notInitialized)
  | batchVerified (.error .notInitialized) => true
  | _ => false

/-- A proof was verified by itself and accepted. -/
def isAccepted : Answer → Bool
  | verified (.ok true) => true
  | _ => false

/-- A proof was verified by itself and not accepted, for whatever reason. -/
def isFailed : Answer → Bool
  | verified (.ok false) => true
  | verified (.error .notInitialized) => false
  | verified (.error _) => true
  | _ => false

/-- A batch was verified. -/
def isBatch : Answer → Bool
  | batchVerified (.ok _) => true
  | _ => false

/-- The outcomes of the batch that was verified. -/
def outcomes : Answer → List Batch.Outcome
  | batchVerified (.ok outcomes) => outcomes
  | _ => []

end Answer

/-- Performs a call. -/
def perform : Call → StateM Service Answer
  | .start => fun service => (.done, service.start)
  | .stop => fun service => (.done, service.stop)
  | .loadKey bytes => .loaded <$> (loadKey bytes).run
  | .verify key proof inputs nanoseconds =>
    .verified <$> (verify key proof inputs nanoseconds).run
  | .verifyBatch key proofs inputs config weights =>
    .batchVerified <$> (verifyBatch key proofs inputs config weights).run

/-- Calls with their answers, in order. -/
abbrev Log := List (Call × Answer)

/-- What a log counts: proofs verified by themselves and in batches, and batches. -/
def Log.tally (log : Log) : Tally where
  verified := log.countP (·.2.isAccepted) +
    (log.flatMap (·.2.outcomes)).countP Batch.Outcome.isValid
  failed := log.countP (·.2.isFailed) +
    ((log.flatMap (·.2.outcomes)).countP Batch.Outcome.isRejected +
      (log.flatMap (·.2.outcomes)).countP Batch.Outcome.isMalformed)
  batches := log.countP (·.2.isBatch)
  batchedProofs := (log.flatMap (·.2.outcomes)).countP fun outcome => !outcome.isMalformed

theorem Log.tally_append_singleton (log : Log) (entry : Call × Answer) :
    Log.tally (log ++ [entry]) = log.tally + Log.tally [entry] := by
  unfold Log.tally
  simp only [List.countP_append, List.flatMap_append]
  ext
  · exact Nat.add_add_add_comm _ _ _ _
  · change _ + _ + (_ + _ + (_ + _)) = _ + (_ + _) + (_ + (_ + _))
    omega
  · rfl
  · rfl

theorem Log.tally_verified
    (call : Call)
    {result : Except VerifyError Bool}
    (checked : result ≠ .error .notInitialized) :
    Log.tally [(call, .verified result)] = .ofResult result := by
  cases result with
  | ok holds => cases holds <;> rfl
  | error error =>
      cases error with
      | notInitialized => exact absurd rfl checked
      | _ => rfl

theorem Log.tally_batchVerified (call : Call) (outcomes : Except VerifyError (List Batch.Outcome)) :
    Log.tally [(call, .batchVerified outcomes)] = .ofOutcomes outcomes := by
  cases outcomes with
  | error error => rfl
  | ok outcomes =>
      unfold Log.tally Tally.ofOutcomes
      rw [List.flatMap_singleton]
      ext
      · exact Nat.zero_add _
      · exact Nat.zero_add _
      · rfl
      · rfl

section Gated

variable {Value : Type} {service : Service} (body : EngineM Value)
variable (answer : Except VerifyError Value → Answer)

theorem map_gated_of_started (started : service.started = true) :
    (answer <$> (gated body).run).run service =
      (answer (body.run.run service.engine).1,
        { service with engine := (body.run.run service.engine).2 }) := by
  have run : (gated body).run.run service =
      ((body.run.run service.engine).1,
        { service with engine := (body.run.run service.engine).2 }) := if_pos started
  rw [StateT.run_map, run]
  rfl

theorem map_gated_of_not_started (stopped : service.started = false) :
    (answer <$> (gated body).run).run service = (answer (.error .notInitialized), service) := by
  have run : (gated body).run.run service = (.error .notInitialized, service) :=
    if_neg (Bool.eq_false_iff.mp stopped)
  rw [StateT.run_map, run]
  rfl

end Gated

section Step

variable {call : Call}

/-- Beside starting and stopping, every call is gated. -/
theorem exists_perform_eq_gated (isGated : call.switches = false) :
    ∃ (Value : Type) (body : EngineM Value) (answer : Except VerifyError Value → Answer),
      perform call = answer <$> (gated body).run ∧
        (answer (.error .notInitialized)).isRefusal = true := by
  cases call with
  | start => cases isGated
  | stop => cases isGated
  | loadKey bytes => exact ⟨_, _, .loaded, rfl, rfl⟩
  | verify key proof inputs nanoseconds => exact ⟨_, _, .verified, rfl, rfl⟩
  | verifyBatch key proofs inputs config weights => exact ⟨_, _, .batchVerified, rfl, rfl⟩

variable {service : Service}

/-- While the service is not started, a gated call is refused and changes nothing. -/
theorem perform_of_not_started
    (stopped : service.started = false)
    (isGated : call.switches = false) :
    ((perform call).run service).1.isRefusal = true ∧ ((perform call).run service).2 = service := by
  obtain ⟨Value, body, answer, performs, refusal⟩ := exists_perform_eq_gated isGated
  rw [performs, map_gated_of_not_started body answer stopped]
  exact ⟨refusal, rfl⟩

theorem started_perform_of_gated (isGated : call.switches = false) :
    ((perform call).run service).2.started = service.started := by
  obtain ⟨Value, body, answer, performs, -⟩ := exists_perform_eq_gated isGated
  rw [performs]
  cases started : service.started with
  | true => rw [map_gated_of_started body answer started, started]
  | false => rw [map_gated_of_not_started body answer started, started]

/-- The call counts its answer and leaves scratch space at rest. -/
structure Accounts (call : Call) (service : Service) (performed : Answer × Service) : Prop where
  adds : service.engine.statistics.Adds (Log.tally [(call, performed.1)])
    performed.2.engine.statistics
  isRested : service.engine.scratch.IsRested → performed.2.engine.scratch.IsRested

/-- A gated call counts nothing while the service is not started. -/
theorem accounts_map_gated
    {Value : Type}
    {body : EngineM Value}
    {answer : Except VerifyError Value → Answer}
    (refusal : Log.tally [(call, answer (.error .notInitialized))] = 0)
    (accounts : Accounts call service (answer (body.run.run service.engine).1,
      { service with engine := (body.run.run service.engine).2 })) :
    Accounts call service ((answer <$> (gated body).run).run service) := by
  cases started : service.started with
  | true =>
      rw [map_gated_of_started body answer started]
      exact accounts
  | false =>
      rw [map_gated_of_not_started body answer started]
      refine ⟨?_, id⟩
      rw [refusal]
      exact .refl _

/-- Beside stopping, every call counts its answer. -/
theorem accounts_perform (keeps : call.isStop = false) :
    Accounts call service ((perform call).run service) := by
  cases call with
  | start => exact ⟨.refl _, id⟩
  | stop => cases keeps
  | loadKey bytes => exact accounts_map_gated rfl ⟨.refl _, id⟩
  | verify key proof inputs nanoseconds =>
      apply accounts_map_gated rfl
      obtain ⟨statistics, run, adds⟩ :=
        Engine.verify_run key proof inputs nanoseconds service.engine
      rw [run]
      refine ⟨?_, id⟩
      rw [Log.tally_verified]
      · exact adds
      · intro refused
        exact key.reports_verifyBytes proof inputs _ refused
  | verifyBatch key proofs inputs config weights =>
      apply accounts_map_gated rfl
      obtain ⟨after, run, isRested, adds⟩ :=
        Engine.verifyBatch_run ⟨0, key⟩ proofs inputs config weights service.engine
      rw [run]
      refine ⟨?_, isRested⟩
      rw [Log.tally_batchVerified]
      exact adds

theorem isRested_perform
    (rested : service.engine.scratch.IsRested)
    (call : Call) :
    ((perform call).run service).2.engine.scratch.IsRested := by
  cases stops : call.isStop with
  | true =>
      rw [Call.eq_stop_of_isStop stops]
      exact rested.release
  | false => exact (accounts_perform stops).isRested rested

/-- A key is only handed out for bytes that encode it. -/
theorem ofBytes?_of_perform_loadKey
    {bytes : List UInt8}
    {key : VerifyingKey}
    (loaded : ((perform (.loadKey bytes)).run service).1 = .loaded (.ok key)) :
    VerifyingKey.ofBytes? bytes = .ok key := by
  unfold perform loadKey at loaded
  cases started : service.started with
  | true =>
      rw [map_gated_of_started _ _ started, Answer.loaded.injEq] at loaded
      exact Checks.mapError_eq_ok.mp loaded
  | false =>
      rw [map_gated_of_not_started _ _ started] at loaded
      cases loaded

end Step

/-- The service verifies under the key: one proof as the key does, and many as a batch on a new
engine, unless the scratch space is in use. -/
structure Serves (service : Service) (key : VerifyingKey) : Prop where
  verify_eq : ∀ proof inputs nanoseconds,
    ((perform (.verify key proof inputs nanoseconds)).run service).1 =
      .verified (key.verifyBytes proof inputs)
  verifyBatch_eq : service.engine.scratch.IsRested → ∀ proofs inputs config weights,
    ((perform (.verifyBatch key proofs inputs config weights)).run service).1 =
      .batchVerified
        ((Engine.verifyBatch ⟨0, key⟩ proofs inputs config weights).run.run .initial).1

theorem serves
    {service : Service}
    (started : service.started = true)
    (key : VerifyingKey) :
    service.Serves key where
  verify_eq proof inputs nanoseconds := by
    obtain ⟨statistics, run, -⟩ :=
      Engine.verify_run key proof inputs nanoseconds service.engine
    unfold perform verify
    rw [map_gated_of_started _ _ started, run]
  verifyBatch_eq rested proofs inputs config weights := by
    obtain ⟨bytes, value, modest, needs, -⟩ :=
      Engine.exists_needsRoom_outcomesIn ⟨0, key⟩ proofs inputs config weights
    unfold perform verifyBatch
    rw [map_gated_of_started _ _ started]
    dsimp only
    rw [Engine.verifyBatch_fst, Engine.verifyBatch_fst]
    exact congrArg Answer.batchVerified (needs.eq_of_le modest rested Scratch.isRested_empty)

/-! ## Answers -/

namespace Call

/-- Whether the service is started after the call. -/
def leavesStarted (started : Bool) : Call → Bool
  | start => true
  | stop => false
  | loadKey _ | verify .. | verifyBatch .. => started

/-- What the call answers while scratch space is at rest. -/
def answer (started : Bool) : Call → Answer
  | start | stop => .done
  | loadKey bytes => .loaded
    (if started then (VerifyingKey.ofBytes? bytes).mapError .keyLoadFailed
      else .error .notInitialized)
  | verify key proof inputs _ => .verified
    (if started then key.verifyBytes proof inputs else .error .notInitialized)
  | verifyBatch key proofs inputs config weights => .batchVerified
    (if started then
      ((Engine.verifyBatch ⟨0, key⟩ proofs inputs config weights).run.run .initial).1
      else .error .notInitialized)

end Call

section Answers

variable {service : Service} (call : Call)

theorem started_perform :
    ((perform call).run service).2.started = call.leavesStarted service.started := by
  cases call with
  | start => rfl
  | stop => rfl
  | loadKey bytes => exact started_perform_of_gated rfl
  | verify key proof inputs nanoseconds => exact started_perform_of_gated rfl
  | verifyBatch key proofs inputs config weights => exact started_perform_of_gated rfl

theorem perform_fst (rested : service.engine.scratch.IsRested) :
    ((perform call).run service).1 = call.answer service.started := by
  cases started : service.started with
  | true =>
      cases call with
      | start => rfl
      | stop => rfl
      | loadKey bytes =>
          unfold perform loadKey
          rw [map_gated_of_started _ _ started]
          rfl
      | verify key proof inputs nanoseconds => exact (serves started key).verify_eq _ _ _
      | verifyBatch key proofs inputs config weights =>
          exact (serves started key).verifyBatch_eq rested _ _ _ _
  | false =>
      cases call with
      | start => rfl
      | stop => rfl
      | loadKey bytes => exact congrArg Prod.fst (map_gated_of_not_started _ _ started)
      | verify key proof inputs nanoseconds =>
          exact congrArg Prod.fst (map_gated_of_not_started _ _ started)
      | verifyBatch key proofs inputs config weights =>
          exact congrArg Prod.fst (map_gated_of_not_started _ _ started)

/-- What calls answer one after the other. -/
def answers (started : Bool) : List Call → List Answer
  | [] => []
  | call :: calls => call.answer started :: answers (call.leavesStarted started) calls

/-- From scratch space at rest, the calls alone decide what a run answers. -/
theorem log_run
    (rested : service.engine.scratch.IsRested)
    (calls : List Call) :
    (Calls.run perform service calls).1 = calls.zip (answers service.started calls) := by
  induction calls generalizing service with
  | nil => rfl
  | cons call calls inductionHypothesis =>
      rw [Calls.run_cons, perform_fst call rested,
        inductionHypothesis (isRested_perform rested call), started_perform]
      rfl

end Answers

/-! ## Runs -/

/-- The part of a log since the service was stopped last. -/
def Log.sinceStop (log : Log) : Log := log.rtakeWhile fun entry => !entry.1.isStop

section Run

variable (service : Service) (calls : List Call)

/-- After a run from a stopped service, the counters show what was counted since the last stop. -/
theorem adds_run :
    Statistics.Adds (Log.sinceStop (Calls.run perform service.stop calls).1).tally {}
      (Calls.run perform service.stop calls).2.engine.statistics := by
  induction calls using List.reverseRecOn with
  | nil => exact .refl _
  | append_singleton calls call inductionHypothesis =>
      rw [Calls.run_append_singleton, Log.sinceStop]
      -- A stop clears the counters and begins a new part of the log.
      cases stops : call.isStop with
      | true =>
          rw [List.rtakeWhile_concat_neg]
          · rw [Call.eq_stop_of_isStop stops]
            exact .refl _
          · rw [stops]
            exact Bool.false_ne_true
      | false =>
          rw [List.rtakeWhile_concat_pos, Log.tally_append_singleton]
          · exact inductionHypothesis.trans (accounts_perform stops).adds
          · rw [stops]
            rfl

/-- The service is started if and only if the last call that starts or stops it starts it. -/
theorem started_run_iff :
    (Calls.run perform service.stop calls).2.started = true ↔
      Calls.last? Call.switches calls = some .start := by
  induction calls using List.reverseRecOn with
  | nil => exact iff_of_false nofun nofun
  | append_singleton calls call inductionHypothesis =>
      rw [Calls.run_append_singleton]
      cases switches : call.switches with
      | true =>
          rw [Calls.last?_append_singleton_of_pos calls switches]
          cases call with
          | start => exact iff_of_true rfl rfl
          | stop => exact iff_of_false nofun nofun
          | _ => cases switches
      | false =>
          rw [Calls.last?_append_singleton_of_neg calls switches,
            started_perform_of_gated switches, inductionHypothesis]

/-- Stopping leaves scratch space at rest that is not in use, and so does every later call. -/
theorem isRested_run (idle : service.engine.scratch ≠ .inUse) :
    (Calls.run perform service.stop calls).2.engine.scratch.IsRested := by
  refine Calls.holds_run (fun service : Service => service.engine.scratch.IsRested) ?_
    (fun _ rested call => isRested_perform rested call) calls
  change service.engine.scratch.release.IsRested
  cases held : service.engine.scratch with
  | inUse => exact absurd held idle
  | idle kept => exact Scratch.isRested_empty

theorem ofBytes?_of_mem_run
    {bytes : List UInt8}
    {key : VerifyingKey}
    (member : (.loadKey bytes, .loaded (.ok key)) ∈ (Calls.run perform service.stop calls).1) :
    VerifyingKey.ofBytes? bytes = .ok key := by
  induction calls using List.reverseRecOn with
  | nil => cases member
  | append_singleton calls call inductionHypothesis =>
      rw [Calls.run_append_singleton, List.mem_append, List.mem_singleton] at member
      rcases member with earlier | last
      · exact inductionHypothesis earlier
      · obtain ⟨rfl, loaded⟩ := Prod.mk.inj last
        exact ofBytes?_of_perform_loadKey loaded.symm

end Run

/-- After any calls of a stopped service, the counters show what the log counts since the last
stop. While the service is not started, every gated call is refused and changes nothing. A key
that was handed out at any time is the one that its bytes encode, and works whenever the service is
started. -/
theorem accounts_run
    (service : Service)
    (calls : List Call) :
    let log : Log := (Calls.run perform service.stop calls).1
    let final := (Calls.run perform service.stop calls).2
    final.engine.statistics.Shows log.sinceStop.tally ∧
      (final.started = true ↔ Calls.last? Call.switches calls = some .start) ∧
      (final.started = false → ∀ call, call.switches = false →
        ((perform call).run final).1.isRefusal = true ∧ ((perform call).run final).2 = final) ∧
      (∀ bytes key, (.loadKey bytes, .loaded (.ok key)) ∈ log →
        VerifyingKey.ofBytes? bytes = .ok key ∧ (final.started = true → final.Serves key)) ∧
      (service.engine.scratch ≠ .inUse → final.engine.scratch.IsRested) := by
  intro log final
  refine ⟨(adds_run service calls).shows, started_run_iff service calls, ?_, ?_,
    isRested_run service calls⟩
  · intro stopped call isGated
    exact perform_of_not_started stopped isGated
  · intro bytes key member
    exact ⟨ofBytes?_of_mem_run service calls member, fun started => serves started key⟩

/-- Calls that load a key, restart the service, and verify two proofs and a batch. -/
def restartCalls : List Call :=
  [.start, .loadKey VerifyingKey.oneInput.toBytes, .stop, .start,
    .verify .oneInput (Proof.multipleBytes 2 97 9) [FieldElement.toBytes ((6 : Nat) : Fr)] 0,
    .verify .oneInput [] [] 0,
    .verifyBatch .oneInput Batch.mixedProofs Batch.mixedInputs {} Weight.ofNat]

/-- What they answer. -/
def restartAnswers : List Answer :=
  [.done, .loaded (.ok .oneInput), .done, .done, .verified (.ok true),
    .verified (.error (.badInputs 1 0)), .batchVerified (.ok Batch.mixedOutcomes)]

theorem answers_restart : answers false restartCalls = restartAnswers := by
  have loaded : (Call.loadKey VerifyingKey.oneInput.toBytes).answer true =
      .loaded (.ok .oneInput) := by
    rw [Call.answer, VerifyingKey.ofBytes?_oneInput]
    rfl
  have accepted : VerifyingKey.oneInput.verifyBytes (Proof.multipleBytes 2 97 9)
      [FieldElement.toBytes ((6 : Nat) : Fr)] = .ok true := by
    rw [VerifyingKey.verifyBytes_oneInput (by decide +kernel) (by decide +kernel)
      (by decide +kernel)]
    decide +kernel
  have batch : ((Engine.verifyBatch ⟨0, .oneInput⟩ Batch.mixedProofs Batch.mixedInputs {}
      Weight.ofNat).run.run .initial).1 = .ok Batch.mixedOutcomes := by
    obtain ⟨after, run, -⟩ := Engine.exists_verifyBatch_run_mixed 0 Weight.ofNat
      (show Engine.initial.scratch.IsRested from Scratch.isRested_empty)
    rw [run]
  simp only [restartCalls, answers, Call.leavesStarted, loaded]
  simp only [Call.answer, if_true, accepted, batch]
  rfl

/-- A key that was loaded before the service was stopped and started again. After that a proof is
accepted, another one fails, and three of the five entries of a batch are accepted. -/
theorem accounts_run_restart :
    let log : Log := (Calls.run perform initial.stop restartCalls).1
    let final := (Calls.run perform initial.stop restartCalls).2
    log = restartCalls.zip restartAnswers ∧
      (.loadKey VerifyingKey.oneInput.toBytes, .loaded (.ok .oneInput)) ∈ log ∧
      final.started = true ∧ final.Serves .oneInput ∧ final.engine.scratch.IsRested ∧
      final.engine.statistics.Shows
        { verified := 4, failed := 3, batches := 1, batchedProofs := 4 } := by
  have logEq : (Calls.run perform initial.stop restartCalls).1 =
      restartCalls.zip restartAnswers := by
    rw [← answers_restart]
    exact log_run Scratch.isRested_empty restartCalls
  have member : (.loadKey VerifyingKey.oneInput.toBytes, .loaded (.ok .oneInput)) ∈
      restartCalls.zip restartAnswers :=
    List.mem_cons_of_mem _ List.mem_cons_self
  have counted : Log.tally (Log.sinceStop (restartCalls.zip restartAnswers)) =
      { verified := 4, failed := 3, batches := 1, batchedProofs := 4 } := rfl
  obtain ⟨shows, started, -, handles, rested⟩ := accounts_run initial restartCalls
  have isStarted := started.mpr rfl
  dsimp only
  rw [logEq, counted] at shows
  rw [logEq] at handles ⊢
  -- The state after the run is not to be evaluated.
  generalize (Calls.run perform initial.stop restartCalls).2 = final at *
  exact ⟨rfl, member, isStarted, (handles _ _ member).2 isStarted, rested nofun, shows⟩

end Service
end Groth16
