import Groth16.Batch.Queue
import Groth16.Proofs.Batch.Outcome

/-!
# Runs of a batch queue

After any run of operations, a queue holds what was added since the last reset, as far as
there was room for it. What a queue answers is determined by what it holds, and verification
answers what verification of the same proofs and inputs as one batch does.
-/

namespace Groth16

/-- An encoded proof with its encoded inputs. -/
structure Submission where
  proof : List UInt8
  inputs : List (List UInt8)

namespace Submission

/-- The result of decoding the submission for a key object. -/
def decode (shared : SharedKey) (submission : Submission) : Except VerifyError Batch.Item :=
  Batch.Item.ofBytes? shared submission.proof submission.inputs

/-- The errors with which decoding refuses bytes. -/
def IsDecodingError : VerifyError → Prop
  | .outOfRange _ | .invalidPoint _ | .badInputs .. | .proof _ => True
  | _ => False

theorem reports_proof (bytes : List UInt8) :
    Checks.Reports IsDecodingError (Proof.ofBytes? bytes) := by
  unfold Proof.ofBytes?
  refine .guard trivial (.bind (.mapError fun _ => trivial) fun _ => ?_)
  refine .bind (.mapError fun _ => trivial) fun _ => ?_
  refine .bind (.mapError fun _ => trivial) fun _ => ?_
  exact .guard trivial (.ok _)

theorem reports_decodeInputs (inputs : List (List UInt8)) :
    Checks.Reports IsDecodingError (decodeInputs inputs) := by
  unfold decodeInputs
  exact .guard trivial (.mapM (fun _ => .mapError fun _ => trivial) inputs)

theorem reports_checkInputCount (key : VerifyingKey) (count : Nat) :
    Checks.Reports IsDecodingError (key.checkInputCount count) := by
  unfold VerifyingKey.checkInputCount
  split
  · exact .ok _
  · exact .error trivial

/-- A submission that cannot be decoded is refused with the error of a check on its bytes. -/
theorem reports_decode (shared : SharedKey) (submission : Submission) :
    Checks.Reports IsDecodingError (submission.decode shared) := by
  have made (proof : Proof) (inputs : List Fr) :
      Checks.Reports IsDecodingError (Batch.Item.make? shared proof inputs) := by
    unfold Batch.Item.make?
    split
    · exact .ok _
    · exact .error trivial
  unfold decode Batch.Item.ofBytes?
  exact (reports_checkInputCount _ _).bind fun _ => (reports_proof _).bind fun proof =>
    (reports_decodeInputs _).bind fun inputs => made proof inputs

end Submission

namespace BatchQueue

/-- An operation on a queue. -/
inductive Operation where
  | add (submission : Submission)
  | verify (weights : Nat → Weight)
  | reset

/-- What an operation answers. -/
inductive Answer where
  | added (index : Except VerifyError Nat)
  | verified (outcomes : Except VerifyError (List Batch.Outcome))
  | done

/-- The answer that a queue takes no further entry. -/
def Answer.isFull : Answer → Bool
  | .added (.error (.batch (.full _))) => true
  | _ => false

/-- Performs an operation on a queue, with the engine that verifies. -/
def perform : Operation → StateM (BatchQueue × Engine) Answer
  | .add submission => fun (queue, engine) =>
    let (index, queue) := (add submission.proof submission.inputs).run queue
    (.added index, queue, engine)
  | .verify weights => fun (queue, engine) =>
    let (outcomes, engine) := (queue.verify weights).run.run engine
    (.verified outcomes, queue, engine)
  | .reset => fun (queue, engine) => (.done, queue.reset, engine)

/-- Performs operations one after the other and keeps each with its answer. -/
def performAll : List Operation → StateM (BatchQueue × Engine) (List (Operation × Answer))
  | [] => pure []
  | operation :: rest => do
    let answer ← perform operation
    return (operation, answer) :: (← performAll rest)

/-- The submissions that count after one more operation: those added since the last reset,
unless the answer was that the queue is full. -/
def pendingAfter (pending : List Submission) : Operation × Answer → List Submission
  | (.add submission, answer) => if answer.isFull then pending else pending ++ [submission]
  | (.verify _, _) => pending
  | (.reset, _) => []

theorem perform_add
    (submission : Submission)
    (queue : BatchQueue)
    (engine : Engine) :
    (perform (.add submission)).run (queue, engine) =
      (.added ((add submission.proof submission.inputs).run queue).1,
        ((add submission.proof submission.inputs).run queue).2, engine) := rfl

theorem performAll_cons
    (operation : Operation)
    (rest : List Operation)
    (state : BatchQueue × Engine) :
    (performAll (operation :: rest)).run state =
      (((operation, ((perform operation).run state).1) ::
          ((performAll rest).run ((perform operation).run state).2).1),
        ((performAll rest).run ((perform operation).run state).2).2) := rfl

variable {shared : SharedKey} {config : EngineConfig} {capacity : Nat}
variable {pending : List Submission}

section Holding

variable (shared config capacity pending)

/-- The queue that holds the submissions. -/
def holding : BatchQueue :=
  ⟨shared, config, capacity, .ofList (pending.map (Submission.decode shared))⟩

theorem length_holding : (holding shared config capacity pending).length = pending.length := by
  rw [length, holding, Batch.Entries.length_ofList, List.length_map]

end Holding

/-- A full queue refuses a further submission and stays as it is. -/
theorem add_of_full
    (full : pending.length = capacity)
    (submission : Submission) :
    (add submission.proof submission.inputs).run (holding shared config capacity pending) =
      (.error (.batch (.full capacity)), holding shared config capacity pending) := by
  have isFull : (holding shared config capacity pending).isFull = true := by
    rw [BatchQueue.isFull, length_holding, full]
    exact decide_eq_true (Nat.le_refl capacity)
  exact if_pos isFull

/-- A queue with room takes the submission and answers its index, or why it is malformed. -/
theorem add_of_room
    (room : pending.length < capacity)
    (submission : Submission) :
    (add submission.proof submission.inputs).run (holding shared config capacity pending) =
      ((submission.decode shared).map fun _ => pending.length,
        holding shared config capacity (pending ++ [submission])) := by
  have notFull : ¬(holding shared config capacity pending).isFull = true := by
    rw [BatchQueue.isFull, length_holding, decide_eq_true_iff]
    exact Nat.not_le_of_lt room
  have pushed : holding shared config capacity (pending ++ [submission]) =
      { holding shared config capacity pending with
        entries := (holding shared config capacity pending).entries.push
          (submission.decode shared) } := by
    rw [holding, List.map_append, List.map_singleton, Batch.Entries.ofList_append_singleton]
    rfl
  rw [pushed, ← length_holding shared config capacity pending]
  exact if_neg notFull

/-- An entry that is taken is not answered like one that is refused for want of room. -/
theorem isFull_added_decode (submission : Submission) (index : Nat) :
    (Answer.added ((submission.decode shared).map fun _ => index)).isFull = false := by
  have reports := submission.reports_decode shared
  cases decoded : submission.decode shared with
  | ok item => rfl
  | error error =>
      have allowed := reports error decoded
      cases error with
      | batch source => exact allowed.elim
      | _ => rfl

/-- One operation leaves a queue that holds the submissions that count after it. -/
theorem perform_holding
    (shared : SharedKey)
    (config : EngineConfig)
    (length_le : pending.length ≤ capacity)
    (operation : Operation)
    (engine : Engine) :
    ∃ answer after,
      (perform operation).run (holding shared config capacity pending, engine) =
        (answer, holding shared config capacity (pendingAfter pending (operation, answer)),
          after) ∧
      (pendingAfter pending (operation, answer)).length ≤ capacity := by
  cases operation with
  | add submission =>
      rw [perform_add]
      rcases Nat.lt_or_eq_of_le length_le with room | full
      · rw [add_of_room room]
        refine ⟨.added ((submission.decode shared).map fun _ => pending.length), engine, ?_⟩
        rw [pendingAfter, isFull_added_decode, if_neg Bool.false_ne_true]
        refine ⟨rfl, ?_⟩
        rw [List.length_append]
        exact room
      · rw [add_of_full full]
        exact ⟨_, engine, rfl, length_le⟩
  | verify weights => exact ⟨_, _, rfl, length_le⟩
  | reset => exact ⟨.done, engine, rfl, Nat.zero_le capacity⟩

/-- A run of operations leaves a queue that holds the submissions that count in the end. -/
theorem performAll_holding
    (shared : SharedKey)
    (config : EngineConfig)
    (operations : List Operation)
    {pending : List Submission}
    (length_le : pending.length ≤ capacity)
    (engine : Engine) :
    ∃ log after,
      (performAll operations).run (holding shared config capacity pending, engine) =
        (log, holding shared config capacity (log.foldl pendingAfter pending), after) ∧
      (log.foldl pendingAfter pending).length ≤ capacity := by
  induction operations generalizing pending engine with
  | nil => exact ⟨[], engine, rfl, length_le⟩
  | cons operation rest inductionHypothesis =>
      obtain ⟨answer, between, performed, between_le⟩ :=
        perform_holding shared config length_le operation engine
      obtain ⟨log, after, performedRest, after_le⟩ := inductionHypothesis between_le between
      refine ⟨(operation, answer) :: log, after, ?_, after_le⟩
      rw [performAll_cons, performed, performedRest, List.foldl_cons]

/-- Verification of the held submissions is verification of one batch of them. -/
theorem verify_holding (weights : Nat → Weight) :
    (holding shared config capacity pending).verify weights =
      Engine.verifyBatch shared (pending.map (·.proof)) (pending.map (·.inputs)) config
        weights := by
  have decoded : (pending.map (·.proof)).zipWith (Batch.Item.ofBytes? shared)
      (pending.map (·.inputs)) = pending.map (Submission.decode shared) := by
    rw [List.zipWith_map, List.zipWith_self]
    rfl
  have lengths : (pending.map (·.proof)).length = (pending.map (·.inputs)).length := by
    rw [List.length_map, List.length_map]
  unfold Engine.verifyBatch
  rw [if_neg (not_not_intro lengths), decoded]
  rfl

/-- What a queue does that holds the pending submissions, those added since the last reset
that found room. -/
structure Keeps
    (shared : SharedKey)
    (config : EngineConfig)
    (capacity : Nat)
    (pending : List Submission)
    (queue : BatchQueue) : Prop where
  length_eq : queue.length = pending.length
  length_le : pending.length ≤ capacity
  /-- The slots lead to the pending submissions, in their order. -/
  slots_lead : List.Forall₂ (Batch.Slot.LeadsTo queue.entries.items) queue.entries.slots
    (pending.map (Submission.decode shared))
  /-- Only a queue that holds as much as it can answers that it is full. -/
  full_iff : ∀ submission engine,
    ((perform (.add submission)).run (queue, engine)).1.isFull = true ↔
      pending.length = capacity
  full_unchanged : ∀ submission engine,
    ((perform (.add submission)).run (queue, engine)).1.isFull = true →
      ((perform (.add submission)).run (queue, engine)).2 = (queue, engine)
  /-- Any other submission takes the next index; the answer is the index or the reason for
  which the submission could not be decoded. -/
  add_eq : ∀ submission engine, pending.length < capacity → ∃ next : BatchQueue,
    (perform (.add submission)).run (queue, engine) =
      (.added ((submission.decode shared).map fun _ => pending.length), next, engine) ∧
    next.length = pending.length + 1
  verify_unchanged : ∀ weights engine,
    ((perform (.verify weights)).run (queue, engine)).2.1 = queue
  /-- Verification asks only for verdicts that it has. -/
  number_lt : ∀ weights engine verdicts after,
    (Engine.verifyItems queue.entries.items queue.config weights).run.run engine =
      (.ok verdicts, after) →
    ∀ number, .ok number ∈ queue.entries.slots → number < verdicts.length
  /-- Verification is that of one batch of the pending submissions. -/
  verify_eq : ∀ weights, queue.verify weights =
    Engine.verifyBatch shared (pending.map (·.proof)) (pending.map (·.inputs)) config weights

theorem keeps_holding
    (length_le : pending.length ≤ capacity) :
    Keeps shared config capacity pending (holding shared config capacity pending) where
  length_eq := length_holding shared config capacity pending
  length_le := length_le
  slots_lead := Batch.Entries.slots_lead_ofList _
  full_iff submission engine := by
    rw [perform_add]
    rcases Nat.lt_or_eq_of_le length_le with room | full
    · rw [add_of_room room, isFull_added_decode]
      exact iff_of_false Bool.false_ne_true (Nat.ne_of_lt room)
    · rw [add_of_full full]
      exact iff_of_true rfl full
  full_unchanged submission engine := by
    rw [perform_add]
    rcases Nat.lt_or_eq_of_le length_le with room | full
    · rw [add_of_room room, isFull_added_decode]
      exact fun impossible => absurd impossible Bool.false_ne_true
    · rw [add_of_full full]
      exact fun _ => rfl
  add_eq submission engine room := by
    refine ⟨holding shared config capacity (pending ++ [submission]), ?_, ?_⟩
    · rw [perform_add, add_of_room room]
    · rw [length_holding, List.length_append, List.length_singleton]
  verify_unchanged weights engine := rfl
  number_lt weights engine verdicts after run number member := by
    rw [Engine.length_of_verifyItems_eq_ok run]
    exact Batch.Entries.number_lt_of_mem_slots member
  verify_eq := verify_holding

/-- After any run of operations on a new queue, the queue keeps what was added since the last
reset and was not refused for want of room. -/
theorem keeps_performAll
    (shared : SharedKey)
    (config : EngineConfig)
    {capacity : Nat}
    (positive : 1 ≤ capacity)
    (bounded : capacity ≤ 1024) :
    ∃ queue, make? shared capacity config = .ok queue ∧
      ∀ operations engine, ∃ log final after,
        (performAll operations).run (queue, engine) = (log, final, after) ∧
          Keeps shared config capacity (log.foldl pendingAfter []) final := by
  refine ⟨holding shared config capacity [], ?_, ?_⟩
  · exact if_neg (by unfold Batch.maxSize; omega)
  · intro operations engine
    have none_le : ([] : List Submission).length ≤ capacity := Nat.zero_le capacity
    obtain ⟨log, after, performed, length_le⟩ :=
      performAll_holding shared config operations none_le engine
    exact ⟨log, _, after, performed, keeps_holding length_le⟩

/-- A queue of two entries. -/
theorem keeps_performAll_two :
    let shared : SharedKey := ⟨0, .ofScalars 1 1 1 1 [1]⟩
    (1 ≤ 2 ∧ 2 ≤ 1024) ∧
      ∃ queue, make? shared 2 {} = .ok queue ∧
        ∀ operations engine, ∃ log final after,
          (performAll operations).run (queue, engine) = (log, final, after) ∧
            Keeps shared {} 2 (log.foldl pendingAfter []) final :=
  ⟨⟨by decide, by decide⟩, keeps_performAll _ {} (by decide) (by decide)⟩

end BatchQueue
end Groth16
