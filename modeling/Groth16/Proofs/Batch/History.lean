import Groth16.Proofs.Batch.Queue
import Groth16.Proofs.Batch.SingleKey
import Groth16.Proofs.Curve.Encoded

/-!
# Calls after other calls

Scratch space keeps its arena from one call to the next. Whatever a thread has done with it
before, a call finds the space at rest, so the only trace that earlier calls leave is the
capacity of the arena. A batch under one key always asks for enough and shows no trace at all.
-/

namespace Groth16

/-! ## Histories of scratch space -/

namespace Scratch

/-- What may be done with an arena that is lent out, beside allocating in it: whatever it is
replaced with is an arena again. -/
structure Visitor where
  body : StateT Arena (StateM Scratch) Unit
  keeps : ∀ arena, arena.IsRegion → (body arena .inUse).1.2.IsRegion

/-- What a thread does with its scratch space. -/
inductive Event where
  | use (minCapacity : Nat) (zeroOnRestore : Bool) (visitor : Visitor)
  | release
  | pairingCheck (bytes : List UInt8)
  | multiScalarMul (points scalars : List (List UInt8))
  | verifyItems (items : List Batch.Item) (config : EngineConfig) (weights : Nat → Weight)
  | verifyBatch
    (shared : SharedKey)
    (proofs : List (List UInt8))
    (inputs : List (List (List UInt8)))
    (config : EngineConfig)
    (weights : Nat → Weight)

/-- The scratch space after an event. -/
def Event.perform (space : Scratch) : Event → Scratch
  | use minCapacity zeroOnRestore visitor =>
    (Scratch.use minCapacity zeroOnRestore visitor.body space).2
  | release => space.release
  | pairingCheck bytes => ((Encoded.pairingCheck bytes).run.run space).2
  | multiScalarMul points scalars => ((Encoded.multiScalarMul points scalars).run.run space).2
  | verifyItems items config weights =>
    ((Engine.verifyItems items config weights).run.run ⟨space, {}⟩).2.scratch
  | verifyBatch shared proofs inputs config weights =>
    ((Engine.verifyBatch shared proofs inputs config weights).run.run ⟨space, {}⟩).2.scratch

/-- The scratch space of a thread after the events. -/
def after (history : List Event) : Scratch := history.foldl Event.perform empty

/-- Every event leaves the scratch space at rest. -/
theorem IsRested.perform
    {space : Scratch}
    (rested : space.IsRested)
    (event : Event) :
    (Event.perform space event).IsRested := by
  cases event with
  | use minCapacity zeroOnRestore visitor => exact rested.use visitor.keeps
  | release => exact rested.release
  | pairingCheck bytes =>
      obtain ⟨value, finds⟩ := Encoded.exists_findsAnswer_pairingCheck bytes
      exact finds.isRested rested
  | multiScalarMul points scalars =>
      obtain ⟨value, finds⟩ := Encoded.exists_findsAnswer_multiScalarMul points scalars
      exact finds.isRested rested
  | verifyItems items config weights =>
      exact Engine.isRested_verifyItems items config weights rested
  | verifyBatch shared proofs inputs config weights =>
      obtain ⟨after, run, keeps, -⟩ :=
        Engine.verifyBatch_run shared proofs inputs config weights ⟨space, {}⟩
      rw [Event.perform, run]
      exact keeps rested

/-- So does any run of events. -/
theorem isRested_foldl
    {space : Scratch}
    (rested : space.IsRested)
    (history : List Event) :
    (history.foldl Event.perform space).IsRested := by
  induction history generalizing space with
  | nil => exact rested
  | cons event rest inductionHypothesis => exact inductionHypothesis (rested.perform event)

theorem isRested_after (history : List Event) : (after history).IsRested :=
  isRested_foldl isRested_empty history

end Scratch

/-- After any run of operations on a new queue, its verification is that of one batch. -/
theorem BatchQueue.exists_verify_eq
    {shared : SharedKey}
    {capacity : Nat}
    {config : EngineConfig}
    {queue : BatchQueue}
    (made : make? shared capacity config = .ok queue)
    (operations : List Operation)
    (engine : Engine) :
    ∃ proofs inputs, ∀ weights,
      ((performAll operations).run (queue, engine)).2.1.verify weights =
        Engine.verifyBatch shared proofs inputs config weights := by
  have new : queue = holding shared config capacity [] := by
    unfold make? at made
    split at made
    · cases made
    · cases made
      rfl
  have none_le : ([] : List Submission).length ≤ capacity := Nat.zero_le capacity
  obtain ⟨log, after, performed, -⟩ :=
    performAll_holding shared config operations none_le engine
  rw [new, performed]
  exact ⟨_, _, verify_holding⟩

namespace Engine

open Batch

/-- Whatever a thread has done with its scratch space, a batch under one key is never refused for
want of room, and neither is a queue after any run of operations: the combined check of the
decoded items takes no more than the batch asks for. Where an arena of this capacity can be
made, the outcomes are those of the verdicts with all the room that they need. -/
theorem verifyBatch_fits
    (history : List Scratch.Event)
    (statistics : Statistics)
    (shared : SharedKey)
    (config : EngineConfig) :
    (∀ proofs inputs weights,
      let decoded := decodedEntries shared proofs inputs
      let wish := max config.scratchCapacity (workingSpace decoded.items.length)
      let answer := ((verifyBatch shared proofs inputs config weights).run.run
        ⟨Scratch.after history, statistics⟩).1
      (∃ bytes holds, (aggregate decoded.items weights).Takes bytes holds ∧ bytes ≤ wish) ∧
        ¬Scratch.IsExhausted answer ∧
        (proofs.length = inputs.length → ∀ arena,
          Arena.make (max wish Scratch.defaultCapacity) config.zeroOnRestore = .ok arena →
          answer = (verdicts decoded.items config.minBatchSize weights).map decoded.outcomes)) ∧
      ∀ capacity queue, BatchQueue.make? shared capacity config = .ok queue →
        ∀ operations engine weights,
          let final := ((BatchQueue.performAll operations).run (queue, engine)).2.1
          ¬Scratch.IsExhausted
            ((final.verify weights).run.run ⟨Scratch.after history, statistics⟩).1 := by
  have rested := Scratch.isRested_after history
  have batch (proofs inputs weights) : ¬Scratch.IsExhausted
      ((verifyBatch shared proofs inputs config weights).run.run
        ⟨Scratch.after history, statistics⟩).1 := by
    obtain ⟨bytes, value, modest, needs, -⟩ :=
      exists_needsRoom_outcomesIn shared proofs inputs config weights
    rw [verifyBatch_fst]
    exact needs.not_isExhausted modest rested
  constructor
  · intro proofs inputs weights decoded wish answer
    refine ⟨?_, batch proofs inputs weights, fun lengths arena made => ?_⟩
    · obtain ⟨keys, single, enumerates⟩ := exists_enumerates_decodedEntries shared proofs inputs
      exact ⟨_, _, aggregate_takes weights enumerates,
        (combinedBytes_decodedEntries_le single enumerates).trans (Nat.le_max_right _ _)⟩
    · obtain ⟨bytes, value, modest, needs, valueEq⟩ :=
        exists_needsRoom_outcomesIn shared proofs inputs config weights
      obtain ⟨capacity, served⟩ := rested.exists_capacityFor made
      rw [← valueEq lengths, ← needs.eq_value _ capacity rested served
        (modest.trans (rested.le_capacityFor served))]
      exact verifyBatch_fst shared proofs inputs config weights _
  · intro capacity queue made operations engine weights final
    obtain ⟨proofs, inputs, verifyEq⟩ := BatchQueue.exists_verify_eq made operations engine
    rw [verifyEq weights]
    exact batch proofs inputs weights

/-- A batch whose four decoded items are checked at once and take 5936 bytes, and any queue under
the same key, after scratch space was used for something else. -/
theorem verifyBatch_fits_mixed :
    let history : List Scratch.Event := [.pairingCheck [], .release]
    let shared : SharedKey := ⟨0, .oneInput⟩
    let decoded := decodedEntries shared mixedProofs mixedInputs
    (∀ weights,
      let answer := ((verifyBatch shared mixedProofs mixedInputs {} weights).run.run
        ⟨Scratch.after history, {}⟩).1
      (∃ holds, (aggregate decoded.items weights).Takes 5936 holds) ∧
        (∃ bytes holds, (aggregate decoded.items weights).Takes bytes holds ∧ bytes ≤ 262144) ∧
        (∃ arena, Arena.make 262144 false = .ok arena) ∧
        answer = (verdicts decoded.items 4 weights).map decoded.outcomes ∧
        answer = .ok mixedOutcomes) ∧
      ∃ queue, BatchQueue.make? shared 5 {} = .ok queue ∧
        ∀ operations engine weights,
          let final := ((BatchQueue.performAll operations).run (queue, engine)).2.1
          ¬Scratch.IsExhausted
            ((final.verify weights).run.run ⟨Scratch.after history, {}⟩).1 := by
  obtain ⟨batch, queues⟩ := verifyBatch_fits [.pairingCheck [], .release] {} ⟨0, .oneInput⟩ {}
  have count := length_items_mixed 0
  have wish : max ({} : EngineConfig).scratchCapacity (workingSpace 4) = 262144 := rfl
  have capacity : max 262144 Scratch.defaultCapacity = 262144 := rfl
  have made : Arena.make 262144 false = .ok ⟨262144, 0, 0, false, fun _ => 0⟩ := rfl
  refine ⟨fun weights => ?_, _, rfl, queues 5 _ rfl⟩
  obtain ⟨fits, -, answers⟩ := batch mixedProofs mixedInputs weights
  rw [count, wish] at fits answers
  rw [capacity] at answers
  refine ⟨?_, fits, ⟨_, made⟩, answers rfl _ made, ?_⟩
  · have items : (decodedEntries ⟨0, .oneInput⟩ mixedProofs mixedInputs).items ≠ [] :=
      List.ne_nil_of_length_pos (by rw [count]; decide)
    have points : VerifyingKey.oneInput.ic.length = 2 := rfl
    have takes := aggregate_takes weights (enumerates_decodedEntries items)
    rw [combinedBytes_decodedEntries, count, groupBytes_eq _ (by decide), points] at takes
    exact ⟨_, takes⟩
  · obtain ⟨after, run, -⟩ := exists_verifyBatch_run_mixed 0 weights
      (show (⟨Scratch.after [.pairingCheck [], .release], {}⟩ : Engine).scratch.IsRested from
        Scratch.isRested_after _)
    exact congrArg Prod.fst run

/-- Whatever a thread has done with its scratch space, a call answers as on a new thread, unless one
of the two is refused for want of room because its arena is smaller than what the call needs.
So they agree on at most 1365 pairs, on at most 7427 multiples, on batches under at most fourteen
key objects with at most 64 public inputs each, and on all batches under one key. -/
theorem agreesUpToRoom_after
    (history : List Scratch.Event)
    (statistics freshStatistics : Statistics) :
    let space := Scratch.after history
    let engine : Engine := ⟨space, statistics⟩
    let fresh : Engine := ⟨.empty, freshStatistics⟩
    (∀ bytes,
      let answer := ((Encoded.pairingCheck bytes).run.run space).1
      let freshAnswer := ((Encoded.pairingCheck bytes).run.run .empty).1
      space.AgreesUpToRoom Scratch.defaultCapacity false (Encoded.pairingCheckBytes bytes)
        answer freshAnswer ∧
      (bytes.length < 192 * 1366 → answer = freshAnswer)) ∧
    (∀ points scalars,
      let answer := ((Encoded.multiScalarMul points scalars).run.run space).1
      let freshAnswer := ((Encoded.multiScalarMul points scalars).run.run .empty).1
      space.AgreesUpToRoom Scratch.defaultCapacity false
        (Encoded.multiScalarMulBytes points scalars) answer freshAnswer ∧
      (points.length ≤ 7427 → answer = freshAnswer)) ∧
    (∀ items config weights, SharedKey.HaveOwnAddresses (items.map Item.shared) →
      ∃ keys, SharedKey.Enumerates keys (items.map Item.shared) ∧
        let answer := ((verifyItems items config weights).run.run engine).1
        let freshAnswer := ((verifyItems items config weights).run.run fresh).1
        space.AgreesUpToRoom (max config.scratchCapacity (workingSpace items.length))
          config.zeroOnRestore (neededBytes items keys config.minBatchSize) answer freshAnswer ∧
        ((∀ item ∈ items, item.inputs.length ≤ 64) → keys.length ≤ 14 →
          answer = freshAnswer)) ∧
    ∀ shared proofs inputs config weights,
      ((verifyBatch shared proofs inputs config weights).run.run engine).1 =
        ((verifyBatch shared proofs inputs config weights).run.run fresh).1 := by
  intro space engine fresh
  have rested : space.IsRested := Scratch.isRested_after history
  refine ⟨fun bytes => ?_, fun points scalars => ?_, fun items config weights own => ?_, ?_⟩
  · obtain ⟨value, finds⟩ := Encoded.exists_findsAnswer_pairingCheck bytes
    have needs := finds.needsRoom
    refine ⟨needs.agreesUpToRoom rested, fun few => ?_⟩
    exact needs.eq_of_le (Encoded.pairingCheckBytes_le_defaultCapacity few) rested
      Scratch.isRested_empty
  · obtain ⟨value, finds⟩ := Encoded.exists_findsAnswer_multiScalarMul points scalars
    have needs := finds.needsRoom
    refine ⟨needs.agreesUpToRoom rested, fun few => ?_⟩
    exact needs.eq_of_le (Encoded.multiScalarMulBytes_le few scalars) rested
      Scratch.isRested_empty
  · obtain ⟨keys, enumerates⟩ := SharedKey.exists_enumerates own
    have needs := needsRoom_verdictsIn config weights enumerates
    refine ⟨keys, enumerates, ?_⟩
    rw [verifyItems_fst, verifyItems_fst]
    refine ⟨needs.agreesUpToRoom rested, fun bounded few => ?_⟩
    have modest := neededBytes_le_workingSpace enumerates bounded few config.minBatchSize
    exact needs.eq_of_le (modest.trans (Nat.le_max_right _ _)) rested Scratch.isRested_empty
  · intro shared proofs inputs config weights
    obtain ⟨bytes, value, modest, needs, -⟩ :=
      exists_needsRoom_outcomesIn shared proofs inputs config weights
    rw [verifyBatch_fst, verifyBatch_fst]
    exact needs.eq_of_le modest rested Scratch.isRested_empty

/-- A pair of identities, no multiples, and three items under two key objects, after a use of a
larger arena. -/
theorem agreesUpToRoom_after_generators :
    let history : List Scratch.Event :=
      [.use 524288 false ⟨pure (), fun _ region => region⟩, .pairingCheck []]
    let space := Scratch.after history
    let identities : List UInt8 := List.replicate 192 0
    let items := [2, 1, 2].map Item.atGenerators
    (SharedKey.HaveOwnAddresses (items.map Item.shared) ∧
        ∀ item ∈ items, item.inputs.length ≤ 64) ∧
      ((Encoded.pairingCheck identities).run.run space).1 =
        ((Encoded.pairingCheck identities).run.run .empty).1 ∧
      ((Encoded.multiScalarMul [] []).run.run space).1 =
        ((Encoded.multiScalarMul [] []).run.run .empty).1 ∧
      ∀ config weights,
        ((verifyItems items config weights).run.run ⟨space, {}⟩).1 =
          ((verifyItems items config weights).run.run .initial).1 := by
  intro history space identities items
  have own : SharedKey.HaveOwnAddresses (items.map Item.shared) :=
    Item.haveOwnAddresses_atGenerators [2, 1, 2]
  have inputs : ∀ item ∈ items, item.inputs.length ≤ 64 := by
    exact fun item member => Item.length_inputs_atGenerators_le member
  have length : identities.length < 192 * 1366 := by
    rw [List.length_replicate]
    decide
  obtain ⟨pairingChecks, sums, batches, -⟩ := agreesUpToRoom_after history {} {}
  refine ⟨⟨own, inputs⟩, (pairingChecks _).2 length, (sums [] []).2 (Nat.zero_le _), ?_⟩
  intro config weights
  obtain ⟨keys, enumerates, -, agree⟩ := batches items config weights own
  exact agree inputs ((enumerates.length_le (List.Subset.refl _)).trans (by decide))

/-- After the use of a larger arena, 1366 pairs of identities pass the pairing check and 76 items
each under a key object of its own are checked. On a new thread both are refused for want of
room. -/
theorem answers_differ_after_use :
    let space := Scratch.after [.use 524288 false ⟨pure (), fun _ region => region⟩]
    let identities : List UInt8 := List.replicate (1366 * Encoded.pairSize) 0
    let items := (List.range 76).map Item.atGenerators
    ((Encoded.pairingCheck identities).run.run space).1 = .ok true ∧
      Scratch.IsExhausted ((Encoded.pairingCheck identities).run.run .empty).1 ∧
      ∀ weights,
        ¬Scratch.IsExhausted ((verifyItems items {} weights).run.run ⟨space, {}⟩).1 ∧
        Scratch.IsExhausted ((verifyItems items {} weights).run.run .initial).1 := by
  intro space identities items
  have rested : space.IsRested := Scratch.isRested_after _
  obtain ⟨arena, spaceEq, capacityEq, zeroEq⟩ : ∃ arena : Arena, space = .idle (some arena) ∧
      arena.capacity = 524288 ∧ arena.zeroOnRestore = false := ⟨_, rfl, rfl, rfl⟩
  have served (wish : Nat) (small : wish ≤ 524288) : space.capacityFor wish false = .ok 524288 := by
    rw [spaceEq, ← capacityEq]
    apply Scratch.capacityFor_of_serves
    rw [Scratch.serves, capacityEq, zeroEq, decide_eq_true small]
    rfl
  have made : Arena.make Scratch.defaultCapacity false =
      .ok ⟨262144, 0, 0, false, fun _ => 0⟩ := rfl
  have fresh (wish : Nat) (small : wish ≤ Scratch.defaultCapacity) :
      Scratch.empty.capacityFor wish false = .ok 262144 := by
    rw [Scratch.capacityFor_empty, Nat.max_eq_right small, made]
    rfl
  have checkNeeds := (Encoded.findsAnswer_pairingCheck_zeros (Nat.succ_pos 1365)).needsRoom
  have batchNeeds (weights : Nat → Weight) :=
    needsRoom_verdictsIn {} weights (Item.enumerates_atGenerators 76)
  have modest : wishFor items {} ≤ Scratch.defaultCapacity := by
    rw [wishFor, List.length_map, List.length_range]
    decide
  have needed : neededBytes items (items.map Item.shared) 4 = 3480 * 76 :=
    neededBytes_atGenerators (by decide)
  refine ⟨?_, ?_, fun weights => ⟨?_, ?_⟩⟩
  · exact checkNeeds.eq_value space _ rested (served _ (by decide)) (by decide)
  · exact (checkNeeds.isExhausted_iff _ Scratch.isRested_empty).mpr
      ⟨_, fresh _ le_rfl, by decide⟩
  · rw [verifyItems_fst, (batchNeeds weights).isExhausted_iff space rested,
      served _ (modest.trans (by decide)), needed]
    rintro ⟨capacity, equal, small⟩
    cases equal
    exact absurd small (by decide)
  · rw [verifyItems_fst]
    refine ((batchNeeds weights).isExhausted_iff .empty Scratch.isRested_empty).mpr
      ⟨_, fresh _ modest, ?_⟩
    rw [needed]
    decide

end Engine
end Groth16
