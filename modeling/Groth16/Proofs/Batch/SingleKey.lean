import Groth16.Proofs.Batch.Rejection
import Groth16.Proofs.Batch.Room
import Groth16.Proofs.Verification.Multiples

/-!
# Batches under one key

A batch of encoded proofs under one key asks for all the room that it needs. Its outcomes agree with
single verification, and are those of single verification where this rejects at most one proof.
-/

namespace Groth16

theorem length_le_of_decodeInputs
    {encoded : List (List UInt8)}
    {inputs : List Fr}
    (decoded : decodeInputs encoded = .ok inputs) :
    inputs.length ≤ 64 := by
  have length := length_decodeInputs decoded
  unfold decodeInputs at decoded
  obtain ⟨bounded, -⟩ := Checks.guard_eq_ok.mp decoded
  rw [VerifyingKey.maxPublicInputs] at bounded
  omega

namespace Batch

variable {shared : SharedKey}

theorem Item.length_inputs_le_of_ofBytes?
    {proof : List UInt8}
    {encoded : List (List UInt8)}
    {item : Item}
    (decoded : ofBytes? shared proof encoded = .ok item) :
    item.inputs.length ≤ 64 := by
  obtain ⟨_, _, decoded⟩ := Checks.bind_eq_ok.mp decoded
  obtain ⟨proof', _, decoded⟩ := Checks.bind_eq_ok.mp decoded
  obtain ⟨scalars, read, made⟩ := Checks.bind_eq_ok.mp decoded
  unfold make? at made
  by_cases fits : scalars.length = shared.key.publicInputs
  · rw [dif_pos fits, Except.ok.injEq] at made
    rw [← made]
    exact length_le_of_decodeInputs read
  · rw [dif_neg fits] at made
    cases made

/-- The points of a decoded item have passed the checks of decoding. -/
theorem Item.isValid_proof_of_ofBytes?
    {proof : List UInt8}
    {encoded : List (List UInt8)}
    {item : Item}
    (decoded : ofBytes? shared proof encoded = .ok item) :
    item.proof.IsValid := by
  obtain ⟨_, _, decoded⟩ := Checks.bind_eq_ok.mp decoded
  obtain ⟨proof', read, decoded⟩ := Checks.bind_eq_ok.mp decoded
  obtain ⟨scalars, _, made⟩ := Checks.bind_eq_ok.mp decoded
  unfold make? at made
  split_ifs at made
  cases made
  exact (Proof.isDecoded_iff.mp (Proof.ofBytes?_eq_ok_iff.mp read)).1.isValid

variable (shared) in
/-- The entries of encoded proofs and inputs under one key object. -/
def decodedEntries
    (proofs : List (List UInt8))
    (inputs : List (List (List UInt8))) : Entries Item :=
  .ofList (proofs.zipWith (Item.ofBytes? shared) inputs)

variable {proofs : List (List UInt8)} {inputs : List (List (List UInt8))}

theorem of_mem_decodedEntries
    {item : Item}
    (member : item ∈ (decodedEntries shared proofs inputs).items) :
    item.shared = shared ∧ item.inputs.length ≤ 64 := by
  obtain ⟨proof, encoded, decoded⟩ :=
    exists_of_mem_zipWith (Entries.mem_items_ofList.mp member)
  exact ⟨Item.shared_eq_of_ofBytes? decoded, Item.length_inputs_le_of_ofBytes? decoded⟩

/-- The items of a batch under one key have no other key object. -/
theorem exists_enumerates_decodedEntries
    (shared : SharedKey)
    (proofs : List (List UInt8))
    (inputs : List (List (List UInt8))) :
    ∃ keys, keys.length ≤ 1 ∧ SharedKey.Enumerates keys
      ((decodedEntries shared proofs inputs).items.map Item.shared) := by
  have same (key : SharedKey)
      (member : key ∈ (decodedEntries shared proofs inputs).items.map Item.shared) :
      key = shared := by
    obtain ⟨item, itemMember, rfl⟩ := List.mem_map.mp member
    exact (of_mem_decodedEntries itemMember).1
  obtain ⟨keys, enumerates⟩ := SharedKey.exists_enumerates
    fun key member key' member' _ => (same key member).trans (same key' member').symm
  have listed : (decodedEntries shared proofs inputs).items.map Item.shared ⊆ [shared] :=
    fun key member => List.mem_singleton.mpr (same key member)
  exact ⟨keys, enumerates.length_le listed, enumerates⟩

/-- A batch under one key asks for all that it needs. -/
theorem combinedBytes_decodedEntries_le
    {keys : List SharedKey}
    (single : keys.length ≤ 1)
    (enumerates : SharedKey.Enumerates keys
      ((decodedEntries shared proofs inputs).items.map Item.shared)) :
    combinedBytes (decodedEntries shared proofs inputs).items keys ≤
      workingSpace (decodedEntries shared proofs inputs).items.length :=
  combinedBytes_le_workingSpace enumerates
    (fun _ member => Item.length_ic_le (of_mem_decodedEntries member).2) (by omega)

/-- A batch with an item has its key object alone. -/
theorem enumerates_decodedEntries
    (nonempty : (decodedEntries shared proofs inputs).items ≠ []) :
    SharedKey.Enumerates [shared]
      ((decodedEntries shared proofs inputs).items.map Item.shared) where
  ascending := List.pairwise_singleton _ _
  mem_iff key := by
    rw [List.mem_singleton, List.mem_map]
    constructor
    · rintro rfl
      obtain ⟨item, member⟩ := List.exists_mem_of_ne_nil _ nonempty
      exact ⟨item, member, (of_mem_decodedEntries member).1⟩
    · rintro ⟨item, member, rfl⟩
      exact (of_mem_decodedEntries member).1

/-- The room that a batch under one key needs depends on the number of its items. -/
theorem combinedBytes_decodedEntries
    (proofs : List (List UInt8))
    (inputs : List (List (List UInt8))) :
    let count := (decodedEntries shared proofs inputs).items.length
    combinedBytes (decodedEntries shared proofs inputs).items [shared] =
      672 * count + 1200 + groupBytes shared.key count := by
  intro count
  have held : (heldItems (decodedEntries shared proofs inputs).items shared).length = count := by
    rw [length_heldItems, List.count_eq_length.mpr, List.length_map]
    intro key member
    obtain ⟨item, itemMember, rfl⟩ := List.mem_map.mp member
    exact (of_mem_decodedEntries itemMember).1.symm
  rw [combinedBytes_eq, List.map_singleton, List.sum_singleton, held, List.length_singleton]

/-- The items that are decoded under a valid key are valid. -/
theorem isValid_of_mem_decodedEntries
    (valid : shared.key.IsValid)
    {item : Item}
    (member : item ∈ (decodedEntries shared proofs inputs).items) :
    item.IsValid := by
  obtain ⟨proof, encoded, decoded⟩ :=
    exists_of_mem_zipWith (Entries.mem_items_ofList.mp member)
  constructor
  · rw [Item.key, Item.shared_eq_of_ofBytes? decoded]
    exact valid
  · exact Item.isValid_proof_of_ofBytes? decoded

variable (shared proofs inputs) in
/-- The outcomes of single verification of each entry. -/
def singleOutcomes : List Outcome :=
  (proofs.zipWith shared.key.verifyBytes inputs).map .ofResult

theorem outcomes_decodedEntries (nonempty : shared.key.ic ≠ []) :
    (decodedEntries shared proofs inputs).outcomes
        ((decodedEntries shared proofs inputs).items.map Item.holds) =
      singleOutcomes shared proofs inputs := by
  rw [decodedEntries, Entries.outcomes_ofList, singleOutcomes,
    Item.zipWith_verifyBytes nonempty, List.map_map]
  rfl

/-- Single verification rejects the items that do not hold, and gives an outcome other than
malformed for every item. -/
theorem countP_singleOutcomes (nonempty : shared.key.ic ≠ []) :
    (singleOutcomes shared proofs inputs).countP Outcome.isRejected =
        (decodedEntries shared proofs inputs).items.countP (fun item => !item.holds) ∧
      ((singleOutcomes shared proofs inputs).countP fun outcome => !outcome.isMalformed) =
        (decodedEntries shared proofs inputs).items.length := by
  have length : ((decodedEntries shared proofs inputs).items.map Item.holds).length =
      (decodedEntries shared proofs inputs).items.length := List.length_map _
  obtain ⟨-, rejected, -, decoded⟩ := Entries.countP_outcomes length
  rw [← decodedEntries, outcomes_decodedEntries nonempty] at rejected decoded
  refine ⟨rejected.trans ?_, decoded.trans length⟩
  rw [List.count, List.countP_map]
  congr 1
  funext item
  exact beq_false item.holds

theorem length_items_decodedEntries_le
    (shared : SharedKey)
    (proofs : List (List UInt8))
    (inputs : List (List (List UInt8))) :
    (decodedEntries shared proofs inputs).items.length ≤ proofs.length := by
  rw [decodedEntries, Entries.length_items_ofList]
  refine List.countP_le_length.trans ?_
  rw [List.length_zipWith]
  exact Nat.min_le_left _ _

/-- Five proofs for a key with one input. The second does not hold for the input 6, and the third is
no proof. -/
def mixedProofs : List (List UInt8) :=
  [Proof.multipleBytes 2 97 9, Proof.multipleBytes 2 98 9, [], Proof.multipleBytes 97 2 9,
    Proof.multipleBytes 194 1 9]

/-- The input 6 for each of them. -/
def mixedInputs : List (List (List UInt8)) :=
  List.replicate 5 [FieldElement.toBytes ((6 : Nat) : Fr)]

/-- The outcomes of single verification of them. -/
def mixedOutcomes : List Outcome :=
  [.valid, .rejected, .malformed (.proof (.invalidSize 256 0)), .valid, .valid]

theorem singleOutcomes_mixed (address : Nat) :
    singleOutcomes ⟨address, .oneInput⟩ mixedProofs mixedInputs = mixedOutcomes := by
  have verified {a b : Nat} (a_ne_zero : (a : Fr) ≠ 0) (b_ne_zero : (b : Fr) ≠ 0) :
      VerifyingKey.oneInput.verifyBytes (Proof.multipleBytes a b 9)
        [FieldElement.toBytes ((6 : Nat) : Fr)] =
          .ok ((a : Fr) * b = 2 * 3 + (1 + (((6 : Nat) : Fr) * 4 + 0)) * 5 + (9 : Nat) * 7) :=
    VerifyingKey.verifyBytes_oneInput a_ne_zero b_ne_zero (by decide +kernel) _
  have refused : VerifyingKey.oneInput.verifyBytes [] [FieldElement.toBytes ((6 : Nat) : Fr)] =
      .error (.proof (.invalidSize 256 0)) := rfl
  simp only [singleOutcomes, mixedProofs, mixedInputs, List.replicate, List.zipWith]
  rw [verified (by decide +kernel) (by decide +kernel),
    verified (by decide +kernel) (by decide +kernel), refused,
    verified (by decide +kernel) (by decide +kernel),
    verified (by decide +kernel) (by decide +kernel)]
  decide +kernel

theorem length_items_mixed (address : Nat) :
    (decodedEntries ⟨address, .oneInput⟩ mixedProofs mixedInputs).items.length = 4 := by
  have nonempty := VerifyingKey.isValid_oneInput.ic_ne_nil
  have counted := (@countP_singleOutcomes ⟨address, .oneInput⟩ mixedProofs mixedInputs nonempty).2
  rw [singleOutcomes_mixed] at counted
  exact counted.symm

end Batch

namespace EngineConfig

/-- An arena can be made for batches of up to the given number of entries. -/
def HasArenaFor (config : EngineConfig) (count : Nat) : Prop :=
  ∃ arena, Arena.make (max (max config.scratchCapacity (Batch.workingSpace count))
    Scratch.defaultCapacity) config.zeroOnRestore = .ok arena

variable {config : EngineConfig} {count : Nat}

theorem HasArenaFor.exists_make_wishFor
    (hasArena : config.HasArenaFor count)
    {items : List Batch.Item}
    (fits : items.length ≤ count) :
    ∃ arena, Arena.make (max (Engine.wishFor items config) Scratch.defaultCapacity)
      config.zeroOnRestore = .ok arena := by
  obtain ⟨larger, made⟩ := hasArena
  obtain ⟨isRested, capacityEq, -⟩ := Arena.of_make_eq_ok_rested made
  refine Scratch.exists_make isRested.region ?_
  rw [capacityEq]
  refine le_trans ?_ (Arena.le_roundUp_pageSize _)
  unfold Engine.wishFor Batch.workingSpace
  omega

theorem hasArenaFor_standard (few : count ≤ 192) : ({} : EngineConfig).HasArenaFor count := by
  have capacity : max (max ({} : EngineConfig).scratchCapacity (Batch.workingSpace count))
      Scratch.defaultCapacity = 262144 := by
    change max (max (256 * 1024) (64 * 1024 + count * 1024)) (256 * 1024) = 262144
    omega
  rw [HasArenaFor, capacity]
  exact ⟨_, rfl⟩

end EngineConfig

namespace Engine

open Batch

variable (shared : SharedKey) (proofs : List (List UInt8)) (inputs : List (List (List UInt8)))
variable (config : EngineConfig) (weights : Nat → Weight)

/-- The answer of a batch under one key, from scratch space alone. -/
def outcomesIn (space : Scratch) : Except VerifyError (List Outcome) :=
  if proofs.length ≠ inputs.length then
    .error (.batch (.lengthMismatch proofs.length inputs.length))
  else (verdictsIn (decodedEntries shared proofs inputs).items config weights space).map
    (decodedEntries shared proofs inputs).outcomes

/-- Verifying entries answers from the verdicts on their items and records their outcomes. -/
theorem verifyEntries_run (results : List (Except VerifyError Item)) (engine : Engine) :
    let entries := Entries.ofList results
    let answer := (verdictsIn entries.items config weights engine.scratch).map entries.outcomes
    ∃ statistics, (verifyEntries entries config weights).run.run engine =
        (answer, ⟨((verifyItems entries.items config weights).run.run engine).2.scratch,
          statistics⟩) ∧
      engine.statistics.Adds (.ofOutcomes answer) statistics := by
  intro entries answer
  obtain ⟨between, run, adds⟩ := verifyItems_run entries.items config weights engine
  unfold answer verifyEntries
  rw [Checks.run_bind, run]
  cases found : verdictsIn entries.items config weights engine.scratch with
  | error error =>
      rw [found] at adds
      exact ⟨between, rfl, adds⟩
  | ok verdicts =>
      rw [found] at run adds
      obtain ⟨statistics, recorded, addsMalformed⟩ := Records.andThen
        (.forIn (List.range entries.malformedCount) fun _ => false)
        (.pure (entries.outcomes verdicts)) ⟨_, between⟩
      refine ⟨statistics, recorded, ?_⟩
      rw [Except.map, Tally.ofOutcomes_ofList (length_of_verifyItems_eq_ok run)]
      exact adds.trans addsMalformed

/-- A batch answers from scratch space alone, leaves it at rest and records its outcomes. -/
theorem verifyBatch_run (engine : Engine) :
    ∃ after : Engine, (verifyBatch shared proofs inputs config weights).run.run engine =
        (outcomesIn shared proofs inputs config weights engine.scratch, after) ∧
      (engine.scratch.IsRested → after.scratch.IsRested) ∧
      engine.statistics.Adds
        (.ofOutcomes (outcomesIn shared proofs inputs config weights engine.scratch))
        after.statistics := by
  unfold verifyBatch outcomesIn
  by_cases lengths : proofs.length ≠ inputs.length
  · rw [if_pos lengths, if_pos lengths]
    exact ⟨engine, rfl, id, .refl _⟩
  · rw [if_neg lengths, if_neg lengths]
    obtain ⟨statistics, run, adds⟩ := verifyEntries_run config weights
      (proofs.zipWith (Item.ofBytes? shared) inputs) engine
    exact ⟨_, run, isRested_verifyItems _ config weights, adds⟩

theorem verifyBatch_fst (engine : Engine) :
    ((verifyBatch shared proofs inputs config weights).run.run engine).1 =
      outcomesIn shared proofs inputs config weights engine.scratch := by
  obtain ⟨after, run, -, -⟩ := verifyBatch_run shared proofs inputs config weights engine
  rw [run]

/-- A batch under one key needs no more than it asks for. -/
theorem exists_needsRoom_outcomesIn :
    ∃ bytes value,
      bytes ≤ wishFor (decodedEntries shared proofs inputs).items config ∧
      Scratch.NeedsRoom (outcomesIn shared proofs inputs config weights)
        (wishFor (decodedEntries shared proofs inputs).items config) config.zeroOnRestore bytes
        value ∧
      (proofs.length = inputs.length →
        value = (verdicts (decodedEntries shared proofs inputs).items config.minBatchSize
          weights).map (decodedEntries shared proofs inputs).outcomes) := by
  by_cases lengths : proofs.length = inputs.length
  · obtain ⟨keys, single, enumerates⟩ := exists_enumerates_decodedEntries shared proofs inputs
    have modest := neededBytes_le_workingSpace enumerates
      (fun item member => (of_mem_decodedEntries member).2) (by omega) config.minBatchSize
    have answers : outcomesIn shared proofs inputs config weights = fun space =>
        (verdictsIn (decodedEntries shared proofs inputs).items config weights space).map
          (decodedEntries shared proofs inputs).outcomes :=
      funext fun _ => if_neg (not_not_intro lengths)
    rw [answers]
    exact ⟨_, _, modest.trans (Nat.le_max_right _ _),
      (needsRoom_verdictsIn config weights enumerates).map _, fun _ => rfl⟩
  · have answers : outcomesIn shared proofs inputs config weights = fun _ =>
        .error (.batch (.lengthMismatch proofs.length inputs.length)) :=
      funext fun _ => if_pos lengths
    rw [answers]
    exact ⟨0, _, Nat.zero_le _, .of_const nofun, fun equal => absurd equal lengths⟩

/-- A batch under a valid key of which single verification rejects at most one proof has the
outcomes of single verification, whatever the weights are. -/
theorem exists_verifyBatch_run
    {shared : SharedKey}
    (valid : shared.key.IsValid)
    {proofs : List (List UInt8)}
    {inputs : List (List (List UInt8))}
    (lengths : proofs.length = inputs.length)
    (few : (singleOutcomes shared proofs inputs).countP Outcome.isRejected ≤ 1)
    {limit : Nat}
    (bounded : proofs.length ≤ limit)
    {config : EngineConfig}
    (hasArena : config.HasArenaFor limit)
    (weights : Nat → Weight)
    {engine : Engine}
    (rested : engine.scratch.IsRested) :
    ∃ after : Engine, (verifyBatch shared proofs inputs config weights).run.run engine =
        (.ok (singleOutcomes shared proofs inputs), after) ∧
      after.scratch.IsRested := by
  have nonempty := valid.ic_ne_nil
  obtain ⟨after, run, keeps, -⟩ := verifyBatch_run shared proofs inputs config weights engine
  refine ⟨after, run.trans ?_, keeps rested⟩
  obtain ⟨bytes, value, modest, needs, valueEq⟩ :=
    exists_needsRoom_outcomesIn shared proofs inputs config weights
  obtain ⟨keys, -, enumerates⟩ := exists_enumerates_decodedEntries shared proofs inputs
  obtain ⟨arena, made⟩ := hasArena.exists_make_wishFor
    ((length_items_decodedEntries_le shared proofs inputs).trans bounded)
  obtain ⟨capacity, served⟩ := rested.exists_capacityFor made
  rw [needs.eq_value _ capacity rested served (modest.trans (rested.le_capacityFor served)),
    valueEq lengths, verdicts_eq_map_holds
      (fun item member => isValid_of_mem_decodedEntries valid member) enumerates
      ((countP_singleOutcomes nonempty).1.symm.trans_le few) config.minBatchSize,
    Except.map, outcomes_decodedEntries nonempty]

theorem exists_verifyBatch_run_mixed
    (address : Nat)
    (weights : Nat → Weight)
    {engine : Engine}
    (rested : engine.scratch.IsRested) :
    ∃ after : Engine,
      (verifyBatch ⟨address, .oneInput⟩ mixedProofs mixedInputs {} weights).run.run engine =
        (.ok mixedOutcomes, after) ∧
      after.scratch.IsRested := by
  have valid := VerifyingKey.isValid_oneInput
  have few : (singleOutcomes ⟨address, .oneInput⟩ mixedProofs mixedInputs).countP
      Outcome.isRejected ≤ 1 := by
    rw [singleOutcomes_mixed]
    decide
  rw [← singleOutcomes_mixed address]
  exact exists_verifyBatch_run valid rfl few le_rfl (EngineConfig.hasArenaFor_standard (by decide))
    weights rested

/-! ## Agreement with single verification -/

variable {engine after : Engine}

/-- A batch that is verified has one outcome for each entry, in the order of submission, which
agrees with single verification. All outcomes are those of single verification if fewer
entries than the smallest batch are decoded or one of them is rejected. The key has its
constant point, as every key that is decoded. -/
theorem verifyBatch_agrees
    {shared : SharedKey}
    (nonempty : shared.key.ic ≠ [])
    {proofs : List (List UInt8)}
    {inputs : List (List (List UInt8))}
    {config : EngineConfig}
    {weights : Nat → Weight}
    {outcomes : List Batch.Outcome}
    (run : (verifyBatch shared proofs inputs config weights).run.run engine =
      (.ok outcomes, after)) :
    let decoded := proofs.zipWith (Batch.Item.ofBytes? shared) inputs
    let single := proofs.zipWith shared.key.verifyBytes inputs
    outcomes.length = proofs.length ∧ inputs.length = proofs.length ∧
      List.Forall₂ Batch.Outcome.Agrees single outcomes ∧
      ((decoded.countP fun entry => entry.isOk) < config.minBatchSize ∨
          .rejected ∈ outcomes →
        outcomes = single.map Batch.Outcome.ofResult) := by
  intro decoded single
  obtain ⟨lengths, run⟩ := verifyEntries_of_verifyBatch_eq_ok run
  have singleEq : single = decoded.map fun entry => entry.map Batch.Item.holds :=
    Batch.Item.zipWith_verifyBytes nonempty proofs inputs
  have length_map (outcome : Except VerifyError Batch.Item → Batch.Outcome) :
      (decoded.map outcome).length = proofs.length := by
    rw [List.length_map, List.length_zipWith, ← lengths, Nat.min_self]
  have itemsNonempty (item : Batch.Item) (member : item ∈ (Batch.Entries.ofList decoded).items) :
      item.key.ic ≠ [] := by
    obtain ⟨proof, encoded, decodedItem⟩ := Batch.exists_of_mem_zipWith
      (Batch.Entries.mem_items_ofList.mp member)
    exact Batch.Item.ic_ne_nil_of_ofBytes? nonempty decodedItem
  have outcomesEq := verifyEntries_cases itemsNonempty run
  rw [Batch.Entries.outcomes_ofList, Batch.Entries.outcomes_ofList,
    Batch.Entries.length_items_ofList] at outcomesEq
  rw [singleEq]
  rcases outcomesEq with rfl | ⟨enough, rfl⟩
  -- Either the items were verified one by one, or the combined check accepted all of them.
  · refine ⟨length_map _, lengths.symm, ?_, fun _ => ?_⟩
    · exact Batch.Outcome.forall₂_agrees (fun entry => Batch.Outcome.agrees_ofResult _) decoded
    · rw [List.map_map]
      rfl
  · refine ⟨length_map _, lengths.symm, ?_, ?_⟩
    · exact Batch.Outcome.forall₂_agrees
        (fun entry => Batch.Outcome.agrees_accepted entry _) decoded
    · rintro (few | rejected)
      · exact absurd enough (Nat.not_le_of_lt few)
      · exact absurd rejected (Batch.Outcome.rejected_notMem_accepted decoded)

/-- A batch of five entries, four of which are decoded and checked at once. -/
theorem verifyBatch_agrees_mixed :
    let shared : SharedKey := ⟨0, .oneInput⟩
    let decoded := mixedProofs.zipWith (Batch.Item.ofBytes? shared) mixedInputs
    let single := mixedProofs.zipWith shared.key.verifyBytes mixedInputs
    shared.key.ic ≠ [] ∧ (decoded.countP fun entry => entry.isOk) = 4 ∧
      ∀ weights, ∃ outcomes after,
        (verifyBatch shared mixedProofs mixedInputs {} weights).run.run initial =
          (.ok outcomes, after) ∧
        outcomes = mixedOutcomes ∧
        outcomes.length = 5 ∧ mixedInputs.length = 5 ∧
        List.Forall₂ Batch.Outcome.Agrees single outcomes ∧
        ((decoded.countP fun entry => entry.isOk) < 4 ∨ .rejected ∈ outcomes →
          outcomes = single.map Batch.Outcome.ofResult) := by
  intro shared decoded single
  have nonempty := VerifyingKey.isValid_oneInput.ic_ne_nil
  have count := length_items_mixed 0
  rw [decodedEntries, Entries.length_items_ofList] at count
  refine ⟨nonempty, count, fun weights => ?_⟩
  obtain ⟨after, run, -⟩ := @exists_verifyBatch_run_mixed 0 weights initial Scratch.isRested_empty
  exact ⟨_, after, run, rfl, verifyBatch_agrees nonempty run⟩

end Engine
end Groth16
