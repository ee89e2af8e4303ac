import Groth16.Proofs.Batch.Demand
import Groth16.Proofs.Batch.Recording

/-!
# Batches in scratch space

A batch in scratch space is refused for want of room exactly where the arena is smaller than
what its items and key objects call for. Beside the verdicts it leaves statistics, which have
no part in its answer.
-/

namespace Groth16
namespace Engine

variable (items : List Batch.Item) (config : EngineConfig) (weights : Nat → Weight)

/-- The capacity that a batch asks for. -/
def wishFor : Nat := max config.scratchCapacity (Batch.workingSpace items.length)

/-- The answer of a batch, from what the batch gives in scratch space. -/
def verdictsIn (space : Scratch) : Except VerifyError (List Bool) :=
  let verdicts := (Scratch.useArena (wishFor items config) config.zeroOnRestore
    (Batch.verify items config.minBatchSize weights).run space).1
  (verdicts.mapError .allocationFailed).bind id

/-- A batch answers from scratch space alone and leaves it as the computation does. It records
its verdicts. -/
theorem verifyItems_run (engine : Engine) :
    ∃ statistics, (verifyItems items config weights).run.run engine =
        (verdictsIn items config weights engine.scratch,
          ⟨(Scratch.useArena (wishFor items config) config.zeroOnRestore
            (Batch.verify items config.minBatchSize weights).run engine.scratch).2,
            statistics⟩) ∧
      engine.statistics.Adds
        (.ofBatch items.length (verdictsIn items config weights engine.scratch)) statistics := by
  have run : (inScratch (wishFor items config) config.zeroOnRestore
      (Batch.verify items config.minBatchSize weights)).run.run engine =
        (verdictsIn items config weights engine.scratch,
          ⟨(Scratch.useArena (wishFor items config) config.zeroOnRestore
            (Batch.verify items config.minBatchSize weights).run engine.scratch).2,
            engine.statistics⟩) := rfl
  unfold verifyItems
  dsimp only
  rw [← wishFor, Checks.run_bind, run]
  cases verdictsIn items config weights engine.scratch with
  | error error => exact ⟨engine.statistics, rfl, .refl _⟩
  | ok verdicts =>
      have counted := Records.forIn verdicts id
      rw [List.map_id] at counted
      rw [Tally.ofBatch_ok]
      refine Records.andThen (.record (.countBatch items.length)) ?_ ⟨_, _⟩
      refine counted.andThen ?_
      intro recorded
      have read : (getThe Engine : EngineM Engine).run.run recorded = (.ok recorded, recorded) :=
        rfl
      rw [Checks.run_bind, read]
      dsimp only
      cases recorded.scratch.peak with
      | none => exact Records.pure verdicts recorded
      | some peak =>
          exact Records.andThen (.record (.notePeak peak)) (.pure verdicts) recorded

theorem verifyItems_fst (engine : Engine) :
    ((verifyItems items config weights).run.run engine).1 =
      verdictsIn items config weights engine.scratch := by
  obtain ⟨statistics, run, -⟩ := verifyItems_run items config weights engine
  rw [run]

/-- A batch that is over leaves the scratch space to its next use. -/
theorem isRested_verifyItems
    {engine : Engine}
    (rested : engine.scratch.IsRested) :
    ((verifyItems items config weights).run.run engine).2.scratch.IsRested := by
  obtain ⟨statistics, run, -⟩ := verifyItems_run items config weights engine
  rw [run]
  exact rested.useArena (Batch.sameRegion_verify items config.minBatchSize weights)

variable {items}

/-- A batch needs room for the combined check, if there is one. -/
theorem needsRoom_verdictsIn
    {keys : List SharedKey}
    (enumerates : SharedKey.Enumerates keys (items.map Batch.Item.shared)) :
    Scratch.NeedsRoom (verdictsIn items config weights) (wishFor items config)
      config.zeroOnRestore (Batch.neededBytes items keys config.minBatchSize)
      (Batch.verdicts items config.minBatchSize weights) :=
  .of_useArena Batch.not_isExhausted_verdicts
    (fun _ rested fits => Batch.verify_eq_verdicts enumerates rested fits)
    fun _ rested small => Batch.isExhausted_verify enumerates rested small

end Engine

/-- There are no more key objects than a list has entries that names all of them. -/
theorem SharedKey.Enumerates.length_le
    {keys used listed : List SharedKey}
    (enumerates : Enumerates keys used)
    (subset : used ⊆ listed) :
    keys.length ≤ listed.length :=
  (enumerates.nodup.subperm fun key member =>
    subset ((enumerates.mem_iff key).mp member)).length_le

namespace Batch

variable {items : List Item} {keys : List SharedKey}

theorem Item.length_ic_le
    {item : Item}
    (inputs : item.inputs.length ≤ 64) :
    item.key.ic.length ≤ 65 := by
  have length := item.inputs_length
  rw [VerifyingKey.publicInputs] at length
  rw [Item.key]
  omega

theorem lt_neededBytes_iff {capacity minBatchSize : Nat} :
    capacity < neededBytes items keys minBatchSize ↔
      minBatchSize ≤ items.length ∧ capacity < combinedBytes items keys := by
  unfold neededBytes
  split
  · rename_i many
    exact (and_iff_right many).symm
  · rename_i few
    exact iff_of_false (Nat.not_lt_zero _) fun both => few both.1

theorem neededBytes_le_workingSpace
    (enumerates : SharedKey.Enumerates keys (items.map Item.shared))
    (inputs : ∀ item ∈ items, item.inputs.length ≤ 64)
    (few : keys.length ≤ 14)
    (minBatchSize : Nat) :
    neededBytes items keys minBatchSize ≤ workingSpace items.length := by
  unfold neededBytes
  split
  · exact combinedBytes_le_workingSpace enumerates
      (fun item member => Item.length_ic_le (inputs item member)) few
  · exact Nat.zero_le _

theorem verify_isExhausted_iff
    (enumerates : SharedKey.Enumerates keys (items.map Item.shared))
    {arena : Arena}
    (rested : arena.IsRested)
    (minBatchSize : Nat)
    (weights : Nat → Weight) :
    Scratch.IsExhausted ((verify items minBatchSize weights).run.run arena).1 ↔
      arena.capacity < neededBytes items keys minBatchSize := by
  constructor
  · intro exhausted
    by_contra enough
    rw [verify_eq_verdicts enumerates rested (Nat.le_of_not_lt enough)] at exhausted
    exact not_isExhausted_verdicts exhausted
  · exact isExhausted_verify enumerates rested

theorem Item.length_inputs_atGenerators_le
    {addresses : List Nat}
    {item : Item}
    (member : item ∈ addresses.map atGenerators) :
    item.inputs.length ≤ 64 := by
  obtain ⟨address, -, rfl⟩ := List.mem_map.mp member
  exact Nat.zero_le 64

theorem Item.enumerates_atGenerators (count : Nat) :
    SharedKey.Enumerates (((List.range count).map atGenerators).map Item.shared)
      (((List.range count).map atGenerators).map Item.shared) where
  ascending := by
    rw [List.map_map, List.pairwise_map]
    exact List.pairwise_lt_range
  mem_iff _ := Iff.rfl

/-- Items each under a key object of its own need 3480 bytes each. -/
theorem combinedBytes_atGenerators (count : Nat) :
    combinedBytes ((List.range count).map Item.atGenerators)
      (((List.range count).map Item.atGenerators).map Item.shared) = 3480 * count := by
  have enumerates := Item.enumerates_atGenerators count
  have groups : (((List.range count).map Item.atGenerators).map Item.shared).map (fun shared =>
      groupBytes shared.key
        (heldItems ((List.range count).map Item.atGenerators) shared).length) =
          (((List.range count).map Item.atGenerators).map Item.shared).map fun _ => 1608 := by
    apply List.map_congr_left
    intro key member
    rw [length_heldItems, List.count_eq_one_of_mem enumerates.nodup member,
      groupBytes_eq key.key Nat.one_pos]
    obtain ⟨item, itemMember, rfl⟩ := List.mem_map.mp member
    obtain ⟨address, -, rfl⟩ := List.mem_map.mp itemMember
    rfl
  rw [combinedBytes_eq, groups, List.map_const', List.sum_replicate]
  simp only [List.length_map, List.length_range, smul_eq_mul]
  omega

theorem neededBytes_atGenerators {count minBatchSize : Nat} (many : minBatchSize ≤ count) :
    neededBytes ((List.range count).map Item.atGenerators)
      (((List.range count).map Item.atGenerators).map Item.shared) minBatchSize = 3480 * count := by
  rw [neededBytes, List.length_map, List.length_range, if_pos many, combinedBytes_atGenerators]

/-- Items under any key objects with at most 64 public inputs each, in a new arena of the working
space for the batch or in scratch space before its first use: they are refused for want of room
if and only if they are checked at once and their combined check takes more than the arena has.
It takes at most 1024 bytes for each item and 4504 bytes for each key object, so a batch under
at most fourteen key objects is never refused. -/
theorem isExhausted_fresh_iff
    {items : List Item}
    (own : SharedKey.HaveOwnAddresses (items.map Item.shared))
    (inputs : ∀ item ∈ items, item.inputs.length ≤ 64) :
    ∃ keys, SharedKey.Enumerates keys (items.map Item.shared) ∧
      combinedBytes items keys ≤ 1024 * items.length + 4504 * keys.length ∧
      (∀ zeroOnRestore arena, Arena.make (workingSpace items.length) zeroOnRestore = .ok arena →
        ∀ minBatchSize weights,
          let answer := ((verify items minBatchSize weights).run.run arena).1
          (Scratch.IsExhausted answer ↔
            minBatchSize ≤ items.length ∧ arena.capacity < combinedBytes items keys) ∧
          (keys.length ≤ 14 → ¬Scratch.IsExhausted answer)) ∧
      ∀ config weights statistics,
        let answer := ((Engine.verifyItems items config weights).run.run ⟨.empty, statistics⟩).1
        let wish := max config.scratchCapacity (workingSpace items.length)
        (Scratch.IsExhausted answer ↔
          ∃ arena, Arena.make (max wish Scratch.defaultCapacity) config.zeroOnRestore = .ok arena ∧
            config.minBatchSize ≤ items.length ∧ arena.capacity < combinedBytes items keys) ∧
        (keys.length ≤ 14 → ¬Scratch.IsExhausted answer) := by
  obtain ⟨keys, enumerates⟩ := SharedKey.exists_enumerates own
  have points (item : Item) (member : item ∈ items) := Item.length_ic_le (inputs item member)
  have modest (few : keys.length ≤ 14) :=
    neededBytes_le_workingSpace enumerates inputs few
  refine ⟨keys, enumerates, combinedBytes_le enumerates points, ?_, ?_⟩
  · intro zeroOnRestore arena made minBatchSize weights answer
    obtain ⟨rested, capacityEq, -⟩ := Arena.of_make_eq_ok_rested made
    have iff := verify_isExhausted_iff enumerates rested minBatchSize weights
    refine ⟨iff.trans lt_neededBytes_iff, fun few => ?_⟩
    rw [iff, capacityEq, Nat.not_lt]
    exact (modest few minBatchSize).trans (Arena.le_roundUp_pageSize _)
  · intro config weights statistics answer wish
    have needs := Engine.needsRoom_verdictsIn config weights enumerates
    have answerEq : answer = Engine.verdictsIn items config weights .empty :=
      Engine.verifyItems_fst items config weights ⟨.empty, statistics⟩
    rw [answerEq]
    constructor
    · rw [needs.isExhausted_iff .empty Scratch.isRested_empty]
      exact Scratch.exists_capacityFor_empty_iff.trans
        (exists_congr fun arena => and_congr_right fun _ => lt_neededBytes_iff)
    · intro few
      exact needs.not_isExhausted ((modest few _).trans (Nat.le_max_right _ _))
        Scratch.isRested_empty

/-- Fourteen items, each under a key object of its own. -/
theorem isExhausted_fresh_iff_generators :
    let items := (List.range 14).map Item.atGenerators
    (SharedKey.HaveOwnAddresses (items.map Item.shared) ∧
        ∀ item ∈ items, item.inputs.length ≤ 64) ∧
      (∃ arena, Arena.make (workingSpace 14) false = .ok arena ∧ ∀ minBatchSize weights,
        ¬Scratch.IsExhausted ((verify items minBatchSize weights).run.run arena).1) ∧
      ∀ config weights statistics,
        ¬Scratch.IsExhausted
          ((Engine.verifyItems items config weights).run.run ⟨.empty, statistics⟩).1 := by
  intro items
  have own : SharedKey.HaveOwnAddresses (items.map Item.shared) :=
    Item.haveOwnAddresses_atGenerators _
  have inputs : ∀ item ∈ items, item.inputs.length ≤ 64 := fun item member =>
    Item.length_inputs_atGenerators_le member
  obtain ⟨keys, enumerates, -, inArena, fresh⟩ := isExhausted_fresh_iff own inputs
  have few : keys.length ≤ 14 := enumerates.length_le (List.Subset.refl _)
  have made : Arena.make (workingSpace 14) false = .ok ⟨81920, 0, 0, false, fun _ => 0⟩ := rfl
  refine ⟨⟨own, inputs⟩, ⟨_, made, fun minBatchSize weights => ?_⟩, fun config weights statistics =>
    (fresh config weights statistics).2 few⟩
  exact (inArena false _ made minBatchSize weights).2 few

/-- Valid items that each have a key object of their own: 28 of them are refused in a new arena of
the working space, and 76 of them in scratch space before its first use. -/
theorem isExhausted_fresh_manyKeys :
    let items (count : Nat) := (List.range count).map Item.atGenerators
    (∀ count, ∀ item ∈ items count, item.IsValid ∧ item.inputs.length ≤ 64) ∧
      (∃ arena, Arena.make (workingSpace (items 28).length) false = .ok arena ∧
        ∀ weights, Scratch.IsExhausted ((verify (items 28) 4 weights).run.run arena).1) ∧
      ∀ weights,
        Scratch.IsExhausted ((Engine.verifyItems (items 76) {} weights).run.run .initial).1 := by
  intro items
  have length (count : Nat) : (items count).length = count := by
    rw [List.length_map, List.length_range]
  refine ⟨fun count item member => ?_, ?_, fun weights => ?_⟩
  · exact ⟨Item.isValid_atGenerators member, Item.length_inputs_atGenerators_le member⟩
  · have made : Arena.make (workingSpace 28) false = .ok ⟨94208, 0, 0, false, fun _ => 0⟩ := rfl
    rw [length]
    refine ⟨_, made, fun weights => ?_⟩
    apply isExhausted_verify (Item.enumerates_atGenerators 28) (Arena.of_make_eq_ok_rested made).1
    rw [neededBytes_atGenerators (by decide)]
    decide
  · rw [Engine.verifyItems_fst]
    have needs := Engine.needsRoom_verdictsIn {} weights (Item.enumerates_atGenerators 76)
    have made : Arena.make (max (Engine.wishFor (items 76) {}) Scratch.defaultCapacity) false =
        .ok ⟨262144, 0, 0, false, fun _ => 0⟩ := by
      rw [Engine.wishFor, length]
      rfl
    refine (needs.isExhausted_iff .empty Scratch.isRested_empty).mpr ?_
    refine Scratch.exists_capacityFor_empty_iff.mpr ⟨_, made, ?_⟩
    rw [neededBytes_atGenerators (by decide)]
    decide

end Batch
end Groth16
