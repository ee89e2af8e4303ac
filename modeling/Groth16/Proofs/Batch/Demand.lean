import Groth16.Proofs.Arena.Scratch
import Groth16.Proofs.Batch.Outcome
import Groth16.Proofs.Batch.Soundness

/-!
# What a batch takes from an arena

The combined check takes from an arena what its items and their key objects call for, whatever
the points are. The working space for a batch grows with the items only. It covers the items,
and the tables of at most fourteen key objects beside them.
-/

namespace Groth16
namespace Batch

section Bytes

variable {items : List Item} {keys : List SharedKey}

theorem length_heldItems (items : List Item) (key : SharedKey) :
    (heldItems items key).length = (items.map Item.shared).count key := by
  have shared : items.map Item.shared = items.zipIdx.map fun entry => entry.1.shared := by
    conv_lhs => rw [← List.zipIdx_map_fst 0 items, List.map_map]
    rfl
  rw [heldItems, ← List.countP_eq_length_filter, shared, List.count, List.countP_map]
  rfl

/-- Every item is held by one of the key objects. -/
theorem sum_length_heldItems (enumerates : SharedKey.Enumerates keys (items.map Item.shared)) :
    (keys.map fun key => (heldItems items key).length).sum = items.length := by
  have perm : keys.Perm (items.map Item.shared).dedup := by
    rw [List.perm_ext_iff_of_nodup enumerates.nodup (List.nodup_dedup _)]
    intro key
    rw [enumerates.mem_iff, List.mem_dedup]
  simp only [length_heldItems]
  rw [(perm.map _).sum_eq, List.sum_map_count_dedup_eq_length, List.length_map]

/-- The room for a batch, item by item and key object by key object. -/
theorem combinedBytes_eq (items : List Item) (keys : List SharedKey) :
    combinedBytes items keys = 672 * items.length + 1200 * keys.length +
      (keys.map fun shared => groupBytes shared.key (heldItems items shared).length).sum := by
  have sizes : pairSize = 208 ∧ ProjectivePoint.storedSize Curve.g1 = 96 ∧
      AffinePoint.storedSize Curve.g1 = 72 ∧ ProjectivePoint.storedSize Curve.g2 = 192 := by
    decide
  obtain ⟨pair, projective, affine, twisted⟩ := sizes
  rw [combinedBytes, aggregateBytes, pair, projective, affine, twisted]
  omega

/-- The room for the pairs of one key, whose bucket table grows with the number of items. -/
theorem groupBytes_eq
    (key : VerifyingKey)
    {count : Nat}
    (positive : 0 < count) :
    groupBytes key count =
      32 * key.ic.length + 136 * count + 96 * (2 ^ ProjectivePoint.windowWidth count - 1) := by
  have sizes : ProjectivePoint.storedSize Curve.g1 = 96 ∧
      AffinePoint.storedSize Curve.g1 = 72 := by
    decide
  rw [groupBytes, ProjectivePoint.multiScalarBytes, if_neg (Nat.ne_of_gt positive), sizes.1,
    sizes.2]
  omega

theorem groupBytes_le
    {key : VerifyingKey}
    (points : key.ic.length ≤ 65)
    {count : Nat}
    (positive : 0 < count) :
    groupBytes key count ≤ 352 * count + 3304 := by
  rw [groupBytes_eq key positive, ProjectivePoint.windowWidth]
  split_ifs <;> omega

/-- The room for a batch whose keys have at most 64 public inputs. -/
theorem combinedBytes_le
    (enumerates : SharedKey.Enumerates keys (items.map Item.shared))
    (points : ∀ item ∈ items, item.key.ic.length ≤ 65) :
    combinedBytes items keys ≤ 1024 * items.length + 4504 * keys.length := by
  have groups : (keys.map fun shared =>
      groupBytes shared.key (heldItems items shared).length).sum ≤
        (keys.map fun shared => 352 * (heldItems items shared).length + 3304).sum := by
    apply List.sum_le_sum
    intro key member
    have used := (enumerates.mem_iff key).mp member
    obtain ⟨item, itemMember, rfl⟩ := List.mem_map.mp used
    apply groupBytes_le (points item itemMember)
    rw [length_heldItems]
    exact List.count_pos_iff.mpr used
  rw [List.sum_map_add, List.sum_map_mul_left, sum_length_heldItems enumerates, List.map_const',
    List.sum_replicate, smul_eq_mul] at groups
  rw [combinedBytes_eq]
  omega

/-- The working space covers the items of a batch under at most fourteen key objects. -/
theorem combinedBytes_le_workingSpace
    (enumerates : SharedKey.Enumerates keys (items.map Item.shared))
    (points : ∀ item ∈ items, item.key.ic.length ≤ 65)
    (few : keys.length ≤ 14) :
    combinedBytes items keys ≤ workingSpace items.length := by
  have bound := combinedBytes_le enumerates points
  unfold workingSpace
  omega

end Bytes

section Verify

variable {items : List Item} {minBatchSize : Nat} {weights : Nat → Weight}

/-- Fewer items than the smallest batch are verified without an arena. -/
theorem verify_run_of_few
    (few : items = [] ∨ items.length < minBatchSize)
    (arena : Arena) :
    (verify items minBatchSize weights).run.run arena = (verifySingly items, arena) := by
  unfold verify
  rcases few with rfl | few
  · rfl
  · by_cases empty : items.isEmpty = true
    · rw [if_pos empty, List.isEmpty_iff.mp empty]
      rfl
    · rw [if_neg empty, if_pos few]
      rfl

/-- The verdicts on enough items are found after the combined check. -/
theorem verify_run_of_many
    (nonempty : items ≠ [])
    (many : minBatchSize ≤ items.length)
    (arena : Arena) :
    (verify items minBatchSize weights).run.run arena =
      ((((aggregate items weights).run.run arena).1.mapError .allocationFailed).bind
          fun combined => if combined then .ok (items.map fun _ => true) else verifySingly items,
        ((aggregate items weights).run.run arena).2) := by
  have combined : (ExceptT.mk ((·.mapError VerifyError.allocationFailed) <$>
      (aggregate items weights).run) : ExceptT VerifyError (StateM Arena) Bool).run.run arena =
        (((aggregate items weights).run.run arena).1.mapError .allocationFailed,
          ((aggregate items weights).run.run arena).2) := rfl
  unfold verify
  rw [if_neg (by rwa [List.isEmpty_iff]), if_neg (Nat.not_lt_of_le many), Checks.run_bind,
    combined]
  rcases (aggregate items weights).run.run arena with ⟨error | combined, after⟩
  · rfl
  · cases combined <;> rfl

theorem verify_of_combined
    (nonempty : items ≠ [])
    (many : minBatchSize ≤ items.length)
    {arena : Arena}
    {holds : Bool}
    (combined : ((aggregate items weights).run.run arena).1 = .ok holds) :
    ((verify items minBatchSize weights).run.run arena).1 =
      if holds then .ok (items.map fun _ => true) else verifySingly items := by
  rw [verify_run_of_many nonempty many, combined]
  rfl

theorem sameRegion_verify
    (items : List Item)
    (minBatchSize : Nat)
    (weights : Nat → Weight)
    (arena : Arena) :
    arena.SameRegion ((verify items minBatchSize weights).run.run arena).2 := by
  by_cases few : items = [] ∨ items.length < minBatchSize
  · rw [verify_run_of_few few]
    exact .refl arena
  · rw [not_or, Nat.not_lt] at few
    rw [verify_run_of_many few.1 few.2]
    have takes : (aggregate items weights).Takes _ _ :=
      (aggregatePairs_takes_groups weights items).bind
        ((Pairing.pairingProductIn_takes _).bind_pure _)
    exact takes.sameRegion arena

variable (items minBatchSize weights) in
/-- The verdicts on the items where there is room for the combined check. -/
def verdicts : Except VerifyError (List Bool) :=
  if items.length < minBatchSize then verifySingly items
  else if (Pairing.pairingProduct (aggregateSums weights items)).isOne then
    .ok (items.map fun _ => true)
  else verifySingly items

theorem verdicts_nil : verdicts [] minBatchSize weights = .ok [] := by
  unfold verdicts
  split
  · rfl
  · split <;> rfl

/-- The number of bytes that verification needs: none for fewer items than the smallest batch. -/
def neededBytes (items : List Item) (keys : List SharedKey) (minBatchSize : Nat) : Nat :=
  if minBatchSize ≤ items.length then combinedBytes items keys else 0

/-- Single verification is not refused for want of room. -/
theorem not_isExhausted_verifySingly (items : List Item) :
    ¬Scratch.IsExhausted (verifySingly items) := by
  have reports : Checks.Reports (fun error => ∀ source, error ≠ .allocationFailed source)
      (verifySingly items) := by
    refine .mapM (fun item => ?_) items
    refine .bind ?_ fun X => .ok _
    unfold VerifyingKey.inputPoint
    split
    · split
      · exact .ok _
      · exact .error nofun
    · exact .error nofun
  rintro ⟨requested, available, exhausted⟩
  exact reports _ exhausted _ rfl

theorem not_isExhausted_verdicts : ¬Scratch.IsExhausted (verdicts items minBatchSize weights) := by
  unfold verdicts
  split
  · exact not_isExhausted_verifySingly items
  · split
    · exact nofun
    · exact not_isExhausted_verifySingly items

variable {keys : List SharedKey}

/-- With room for what it needs, verification gives the verdicts. -/
theorem verify_eq_verdicts
    (enumerates : SharedKey.Enumerates keys (items.map Item.shared))
    {arena : Arena}
    (rested : arena.IsRested)
    (fits : neededBytes items keys minBatchSize ≤ arena.capacity) :
    ((verify items minBatchSize weights).run.run arena).1 =
      verdicts items minBatchSize weights := by
  by_cases empty : items = []
  · subst empty
    rw [verify_run_of_few (Or.inl rfl), verdicts_nil]
    rfl
  by_cases few : items.length < minBatchSize
  · rw [verify_run_of_few (Or.inr few), verdicts, if_pos few]
  · have many := Nat.le_of_not_lt few
    rw [neededBytes, if_pos many] at fits
    have combined := (aggregate_takes weights enumerates).run_eq_ok rested.used_eq
      rested.region.capacity_lt_word fits
    rw [verify_of_combined empty many combined, verdicts, if_neg few]

/-- Without room for what it needs, verification is refused. -/
theorem isExhausted_verify
    (enumerates : SharedKey.Enumerates keys (items.map Item.shared))
    {arena : Arena}
    (rested : arena.IsRested)
    (small : arena.capacity < neededBytes items keys minBatchSize) :
    Scratch.IsExhausted ((verify items minBatchSize weights).run.run arena).1 := by
  rw [neededBytes] at small
  split_ifs at small with many
  · have nonempty : items ≠ [] := by
      rintro rfl
      have none : keys = [] := List.eq_nil_iff_forall_not_mem.mpr fun key member =>
        List.not_mem_nil ((enumerates.mem_iff key).mp member)
      rw [none] at small
      exact Nat.not_lt_zero _ small
    obtain ⟨requested, available, refused⟩ :=
      (aggregate_takes weights enumerates).run_eq_exhausted rested.used_eq small
    rw [verify_run_of_many nonempty many, refused]
    exact ⟨requested, available, rfl⟩
  · exact absurd small (Nat.not_lt_zero _)

end Verify

end Batch
end Groth16
