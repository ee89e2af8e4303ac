import Groth16.Proofs.Batch.Coefficients
import Groth16.Proofs.Batch.Group
import Groth16.Proofs.Curve.Normalize

/-!
# The pairs of the combined check

The combined check multiplies the own pair of each item, with the proof point `A` scaled by
the weight and negated, and three pairs for each key object, in which the terms of exactly
those items are summed that hold the key object.
-/

namespace Groth16
namespace Batch

variable (weights : Nat → Weight)

/-- The items that hold the key object, with their numbers in the batch. -/
def heldItems (items : List Item) (shared : SharedKey) : List (Item × Nat) :=
  items.zipIdx.filter fun entry => entry.1.shared = shared

/-- The own pair of a numbered item: the proof point `A`, scaled and negated, with `B`. -/
def ownPair (entry : Item × Nat) : G1.Affine × G2.Affine :=
  (.ofPoint (-((weights entry.2).value • entry.1.proof.a.toPoint)), entry.1.proof.b)

/-- The three pairs of a key object, in which the terms of the given numbered items are
summed. -/
def keyPairs (key : VerifyingKey) (held : List (Item × Nat)) : List (G1.Affine × G2.Affine) :=
  [(.ofPoint ((held.map fun entry => (weights entry.2).value).sum • key.alpha.toPoint),
      key.beta),
    (.ofPoint (held.map fun entry => (weights entry.2).value • entry.1.inputSum).sum, key.gamma),
    (.ofPoint (held.map fun entry => (weights entry.2).value • entry.1.proof.c.toPoint).sum,
      key.delta)]

/-- The pairs of the combined check: one for each item in order, then three for each key
object. -/
def combinedPairs (items : List Item) (keys : List SharedKey) : List (G1.Affine × G2.Affine) :=
  items.zipIdx.map (ownPair weights) ++
    keys.flatMap fun shared => keyPairs weights shared.key (heldItems items shared)

/-- The numbered item with its weight. -/
def weighted (entry : Item × Nat) : Weighted := ⟨entry.1, (weights entry.2).toScalar⟩

theorem sum_map_weighted
    (point : Item → Curve.g1.Point)
    (held : List (Item × Nat)) :
    ((held.map (weighted weights)).map fun entry => entry.weight • point entry.item).sum =
      (held.map fun entry => (weights entry.2).value • point entry.1).sum := by
  have terms : (held.map (weighted weights)).map (fun entry => entry.weight • point entry.item) =
      held.map fun entry => (weights entry.2).value • point entry.1 := by
    rw [List.map_map]
    apply List.map_congr_left
    intro entry _
    rw [Function.comp_apply, weighted, Weight.toScalar_smul]
  rw [terms]

theorem sum_weights_smul (held : List (Item × Nat)) (A : Curve.g1.Point) :
    ((held.map (weighted weights)).map Weighted.weight).sum • A =
      (held.map fun entry => (weights entry.2).value).sum • A := by
  apply G1.smul_eq_nsmul
  have terms : (held.map (weighted weights)).map Weighted.weight =
      (held.map fun entry => (weights entry.2).value).map Nat.cast := by
    rw [List.map_map, List.map_map]
    apply List.map_congr_left
    intro entry _
    rw [Function.comp_apply, Function.comp_apply, weighted, Weight.toScalar_eq]
  rw [Nat.cast_list_sum, terms]

/-- The pairs of a group do not depend on the order of its entries. -/
theorem groupSums_weighted
    {key : VerifyingKey}
    (valid : key.IsValid)
    {held : List (Item × Nat)}
    (same : ∀ entry ∈ held, entry.1.key = key)
    (proofs : ∀ entry ∈ held, entry.1.proof.IsValid)
    {group : List Weighted}
    (perm : group.Perm (held.map (weighted weights))) :
    groupSums key group = keyPairs weights key held := by
  have ofGroup (property : Item → Prop) (all : ∀ entry ∈ held, property entry.1)
      (entry : Weighted) (member : entry ∈ group) : property entry.item := by
    obtain ⟨numbered, numberedMember, rfl⟩ := List.mem_map.mp (perm.subset member)
    exact all numbered numberedMember
  rw [groupSums_eq valid (ofGroup (fun item => item.key = key) same)
      (ofGroup (fun item => item.proof.IsValid) proofs),
    (perm.map Weighted.weight).sum_eq,
    (perm.map fun entry => entry.weight • entry.item.inputSum).sum_eq,
    (perm.map fun entry => entry.weight • entry.item.proof.c.toPoint).sum_eq,
    sum_weights_smul, sum_map_weighted weights Item.inputSum,
    sum_map_weighted weights fun item => item.proof.c.toPoint, keyPairs]

/-- The number of bytes that the pairs of the combined check take in an arena while they are
computed. -/
def aggregateBytes (items : List Item) (keys : List SharedKey) : Nat :=
  32 * items.length + (8 * items.length + (pairSize * (items.length + 3 * keys.length) +
    (ProjectivePoint.storedSize Curve.g1 * items.length +
      (AffinePoint.storedSize Curve.g1 * items.length +
        (32 * items.length + 32 * items.length +
          (keys.map fun shared =>
            groupBytes shared.key (heldItems items shared).length).sum)))))

/-- The affine forms of the scaled points, each with its point `B`, are the own pairs. -/
theorem zip_scaled_eq
    {items : List Item}
    (valid : ∀ item ∈ items, item.IsValid) :
    (((items.zipIdx.map (weighted weights)).map fun entry =>
        (entry.item.proof.a.toProjective.mul entry.weight).neg).map
          ProjectivePoint.toAffine).zip (items.map (·.proof.b)) =
      items.zipIdx.map (ownPair weights) := by
  have numbered : items.map (·.proof.b) = items.zipIdx.map fun entry => entry.1.proof.b := by
    conv_lhs => rw [← List.zipIdx_map_fst 0 items]
    rw [List.map_map]
    rfl
  rw [numbered, List.map_map, List.map_map, List.zip_map']
  apply List.map_congr_left
  intro entry member
  have itemValid := valid entry.1 (List.fst_mem_of_mem_zipIdx member)
  have denotes := ((AffinePoint.toProjective_denotes_toPoint itemValid.proof.a.isOnCurve).mul
    (weights entry.2).toScalar).neg.toAffine
  rw [← G1.smul_eq, Weight.toScalar_smul] at denotes
  rw [ownPair, ← denotes, Function.comp_apply, Function.comp_apply, weighted]

theorem map_item_weighted (items : List Item) :
    (items.zipIdx.map (weighted weights)).map Weighted.item = items := by
  rw [List.map_map]
  exact List.zipIdx_map_fst 0 items

/-- Sorting keeps the items that hold a key object. -/
theorem filter_perm_heldItems
    {items : List Item}
    {sorted : List Weighted}
    (perm : sorted.Perm (items.zipIdx.map (weighted weights)))
    (key : SharedKey) :
    (sorted.filter fun entry => entry.item.shared = key).Perm
      ((heldItems items key).map (weighted weights)) := by
  have held := perm.filter fun entry => decide (entry.item.shared = key)
  rw [List.filter_map] at held
  exact held

theorem mem_heldItems
    {items : List Item}
    {key : SharedKey}
    {entry : Item × Nat}
    (member : entry ∈ heldItems items key) :
    entry.1 ∈ items ∧ entry.1.shared = key := by
  obtain ⟨memberAll, holds⟩ := List.mem_filter.mp member
  exact ⟨List.fst_mem_of_mem_zipIdx memberAll, of_decide_eq_true holds⟩

/-- The three pairs of a group, with the key of its first entry. -/
def keyedSums : List Weighted → List (G1.Affine × G2.Affine)
  | [] => []
  | first :: rest => groupSums first.item.key (first :: rest)

/-- The number of bytes that the pairs of a group take. -/
def keyedBytes : List Weighted → Nat
  | [] => 0
  | first :: rest => groupBytes first.item.key (first :: rest).length

/-- The pairs of the combined check, as they are computed. -/
def aggregateSums (items : List Item) : List (G1.Affine × G2.Affine) :=
  let entries := items.zipIdx.map (weighted weights)
  ((entries.map fun entry => (entry.item.proof.a.toProjective.mul entry.weight).neg).map
      ProjectivePoint.toAffine).zip (items.map (·.proof.b)) ++
    (groupByKey entries).flatMap keyedSums

/-- The groups are those of the key objects in their order; each holds the entries of the items
that hold the key object, and takes its key from the first of them. -/
theorem groupByKey_weighted
    {items : List Item}
    {keys : List SharedKey}
    (enumerates : SharedKey.Enumerates keys (items.map Item.shared)) :
    ∃ group : SharedKey → List Weighted,
      groupByKey (items.zipIdx.map (weighted weights)) = keys.map group ∧
      ∀ key ∈ keys, (group key).Perm ((heldItems items key).map (weighted weights)) ∧
        ∃ first rest, group key = first :: rest ∧ first.item.key = key.key := by
  have sharedEq : (items.zipIdx.map (weighted weights)).map (fun entry => entry.item.shared) =
      items.map Item.shared := by
    conv_rhs => rw [← map_item_weighted weights items, List.map_map]
    rfl
  have used (key : SharedKey) (member : key ∈ keys) : ∃ item ∈ items, item.shared = key :=
    List.mem_map.mp ((enumerates.mem_iff key).mp member)
  rw [← sharedEq] at enumerates
  obtain ⟨sorted, perm, groups⟩ := groupByKey_eq enumerates
  refine ⟨_, groups, fun key member => ?_⟩
  have groupPerm := filter_perm_heldItems weights perm key
  refine ⟨groupPerm, ?_⟩
  obtain ⟨item, itemMember, shared⟩ := used key member
  cases group : sorted.filter fun entry => entry.item.shared = key with
  | nil =>
      rw [← List.zipIdx_map_fst 0 items] at itemMember
      obtain ⟨entry, entryMember, rfl⟩ := List.mem_map.mp itemMember
      have held : entry ∈ heldItems items key :=
        List.mem_filter.mpr ⟨entryMember, decide_eq_true shared⟩
      rw [group] at groupPerm
      exact absurd (groupPerm.symm.subset (List.mem_map_of_mem held)) List.not_mem_nil
  | cons first rest =>
      rw [group] at groupPerm
      obtain ⟨entry, held, firstEq⟩ := List.mem_map.mp (groupPerm.subset List.mem_cons_self)
      refine ⟨first, rest, rfl, ?_⟩
      rw [← firstEq]
      exact congrArg SharedKey.key (mem_heldItems held).2

theorem keyedPairs_takes (group : List Weighted) :
    ArenaM.Takes
      (match group with
        | [] => pure []
        | first :: _ => groupPairs first.item.key group)
      (keyedBytes group) (keyedSums group) := by
  cases group with
  | nil => exact .pure []
  | cons first rest => exact groupPairs_takes first.item.key (first :: rest)

/-- What the groups take is what the key objects with their items take. -/
theorem sum_keyedBytes
    {items : List Item}
    {keys : List SharedKey}
    (enumerates : SharedKey.Enumerates keys (items.map Item.shared)) :
    ((groupByKey (items.zipIdx.map (weighted weights))).map keyedBytes).sum =
      (keys.map fun shared => groupBytes shared.key (heldItems items shared).length).sum := by
  obtain ⟨group, groups, each⟩ := groupByKey_weighted weights enumerates
  rw [groups, List.map_map]
  congr 1
  apply List.map_congr_left
  intro key member
  obtain ⟨perm, first, rest, split, keyEq⟩ := each key member
  have length := perm.length_eq
  rw [List.length_map, split] at length
  rw [Function.comp_apply, split, keyedBytes, keyEq, length]

/-- The pairs of the combined check take a known number of bytes, whatever the points are. -/
theorem aggregatePairs_takes_groups (items : List Item) :
    let groups := groupByKey (items.zipIdx.map (weighted weights))
    (aggregatePairs items weights).Takes
      (32 * items.length + (8 * items.length + (pairSize * (items.length + 3 * groups.length) +
        (ProjectivePoint.storedSize Curve.g1 * items.length +
          (AffinePoint.storedSize Curve.g1 * items.length +
            (32 * items.length + 32 * items.length + (groups.map keyedBytes).sum))))))
      (aggregateSums weights items) := by
  intro groups
  let entries := items.zipIdx.map (weighted weights)
  have normalized := ProjectivePoint.toAffineAll_takes (C := Curve.g1) (by decide)
    (entries.map fun entry => (entry.item.proof.a.toProjective.mul entry.weight).neg)
  rw [List.length_map, List.length_map, List.length_zipIdx] at normalized
  have shared := (ArenaM.Takes.mapM fun group (_ : group ∈ groups) =>
    keyedPairs_takes group).bind_pure fun pairs =>
      ((entries.map fun entry => (entry.item.proof.a.toProjective.mul entry.weight).neg).map
        ProjectivePoint.toAffine).zip (items.map (·.proof.b)) ++ pairs.flatten
  rw [← List.flatMap_def] at shared
  refine .reserveItems (by decide) fun _ => ?_
  refine .reserveItems (by decide) fun _ => ?_
  refine .reserveItems (by decide) fun _ => ?_
  refine .reserveItems (by decide) fun _ => ?_
  refine .reserveItems (by decide) fun _ => ?_
  exact normalized.bind shared

/-- What the pairs take is what the items and the key objects take. -/
theorem aggregatePairs_takes
    {items : List Item}
    {keys : List SharedKey}
    (enumerates : SharedKey.Enumerates keys (items.map Item.shared)) :
    (aggregatePairs items weights).Takes (aggregateBytes items keys)
      (aggregateSums weights items) := by
  obtain ⟨group, groups, -⟩ := groupByKey_weighted weights enumerates
  have count : (groupByKey (items.zipIdx.map (weighted weights))).length = keys.length := by
    rw [groups, List.length_map]
  have takes := aggregatePairs_takes_groups weights items
  dsimp only at takes
  rwa [count, sum_keyedBytes weights enumerates] at takes

/-- For valid items the pairs are the own pair of each item in order, then one block of three
pairs for each key object, in which exactly the items that hold it are summed, however the
sorting orders the items of one key object. -/
theorem aggregateSums_eq
    {items : List Item}
    (valid : ∀ item ∈ items, item.IsValid)
    {keys : List SharedKey}
    (enumerates : SharedKey.Enumerates keys (items.map Item.shared)) :
    aggregateSums weights items = combinedPairs weights items keys := by
  obtain ⟨group, groups, each⟩ := groupByKey_weighted weights enumerates
  rw [aggregateSums, combinedPairs, zip_scaled_eq weights valid, groups, List.flatMap_map]
  congr 1
  apply List.flatMap_congr
  intro key member
  obtain ⟨perm, first, rest, split, keyEq⟩ := each key member
  obtain ⟨item, itemMember, rfl⟩ := List.mem_map.mp ((enumerates.mem_iff key).mp member)
  rw [split, keyedSums, ← split, keyEq]
  exact groupSums_weighted weights (valid item itemMember).key
    (fun entry held => congrArg SharedKey.key (mem_heldItems held).2)
    (fun entry held => (valid entry.1 (mem_heldItems held).1).proof) perm

/-- There is nothing that the computation does but give these pairs or run out of room. -/
theorem aggregatePairs_gives
    {items : List Item}
    (valid : ∀ item ∈ items, item.IsValid)
    {keys : List SharedKey}
    (enumerates : SharedKey.Enumerates keys (items.map Item.shared)) :
    (aggregatePairs items weights).Gives (aggregateBytes items keys)
      (combinedPairs weights items keys) := by
  rw [← aggregateSums_eq weights valid enumerates]
  exact (aggregatePairs_takes weights enumerates).toGives

/-- An item under a key object at the given address, all of whose points are generators. -/
def Item.atGenerators (address : Nat) : Item where
  shared := ⟨address, .ofScalars 1 1 1 1 [1]⟩
  proof := .ofScalars 1 1 1
  inputs := []
  inputs_length := rfl

theorem Item.isValid_atGenerators
    {addresses : List Nat}
    {item : Item}
    (member : item ∈ addresses.map atGenerators) :
    item.IsValid := by
  obtain ⟨address, -, rfl⟩ := List.mem_map.mp member
  exact ⟨VerifyingKey.isValid_ofScalars 1 1 1 1 1 [], Proof.isValid_ofScalars 1 1 1⟩

theorem Item.haveOwnAddresses_atGenerators (addresses : List Nat) :
    SharedKey.HaveOwnAddresses ((addresses.map atGenerators).map Item.shared) := by
  intro key member key' member' equal
  rw [List.map_map] at member member'
  obtain ⟨address, -, rfl⟩ := List.mem_map.mp member
  obtain ⟨address', -, rfl⟩ := List.mem_map.mp member'
  have addressEq : address = address' := equal
  rw [addressEq]

/-- For valid items under any mix of key objects, the pairs of the combined check are the own
pair of each item in order and then one block of three pairs for each key object, in which
exactly the items that hold it are summed with their weights. They are computed whenever the
arena has room, and nothing else is computed whatever room there is. -/
theorem aggregatePairs_spec
    {items : List Item}
    (valid : ∀ item ∈ items, item.IsValid)
    (own : SharedKey.HaveOwnAddresses (items.map Item.shared)) :
    (∀ item ∈ items, ∃ X,
        item.key.inputPoint item.inputs = .ok X ∧ X.toAffine = .ofPoint item.inputSum) ∧
      ∃ keys, SharedKey.Enumerates keys (items.map Item.shared) ∧
        ∀ weights, (aggregatePairs items weights).Gives (aggregateBytes items keys)
          (combinedPairs weights items keys) := by
  obtain ⟨keys, enumerates⟩ := SharedKey.exists_enumerates own
  exact ⟨fun item member => Item.inputPoint_eq (valid item member), keys, enumerates,
    fun weights => aggregatePairs_gives weights valid enumerates⟩

/-- Three items under two key objects, whose addresses are not in the order of the items. -/
theorem aggregatePairs_spec_generators :
    let items := [2, 1, 2].map Item.atGenerators
    ((∀ item ∈ items, item.IsValid) ∧
        SharedKey.HaveOwnAddresses (items.map Item.shared)) ∧
      (∀ item ∈ items, ∃ X,
        item.key.inputPoint item.inputs = .ok X ∧ X.toAffine = .ofPoint item.inputSum) ∧
      ∃ keys, SharedKey.Enumerates keys (items.map Item.shared) ∧
        ∀ weights, (aggregatePairs items weights).Gives (aggregateBytes items keys)
          (combinedPairs weights items keys) := by
  have valid (item : Item) (member : item ∈ [2, 1, 2].map Item.atGenerators) : item.IsValid :=
    Item.isValid_atGenerators member
  have own := Item.haveOwnAddresses_atGenerators [2, 1, 2]
  exact ⟨⟨valid, own⟩, aggregatePairs_spec valid own⟩

end Batch
end Groth16
