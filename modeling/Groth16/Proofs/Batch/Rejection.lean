import Groth16.Proofs.Batch.Demand

/-!
# Batches with at most one rejected item

A pairing product other than one stays so when it is raised to a weight. So the combined check
never accepts a batch in which single verification rejects exactly one item, and the verdicts on a
batch with at most one rejected item are those of single verification, whatever the weights are.
-/

namespace Groth16
namespace Batch

/-- A valid item holds if and only if its pairing product is one. -/
theorem Item.holds_eq_true_iff
    {item : Item}
    (valid : item.IsValid) :
    item.holds = true ↔ item.equationUnit = 1 := by
  rw [holds, verify_eq valid, equationValue_eq valid]
  exact Pairing.isOne_eq_true_iff _

theorem eq_one_of_pow_weight_eq_one
    {unit : Fq12ˣ}
    (order : unit ^ groupOrder = 1)
    {weight : Weight}
    (one : unit ^ weight.value = 1) :
    unit = 1 := by
  by_contra notOne
  have divides := orderOf_dvd_of_pow_eq_one one
  rw [orderOf_eq_prime order notOne] at divides
  exact Nat.not_le_of_lt weight.value_lt_groupOrder (Nat.le_of_dvd weight.value_pos divides)

section Items

variable {items : List Item} {weights : Nat → Weight}

/-- If the pairing products multiply to one, each raised to its weight, no item is the only one
that does not hold. -/
theorem forall_holds_of_prod_eq_one
    (valid : ∀ item ∈ items, item.IsValid)
    (few : (items.countP fun item => !item.holds) ≤ 1)
    (one : (items.zipIdx.map fun entry =>
      entry.1.equationUnit ^ (weights entry.2).value).prod = 1) :
    ∀ item ∈ items, item.holds = true := by
  have validEntry (entry : Item × Nat) (member : entry ∈ items.zipIdx) : entry.1.IsValid :=
    valid entry.1 (List.fst_mem_of_mem_zipIdx member)
  have fewEntries : (items.zipIdx.countP fun entry => !entry.1.holds) ≤ 1 := by
    rw [← List.zipIdx_map_fst 0 items, List.countP_map] at few
    exact few
  suffices entries : ∀ entry ∈ items.zipIdx, entry.1.holds = true by
    intro item member
    rw [← List.zipIdx_map_fst 0 items] at member
    obtain ⟨entry, entryMember, rfl⟩ := List.mem_map.mp member
    exact entries entry entryMember
  intro entry member
  by_contra fails
  obtain ⟨before, after, split⟩ := List.append_of_mem member
  have perm : items.zipIdx.Perm (entry :: (before ++ after)) := by
    rw [split]
    exact List.perm_middle
  -- The entry uses up the number of those that may fail.
  have others : ∀ other ∈ before ++ after, other.1.holds = true := by
    rw [perm.countP_eq, List.countP_cons, if_pos (by simpa using fails)] at fewEntries
    intro other otherMember
    have none := List.countP_eq_zero.mp (Nat.le_zero.mp (Nat.le_of_succ_le_succ fewEntries))
    simpa using none other otherMember
  have ones : (before ++ after).map (fun other =>
      other.1.equationUnit ^ (weights other.2).value) = (before ++ after).map fun _ => 1 := by
    apply List.map_congr_left
    intro other otherMember
    have listed := perm.symm.subset (List.mem_cons_of_mem _ otherMember)
    rw [(Item.holds_eq_true_iff (validEntry other listed)).mp (others other otherMember), one_pow]
  rw [(perm.map _).prod_eq, List.map_cons, List.prod_cons, ones, List.map_const',
    List.prod_replicate, one_pow, mul_one] at one
  have entryValid := validEntry entry member
  exact fails ((Item.holds_eq_true_iff entryValid).mpr
    (eq_one_of_pow_weight_eq_one (Item.equationUnit_pow_groupOrder entryValid) one))

/-- The verdicts on valid items of which single verification rejects at most one are those of single
verification. -/
theorem verdicts_eq_map_holds
    (valid : ∀ item ∈ items, item.IsValid)
    {keys : List SharedKey}
    (enumerates : SharedKey.Enumerates keys (items.map Item.shared))
    (few : (items.countP fun item => !item.holds) ≤ 1)
    (minBatchSize : Nat) :
    verdicts items minBatchSize weights = .ok (items.map Item.holds) := by
  have singly : verifySingly items = .ok (items.map Item.holds) :=
    verifySingly_eq fun item member => (valid item member).key.ic_ne_nil
  unfold verdicts
  split_ifs with small combined
  · exact singly
  · rw [aggregateSums_eq weights valid enumerates, isOne_combined_iff weights valid enumerates]
      at combined
    have holds := forall_holds_of_prod_eq_one valid few combined
    exact congrArg Except.ok (List.map_congr_left fun item member => (holds item member).symm)
  · exact singly

end Items

end Batch
end Groth16
