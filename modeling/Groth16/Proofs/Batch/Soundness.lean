import Groth16.Proofs.Batch.Aggregate
import Groth16.Proofs.Pairing.Product
import Mathlib.Data.List.Sigma

/-!
# Soundness of the combined check

The product of the combined check is the product of the pairing products of the single
items, each raised to its weight. An item that does not hold by itself can be made up for by
the others with one weight only.
-/

namespace Groth16

theorem Weight.value_lt_groupOrder (weight : Weight) : weight.value < groupOrder :=
  weight.value_lt.trans (by decide)

theorem Weight.eq_of_value_eq
    {weight weight' : Weight}
    (equal : weight.value = weight'.value) :
    weight = weight' := by
  cases weight
  cases weight'
  cases equal
  rfl

theorem Pairing.ateUnit_sum_left
    {Term : Type}
    (terms : List Term)
    (point : Term → Curve.g1.Point)
    {Q : Curve.g2.Point}
    (member : Q ∈ G2.subgroup) :
    ateUnit (terms.map point).sum Q = (terms.map fun term => ateUnit (point term) Q).prod := by
  induction terms with
  | nil => exact ateUnit_zero_left member
  | cons term rest inductionHypothesis =>
      rw [List.map_cons, List.sum_cons, ateUnit_add_left _ _ member, inductionHypothesis,
        List.map_cons, List.prod_cons]

namespace Batch

namespace Item

variable {item : Item}

/-- The pairing product of the item, which holds by itself if this is one. -/
def equationValue (item : Item) : Gt :=
  Pairing.pairingProduct (item.key.pairsFor item.proof (.ofPoint item.inputSum))

/-- The pairing product of the item as a unit. -/
noncomputable def equationUnit (item : Item) : Fq12ˣ :=
  item.key.equationUnit item.proof item.inputSum

/-- Verification compares the pairing product of the item with one. -/
theorem verify_eq (valid : item.IsValid) : item.verify = .ok item.equationValue.isOne := by
  obtain ⟨X, computed, affine⟩ := inputPoint_eq valid
  rw [verify, VerifyingKey.verify, computed, equationValue, ← affine]
  rfl

theorem equationValue_eq (valid : item.IsValid) : item.equationValue = ⟨item.equationUnit⟩ :=
  VerifyingKey.pairingProduct_pairsFor valid.key valid.proof item.inputSum

/-- The part of the product that does not contain the proof points `A` and `B`. -/
noncomputable def sharedUnit (item : Item) : Fq12ˣ :=
  Pairing.pairUnit (item.key.alpha, item.key.beta) *
    (Pairing.ateUnit item.inputSum item.key.gamma.toPoint *
      Pairing.pairUnit (item.proof.c, item.key.delta))

theorem equationUnit_eq (valid : item.IsValid) :
    item.equationUnit =
      Pairing.ateUnit (-item.proof.a.toPoint) item.proof.b.toPoint * item.sharedUnit := by
  rw [equationUnit, VerifyingKey.equationUnit, VerifyingKey.pairsFor,
    AffinePoint.neg_eq_ofPoint valid.proof.a.isOnCurve, sharedUnit]
  simp only [List.map_cons, List.map_nil, List.prod_cons, List.prod_nil, mul_one,
    Pairing.pairUnit, AffinePoint.toPoint_ofPoint]

/-- The order of the product divides the order of the groups. -/
theorem equationUnit_pow_groupOrder (valid : item.IsValid) :
    item.equationUnit ^ groupOrder = 1 := by
  have order {P : Curve.g1.Point} {Q : G2.Affine} (right : Q.IsValid) :
      Pairing.ateUnit P Q.toPoint ^ groupOrder = 1 :=
    Pairing.ateUnit_pow_groupOrder P (G2.toPoint_mem right)
  rw [equationUnit_eq valid, sharedUnit, mul_pow, mul_pow, mul_pow, Pairing.pairUnit,
    Pairing.pairUnit, order valid.proof.b, order valid.key.beta, order valid.key.gamma,
    order valid.key.delta]
  simp only [mul_one]

end Item

variable (weights : Nat → Weight)

theorem isValidPair_ownPair
    {entry : Item × Nat}
    (valid : entry.1.IsValid) :
    Pairing.IsValidPair (ownPair weights entry) :=
  ⟨G1.isValid_ofPoint _, valid.proof.b⟩

theorem isValidPair_of_mem_keyPairs
    {key : VerifyingKey}
    (valid : key.IsValid)
    (held : List (Item × Nat)) :
    ∀ pair ∈ keyPairs weights key held, Pairing.IsValidPair pair := by
  intro pair member
  simp only [keyPairs, List.mem_cons, List.not_mem_nil, or_false] at member
  rcases member with rfl | rfl | rfl
  · exact ⟨G1.isValid_ofPoint _, valid.beta⟩
  · exact ⟨G1.isValid_ofPoint _, valid.gamma⟩
  · exact ⟨G1.isValid_ofPoint _, valid.delta⟩

theorem isValidPair_of_mem_combinedPairs
    {items : List Item}
    (valid : ∀ item ∈ items, item.IsValid)
    {keys : List SharedKey}
    (used : ∀ key ∈ keys, ∃ item ∈ items, item.shared = key) :
    ∀ pair ∈ combinedPairs weights items keys, Pairing.IsValidPair pair := by
  intro pair member
  rcases List.mem_append.mp member with own | shared
  · obtain ⟨entry, entryMember, rfl⟩ := List.mem_map.mp own
    exact isValidPair_ownPair weights (valid _ (List.fst_mem_of_mem_zipIdx entryMember))
  · obtain ⟨key, keyMember, pairMember⟩ := List.mem_flatMap.mp shared
    obtain ⟨item, itemMember, rfl⟩ := used key keyMember
    exact isValidPair_of_mem_keyPairs weights (valid item itemMember).key _ pair pairMember

/-- The sum of weighted points pairs to the product of the values of the points, each raised
to its weight. -/
theorem ateUnit_weighted_sum
    (held : List (Item × Nat))
    (point : Item → Curve.g1.Point)
    {Q : Curve.g2.Point}
    (member : Q ∈ G2.subgroup) :
    Pairing.ateUnit (held.map fun entry => (weights entry.2).value • point entry.1).sum Q =
      (held.map fun entry =>
        Pairing.ateUnit (point entry.1) Q ^ (weights entry.2).value).prod := by
  rw [Pairing.ateUnit_sum_left _ _ member]
  congr 1
  exact List.map_congr_left fun entry _ => Pairing.ateUnit_nsmul_left _ _ member

/-- The three pairs of a key object multiply to the shared parts of the items that hold it,
each raised to its weight. -/
theorem prod_keyPairs
    {key : VerifyingKey}
    (valid : key.IsValid)
    {held : List (Item × Nat)}
    (same : ∀ entry ∈ held, entry.1.key = key) :
    ((keyPairs weights key held).map Pairing.pairUnit).prod =
      (held.map fun entry => entry.1.sharedUnit ^ (weights entry.2).value).prod := by
  have shared : held.map (fun entry => entry.1.sharedUnit ^ (weights entry.2).value) =
      held.map fun entry =>
        Pairing.ateUnit key.alpha.toPoint key.beta.toPoint ^ (weights entry.2).value *
          (Pairing.ateUnit entry.1.inputSum key.gamma.toPoint ^ (weights entry.2).value *
            Pairing.ateUnit entry.1.proof.c.toPoint key.delta.toPoint ^
              (weights entry.2).value) := by
    apply List.map_congr_left
    intro entry member
    rw [Item.sharedUnit, same entry member, mul_pow, mul_pow, Pairing.pairUnit, Pairing.pairUnit]
  rw [shared, List.prod_map_mul, List.prod_map_mul,
    ← ateUnit_weighted_sum weights held (fun _ => key.alpha.toPoint)
      (G2.toPoint_mem valid.beta),
    ← ateUnit_weighted_sum weights held Item.inputSum (G2.toPoint_mem valid.gamma),
    ← ateUnit_weighted_sum weights held (fun item => item.proof.c.toPoint)
      (G2.toPoint_mem valid.delta),
    keyPairs, List.sum_smul, List.map_map]
  simp only [List.map_cons, List.map_nil, List.prod_cons, List.prod_nil, mul_one,
    Pairing.pairUnit, AffinePoint.toPoint_ofPoint]
  rfl

/-- Every item is held by one of the key objects. -/
theorem flatMap_heldItems_perm
    {items : List Item}
    {keys : List SharedKey}
    (enumerates : SharedKey.Enumerates keys (items.map Item.shared)) :
    (keys.flatMap (heldItems items)).Perm items.zipIdx := by
  refine flatMap_filter_perm (fun entry : Item × Nat => entry.1.shared) enumerates.nodup ?_
  intro entry member
  exact (enumerates.mem_iff _).mpr (List.mem_map_of_mem (List.fst_mem_of_mem_zipIdx member))

/-- The product over all key objects is the product over all items. -/
theorem prod_map_heldItems
    {items : List Item}
    {keys : List SharedKey}
    (enumerates : SharedKey.Enumerates keys (items.map Item.shared))
    (unit : Item × Nat → Fq12ˣ) :
    (keys.map fun key => ((heldItems items key).map unit).prod).prod =
      (items.zipIdx.map unit).prod := by
  rw [← ((flatMap_heldItems_perm enumerates).map unit).prod_eq, List.map_flatMap,
    List.flatMap_def, List.prod_flatten, List.map_map]
  rfl

/-- The own pairs multiply to the own parts of the items, each raised to its weight. -/
theorem prod_ownPairs
    {items : List Item}
    (valid : ∀ item ∈ items, item.IsValid) :
    ((items.zipIdx.map (ownPair weights)).map Pairing.pairUnit).prod =
      (items.zipIdx.map fun entry =>
        Pairing.ateUnit (-entry.1.proof.a.toPoint) entry.1.proof.b.toPoint ^
          (weights entry.2).value).prod := by
  rw [List.map_map]
  congr 1
  apply List.map_congr_left
  intro entry member
  have right := G2.toPoint_mem (valid _ (List.fst_mem_of_mem_zipIdx member)).proof.b
  rw [Function.comp_apply, ownPair, Pairing.pairUnit, AffinePoint.toPoint_ofPoint, ← smul_neg,
    Pairing.ateUnit_nsmul_left _ _ right]

/-- The pairs of all key objects multiply to the shared parts of the items, each raised to its
weight. -/
theorem prod_flatMap_keyPairs
    {items : List Item}
    (valid : ∀ item ∈ items, item.IsValid)
    {keys : List SharedKey}
    (enumerates : SharedKey.Enumerates keys (items.map Item.shared)) :
    ((keys.flatMap fun shared => keyPairs weights shared.key (heldItems items shared)).map
        Pairing.pairUnit).prod =
      (items.zipIdx.map fun entry => entry.1.sharedUnit ^ (weights entry.2).value).prod := by
  rw [← prod_map_heldItems enumerates, List.map_flatMap, List.flatMap_def, List.prod_flatten,
    List.map_map]
  congr 1
  apply List.map_congr_left
  intro key member
  obtain ⟨item, itemMember, rfl⟩ := List.mem_map.mp ((enumerates.mem_iff key).mp member)
  exact prod_keyPairs weights (valid item itemMember).key fun entry held =>
    congrArg SharedKey.key (mem_heldItems held).2

/-- The pairs of the combined check multiply to the pairing products of the items, each raised
to its weight. -/
theorem prod_combinedPairs
    {items : List Item}
    (valid : ∀ item ∈ items, item.IsValid)
    {keys : List SharedKey}
    (enumerates : SharedKey.Enumerates keys (items.map Item.shared)) :
    ((combinedPairs weights items keys).map Pairing.pairUnit).prod =
      (items.zipIdx.map fun entry => entry.1.equationUnit ^ (weights entry.2).value).prod := by
  rw [combinedPairs, List.map_append, List.prod_append, prod_ownPairs weights valid,
    prod_flatMap_keyPairs weights valid enumerates, ← List.prod_map_mul]
  congr 1
  apply List.map_congr_left
  intro entry member
  rw [Item.equationUnit_eq (valid _ (List.fst_mem_of_mem_zipIdx member)), mul_pow]

/-- The number of bytes that the combined check takes in an arena. -/
def combinedBytes (items : List Item) (keys : List SharedKey) : Nat :=
  aggregateBytes items keys +
    ProjectivePoint.storedSize Curve.g2 * (items.length + 3 * keys.length)

theorem length_aggregateSums
    {items : List Item}
    {keys : List SharedKey}
    (enumerates : SharedKey.Enumerates keys (items.map Item.shared)) :
    (aggregateSums weights items).length = items.length + 3 * keys.length := by
  obtain ⟨group, groups, each⟩ := groupByKey_weighted weights enumerates
  have three : keys.map (fun key => (keyedSums (group key)).length) = keys.map fun _ => 3 := by
    apply List.map_congr_left
    intro key member
    obtain ⟨-, first, rest, split, -⟩ := each key member
    rw [split]
    rfl
  rw [aggregateSums, groups, List.flatMap_map, List.length_append, List.length_flatMap, three,
    List.map_const', List.sum_replicate, List.length_zip]
  simp only [List.length_map, List.length_zipIdx, Nat.min_self, smul_eq_mul, Nat.mul_comm 3]

/-- The combined check takes a known number of bytes, whatever the points are. -/
theorem aggregate_takes
    {items : List Item}
    {keys : List SharedKey}
    (enumerates : SharedKey.Enumerates keys (items.map Item.shared)) :
    (aggregate items weights).Takes (combinedBytes items keys)
      (Pairing.pairingProduct (aggregateSums weights items)).isOne := by
  rw [combinedBytes, ← length_aggregateSums weights enumerates]
  exact (aggregatePairs_takes weights enumerates).bind
    ((Pairing.pairingProductIn_takes _).bind_pure _)

/-- The combined check multiplies the pairings of the combined pairs. -/
theorem aggregate_gives
    {items : List Item}
    (valid : ∀ item ∈ items, item.IsValid)
    {keys : List SharedKey}
    (enumerates : SharedKey.Enumerates keys (items.map Item.shared)) :
    (aggregate items weights).Gives (combinedBytes items keys)
      (Pairing.pairingProduct (combinedPairs weights items keys)).isOne := by
  rw [← aggregateSums_eq weights valid enumerates]
  exact (aggregate_takes weights enumerates).toGives

/-- The combined check holds if and only if the pairing products of the items, each raised to
its weight, multiply to one. -/
theorem isOne_combined_iff
    {items : List Item}
    (valid : ∀ item ∈ items, item.IsValid)
    {keys : List SharedKey}
    (enumerates : SharedKey.Enumerates keys (items.map Item.shared)) :
    (Pairing.pairingProduct (combinedPairs weights items keys)).isOne = true ↔
      (items.zipIdx.map fun entry => entry.1.equationUnit ^ (weights entry.2).value).prod = 1 := by
  have used (key : SharedKey) (member : key ∈ keys) : ∃ item ∈ items, item.shared = key :=
    List.mem_map.mp ((enumerates.mem_iff key).mp member)
  rw [Pairing.pairingProduct_eq_prod (isValidPair_of_mem_combinedPairs weights valid used),
    Pairing.isOne_eq_true_iff, prod_combinedPairs weights valid enumerates]

/-- The product of the units is the product of the values. -/
theorem val_prod_equationUnit
    {items : List Item}
    (valid : ∀ item ∈ items, item.IsValid) :
    ((items.zipIdx.map fun entry =>
        entry.1.equationUnit ^ (weights entry.2).value).prod : Fq12ˣ).val =
      (items.zipIdx.map fun entry =>
        entry.1.equationValue.value ^ (weights entry.2).value).prod := by
  rw [← Units.coeHom_apply, map_list_prod, List.map_map]
  congr 1
  apply List.map_congr_left
  intro entry member
  rw [Item.equationValue_eq (valid _ (List.fst_mem_of_mem_zipIdx member)), Function.comp_apply,
    Units.coeHom_apply, Units.val_pow_eq_pow_val]

/-- Two products that are one and differ in one weight only have equal powers there. -/
theorem pow_eq_pow_of_agree
    {items : List Item}
    {k : Nat}
    (bound : k < items.length)
    (unit : Item → Fq12ˣ)
    {weights weights' : Nat → Weight}
    (agree : ∀ i < items.length, i ≠ k → weights i = weights' i)
    (one : (items.zipIdx.map fun entry => unit entry.1 ^ (weights entry.2).value).prod = 1)
    (one' : (items.zipIdx.map fun entry => unit entry.1 ^ (weights' entry.2).value).prod = 1) :
    unit items[k] ^ (weights k).value = unit items[k] ^ (weights' k).value := by
  have member : (items[k], k) ∈ items.zipIdx :=
    List.mk_mem_zipIdx_iff_getElem?.mpr (List.getElem?_eq_getElem bound)
  obtain ⟨before, after, split⟩ := List.append_of_mem member
  have perm : items.zipIdx.Perm ((items[k], k) :: (before ++ after)) := by
    rw [split]
    exact List.perm_middle
  have numbers := (perm.map Prod.snd).nodup_iff.mp (List.nodup_zipIdx_map_snd items)
  rw [List.map_cons, List.nodup_cons] at numbers
  have others : (before ++ after).map (fun entry => unit entry.1 ^ (weights entry.2).value) =
      (before ++ after).map fun entry => unit entry.1 ^ (weights' entry.2).value := by
    apply List.map_congr_left
    intro entry otherMember
    have listed := perm.symm.subset (List.mem_cons_of_mem _ otherMember)
    have differs : entry.2 ≠ k := fun equal =>
      numbers.1 (List.mem_map.mpr ⟨entry, otherMember, equal⟩)
    rw [agree entry.2 (List.snd_lt_of_mem_zipIdx listed) differs]
  rw [(perm.map _).prod_eq, List.map_cons, List.prod_cons] at one one'
  rw [others] at one
  exact mul_right_cancel (one.trans one'.symm)

/-- A unit of the order of the groups tells all weights apart. -/
theorem weight_eq_of_pow_eq
    {unit : Fq12ˣ}
    (order : unit ^ groupOrder = 1)
    (notOne : unit ≠ 1)
    {weight weight' : Weight}
    (equal : unit ^ weight.value = unit ^ weight'.value) :
    weight = weight' := by
  rw [pow_eq_pow_iff_modEq, orderOf_eq_prime order notOne] at equal
  exact Weight.eq_of_value_eq
    (equal.eq_of_lt_of_lt weight.value_lt_groupOrder weight'.value_lt_groupOrder)

/-- The combined check of valid items holds if and only if the pairing products that
verification compares with one multiply to one, each raised to its weight. So for an item that
verification rejects, and fixed weights of the others, there is at most one weight with which
the combined check accepts. -/
theorem aggregate_sound
    {items : List Item}
    (valid : ∀ item ∈ items, item.IsValid)
    (own : SharedKey.HaveOwnAddresses (items.map Item.shared)) :
    (∀ item ∈ items, item.verify = .ok item.equationValue.isOne) ∧
      (∃ keys, SharedKey.Enumerates keys (items.map Item.shared) ∧
        ∀ weights, ∃ holds, (aggregate items weights).Gives (combinedBytes items keys) holds ∧
          (holds = true ↔ (items.zipIdx.map fun entry =>
            entry.1.equationValue.value ^ (weights entry.2).value).prod = 1)) ∧
      ∀ (k : Nat) (bound : k < items.length), items[k].verify = .ok false →
        ∀ weights weights' : Nat → Weight,
          (∀ i < items.length, i ≠ k → weights i = weights' i) →
          ∀ arena arena' after after',
            (aggregate items weights).run.run arena = (.ok true, after) →
            (aggregate items weights').run.run arena' = (.ok true, after') →
            weights k = weights' k := by
  obtain ⟨keys, enumerates⟩ := SharedKey.exists_enumerates own
  refine ⟨fun item member => Item.verify_eq (valid item member), ⟨keys, enumerates, ?_⟩, ?_⟩
  · intro weights
    refine ⟨_, aggregate_gives weights valid enumerates, ?_⟩
    rw [isOne_combined_iff weights valid enumerates, ← Units.val_eq_one,
      val_prod_equationUnit weights valid]
  · intro k bound rejected weights weights' agree arena arena' after after' accepts accepts'
    have one := (isOne_combined_iff weights valid enumerates).mp
      ((aggregate_gives weights valid enumerates).eq_of_run_eq_ok accepts)
    have one' := (isOne_combined_iff weights' valid enumerates).mp
      ((aggregate_gives weights' valid enumerates).eq_of_run_eq_ok accepts')
    have itemValid := valid items[k] (List.getElem_mem bound)
    have notOne : items[k].equationUnit ≠ 1 := by
      rw [Item.verify_eq itemValid, Except.ok.injEq, Item.equationValue_eq itemValid] at rejected
      intro isOne
      rw [(Pairing.isOne_eq_true_iff _).mpr isOne] at rejected
      cases rejected
    exact weight_eq_of_pow_eq (Item.equationUnit_pow_groupOrder itemValid) notOne
      (pow_eq_pow_of_agree bound Item.equationUnit agree one one')

/-- Two items under two key objects. -/
theorem aggregate_sound_generators :
    let items := [2, 1].map Item.atGenerators
    ((∀ item ∈ items, item.IsValid) ∧
        SharedKey.HaveOwnAddresses (items.map Item.shared)) ∧
      (∀ item ∈ items, item.verify = .ok item.equationValue.isOne) ∧
      (∃ keys, SharedKey.Enumerates keys (items.map Item.shared) ∧
        ∀ weights, ∃ holds, (aggregate items weights).Gives (combinedBytes items keys) holds ∧
          (holds = true ↔ (items.zipIdx.map fun entry =>
            entry.1.equationValue.value ^ (weights entry.2).value).prod = 1)) ∧
      ∀ (k : Nat) (bound : k < items.length), items[k].verify = .ok false →
        ∀ weights weights' : Nat → Weight,
          (∀ i < items.length, i ≠ k → weights i = weights' i) →
          ∀ arena arena' after after',
            (aggregate items weights).run.run arena = (.ok true, after) →
            (aggregate items weights').run.run arena' = (.ok true, after') →
            weights k = weights' k := by
  have valid (item : Item) (member : item ∈ [2, 1].map Item.atGenerators) : item.IsValid :=
    Item.isValid_atGenerators member
  have own := Item.haveOwnAddresses_atGenerators [2, 1]
  exact ⟨⟨valid, own⟩, aggregate_sound valid own⟩

end Batch
end Groth16
