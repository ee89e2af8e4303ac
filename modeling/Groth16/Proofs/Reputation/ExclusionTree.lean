import Groth16.Proofs.Reputation.ExclusionPath
import Mathlib.SetTheory.Cardinal.Finite

/-!
# Exclusion is complete and binding

In a tree over `2 ^ depth` slots the path of an agent whose slot is empty shows that it is absent.
No path from another leaf can turn the same way and end at the same root, unless the two paths
hash two different pairs to one value.
-/

namespace Groth16
namespace ExclusionTree

variable {depth : Nat}

/-! ## Trees -/

/-- The node below a node, on the side of the given bit. -/
def child (node : Fin (2 ^ depth)) (last : Bool) : Fin (2 ^ (depth + 1)) :=
  ⟨2 * node + last.toNat, by have := node.isLt; have := last.toNat_le; omega⟩

def parent (node : Fin (2 ^ (depth + 1))) : Fin (2 ^ depth) :=
  ⟨node / 2, by have := node.isLt; omega⟩

/-- Whether a node stands last below its parent. -/
def side (node : Fin (2 ^ (depth + 1))) : Bool := node.val.testBit 0

/-- The row above a row of hashes. -/
def parents (row : Fin (2 ^ (depth + 1)) → Fr) (node : Fin (2 ^ depth)) : Fr :=
  Poseidon.hash (row (child node false)) (row (child node true))

def treeRoot : {depth : Nat} → (Fin (2 ^ depth) → Fr) → Fr
  | 0, row => row ⟨0, Nat.one_pos⟩
  | _ + 1, row => treeRoot (parents row)

/-- The honest path from a slot: the sibling of its node in each row. -/
def turnsFrom : {depth : Nat} → (Fin (2 ^ depth) → Fr) → Fin (2 ^ depth) → List Turn
  | 0, _, _ => []
  | _ + 1, row, slot =>
    ⟨side slot, row (child (parent slot) (!side slot))⟩ :: turnsFrom (parents row) (parent slot)

/-- The slot of an agent: the low bits of its identity. -/
def slotOf (depth : Nat) (agent : List UInt8) : Fin (2 ^ depth) :=
  ⟨Bytes.toNat agent % 2 ^ depth, Nat.mod_lt _ (Nat.two_pow_pos depth)⟩

theorem child_parent_side (node : Fin (2 ^ (depth + 1))) :
    child (parent node) (side node) = node := by
  apply Fin.ext
  change 2 * (node.val / 2) + (node.val.testBit 0).toNat = node.val
  rw [Nat.testBit_zero]
  rcases Nat.mod_two_eq_zero_or_one node.val with even | odd
  · rw [even]
    change 2 * (node.val / 2) + 0 = node.val
    omega
  · rw [odd]
    change 2 * (node.val / 2) + 1 = node.val
    omega

theorem length_turnsFrom (row : Fin (2 ^ depth) → Fr) (slot : Fin (2 ^ depth)) :
    (turnsFrom row slot).length = depth := by
  induction depth with
  | zero => rfl
  | succ depth inductionHypothesis =>
      rw [turnsFrom, List.length_cons, inductionHypothesis]

/-- A turn of an honest path leads from a node to its parent. -/
theorem next_honest (row : Fin (2 ^ (depth + 1)) → Fr) (node : Fin (2 ^ (depth + 1))) :
    Turn.next (row node) ⟨side node, row (child (parent node) (!side node))⟩ =
      parents row (parent node) := by
  have same := child_parent_side node
  cases stands : side node with
  | false =>
      rw [stands] at same
      rw [parents, same]
      rfl
  | true =>
      rw [stands] at same
      rw [parents, same]
      rfl

/-- An honest path leads from its leaf to the root. -/
theorem foldl_turnsFrom (leaves : Fin (2 ^ depth) → Fr) (slot : Fin (2 ^ depth)) :
    (turnsFrom leaves slot).foldl Turn.next (leaves slot) = treeRoot leaves := by
  induction depth with
  | zero => exact congrArg leaves (Fin.ext (Nat.lt_one_iff.mp slot.isLt))
  | succ depth inductionHypothesis =>
      rw [turnsFrom, List.foldl_cons, next_honest, inductionHypothesis, treeRoot]

/-- The path of every slot leads from its leaf to the root. -/
theorem verifyPath_turnsFrom
    (shallow : depth ≤ 256)
    (leaves : Fin (2 ^ depth) → Fr)
    (slot : Fin (2 ^ depth)) :
    verifyPath (treeRoot leaves).toBytes (leaves slot).toBytes (pathOf (turnsFrom leaves slot)) =
      .ok true := by
  refine verifyPath_eq_ok_iff.mpr
    ⟨_, _, (length_turnsFrom leaves slot).trans_le shallow, rfl, rfl, ?_⟩
  rw [foldl_turnsFrom, beq_self_eq_true]

theorem last_turnsFrom
    {row : Fin (2 ^ depth) → Fr}
    {slot : Fin (2 ^ depth)}
    {level : Nat}
    (inside : level < (turnsFrom row slot).length) :
    (turnsFrom row slot)[level].last = slot.val.testBit level := by
  induction depth generalizing level with
  | zero => cases inside
  | succ depth inductionHypothesis =>
      cases level with
      | zero => rfl
      | succ level =>
          rw [Nat.testBit_succ]
          exact inductionHypothesis (Nat.lt_of_succ_lt_succ inside)

theorem follows_turnsFrom
    (leaves : Fin (2 ^ depth) → Fr)
    (agent : List UInt8) :
    Follows agent (turnsFrom leaves (slotOf depth agent)) := by
  intro level inside
  have shallow : level < depth := length_turnsFrom leaves (slotOf depth agent) ▸ inside
  rw [last_turnsFrom, slotOf, Nat.testBit_mod_two_pow, decide_eq_true shallow, Bool.true_and]

/-! ## Collisions -/

/-- The pairs that are hashed on the way from the leaf, in order. -/
def hashedPairs : Fr → List Turn → List (Fr × Fr)
  | _, [] => []
  | current, turn :: rest => turn.pair current :: hashedPairs (turn.next current) rest

theorem Turn.pair_ne
    {first second : Turn}
    {a b : Fr}
    (sides : first.last = second.last)
    (differ : a ≠ b) :
    first.pair a ≠ second.pair b := by
  intro same
  rw [pair, pair, sides] at same
  cases stands : second.last with
  | false =>
      rw [stands] at same
      exact differ (congrArg Prod.fst same)
  | true =>
      rw [stands] at same
      exact differ (congrArg Prod.snd same)

/-- Paths that turn alike from different leaves to one root hash two different pairs to one
value at some level. -/
theorem exists_collision
    {first second : List Turn}
    {a b : Fr}
    (sides : first.map Turn.last = second.map Turn.last)
    (differ : a ≠ b)
    (meet : first.foldl Turn.next a = second.foldl Turn.next b) :
    ∃ (level : Nat) (p q : Fr × Fr), (hashedPairs a first)[level]? = some p ∧
      (hashedPairs b second)[level]? = some q ∧ p ≠ q ∧ hashPair p = hashPair q := by
  induction first generalizing second a b with
  | nil =>
      rw [List.map_eq_nil_iff.mp sides.symm] at meet
      exact absurd meet differ
  | cons turn rest inductionHypothesis =>
      obtain ⟨other, others, rfl, side, sidesRest⟩ := List.map_eq_cons_iff.mp sides.symm
      have pairs := Turn.pair_ne side.symm differ
      -- Either two different pairs meet here, or the running hashes still differ one level up.
      by_cases collide : turn.next a = other.next b
      · exact ⟨0, _, _, rfl, rfl, pairs, collide⟩
      · obtain ⟨level, p, q, firstPair, secondPair, found⟩ :=
          inductionHypothesis sidesRest.symm collide meet
        exact ⟨level + 1, p, q, firstPair, secondPair, found⟩

theorem length_eq_of_length_pathOf_eq
    {first second : List Turn}
    (sameLength : (pathOf first).length = (pathOf second).length) :
    first.length = second.length := by
  rw [length_pathOf, length_pathOf] at sameLength
  exact Nat.eq_of_mul_eq_mul_right (by decide) sameLength

theorem map_last_eq_of_follows
    {agent : List UInt8}
    {first second : List Turn}
    (followFirst : Follows agent first)
    (followSecond : Follows agent second)
    (sameLength : first.length = second.length) :
    first.map Turn.last = second.map Turn.last := by
  apply List.ext_getElem
  · rw [List.length_map, List.length_map, sameLength]
  · intro level insideFirst insideSecond
    rw [List.getElem_map, List.getElem_map, followFirst, followSecond]

/-- The pairs are those that a check of the path from the leaf hashes. -/
def IsFold (leaf path : List UInt8) (pairs : List (Fr × Fr)) : Prop :=
  ∃ start turns, leaf = start.toBytes ∧ path = pathOf turns ∧ pairs = hashedPairs start turns

/-- The honest path of an empty slot is accepted. A path that is accepted for an agent and one
that leads from another leaf to the same root hash two different pairs to one value. -/
theorem verifyAbsent_complete_binding :
    (∀ depth ≤ 256, ∀ (leaves : Fin (2 ^ depth) → Fr) (agent : Bytes.Fixed 32),
      leaves (slotOf depth agent.val) = 0 →
      verifyAbsent (treeRoot leaves).toBytes agent.val
        (pathOf (turnsFrom leaves (slotOf depth agent.val))) = .ok true) ∧
    (∀ (root agent leaf : Bytes.Fixed 32) (first second : List UInt8),
      first.length = second.length →
      (levels second).map (follows agent.val) = .ok true →
      verifyAbsent root.val agent.val first = .ok true →
      verifyPath root.val leaf.val second = .ok true →
      leaf.val ≠ List.replicate 32 0 →
      ∃ firstPairs secondPairs, IsFold (List.replicate 32 0) first firstPairs ∧
        IsFold leaf.val second secondPairs ∧
        ∃ (level : Nat) (p q : Fr × Fr),
          firstPairs[level]? = some p ∧ secondPairs[level]? = some q ∧ p ≠ q ∧
            Poseidon.hash p.1 p.2 = Poseidon.hash q.1 q.2) := by
  constructor
  · intro depth shallow leaves agent empty
    refine verifyAbsent_eq_true_iff.mpr
      ⟨_, (length_turnsFrom leaves _).trans_le shallow, rfl, follows_turnsFrom leaves _, ?_⟩
    rw [← empty, foldl_turnsFrom]
  · intro root agent leaf first second sameLength followSecond absent leads nonzero
    obtain ⟨firstTurns, shallow, rfl, follow, reached⟩ := verifyAbsent_eq_true_iff.mp absent
    obtain ⟨secondTurns, start, shallowSecond, rfl, leafEq, compared⟩ :=
      verifyPath_eq_ok_iff.mp leads
    rw [levels_pathOf shallowSecond] at followSecond
    have sides := map_last_eq_of_follows follow (follows_iff.mp (Except.ok.inj followSecond))
      (length_eq_of_length_pathOf_eq sameLength)
    have differ : (0 : Fr) ≠ start := by
      rintro rfl
      exact nonzero (leafEq.trans FieldElement.toBytes_zero)
    have meet := FieldElement.toBytes_injective (reached.trans (beq_iff_eq.mp compared).symm)
    exact ⟨_, _, ⟨0, firstTurns, FieldElement.toBytes_zero.symm, rfl, rfl⟩,
      ⟨start, secondTurns, leafEq, rfl, rfl⟩, exists_collision sides differ meet⟩

/-- A row of zeros and ones. -/
def marks (marked : Fin (2 ^ depth) → Bool) (slot : Fin (2 ^ depth)) : Fr :=
  if marked slot then 1 else 0

/-- With 256 slots there are more rows of zeros and ones than roots. -/
theorem exists_shared_root :
    ∃ (empty full : Fin (2 ^ 8) → Bool) (slot : Fin (2 ^ 8)), empty slot = false ∧
      full slot = true ∧ treeRoot (marks empty) = treeRoot (marks full) := by
  by_contra! distinct
  have injective :
      Function.Injective fun marked : Fin (2 ^ 8) → Bool => treeRoot (marks marked) := by
    intro first second same
    funext slot
    cases isFirst : first slot <;> cases isSecond : second slot
    · rfl
    · exact absurd same (distinct first second slot isFirst isSecond)
    · exact absurd same.symm (distinct second first slot isSecond isFirst)
    · rfl
  have count := Nat.card_le_card_of_injective _ injective
  rw [Nat.card_fun, Nat.card_eq_fintype_card, Nat.card_eq_fintype_card, Fintype.card_bool,
    Fintype.card_fin, FieldElement.card_eq] at count
  exact absurd count (by decide)

/-- Two trees of one root, in one of which a slot is empty and in the other it is not. -/
theorem verifyAbsent_complete_binding_of_shared_root :
    ∃ (agent leaf : Bytes.Fixed 32) (empty full : Fin (2 ^ 8) → Fr),
      empty (slotOf 8 agent.val) = 0 ∧ leaf.val = (full (slotOf 8 agent.val)).toBytes ∧
      verifyAbsent (treeRoot full).toBytes agent.val
        (pathOf (turnsFrom empty (slotOf 8 agent.val))) = .ok true ∧
      ∃ firstPairs secondPairs,
        IsFold (List.replicate 32 0) (pathOf (turnsFrom empty (slotOf 8 agent.val))) firstPairs ∧
        IsFold leaf.val (pathOf (turnsFrom full (slotOf 8 agent.val))) secondPairs ∧
        ∃ (level : Nat) (p q : Fr × Fr),
          firstPairs[level]? = some p ∧ secondPairs[level]? = some q ∧ p ≠ q ∧
            Poseidon.hash p.1 p.2 = Poseidon.hash q.1 q.2 := by
  obtain ⟨empty, full, slot, isEmpty, isFull, shared⟩ := exists_shared_root
  let agent : Bytes.Fixed 32 := ⟨Bytes.ofNat 32 slot, Bytes.length_ofNat 32 slot⟩
  let leaf : Bytes.Fixed 32 := ⟨(1 : Fr).toBytes, FieldElement.length_toBytes 1⟩
  have agentSlot : slotOf 8 agent.val = slot := by
    apply Fin.ext
    have below := slot.isLt
    change Bytes.toNat (Bytes.ofNat 32 slot) % 2 ^ 8 = slot.val
    rw [Bytes.toNat_ofNat]
    omega
  have leafZero : marks empty slot = 0 := by rw [marks, isEmpty]; rfl
  have leafOne : marks full slot = 1 := by rw [marks, isFull]; rfl
  have accepted := verifyAbsent_complete_binding.1 8 (by decide) (marks empty) agent
    (agentSlot ▸ leafZero)
  rw [shared] at accepted
  refine ⟨agent, leaf, marks empty, marks full, agentSlot ▸ leafZero, ?_, accepted, ?_⟩
  · rw [agentSlot, leafOne]
  · refine verifyAbsent_complete_binding.2
      ⟨(treeRoot (marks full)).toBytes, FieldElement.length_toBytes _⟩ agent leaf _ _ ?_ ?_
      accepted ?_ ?_
    · rw [length_pathOf, length_pathOf, length_turnsFrom, length_turnsFrom]
    · rw [levels_pathOf ((length_turnsFrom (marks full) _).trans_le (by decide))]
      exact congrArg Except.ok (follows_iff.mpr (follows_turnsFrom (marks full) agent.val))
    · change verifyPath _ (1 : Fr).toBytes _ = _
      rw [agentSlot, ← leafOne]
      exact verifyPath_turnsFrom (by decide) (marks full) slot
    · intro zero
      exact one_ne_zero (FieldElement.toBytes_injective (zero.trans FieldElement.toBytes_zero.symm))

end ExclusionTree
end Groth16
