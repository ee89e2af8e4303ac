import Groth16.Proofs.Checks
import Groth16.Proofs.Field.Encoding
import Groth16.Reputation.ExclusionTree

/-!
# Exclusion paths

A path is well formed if it is the byte form of at most 256 turns. Checking a well-formed path
hashes its way from the leaf along the turns and compares the last hash with the root. On all
other paths the check is an error.
-/

namespace Groth16
namespace ExclusionTree

/-- A level of a path. -/
structure Turn where
  /-- Whether the running hash stands last. -/
  last : Bool
  sibling : Fr

def hashPair (pair : Fr × Fr) : Fr := Poseidon.hash pair.1 pair.2

namespace Turn

def toBytes (turn : Turn) : List UInt8 :=
  (if turn.last then 1 else 0) :: turn.sibling.toBytes

/-- What is hashed at the level. -/
def pair (turn : Turn) (current : Fr) : Fr × Fr :=
  if turn.last then (turn.sibling, current) else (current, turn.sibling)

def next (current : Fr) (turn : Turn) : Fr := hashPair (turn.pair current)

@[simp]
theorem length_toBytes (turn : Turn) : turn.toBytes.length = 33 := by
  rw [toBytes, List.length_cons, FieldElement.length_toBytes]

theorem head?_toBytes_eq_some_iff
    {turn : Turn}
    {last : Bool} :
    turn.toBytes.head? = some (if last then 1 else 0) ↔ turn.last = last := by
  rw [toBytes, List.head?_cons, Option.some_inj]
  cases turn.last <;> cases last <;> decide

end Turn

/-- The byte form of a path. -/
def pathOf (turns : List Turn) : List UInt8 := turns.flatMap Turn.toBytes

theorem length_pathOf (turns : List Turn) : (pathOf turns).length = turns.length * 33 :=
  Bytes.length_flatMap_of_size Turn.length_toBytes turns

/-- The byte form of at most 256 turns. -/
def IsPath (path : List UInt8) : Prop := ∃ turns, turns.length ≤ 256 ∧ path = pathOf turns

/-- A level leads on exactly if it is the byte form of a turn. -/
theorem climb_eq_ok_iff
    {pathLength : Nat}
    {current after : Fr}
    {level : List UInt8} :
    climb pathLength current level = .ok after ↔
      ∃ turn : Turn, level = turn.toBytes ∧ turn.next current = after := by
  constructor
  · intro climbed
    obtain ⟨sibling, read, turned⟩ := Checks.bind_eq_ok.mp climbed
    have bytes := FieldElement.toBytes_of_ofBytes? (Checks.mapError_eq_ok.mp read)
    -- A sibling has 32 bytes, so the level is not empty.
    cases level with
    | nil => cases congrArg List.length bytes
    | cons direction rest =>
        cases bytes
        split at turned
        next zero =>
          cases turned
          cases zero
          exact ⟨⟨false, sibling⟩, rfl, rfl⟩
        next one =>
          cases turned
          cases one
          exact ⟨⟨true, sibling⟩, rfl, rfl⟩
        next => cases turned
  · rintro ⟨⟨last, sibling⟩, rfl, rfl⟩
    refine Checks.bind_eq_ok.mpr
      ⟨sibling, Checks.mapError_eq_ok.mpr (FieldElement.ofBytes?_toBytes sibling), ?_⟩
    cases last <;> rfl

theorem foldlM_climb_eq_ok_iff
    {pathLength : Nat}
    {current top : Fr}
    {levels : List (List UInt8)} :
    levels.foldlM (climb pathLength) current = .ok top ↔
      ∃ turns : List Turn,
        levels = turns.map Turn.toBytes ∧ turns.foldl Turn.next current = top := by
  induction levels generalizing current with
  | nil =>
      constructor
      · intro reached
        cases reached
        exact ⟨[], rfl, rfl⟩
      · rintro ⟨turns, none, rfl⟩
        rw [List.map_eq_nil_iff.mp none.symm]
        rfl
  | cons level rest inductionHypothesis =>
      rw [List.foldlM_cons, Checks.bind_eq_ok]
      constructor
      · rintro ⟨after, climbed, reached⟩
        obtain ⟨turn, rfl, rfl⟩ := climb_eq_ok_iff.mp climbed
        obtain ⟨turns, rfl, rfl⟩ := inductionHypothesis.mp reached
        exact ⟨turn :: turns, rfl, rfl⟩
      · rintro ⟨turns, equal, rfl⟩
        obtain ⟨turn, others, rfl, rfl, rfl⟩ := List.map_eq_cons_iff.mp equal.symm
        exact ⟨turn.next current, climb_eq_ok_iff.mpr ⟨turn, rfl, rfl⟩,
          inductionHypothesis.mpr ⟨others, rfl, rfl⟩⟩

theorem levels_pathOf
    {turns : List Turn}
    (shallow : turns.length ≤ 256) :
    levels (pathOf turns) = .ok (turns.map Turn.toBytes) := by
  have length : (pathOf turns).length = turns.length * nodeSize := length_pathOf turns
  have depth : (pathOf turns).length / nodeSize = turns.length := by
    rw [length, Nat.mul_div_cancel _ (by decide)]
  rw [levels, depth, if_neg, pathOf, nodeSize, Bytes.chunks_flatMap Turn.length_toBytes]
  rintro (odd | deep)
  · exact odd (length ▸ Nat.mul_mod_left _ _)
  · exact Nat.not_lt_of_le shallow deep

theorem levels_eq_ok_iff
    {path : List UInt8}
    {turns : List Turn} :
    levels path = .ok (turns.map Turn.toBytes) ↔ turns.length ≤ 256 ∧ path = pathOf turns := by
  constructor
  · intro split
    rw [levels] at split
    split at split
    next => cases split
    next wellSized =>
      obtain ⟨whole, shallow⟩ := not_or.mp wellSized
      have pieces := Except.ok.inj split
      have depth := congrArg List.length pieces
      rw [Bytes.length_chunks, List.length_map] at depth
      refine ⟨depth ▸ Nat.le_of_not_lt shallow, ?_⟩
      have joined := congrArg List.flatten pieces
      rw [Bytes.flatten_chunks] at joined
      · rw [joined, pathOf, List.flatMap_def]
      · exact (Nat.div_mul_cancel (Nat.dvd_of_mod_eq_zero (not_not.mp whole))).symm
  · rintro ⟨shallow, rfl⟩
    exact levels_pathOf shallow

/-- What the check of a path finds. -/
theorem verifyPath_eq_ok_iff
    {root leaf path : List UInt8}
    {verdict : Bool} :
    verifyPath root leaf path = .ok verdict ↔
      ∃ turns start, turns.length ≤ 256 ∧ path = pathOf turns ∧ leaf = start.toBytes ∧
        ((turns.foldl Turn.next start).toBytes == root) = verdict := by
  rw [verifyPath, Checks.bind_eq_ok]
  constructor
  · rintro ⟨pieces, split, checked⟩
    obtain ⟨start, read, climbed⟩ := Checks.bind_eq_ok.mp checked
    obtain ⟨top, reached, compared⟩ := Checks.bind_eq_ok.mp climbed
    obtain ⟨turns, rfl, rfl⟩ := foldlM_climb_eq_ok_iff.mp reached
    obtain ⟨shallow, pathEq⟩ := levels_eq_ok_iff.mp split
    exact ⟨turns, start, shallow, pathEq,
      (FieldElement.toBytes_of_ofBytes? (Checks.mapError_eq_ok.mp read)).symm,
      Except.ok.inj compared⟩
  · rintro ⟨turns, start, shallow, rfl, rfl, rfl⟩
    refine ⟨_, levels_pathOf shallow, Checks.bind_eq_ok.mpr ⟨start, ?_, ?_⟩⟩
    · exact Checks.mapError_eq_ok.mpr (FieldElement.ofBytes?_toBytes start)
    · exact Checks.bind_eq_ok.mpr ⟨_, foldlM_climb_eq_ok_iff.mpr ⟨turns, rfl, rfl⟩, rfl⟩

/-- The bytes of an identity turn at each level as its bits say, from the lowest on. -/
theorem direction_eq
    {agent : List UInt8}
    {level : Nat}
    (inside : level / 8 < agent.length) :
    direction agent level =
      (agent.getD (agent.length - 1 - level / 8) 0 >>> UInt8.ofNat (level % 8)) &&& 1 := by
  rw [direction, Bytes.testBit_toNat inside]
  have shift : (UInt8.ofNat (level % 8)).toNat % 8 = level % 8 := by
    rw [UInt8.toNat_ofNat']
    omega
  apply UInt8.toNat_inj.mp
  rw [UInt8.toNat_and, UInt8.toNat_shiftRight, shift, UInt8.toNat_one, Nat.and_one_is_mod,
    Nat.shiftRight_eq_div_pow, Nat.testBit_eq_decide_div_mod_eq]
  rcases Nat.mod_two_eq_zero_or_one
    ((agent.getD (agent.length - 1 - level / 8) 0).toNat / 2 ^ (level % 8)) with even | odd
  · rw [even]
    rfl
  · rw [odd]
    rfl

def Follows (agent : List UInt8) (turns : List Turn) : Prop :=
  ∀ (level : Nat) (inside : level < turns.length),
    turns[level].last = (Bytes.toNat agent).testBit level

theorem follows_iff
    {agent : List UInt8}
    {turns : List Turn} :
    follows agent (turns.map Turn.toBytes) = true ↔ Follows agent turns := by
  rw [follows, List.all_eq_true, List.forall_mem_zipIdx', Follows]
  simp only [List.length_map, List.getElem_map, beq_iff_eq, direction,
    Turn.head?_toBytes_eq_some_iff]

theorem verifyAbsent_pathOf
    {root agent : List UInt8}
    {turns : List Turn}
    (shallow : turns.length ≤ 256) :
    verifyAbsent root agent (pathOf turns) =
      .ok (follows agent (turns.map Turn.toBytes) &&
        ((turns.foldl Turn.next 0).toBytes == root)) := by
  have found : verifyPath root (List.replicate 32 0) (pathOf turns) =
      .ok ((turns.foldl Turn.next 0).toBytes == root) :=
    verifyPath_eq_ok_iff.mpr
      ⟨turns, 0, shallow, rfl, FieldElement.toBytes_zero.symm, rfl⟩
  rw [verifyAbsent, levels_pathOf shallow, Checks.ok_bind, found]
  rfl

/-- The check of an agent's absence is an error for malformed paths alone. -/
theorem exists_verifyAbsent_eq_ok_iff
    {root agent path : List UInt8} :
    (∃ verdict, verifyAbsent root agent path = .ok verdict) ↔ IsPath path := by
  constructor
  · rintro ⟨verdict, checked⟩
    obtain ⟨pieces, -, rest⟩ := Checks.bind_eq_ok.mp checked
    obtain ⟨leads, found, -⟩ := Checks.bind_eq_ok.mp rest
    obtain ⟨turns, start, shallow, pathEq, -⟩ := verifyPath_eq_ok_iff.mp found
    exact ⟨turns, shallow, pathEq⟩
  · rintro ⟨turns, shallow, rfl⟩
    exact ⟨_, verifyAbsent_pathOf shallow⟩

/-- An agent is found absent if a path from an empty slot takes its turns and ends at the root. -/
theorem verifyAbsent_eq_true_iff
    {root agent path : List UInt8} :
    verifyAbsent root agent path = .ok true ↔
      ∃ turns, turns.length ≤ 256 ∧ path = pathOf turns ∧ Follows agent turns ∧
        (turns.foldl Turn.next 0).toBytes = root := by
  constructor
  · intro absent
    obtain ⟨turns, shallow, rfl⟩ := exists_verifyAbsent_eq_ok_iff.mp ⟨true, absent⟩
    rw [verifyAbsent_pathOf shallow, Except.ok.injEq, Bool.and_eq_true, follows_iff,
      beq_iff_eq] at absent
    exact ⟨turns, shallow, rfl, absent⟩
  · rintro ⟨turns, shallow, rfl, follow, reached⟩
    rw [verifyAbsent_pathOf shallow, follows_iff.mpr follow, reached, beq_self_eq_true]
    rfl

end ExclusionTree
end Groth16
