import Groth16.Error
import Groth16.Poseidon.Permutation

/-!
# Exclusion trees

A blacklist is a sparse tree of hashes whose slots are addressed by the low bits of an
agent's identity; an empty slot holds zero. A path from a slot to the root lists, level by
level, on which side the running hash stands and the sibling to hash it with.
-/

namespace Groth16
namespace ExclusionTree

/-- The number of bytes of one level of a path: a direction and a sibling. -/
def nodeSize : Nat := 33

/-- The deepest path that is accepted. -/
def maxDepth : Nat := 256

/-- The levels of a path, from the slot to the root. -/
def levels (path : List UInt8) : Except VerifyError (List (List UInt8)) :=
  let depth := path.length / nodeSize
  if path.length % nodeSize ≠ 0 ∨ maxDepth < depth then
    .error (.proof (.invalidExclusionPath path.length))
  else .ok (Bytes.chunks nodeSize depth path)

/-- The hash of one level: direction zero puts the running hash first, direction one last.
The path length is quoted for any other direction. -/
def climb (pathLength : Nat) (current : Fr) (level : List UInt8) : Except VerifyError Fr := do
  let sibling ← (FieldElement.ofBytes? (level.drop 1)).mapError .outOfRange
  match level.headD 0 with
  | 0 => return Poseidon.hash current sibling
  | 1 => return Poseidon.hash sibling current
  | _ => throw (.proof (.invalidExclusionPath pathLength))

/-- Whether the path leads from the leaf to the root. -/
def verifyPath (root leaf path : List UInt8) : Except VerifyError Bool := do
  let levels ← levels path
  let leaf ← (FieldElement.ofBytes? leaf).mapError .outOfRange
  let top ← levels.foldlM (climb path.length) leaf
  return top.toBytes == root

/-- The bit of an identity that the path must follow at the given level. -/
def direction (agent : List UInt8) (level : Nat) : UInt8 :=
  if (Bytes.toNat agent).testBit level then 1 else 0

/-- Whether every level of the path turns in the direction of the identity's bit. -/
def follows (agent : List UInt8) (levels : List (List UInt8)) : Bool :=
  levels.zipIdx.all fun (level, number) => level.head? == some (direction agent number)

/-- Whether the path shows that the agent's slot is empty. -/
def verifyAbsent (root agent path : List UInt8) : Except VerifyError Bool := do
  let turns := follows agent (← levels path)
  let leads ← verifyPath root (List.replicate 32 0) path
  return turns && leads

end ExclusionTree
end Groth16
