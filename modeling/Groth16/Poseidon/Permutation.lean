import Groth16.Poseidon.Constants

/-!
# The Poseidon hash

A round adds its constants, applies the fifth power to all elements or to the first alone,
and mixes the elements by a matrix. Two scalars are hashed by permuting the state
`(0, a, b)` and taking its first element.
-/

namespace Groth16
namespace Poseidon

/-- The fifth power. -/
def fifthPower (x : Fr) : Fr := x.square.square * x

namespace State

/-- The sum, element by element. -/
protected def add (x y : State) : State := ⟨x.s0 + y.s0, x.s1 + y.s1, x.s2 + y.s2⟩

/-- The fifth power of every element. -/
def powerAll (x : State) : State := ⟨fifthPower x.s0, fifthPower x.s1, fifthPower x.s2⟩

/-- The fifth power of the first element. -/
def powerFirst (x : State) : State := { x with s0 := fifthPower x.s0 }

/-- The product of a row and the state. -/
def dot (row x : State) : Fr := row.s0 * x.s0 + row.s1 * x.s1 + row.s2 * x.s2

/-- The product of the mixing matrix and the state. -/
def mix (x : State) : State :=
  ⟨mixingRows[0].dot x, mixingRows[1].dot x, mixingRows[2].dot x⟩

end State

/-- Whether every element goes through the power map in the round of this number. -/
def isFullRound (number : Nat) : Bool :=
  number < fullRounds / 2 || fullRounds / 2 + partialRounds ≤ number

/-- The round of the given number with the given constants. -/
def round (state : State) (numbered : State × Nat) : State :=
  let summed := state.add numbered.1
  (if isFullRound numbered.2 then summed.powerAll else summed.powerFirst).mix

/-- All rounds in order. -/
def permute (state : State) : State := roundConstants.zipIdx.foldl round state

/-- The hash of two scalars. -/
def hash (a b : Fr) : Fr := (permute ⟨0, a, b⟩).s0

/-- The hash of two scalars in bytes, each of which must be below the modulus. -/
def hashBytes? (a b : List UInt8) : Except FieldError (List UInt8) := do
  let a ← FieldElement.ofBytes? a
  let b ← FieldElement.ofBytes? b
  return (hash a b).toBytes

end Poseidon
end Groth16
