import Groth16.Curve.Normalize
import Groth16.Verification

/-!
# Combined verification

Many proofs are checked at once by one product of pairings in which each proof is raised to
a random weight. For each key there are three pairs in which the terms of its proofs are
summed; each proof adds one pair of its own. All room comes from the arena.
-/

namespace Groth16

/-- A nonzero number of 128 bits. -/
structure Weight where
  value : Nat
  value_pos : 0 < value
  value_lt : value < 2 ^ 128

namespace Weight

/-- The weight of any number, which spreads numbers evenly over all weights. -/
def ofNat (n : Nat) : Weight where
  value := n % (2 ^ 128 - 1) + 1
  value_pos := by omega
  value_lt := by omega

/-- The weight as a scalar. -/
def toScalar (weight : Weight) : Fr := .ofNat weight.value

end Weight

/-- A verifying key as an object of its own: two objects may hold equal keys. -/
structure SharedKey where
  /-- What tells the object from others. -/
  address : Nat
  key : VerifyingKey
  deriving DecidableEq

namespace Batch

/-- A proof with its key and as many public inputs as the key expects. -/
structure Item where
  shared : SharedKey
  proof : Proof
  inputs : List Fr
  inputs_length : inputs.length = shared.key.publicInputs

namespace Item

/-- The key of the item. -/
def key (item : Item) : VerifyingKey := item.shared.key

/-- The item of decoded parts, if the number of public inputs fits the key. -/
def make? (shared : SharedKey) (proof : Proof) (inputs : List Fr) : Except VerifyError Item :=
  if fits : inputs.length = shared.key.publicInputs then .ok ⟨shared, proof, inputs, fits⟩
  else .error (.badInputs shared.key.publicInputs inputs.length)

/-- The item of encoded parts. -/
def ofBytes?
    (shared : SharedKey)
    (proof : List UInt8)
    (inputs : List (List UInt8)) : Except VerifyError Item := do
  shared.key.checkInputCount inputs.length
  let proof ← Proof.ofBytes? proof
  let inputs ← decodeInputs inputs
  make? shared proof inputs

/-- Whether the proof of the item holds by itself. -/
def verify (item : Item) : Except VerifyError Bool := item.key.verify item.proof item.inputs

end Item

/-- An item with its weight. -/
structure Weighted where
  item : Item
  weight : Fr

/-- The weighted items of each key object, in the order of the addresses. -/
def groupByKey (entries : List Weighted) : List (List Weighted) :=
  let address (entry : Weighted) := entry.item.shared.address
  (entries.mergeSort fun a b => address a ≤ address b).splitBy fun a b => address a == address b

/-- The sum of the weights, then for each public input the sum of its weighted values. -/
def coefficients (icCount : Nat) (group : List Weighted) : List Fr :=
  group.foldl
    (fun sums entry =>
      sums.zipWith (· + ·) (entry.weight :: entry.item.inputs.map (entry.weight * ·)))
    (List.replicate icCount 0)

/-- The sum of the multiples of the points by the scalars. -/
def sumOfMultiples (points : List G1.Affine) (scalars : List Fr) : G1.Projective :=
  (points.zip scalars).foldl (fun acc (P, k) => acc.add (P.toProjective.mul k)) .identity

/-- The three pairs of one key: `alpha`, the input points and the `C` points, each summed
with the weights of the group. -/
def groupPairs
    (key : VerifyingKey)
    (group : List Weighted) : ArenaM (List (G1.Affine × G2.Affine)) := do
  let _ ← Arena.reserveItems 32 8 key.ic.length
  let _ ← Arena.reserveItems (AffinePoint.storedSize Curve.g1) 8 group.length
  let _ ← Arena.reserveItems 32 8 group.length
  let sums := coefficients key.ic.length group
  let inputSum := sumOfMultiples key.ic sums
  let cSum ← ProjectivePoint.multiScalarMul (group.map (·.item.proof.c)) (group.map (·.weight))
  let alphaSum := key.alpha.toProjective.mul (sums.headD 0)
  return [(alphaSum.toAffine, key.beta), (inputSum.toAffine, key.gamma),
    (cSum.toAffine, key.delta)]

/-- The number of bytes that a pair of points takes in an arena. -/
def pairSize : Nat := AffinePoint.storedSize Curve.g1 + AffinePoint.storedSize Curve.g2

/-- The pairs of the combined check: the own pair of each item in order, then three pairs
for each key object. -/
def aggregatePairs
    (items : List Item)
    (weights : Nat → Weight) : ArenaM (List (G1.Affine × G2.Affine)) := do
  let count := items.length
  let _ ← Arena.reserveItems 32 8 count
  let entries := items.zipIdx.map fun (item, i) => Weighted.mk item (weights i).toScalar
  let _ ← Arena.reserveItems 8 8 count
  let groups := groupByKey entries
  let _ ← Arena.reserveItems pairSize 8 (count + 3 * groups.length)
  let _ ← Arena.reserveItems (ProjectivePoint.storedSize Curve.g1) 8 count
  let scaled := entries.map fun entry => (entry.item.proof.a.toProjective.mul entry.weight).neg
  let _ ← Arena.reserveItems (AffinePoint.storedSize Curve.g1) 8 count
  let normalized ← ProjectivePoint.toAffineAll scaled
  let own := normalized.zip (items.map (·.proof.b))
  let shared ← groups.mapM fun group =>
    match group with
    | [] => pure []
    | first :: _ => groupPairs first.item.key group
  return own ++ shared.flatten

/-- Whether the combined check of all items holds. -/
def aggregate (items : List Item) (weights : Nat → Weight) : ArenaM Bool := do
  let pairs ← aggregatePairs items weights
  return (← Pairing.pairingProductIn pairs).isOne

/-- Whether each item holds by itself. -/
def verifySingly (items : List Item) : Except VerifyError (List Bool) := items.mapM Item.verify

/-- Whether each item holds: by the combined check from `minBatchSize` items on, and one by
one for fewer or when the combined check fails. -/
def verify
    (items : List Item)
    (minBatchSize : Nat)
    (weights : Nat → Weight) : ExceptT VerifyError (StateM Arena) (List Bool) := do
  if items.isEmpty then return []
  if items.length < minBatchSize then return ← verifySingly items
  let combined ← ExceptT.mk ((·.mapError .allocationFailed) <$> (aggregate items weights).run)
  if combined then return items.map fun _ => true
  verifySingly items

/-- The scratch space, in bytes, kept ready for a batch of the given size. -/
def workingSpace (count : Nat) : Nat := 64 * 1024 + count * 1024

/-- The most entries that a batch may have. -/
def maxSize : Nat := 1024

end Batch
end Groth16
