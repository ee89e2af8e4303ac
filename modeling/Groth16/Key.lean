import Groth16.Curve.Groups
import Groth16.Error

/-!
# Verifying keys

A verifying key holds four points and one further point for each public input and one
more. Its byte form is a header of the four points and a count, followed by that many
points. Every point is checked when a key is read: either all are valid or there is no key.
-/

namespace Groth16

/-- A verifying key. -/
structure VerifyingKey where
  alpha : G1.Affine
  beta : G2.Affine
  gamma : G2.Affine
  delta : G2.Affine
  /-- The constant point, then one point for each public input. -/
  ic : List G1.Affine
  deriving DecidableEq, Inhabited

namespace VerifyingKey

/-- The number of bytes before the input points. -/
def headerSize : Nat := 452

/-- The most public inputs that a key may have. -/
def maxPublicInputs : Nat := 64

/-- The number of bytes of a key with the given number of input points. -/
def encodedSize (icCount : Nat) : Nat := headerSize + icCount * 64

/-- The number of public inputs that the key expects. -/
def publicInputs (key : VerifyingKey) : Nat := key.ic.length - 1

/-- The point of `G1` that the bytes encode, for the field of the given name. -/
def readG1 (field : String) (bytes : List UInt8) : Except KeyError G1.Affine :=
  (AffinePoint.ofBytes? bytes).mapError (.invalidPoint field)

/-- The point of `G1` that the bytes encode, which must not be the identity. -/
def readFiniteG1 (field : String) (bytes : List UInt8) : Except KeyError G1.Affine := do
  let P ← readG1 field bytes
  if P.isIdentity then throw (.invalidPoint field .identity)
  return P

/-- The point of `G2` that the bytes encode, which must not be the identity. -/
def readFiniteG2 (field : String) (bytes : List UInt8) : Except KeyError G2.Affine := do
  let P ← (AffinePoint.ofBytes? bytes).mapError (.invalidPoint field)
  if P.isIdentity then throw (.invalidPoint field .identity)
  return P

/-- The key that the bytes encode. -/
def ofBytes? (bytes : List UInt8) : Except KeyError VerifyingKey := do
  if bytes.length < headerSize then throw (.tooShort headerSize bytes.length)
  let count := Bytes.toNat (Bytes.slice bytes 448 4)
  if count = 0 then throw .emptyIc
  if maxPublicInputs + 1 < count then throw (.tooManyPublicInputs count (maxPublicInputs + 1))
  if bytes.length ≠ encodedSize count then
    throw (.invalidSize (encodedSize count) bytes.length)
  let alpha ← readFiniteG1 "alpha" (Bytes.slice bytes 0 64)
  let beta ← readFiniteG2 "beta" (Bytes.slice bytes 64 128)
  let gamma ← readFiniteG2 "gamma" (Bytes.slice bytes 192 128)
  let delta ← readFiniteG2 "delta" (Bytes.slice bytes 320 128)
  let ic ← (Bytes.chunks 64 count (bytes.drop headerSize)).mapM (readG1 "ic")
  return ⟨alpha, beta, gamma, delta, ic⟩

/-- The bytes of the key. -/
def toBytes (key : VerifyingKey) : List UInt8 :=
  key.alpha.toBytes ++ key.beta.toBytes ++ key.gamma.toBytes ++ key.delta.toBytes ++
    Bytes.ofNat 4 key.ic.length ++ key.ic.flatMap AffinePoint.toBytes

end VerifyingKey
end Groth16
