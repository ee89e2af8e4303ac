import Groth16.Curve.Groups
import Groth16.Error

/-!
# Proofs

A proof is three points, encoded one after the other. A proof with an identity among them
is refused when it is read.
-/

namespace Groth16

/-- A proof. -/
structure Proof where
  a : G1.Affine
  b : G2.Affine
  c : G1.Affine
  deriving DecidableEq, Inhabited

namespace Proof

/-- The number of bytes of a proof. -/
def encodedSize : Nat := 256

/-- The proof that the bytes encode. -/
def ofBytes? (bytes : List UInt8) : Except VerifyError Proof := do
  if bytes.length ≠ encodedSize then
    throw (.proof (.invalidSize encodedSize bytes.length))
  let a ← (AffinePoint.ofBytes? (Bytes.slice bytes 0 64)).mapError .invalidPoint
  let b ← (AffinePoint.ofBytes? (Bytes.slice bytes 64 128)).mapError .invalidPoint
  let c ← (AffinePoint.ofBytes? (Bytes.slice bytes 192 64)).mapError .invalidPoint
  if a.isIdentity || b.isIdentity || c.isIdentity then throw (.invalidPoint .identity)
  return ⟨a, b, c⟩

/-- The bytes of the proof. -/
def toBytes (proof : Proof) : List UInt8 :=
  proof.a.toBytes ++ proof.b.toBytes ++ proof.c.toBytes

end Proof
end Groth16
