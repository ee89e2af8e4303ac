import Groth16.Curve.Basic

/-!
# Byte form of points

A point is encoded as its two affine coordinates, each in the fixed-size big-endian form
of its field, and the identity as zero bytes alone. Decoding checks, in this order, the
length, the range of the coordinates, the curve equation and membership in the subgroup.
-/

namespace Groth16

/-- A field whose elements have a byte form of fixed length. -/
class Coordinate (F : Type) where
  /-- The number of bytes of an element. -/
  size : Nat
  ofBytes? : List UInt8 → Option F
  toBytes : F → List UInt8
  /-- The element as it is shown inside a point. -/
  describe : F → String

/-- Base field elements take 32 bytes, and scalars as well. -/
instance {F : FieldParameters} : Coordinate (FieldElement F) where
  size := 32
  ofBytes? bytes := (FieldElement.ofBytes? bytes).toOption
  toBytes := FieldElement.toBytes
  describe := FieldElement.describe

/-- The element that 64 bytes encode, the coordinate of `u` first. -/
def Fq2.ofBytes? (bytes : List UInt8) : Option Fq2 :=
  if bytes.length = 64 then do
    let c1 ← Coordinate.ofBytes? (bytes.take 32)
    let c0 ← Coordinate.ofBytes? (bytes.drop 32)
    return ⟨c0, c1⟩
  else none

instance : Coordinate Fq2 where
  size := 64
  ofBytes? := Fq2.ofBytes?
  toBytes := Fq2.toBytes
  describe := Fq2.describe

/-- Why bytes were refused as a point. -/
inductive PointError where
  | invalidLength (expected actual : Nat)
  | coordinateOutOfRange
  | notOnCurve
  | notInSubgroup
  | identity
  deriving DecidableEq, Repr

/-- The wording of a point error. -/
def PointError.message : PointError → String
  | invalidLength expected actual =>
    s!"Invalid point encoding length: expected {expected}, got {actual}"
  | coordinateOutOfRange => "Coordinate is not a canonical base field element"
  | notOnCurve => "Point not on curve"
  | notInSubgroup => "Point not in the prime-order subgroup"
  | identity => "Point at infinity is not allowed here"

/-- The short name of a point error. -/
def PointError.kind : PointError → String
  | invalidLength .. => "InvalidLength"
  | coordinateOutOfRange => "CoordinateOutOfRange"
  | notOnCurve => "NotOnCurve"
  | notInSubgroup => "NotInSubgroup"
  | identity => "Identity"

instance : Refusal PointError where
  kind := PointError.kind
  message := PointError.message

variable {F : Type} {C : Curve F}

/-- A curve with a test for membership of its points in the subgroup of prime order. -/
class SubgroupTest (C : Curve F) where
  isMember : ProjectivePoint C → Bool

namespace AffinePoint

variable [Coordinate F]

/-- The number of bytes of an encoded point. -/
def encodedSize (_ : Curve F) : Nat := 2 * Coordinate.size F

/-- The bytes of the point. -/
def toBytes : AffinePoint C → List UInt8
  | identity => List.replicate (encodedSize C) 0
  | finite x y => Coordinate.toBytes x ++ Coordinate.toBytes y

/-- The point whose coordinates the bytes encode, on the curve or not. -/
def ofBytesUnchecked (bytes : List UInt8) : Except PointError (AffinePoint C) :=
  if bytes.length ≠ encodedSize C then .error (.invalidLength (encodedSize C) bytes.length)
  else if Bytes.areZero bytes then .ok identity
  else
    match Coordinate.ofBytes? (bytes.take (Coordinate.size F)),
      Coordinate.ofBytes? (bytes.drop (Coordinate.size F)) with
    | some x, some y => .ok (finite x y)
    | _, _ => .error .coordinateOutOfRange

/-- Whether a point of the curve lies in the subgroup of prime order. -/
def isInSubgroup [Zero F] [One F] [SubgroupTest C] (P : AffinePoint C) : Bool :=
  SubgroupTest.isMember P.toProjective

/-- The point that the bytes encode: on the curve and in the subgroup. -/
def ofBytes?
    [Zero F] [One F] [Add F] [Mul F] [DecidableEq F] [SubgroupTest C]
    (bytes : List UInt8) : Except PointError (AffinePoint C) := do
  let P ← ofBytesUnchecked bytes
  if !P.isOnCurve then throw .notOnCurve
  if !P.isInSubgroup then throw .notInSubgroup
  return P

/-- The point by the name of its curve and its coordinates. -/
def describe : AffinePoint C → String
  | identity => s!"{C.name}(infinity)"
  | finite x y => s!"{C.name}({Coordinate.describe x}, {Coordinate.describe y})"

end AffinePoint
end Groth16
