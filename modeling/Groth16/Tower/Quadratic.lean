import Groth16.Field.Moduli

/-!
# The quadratic extension

`Fq2` is `Fq` with a square root `u` of minus one. The element `9 + u`, of which the
next level takes a cube root, is its designated nonresidue.
-/

namespace Groth16

/-- The element `c0 + c1 * u`, where `u * u = -1`. -/
@[ext]
structure Fq2 where
  c0 : Fq
  c1 : Fq
  deriving DecidableEq, Inhabited

namespace Fq2

/-- The element with the two given numbers, each reduced, as coordinates. -/
def ofLimbs (c0 c1 : Limbs) : Fq2 := ⟨.ofLimbs c0, .ofLimbs c1⟩

instance : Zero Fq2 := ⟨⟨0, 0⟩⟩
instance : One Fq2 := ⟨⟨1, 0⟩⟩

/-- The sum, coordinate by coordinate. -/
protected def add (x y : Fq2) : Fq2 := ⟨x.c0 + y.c0, x.c1 + y.c1⟩

/-- The difference, coordinate by coordinate. -/
protected def sub (x y : Fq2) : Fq2 := ⟨x.c0 - y.c0, x.c1 - y.c1⟩

/-- The negative, coordinate by coordinate. -/
protected def neg (x : Fq2) : Fq2 := ⟨-x.c0, -x.c1⟩

/-- The product, with three products of coordinates. -/
protected def mul (x y : Fq2) : Fq2 :=
  let low := x.c0 * y.c0
  let high := x.c1 * y.c1
  let cross := (x.c0 + x.c1) * (y.c0 + y.c1)
  ⟨low - high, cross - low - high⟩

instance : Add Fq2 := ⟨Fq2.add⟩
instance : Sub Fq2 := ⟨Fq2.sub⟩
instance : Neg Fq2 := ⟨Fq2.neg⟩
instance : Mul Fq2 := ⟨Fq2.mul⟩

/-- Whether both coordinates are zero. -/
def isZero (x : Fq2) : Bool := x.c0.isZero && x.c1.isZero

/-- Twice the element. -/
def double (x : Fq2) : Fq2 := ⟨x.c0.double, x.c1.double⟩

/-- The square, with two products of coordinates. -/
def square (x : Fq2) : Fq2 :=
  ⟨(x.c0 + x.c1) * (x.c0 - x.c1), (x.c0 * x.c1).double⟩

/-- The conjugate `c0 - c1 * u`. -/
def conjugate (x : Fq2) : Fq2 := ⟨x.c0, -x.c1⟩

/-- The designated nonresidue `9 + u`. -/
def nonresidue : Fq2 := ⟨.ofWord 9, 1⟩

/-- Nine times a base field element. -/
def nineTimes (x : Fq) : Fq := x.double.double.double + x

/-- The product with the nonresidue, by additions alone. -/
def mulByNonresidue (x : Fq2) : Fq2 :=
  ⟨nineTimes x.c0 - x.c1, x.c0 + nineTimes x.c1⟩

/-- The product with an element of the base field. -/
def mulByBase (x : Fq2) (factor : Fq) : Fq2 := ⟨x.c0 * factor, x.c1 * factor⟩

/-- The inverse of a nonzero element: the conjugate divided by the norm. -/
def inverse? (x : Fq2) : Option Fq2 :=
  (x.c0.square + x.c1.square).inverse?.map fun normInverse =>
    ⟨x.c0 * normInverse, -(x.c1 * normInverse)⟩

/-- The power map of exponent `q ^ power`: conjugation for odd powers. -/
def frobenius (x : Fq2) (power : Nat) : Fq2 :=
  if power % 2 = 1 then x.conjugate else x

/-- The 64 bytes of the element, the coordinate of `u` first. -/
def toBytes (x : Fq2) : List UInt8 := x.c1.toBytes ++ x.c0.toBytes

/-- The element as the record of its two coordinates. -/
def describe (x : Fq2) : String :=
  "Fq2 \x7b c0: " ++ x.c0.describe ++ ", c1: " ++ x.c1.describe ++ " \x7d"

end Fq2
end Groth16
