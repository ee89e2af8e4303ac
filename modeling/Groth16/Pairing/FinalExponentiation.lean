import Groth16.Tower.Target

/-!
# The final exponentiation

The values of the Miller loop become pairing values by a power whose exponent is a multiple
of `(q ^ 12 - 1) / r`. The easy part of the exponent is `(q ^ 6 - 1) * (q ^ 2 + 1)`; the hard
part is a chain of powers of the curve parameter and of power maps.
-/

namespace Groth16

/-- An element of the target group. -/
@[ext]
structure Gt where
  value : Fq12
  deriving DecidableEq, Inhabited

namespace Gt

instance : One Gt := ⟨⟨1⟩⟩

/-- The product. -/
protected def mul (x y : Gt) : Gt := ⟨x.value * y.value⟩

instance : Mul Gt := ⟨Gt.mul⟩

/-- Whether the element is one. -/
def isOne (x : Gt) : Bool := x.value.isOne

end Gt

namespace Pairing

/-- The curve parameter `x`. -/
def curveParameter : UInt64 := 4965661367192848881

/-- The power of exponent `-x`, for elements whose inverse is the conjugate. -/
def powNegParameter (f : Fq12) : Fq12 := (f.pow curveParameter).conjugate

/-- The easy part, given the inverse of the element. -/
def easyPart (f inverse : Fq12) : Fq12 :=
  let unitary := f.conjugate * inverse
  unitary.frobenius 2 * unitary

/-- The hard part, for elements whose inverse is the conjugate. -/
def hardPart (f : Fq12) : Fq12 :=
  let y0 := powNegParameter f
  let y1 := y0.square
  let y2 := y1.square
  let y3 := y2 * y1
  let y4 := powNegParameter y3
  let y5 := y4.square
  let y6 := powNegParameter y5
  let y7 := y6.conjugate * y4
  let y8 := y7 * y3.conjugate
  let y9 := y8 * y1
  let y10 := y8 * y4
  let y11 := y10 * f
  let y13 := y9.frobenius 1 * y11
  let y14 := y8.frobenius 2 * y13
  let y15 := (f.conjugate * y9).frobenius 3
  y15 * y14

/-- The pairing value of a product of line values; zero stays zero. -/
def finalExponentiation (f : Fq12) : Gt :=
  f.inverse?.elim ⟨0⟩ fun inverse => ⟨hardPart (easyPart f inverse)⟩

end Pairing
end Groth16
