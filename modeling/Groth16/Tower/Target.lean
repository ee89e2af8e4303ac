import Groth16.Tower.Sextic

/-!
# The target field of the pairing

`Fq12` is `Fq6` with a square root `w` of `v`, so it is `Fq2` with a sixth root of the
nonresidue. Pairing values are elements of its multiplicative group.
-/

namespace Groth16

/-- The element `c0 + c1 * w`, where `w * w = v`. -/
@[ext]
structure Fq12 where
  c0 : Fq6
  c1 : Fq6
  deriving DecidableEq, Inhabited

namespace Fq12

instance : Zero Fq12 := ⟨⟨0, 0⟩⟩
instance : One Fq12 := ⟨⟨1, 0⟩⟩

/-- The negative, coordinate by coordinate. -/
protected def neg (x : Fq12) : Fq12 := ⟨-x.c0, -x.c1⟩

/-- The product, with three products of coordinates. -/
protected def mul (x y : Fq12) : Fq12 :=
  let low := x.c0 * y.c0
  let high := x.c1 * y.c1
  ⟨high.mulByNonresidue + low, (x.c0 + x.c1) * (y.c0 + y.c1) - low - high⟩

instance : Neg Fq12 := ⟨Fq12.neg⟩
instance : Mul Fq12 := ⟨Fq12.mul⟩

/-- Whether both coordinates are zero. -/
def isZero (x : Fq12) : Bool := x.c0.isZero && x.c1.isZero

/-- Whether the element is one. -/
def isOne (x : Fq12) : Bool := x == 1

/-- The square, with two products of coordinates. -/
def square (x : Fq12) : Fq12 :=
  let cross := x.c0 * x.c1
  ⟨(x.c0 + x.c1) * (x.c0 + x.c1.mulByNonresidue) - cross - cross.mulByNonresidue, cross.double⟩

/-- The conjugate `c0 - c1 * w`. -/
def conjugate (x : Fq12) : Fq12 := ⟨x.c0, -x.c1⟩

/-- The inverse of a nonzero element: the conjugate divided by the norm. -/
def inverse? (x : Fq12) : Option Fq12 :=
  (x.c0.square - x.c1.square.mulByNonresidue).inverse?.map fun normInverse =>
    ⟨x.c0 * normInverse, -(x.c1 * normInverse)⟩

/-- The product with `c0 + c3 * w + c4 * v * w`, the shape of the value of a line. -/
def mulByLine (x : Fq12) (c0 c3 c4 : Fq2) : Fq12 :=
  let a := x.c0.mulByQuadratic c0
  let b := x.c1.mulBy01 c3 c4
  let e := (x.c0 + x.c1).mulBy01 (c0 + c3) c4
  ⟨b.mulByNonresidue + a, e - (a + b)⟩

/-- The power with a one-word exponent, by squaring from its highest set bit. -/
def pow (x : Fq12) (exponent : UInt64) : Fq12 :=
  ((Word.bits exponent).dropWhile (!·)).foldl
    (fun acc bit => if bit then acc.square * x else acc.square) 1

/-- The factors of `w` under the power maps: `(9 + u) ^ ((q ^ i - 1) / 6)` at index `i`. -/
def frobeniusFactors : Vector Fq2 12 := #v[
  .ofLimbs ⟨1, 0, 0, 0⟩ ⟨0, 0, 0, 0⟩,
  .ofLimbs
    ⟨0xd60b35dadcc9e470, 0x5c521e08292f2176, 0xe8b99fdd76e68b60, 0x1284b71c2865a7df⟩
    ⟨0xca5cf05f80f362ac, 0x747992778eeec7e5, 0xa6327cfe12150b8e, 0x246996f3b4fae7e6⟩,
  .ofLimbs
    ⟨0xe4bd44e5607cfd49, 0xc28f069fbb966e3d, 0x5e6dd9e7e0acccb0, 0x30644e72e131a029⟩
    ⟨0, 0, 0, 0⟩,
  .ofLimbs
    ⟨0xe86f7d391ed4a67f, 0x894cb38dbe55d24a, 0xefe9608cd0acaa90, 0x19dc81cfcc82e4bb⟩
    ⟨0x7694aa2bf4c0c101, 0x7f03a5e397d439ec, 0x06cbeee33576139d, 0x00abf8b60be77d73⟩,
  .ofLimbs
    ⟨0xe4bd44e5607cfd48, 0xc28f069fbb966e3d, 0x5e6dd9e7e0acccb0, 0x30644e72e131a029⟩
    ⟨0, 0, 0, 0⟩,
  .ofLimbs
    ⟨0x1264475e420ac20f, 0x2cfa95859526b0d4, 0x072fc0af59c61f30, 0x0757cab3a41d3cdc⟩
    ⟨0xe85845e34c4a5b9c, 0xa20b7dfd71573c93, 0x18e9b79ba4e2606c, 0x0ca6b035381e35b6⟩,
  .ofLimbs
    ⟨0x3c208c16d87cfd46, 0x97816a916871ca8d, 0xb85045b68181585d, 0x30644e72e131a029⟩
    ⟨0, 0, 0, 0⟩,
  .ofLimbs
    ⟨0x6615563bfbb318d7, 0x3b2f4c893f42a916, 0xcf96a5d90a9accfd, 0x1ddf9756b8cbf849⟩
    ⟨0x71c39bb757899a9b, 0x2307d819d98302a7, 0x121dc8b86f6c4ccf, 0x0bfab77f2c36b843⟩,
  .ofLimbs
    ⟨0x5763473177fffffe, 0xd4f263f1acdb5c4f, 0x59e26bcea0d48bac, 0x0000000000000000⟩
    ⟨0, 0, 0, 0⟩,
  .ofLimbs
    ⟨0x53b10eddb9a856c8, 0x0e34b703aa1bf842, 0xc866e529b0d4adcd, 0x1687cca314aebb6d⟩
    ⟨0xc58be1eae3bc3c46, 0x187dc4add09d90a0, 0xb18456d34c0b44c0, 0x2fb855bcd54a22b6⟩,
  .ofLimbs
    ⟨0x5763473177ffffff, 0xd4f263f1acdb5c4f, 0x59e26bcea0d48bac, 0x0000000000000000⟩
    ⟨0, 0, 0, 0⟩,
  .ofLimbs
    ⟨0x29bc44b896723b38, 0x6a86d50bd34b19b9, 0xb120850727bb392d, 0x290c83bf3d14634d⟩
    ⟨0x53c846338c32a1ab, 0xf575ec93f71a8df9, 0x9f668e1adc9ef7f0, 0x23bd9e3da9136a73⟩]

/-- The power map of exponent `q ^ power`. -/
def frobenius (x : Fq12) (power : Nat) : Fq12 :=
  ⟨x.c0.frobenius power,
    (x.c1.frobenius power).mulByQuadratic (frobeniusFactors.get (Fin.ofNat 12 power))⟩

end Fq12
end Groth16
