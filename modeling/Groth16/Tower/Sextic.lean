import Groth16.Tower.Quadratic

/-!
# The sextic extension

`Fq6` is `Fq2` with a cube root `v` of the nonresidue `9 + u`. Beside the full product
there are products with elements whose top coordinates vanish.
-/

namespace Groth16

/-- The element `c0 + c1 * v + c2 * v * v`, where `v * v * v = 9 + u`. -/
@[ext]
structure Fq6 where
  c0 : Fq2
  c1 : Fq2
  c2 : Fq2
  deriving DecidableEq, Inhabited

namespace Fq6

instance : Zero Fq6 := ⟨⟨0, 0, 0⟩⟩
instance : One Fq6 := ⟨⟨1, 0, 0⟩⟩

/-- The sum, coordinate by coordinate. -/
protected def add (x y : Fq6) : Fq6 := ⟨x.c0 + y.c0, x.c1 + y.c1, x.c2 + y.c2⟩

/-- The difference, coordinate by coordinate. -/
protected def sub (x y : Fq6) : Fq6 := ⟨x.c0 - y.c0, x.c1 - y.c1, x.c2 - y.c2⟩

/-- The negative, coordinate by coordinate. -/
protected def neg (x : Fq6) : Fq6 := ⟨-x.c0, -x.c1, -x.c2⟩

/-- The product, with six products of coordinates. -/
protected def mul (x y : Fq6) : Fq6 :=
  let v0 := x.c0 * y.c0
  let v1 := x.c1 * y.c1
  let v2 := x.c2 * y.c2
  ⟨((x.c1 + x.c2) * (y.c1 + y.c2) - v1 - v2).mulByNonresidue + v0,
    (x.c0 + x.c1) * (y.c0 + y.c1) - v0 - v1 + v2.mulByNonresidue,
    (x.c0 + x.c2) * (y.c0 + y.c2) - v0 - v2 + v1⟩

instance : Add Fq6 := ⟨Fq6.add⟩
instance : Sub Fq6 := ⟨Fq6.sub⟩
instance : Neg Fq6 := ⟨Fq6.neg⟩
instance : Mul Fq6 := ⟨Fq6.mul⟩

/-- Whether all coordinates are zero. -/
def isZero (x : Fq6) : Bool := x.c0.isZero && x.c1.isZero && x.c2.isZero

/-- Twice the element. -/
def double (x : Fq6) : Fq6 := ⟨x.c0.double, x.c1.double, x.c2.double⟩

/-- The square. -/
def square (x : Fq6) : Fq6 := x * x

/-- The product with `v`, which moves every coordinate up by one. -/
def mulByNonresidue (x : Fq6) : Fq6 := ⟨x.c2.mulByNonresidue, x.c0, x.c1⟩

/-- The product with an element of the quadratic extension. -/
def mulByQuadratic (x : Fq6) (factor : Fq2) : Fq6 :=
  ⟨x.c0 * factor, x.c1 * factor, x.c2 * factor⟩

/-- The product with `b0 + b1 * v`. -/
def mulBy01 (x : Fq6) (b0 b1 : Fq2) : Fq6 :=
  let v0 := x.c0 * b0
  let v1 := x.c1 * b1
  ⟨((x.c1 + x.c2) * b1 - v1).mulByNonresidue + v0,
    (b0 + b1) * (x.c0 + x.c1) - v0 - v1,
    (x.c0 + x.c2) * b0 - v0 + v1⟩

/-- The product with `b1 * v`. -/
def mulBy1 (x : Fq6) (b1 : Fq2) : Fq6 :=
  let v1 := x.c1 * b1
  ⟨((x.c1 + x.c2) * b1 - v1).mulByNonresidue, (x.c0 + x.c1) * b1 - v1, v1⟩

/-- The inverse of a nonzero element: the adjoint divided by the norm. -/
def inverse? (x : Fq6) : Option Fq6 :=
  let a0 := x.c0.square - (x.c1 * x.c2).mulByNonresidue
  let a1 := x.c2.square.mulByNonresidue - x.c0 * x.c1
  let a2 := x.c1.square - x.c0 * x.c2
  let norm := (x.c2 * a1 + x.c1 * a2).mulByNonresidue + x.c0 * a0
  norm.inverse?.map fun normInverse => ⟨a0 * normInverse, a1 * normInverse, a2 * normInverse⟩

/-- The factors of `v` under the power maps: `(9 + u) ^ ((q ^ i - 1) / 3)` at index `i`. -/
def frobeniusFactors1 : Vector Fq2 6 := #v[
  .ofLimbs ⟨1, 0, 0, 0⟩ ⟨0, 0, 0, 0⟩,
  .ofLimbs
    ⟨0x99e39557176f553d, 0xb78cc310c2c3330c, 0x4c0bec3cf559b143, 0x2fb347984f7911f7⟩
    ⟨0x1665d51c640fcba2, 0x32ae2a1d0b7c9dce, 0x4ba4cc8bd75a0794, 0x16c9e55061ebae20⟩,
  .ofLimbs
    ⟨0xe4bd44e5607cfd48, 0xc28f069fbb966e3d, 0x5e6dd9e7e0acccb0, 0x30644e72e131a029⟩
    ⟨0, 0, 0, 0⟩,
  .ofLimbs
    ⟨0x7b746ee87bdcfb6d, 0x805ffd3d5d6942d3, 0xbaff1c77959f25ac, 0x0856e078b755ef0a⟩
    ⟨0x380cab2baaa586de, 0x0fdf31bf98ff2631, 0xa9f30e6dec26094f, 0x04f1de41b3d1766f⟩,
  .ofLimbs
    ⟨0x5763473177fffffe, 0xd4f263f1acdb5c4f, 0x59e26bcea0d48bac, 0x0000000000000000⟩
    ⟨0, 0, 0, 0⟩,
  .ofLimbs
    ⟨0x62e913ee1dada9e4, 0xf71614d4b0b71f3a, 0x699582b87809d9ca, 0x28be74d4bb943f51⟩
    ⟨0xedae0bcec9c7aac7, 0x54f40eb4c3f6068d, 0xc2b86abcbe01477a, 0x14a88ae0cb747b99⟩]

/-- The factors of `v * v` under the power maps: `(9 + u) ^ (2 * (q ^ i - 1) / 3)` at index `i`. -/
def frobeniusFactors2 : Vector Fq2 6 := #v[
  .ofLimbs ⟨1, 0, 0, 0⟩ ⟨0, 0, 0, 0⟩,
  .ofLimbs
    ⟨0x848a1f55921ea762, 0xd33365f7be94ec72, 0x80f3c0b75a181e84, 0x05b54f5e64eea801⟩
    ⟨0xc13b4711cd2b8126, 0x3685d2ea1bdec763, 0x9f3a80b03b0b1c92, 0x2c145edbe7fd8aee⟩,
  .ofLimbs
    ⟨0x5763473177fffffe, 0xd4f263f1acdb5c4f, 0x59e26bcea0d48bac, 0x0000000000000000⟩
    ⟨0, 0, 0, 0⟩,
  .ofLimbs
    ⟨0x0e1a92bc3ccbf066, 0xe633094575b06bcb, 0x19bee0f7b5b2444e, 0x0bc58c6611c08dab⟩
    ⟨0x5fe3ed9d730c239f, 0xa44a9e08737f96e5, 0xfeb0f6ef0cd21d04, 0x23d5e999e1910a12⟩,
  .ofLimbs
    ⟨0xe4bd44e5607cfd48, 0xc28f069fbb966e3d, 0x5e6dd9e7e0acccb0, 0x30644e72e131a029⟩
    ⟨0, 0, 0, 0⟩,
  .ofLimbs
    ⟨0xa97bda050992657f, 0xde1afb54342c724f, 0x1d9da40771b6f589, 0x1ee972ae6a826a7d⟩
    ⟨0x5721e37e70c255c9, 0x54326430418536d1, 0xd2b513cdbb257724, 0x10de546ff8d4ab51⟩]

/-- The power map of exponent `q ^ power`. -/
def frobenius (x : Fq6) (power : Nat) : Fq6 :=
  ⟨x.c0.frobenius power,
    x.c1.frobenius power * frobeniusFactors1.get (Fin.ofNat 6 power),
    x.c2.frobenius power * frobeniusFactors2.get (Fin.ofNat 6 power)⟩

end Fq6
end Groth16
