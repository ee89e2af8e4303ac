import Groth16.Curve.Encoding

/-!
# The two pairing groups

`G1` is the curve `y ^ 2 = x ^ 3 + 3` over the base field. `G2` is the order-`r` subgroup
of its sextic twist `y ^ 2 = x ^ 3 + 3 / (9 + u)` over the quadratic extension.
-/

namespace Groth16

/-- The curve over the base field. -/
def Curve.g1 : Curve Fq where
  name := "G1"
  b := .ofWord 3
  b3 := .ofWord 9
  generatorX := .ofWord 1
  generatorY := .ofWord 2

/-- The sextic twist over the quadratic extension. -/
def Curve.g2 : Curve Fq2 where
  name := "G2"
  b := .ofLimbs
    ⟨0x3267e6dc24a138e5, 0xb5b4c5e559dbefa3, 0x81be18991be06ac3, 0x2b149d40ceb8aaae⟩
    ⟨0xe4a2bd0685c315d2, 0xa74fa084e52d1852, 0xcd2cafadeed8fdf4, 0x009713b03af0fed4⟩
  b3 := .ofLimbs
    ⟨0x1ef69c66bce9b021, 0xf21b7c8d3cb039cf, 0x1499be5e509e8f8f, 0x20753adca9c6bfb8⟩
    ⟨0xade8371391494176, 0xf5eee18eaf8748f8, 0x67860f09cc8af9dd, 0x01c53b10b0d2fc7e⟩
  generatorX := .ofLimbs
    ⟨0x46debd5cd992f6ed, 0x674322d4f75edadd, 0x426a00665e5c4479, 0x1800deef121f1e76⟩
    ⟨0x97e485b7aef312c2, 0xf1aa493335a9e712, 0x7260bfb731fb5d25, 0x198e9393920d483a⟩
  generatorY := .ofLimbs
    ⟨0x4ce6cc0166fa7daa, 0xe3d1e7690c43d37b, 0x4aab71808dcb408f, 0x12c85ea5db8c6deb⟩
    ⟨0x55acdadcd122975b, 0xbc4b313370b38ef3, 0xec9e99ad690c3395, 0x090689d0585ff075⟩

namespace G1

/-- A point of `G1` in affine form. -/
abbrev Affine := AffinePoint Curve.g1

/-- A point of `G1` in projective form. -/
abbrev Projective := ProjectivePoint Curve.g1

/-- The curve has the order of the scalar field, so each of its points is a member. -/
instance : SubgroupTest Curve.g1 := ⟨fun _ => true⟩

end G1

namespace G2

/-- A point of the twist in affine form. -/
abbrev Affine := AffinePoint Curve.g2

/-- A point of the twist in projective form. -/
abbrev Projective := ProjectivePoint Curve.g2

/-- The factor `(9 + u) ^ ((q - 1) / 3)` of the first coordinate under `psi`. -/
def psiFactorX : Fq2 := .ofLimbs
  ⟨0x99e39557176f553d, 0xb78cc310c2c3330c, 0x4c0bec3cf559b143, 0x2fb347984f7911f7⟩
  ⟨0x1665d51c640fcba2, 0x32ae2a1d0b7c9dce, 0x4ba4cc8bd75a0794, 0x16c9e55061ebae20⟩

/-- The factor `(9 + u) ^ ((q - 1) / 2)` of the second coordinate under `psi`. -/
def psiFactorY : Fq2 := .ofLimbs
  ⟨0xdc54014671a0135a, 0xdbaae0eda9c95998, 0xdc5ec698b6e2f9b9, 0x063cf305489af5dc⟩
  ⟨0x82d37f632623b0e3, 0x21807dc98fa25bd2, 0x0704b5a7ec796f2b, 0x07c03cbcac41049a⟩

/-- The endomorphism of the twist that comes from the power map of the base field. -/
def psi (P : Projective) : Projective :=
  ⟨P.x.conjugate * psiFactorX, P.y.conjugate * psiFactorY, P.z.conjugate⟩

/-- The words of `6 * x ^ 2` for the curve parameter `x = 4965661367192848881`. -/
def psiEigenvalue : List UInt64 := [0xf83e9682e87cfd46, 0x6f4d8248eeb859fb]

/-- On the subgroup, `psi` is the multiplication by `6 * x ^ 2`, and nowhere else. -/
instance : SubgroupTest Curve.g2 := ⟨fun P => (psi P).represents (P.mulWords psiEigenvalue)⟩

end G2
end Groth16
