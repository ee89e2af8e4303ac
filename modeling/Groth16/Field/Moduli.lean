import Groth16.Field.Element

/-!
# The two prime fields

The base field `Fq`, over which the curves are defined, and the scalar field `Fr`,
whose modulus is the order of the pairing groups.
-/

namespace Groth16

/-- The base field, of modulus
21888242871839275222246405745257275088696311157297823662689037894645226208583. -/
def FieldParameters.base : FieldParameters where
  name := "Fq"
  modulus := ⟨0x3c208c16d87cfd47, 0x97816a916871ca8d, 0xb85045b68181585d, 0x30644e72e131a029⟩
  radix := ⟨0xd35d438dc58f0d9d, 0x0a78eb28f5c70b3d, 0x666ea36f7879462c, 0x0e0a77c19a07df2f⟩
  radixSquared := ⟨0xf32cfc5b538afa89, 0xb5e71911d44501fb, 0x47ab1eff0a417ff6, 0x06d89f71cab8351f⟩
  negInv := 0x87d20782e4866389

/-- The scalar field, of modulus
21888242871839275222246405745257275088548364400416034343698204186575808495617. -/
def FieldParameters.scalar : FieldParameters where
  name := "Fr"
  modulus := ⟨0x43e1f593f0000001, 0x2833e84879b97091, 0xb85045b68181585d, 0x30644e72e131a029⟩
  radix := ⟨0xac96341c4ffffffb, 0x36fc76959f60cd29, 0x666ea36f7879462e, 0x0e0a77c19a07df2f⟩
  radixSquared := ⟨0x1bb8e645ae216da7, 0x53fe3ab1e35c59e3, 0x8c49833d53bb8085, 0x0216d0b17f4e44a5⟩
  negInv := 0xc2e1f593efffffff

/-- The base field. -/
abbrev Fq := FieldElement .base

/-- The scalar field. -/
abbrev Fr := FieldElement .scalar

end Groth16
