import Groth16.Bytes
import Groth16.Montgomery
import Groth16.Refusal

/-!
# Prime field elements

An element of a prime field is kept as its Montgomery residue, `2 ^ 256` times the
element, as a number below the modulus. The bound is part of the type, so equal
elements have equal residues and equality is decided on the words.
-/

namespace Groth16

/-- A modulus of four words with the constants that Montgomery multiplication needs. -/
structure FieldParameters where
  /-- The name under which elements of the field are shown. -/
  name : String
  modulus : Limbs
  /-- The residue of one. -/
  radix : Limbs
  /-- The residue of `2 ^ 256`, which carries a number into the field. -/
  radixSquared : Limbs
  /-- The negated inverse of the modulus modulo `2 ^ 64`. -/
  negInv : UInt64
  one_lt_modulus : 1 < modulus.toNat := by decide
  negInv_mul_modulus : negInv * modulus.w0 = 0xffffffffffffffff := by decide
  toNat_radix : radix.toNat = 2 ^ 256 % modulus.toNat := by decide
  toNat_radixSquared : radixSquared.toNat = 2 ^ 256 * 2 ^ 256 % modulus.toNat := by decide

/-- An element of the field of the given modulus, as its Montgomery residue. -/
structure FieldElement (F : FieldParameters) where
  residue : Limbs
  residue_lt : residue.toNat < F.modulus.toNat

/-- Why a value was refused as a field element. -/
inductive FieldError where
  | notCanonical
  | invalidLength (expected actual : Nat)
  | scoreOutOfRange (score : Nat)
  deriving DecidableEq, Repr

/-- The wording of a field error. -/
def FieldError.message : FieldError → String
  | notCanonical => "Value is not a canonical field element"
  | invalidLength expected actual => s!"Invalid length: expected {expected}, got {actual}"
  | scoreOutOfRange score => s!"Score {score} exceeds the maximum of 100"

/-- The short name of a field error. -/
def FieldError.kind : FieldError → String
  | notCanonical => "NotCanonical"
  | invalidLength .. => "InvalidLength"
  | scoreOutOfRange _ => "ScoreOutOfRange"

instance : Refusal FieldError where
  kind := FieldError.kind
  message := FieldError.message

namespace FieldParameters

theorem modulus_pos (F : FieldParameters) : 0 < F.modulus.toNat := by
  have := F.one_lt_modulus
  omega

theorem radix_lt_modulus (F : FieldParameters) : F.radix.toNat < F.modulus.toNat := by
  rw [F.toNat_radix]
  exact Nat.mod_lt _ F.modulus_pos

theorem radixSquared_lt_modulus (F : FieldParameters) :
    F.radixSquared.toNat < F.modulus.toNat := by
  rw [F.toNat_radixSquared]
  exact Nat.mod_lt _ F.modulus_pos

end FieldParameters

namespace FieldElement

variable {F : FieldParameters}

theorem ext_residue {x y : FieldElement F} (equal : x.residue = y.residue) : x = y := by
  cases x
  cases y
  simp_all

/-- Elements are compared by their words, without a branch. -/
instance : DecidableEq (FieldElement F) := fun x y =>
  decidable_of_iff (x.residue.areEqual y.residue = true) (by
    rw [Limbs.areEqual_iff]
    exact ⟨ext_residue, congrArg residue⟩)

/-- The zero of the field. -/
def zero : FieldElement F := ⟨⟨0, 0, 0, 0⟩, F.modulus_pos⟩

/-- The one of the field. -/
def one : FieldElement F := ⟨F.radix, F.radix_lt_modulus⟩

instance : Zero (FieldElement F) := ⟨zero⟩
instance : One (FieldElement F) := ⟨one⟩
instance : Inhabited (FieldElement F) := ⟨zero⟩

/-- The sum. -/
protected def add (x y : FieldElement F) : FieldElement F where
  residue := Montgomery.add x.residue y.residue F.modulus
  residue_lt := by
    rw [Montgomery.toNat_add _ _ _ x.residue_lt y.residue_lt]
    exact Nat.mod_lt _ F.modulus_pos

/-- The difference. -/
protected def sub (x y : FieldElement F) : FieldElement F where
  residue := Montgomery.sub x.residue y.residue F.modulus
  residue_lt := by
    rw [Montgomery.toNat_sub _ _ _ x.residue_lt y.residue_lt]
    exact Nat.mod_lt _ F.modulus_pos

/-- The product. -/
protected def mul (x y : FieldElement F) : FieldElement F where
  residue := Montgomery.mul F.modulus F.negInv x.residue y.residue
  residue_lt := Montgomery.mul_lt _ _ _ _ F.negInv_mul_modulus y.residue_lt

instance : Add (FieldElement F) := ⟨FieldElement.add⟩
instance : Sub (FieldElement F) := ⟨FieldElement.sub⟩
instance : Mul (FieldElement F) := ⟨FieldElement.mul⟩

/-- The negative, as the difference from zero. -/
protected def neg (x : FieldElement F) : FieldElement F := 0 - x

instance : Neg (FieldElement F) := ⟨FieldElement.neg⟩

/-- Twice the element. -/
def double (x : FieldElement F) : FieldElement F := x + x

/-- The element times itself. -/
def square (x : FieldElement F) : FieldElement F := x * x

/-- The second element if the choice is true and the first otherwise, without a branch. -/
def select (x y : FieldElement F) (choice : Bool) : FieldElement F where
  residue := x.residue.select (Word.mask choice) y.residue
  residue_lt := by
    rw [Limbs.select_mask]
    split
    · exact y.residue_lt
    · exact x.residue_lt

theorem select_eq (x y : FieldElement F) (choice : Bool) :
    x.select y choice = if choice then y else x := by
  apply ext_residue
  cases choice with
  | false => exact Limbs.select_mask false _ _
  | true => exact Limbs.select_mask true _ _

/-- Whether the element is zero, read off the words. -/
def isZero (x : FieldElement F) : Bool := x.residue.isZero

/-- The element of a number, reduced modulo the modulus. -/
def ofLimbs (n : Limbs) : FieldElement F where
  residue := Montgomery.mul F.modulus F.negInv n F.radixSquared
  residue_lt := Montgomery.mul_lt _ _ _ _ F.negInv_mul_modulus F.radixSquared_lt_modulus

/-- The element of a number below `2 ^ 256`, reduced modulo the modulus. -/
def ofNat (n : Nat) : FieldElement F := ofLimbs (.ofNat n)

/-- The element of one word. -/
def ofWord (n : UInt64) : FieldElement F := ofLimbs (.ofWord n)

/-- The number below the modulus that the element stands for. -/
def canonical (x : FieldElement F) : Limbs :=
  Montgomery.mul F.modulus F.negInv x.residue (.ofWord 1)

/-- The power with a 256-bit exponent, by squaring from the most significant bit. Each
bit costs one product, which is kept or not. -/
def pow (x : FieldElement F) (exponent : Limbs) : FieldElement F :=
  exponent.bits.foldl (fun acc bit => acc.square.select (acc.square * x) bit) 1

/-- The exponent of Fermat's inversion: the modulus less two. -/
def inverseExponent (F : FieldParameters) : Limbs := (F.modulus.subWithBorrow (.ofWord 2)).1

/-- The inverse of a nonzero element. -/
def inverse? (x : FieldElement F) : Option (FieldElement F) :=
  if x.isZero then none else some (x.pow (inverseExponent F))

/-- The element of a 256-bit number that must be below the modulus. -/
def ofCanonical? (n : Limbs) : Except FieldError (FieldElement F) :=
  if n.isBelow F.modulus then .ok (ofLimbs n) else .error .notCanonical

/-- The element that 32 bytes encode; the number must be below the modulus. -/
def ofBytes? (bytes : List UInt8) : Except FieldError (FieldElement F) :=
  if bytes.length = 32 then ofCanonical? (.ofBytes bytes)
  else .error (.invalidLength 32 bytes.length)

/-- The element of a 256-bit number in bytes, reduced modulo the modulus. -/
def ofBytesReduced (bytes : List UInt8) : FieldElement F := ofLimbs (.ofBytes bytes)

/-- The 32 bytes of the number that the element stands for. -/
def toBytes (x : FieldElement F) : List UInt8 := x.canonical.toBytes

/-- The element in hexadecimal: sixty-four digits after `0x`. -/
def toHex (x : FieldElement F) : String := "0x" ++ Bytes.toHex x.toBytes

/-- The element in hexadecimal under the name of its field. -/
def describe (x : FieldElement F) : String := s!"{F.name}({x.toHex})"

end FieldElement
end Groth16
