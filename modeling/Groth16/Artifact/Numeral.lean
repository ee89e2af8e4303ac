import Groth16.Artifact.Error
import Groth16.Field.Moduli

/-!
# Numbers in artifacts

Numbers of 256 bits are written in decimal, or in hexadecimal after `0x`. White space around
them does not count. Whether such a number is below a modulus is asked where it is used.
-/

namespace Groth16

/-- The bytes of a number of 256 bits. -/
abbrev Scalar := Bytes.Fixed 32

namespace Scalar

/-- The last 256 bits of a number. -/
def ofNat (n : Nat) : Scalar := ⟨Bytes.ofNat 32 n, Bytes.length_ofNat 32 n⟩

/-- The bytes of a number of four words. -/
def ofLimbs (n : Limbs) : Scalar := ⟨n.toBytes, n.length_toBytes⟩

end Scalar

namespace Numeral

/-- The value of a decimal digit. -/
def decimalDigit? (c : Char) : Option Nat :=
  if '0' ≤ c ∧ c ≤ '9' then some (c.toNat - 48) else none

/-- The number with one more decimal digit, of which no carry may be left. -/
def appendDigit (n : Limbs) (c : Char) : Except NumeralError Limbs :=
  match decimalDigit? c with
  | none => .error .notDecimal
  | some digit =>
    let (appended, carry) := n.mulAddWord 10 (.ofNat digit)
    if carry = 0 then .ok appended else .error .tooLarge

/-- The number of a decimal numeral. -/
def ofDecimal? (digits : List Char) : Except NumeralError Limbs :=
  if digits = [] then .error .empty else digits.foldlM appendDigit (.ofWord 0)

/-- The digits with zeros in front of them, so that there are at least 64 characters. -/
def padded (digits : List Char) : List Char := List.replicate (64 - digits.length) '0' ++ digits

/-- The number of at most 64 hexadecimal digits, none of which stand for zero. What is bounded
are the bytes of the text. -/
def ofHex? (value : String) (digits : List Char) : Except ArtifactError Scalar :=
  if 64 < (Hex.encodedBytes (padded digits)).length then .error (.fieldElement value .tooLarge)
  else
    match Hex.decode (padded digits) with
    | .ok bytes => .ok (Scalar.ofNat (Bytes.toNat bytes))
    | .error error => .error (.hex error)

/-- The digits after a leading `0x` or `0X`. -/
def hexDigits? : List Char → Option (List Char)
  | '0' :: 'x' :: digits => some digits
  | '0' :: 'X' :: digits => some digits
  | _ => none

/-- The number of 256 bits that a text denotes. -/
def parse (value : String) : Except ArtifactError Scalar :=
  let text := Text.trim value.toList
  match hexDigits? text with
  | some digits => ofHex? value digits
  | none => ((ofDecimal? text).mapError (.fieldElement value)).map Scalar.ofLimbs

/-- Refuses a number that is not below the modulus of the scalar field. -/
def checkScalar (value : String) (scalar : Scalar) : Except ArtifactError Unit :=
  match (FieldElement.ofBytes? scalar.val : Except FieldError Fr) with
  | .ok _ => .ok ()
  | .error _ => .error (.fieldElement value .notScalar)

/-- Whether a text has digits beyond the decimal ones, so that it is read as bytes. -/
def isBytes (text : List Char) : Bool :=
  (hexDigits? text).isSome || text.any Char.isAlpha

/-- The text in which the first `0X` became `0x`. -/
def lowerFirstMark : List Char → List Char
  | '0' :: 'X' :: rest => '0' :: 'x' :: rest
  | c :: rest => c :: lowerFirstMark rest
  | [] => []

/-- The value of 32 bytes that a text denotes: a decimal number, or at most 32 bytes in
hexadecimal if it begins with `0x` or holds a letter. Missing bytes are zero and come
first. -/
def parseBytes (value : String) : Except ArtifactError Scalar := do
  let text := Text.trim value.toList
  if isBytes text then
    let bytes ← (Hex.decodeText (lowerFirstMark text)).mapError .hex
    if 32 < bytes.length then throw (.size "32-byte value" 32 bytes.length)
    return Scalar.ofNat (Bytes.toNat bytes)
  parse (String.ofList text)

end Numeral
end Groth16
