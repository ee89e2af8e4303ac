import Groth16.Bytes
import Groth16.Refusal
import Groth16.Text.Blank
import Groth16.Text.Quoted

/-!
# Hexadecimal text

Byte strings from hexadecimal digits of either case. The digits are looked at as bytes of
the encoded text: an odd number of them is refused first, then the first byte that is no
digit, which is named as the character of its number.
-/

namespace Groth16

/-- Why a text is not hexadecimal. -/
inductive HexError where
  | oddLength
  | invalidByte (byte : UInt8) (position : Nat)
  deriving DecidableEq, Repr

/-- The wording of a hexadecimal error. -/
def HexError.message : HexError → String
  | oddLength => "Odd number of digits"
  | invalidByte byte position =>
    s!"Invalid character {Text.quotedChar (Char.ofNat byte.toNat)} at position {position}"

namespace Hex

/-- The value of a hexadecimal digit. -/
def digit? (byte : UInt8) : Option UInt8 :=
  if 48 ≤ byte && byte ≤ 57 then some (byte - 48)
  else if 65 ≤ byte && byte ≤ 70 then some (byte - 55)
  else if 97 ≤ byte && byte ≤ 102 then some (byte - 87)
  else none

/-- The value of the digit at the given position. -/
def digitAt (byte : UInt8) (position : Nat) : Except HexError UInt8 :=
  match digit? byte with
  | some value => .ok value
  | none => .error (.invalidByte byte position)

/-- The bytes of an even number of digits, of which the first has the given position. -/
def decodePairs : (position : Nat) → List UInt8 → Except HexError (List UInt8)
  | position, high :: low :: rest => do
    let high ← digitAt high position
    let low ← digitAt low (position + 1)
    let bytes ← decodePairs (position + 2) rest
    return (high * 16 + low) :: bytes
  | _, _ => .ok []

/-- The bytes of the encoded text. -/
def encodedBytes (text : List Char) : List UInt8 := text.flatMap String.utf8EncodeChar

/-- The byte string that the digits spell. -/
def decode (digits : List Char) : Except HexError (List UInt8) :=
  let bytes := encodedBytes digits
  if bytes.length % 2 = 1 then .error .oddLength else decodePairs 0 bytes

/-- The digits of a text: all but the white space and a leading `0x`. -/
def digitsOf (text : List Char) : List Char :=
  match Text.withoutBlanks text with
  | '0' :: 'x' :: digits => digits
  | digits => digits

/-- The byte string that a text spells, which may hold white space and a leading `0x`. -/
def decodeText (text : List Char) : Except HexError (List UInt8) := decode (digitsOf text)

end Hex
end Groth16
