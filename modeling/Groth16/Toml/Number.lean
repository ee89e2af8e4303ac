import Groth16.Host.Path
import Groth16.Power
import Groth16.Toml.Value

/-!
# TOML words

The values that are written as one word: numbers, truth values and moments in time. Digits
may be grouped by underscores, each between two digits.
-/

namespace Groth16
namespace Toml

/-- The digits of a text in which single underscores may separate them. -/
def ungroup? (isDigit : Char → Bool) (text : List Char) : Option (List Char) :=
  let groups := Path.splitAt '_' text
  if groups.all fun group => !group.isEmpty && group.all isDigit then some groups.flatten else none

/-- The value of a digit of any base up to sixteen. -/
def digitValue (c : Char) : Nat :=
  if c.isDigit then c.toNat - 48 else if c.isLower then c.toNat - 87 else c.toNat - 55

/-- The number that digits denote. -/
def numberOf (base : Nat) (digits : List Char) : Nat :=
  digits.foldl (fun n c => base * n + digitValue c) 0

/-- The sign of a number and the rest. -/
def splitSign : List Char → Bool × List Char
  | '-' :: rest => (true, rest)
  | '+' :: rest => (false, rest)
  | rest => (false, rest)

/-- The digits of a decimal number: no zero comes first unless it stands alone. -/
def decimal? (text : List Char) : Option (List Char) := do
  let digits ← ungroup? Char.isDigit text
  if digits.head? = some '0' ∧ digits.length ≠ 1 then none else some digits

/-- An integer of 64 bits. -/
def word? (value : Int) : Option Toml :=
  if -(2 ^ 63) ≤ value ∧ value < 2 ^ 63 then some (.integer value) else none

/-- Whether a character is a digit of the given base. -/
def isDigitOf (base : Nat) (c : Char) : Bool :=
  (c.isDigit || ('a' ≤ c && c ≤ 'f') || ('A' ≤ c && c ≤ 'F')) && digitValue c < base

/-- The integer of the given base. -/
def based? (base : Nat) (text : List Char) : Option Toml := do
  let digits ← ungroup? (isDigitOf base) text
  word? (numberOf base digits)

/-- The integer that a word denotes. -/
def integer? : List Char → Option Toml
  | '0' :: 'x' :: rest => based? 16 rest
  | '0' :: 'o' :: rest => based? 8 rest
  | '0' :: 'b' :: rest => based? 2 rest
  | text => do
    let (negative, text) := splitSign text
    let n := numberOf 10 (← decimal? text)
    word? (if negative then -n else n)

/-- The least number that a double cannot come near. -/
def tooLarge : Nat := 2 ^ 1024 - 2 ^ 970

/-- Whether digits times a power of ten are too large for a double. -/
def overflows (digits : List Char) (exponent : Int) : Bool :=
  let digits := digits.dropWhile (· == '0')
  let size := digits.length + exponent
  !digits.isEmpty && 308 < size &&
    (310 < size || tooLarge * 10 ^ (-exponent).toNat ≤ numberOf 10 digits * 10 ^ exponent.toNat)

/-- The exponent after `e`. -/
def exponent? (text : List Char) : Option Int := do
  let (negative, text) := splitSign text
  let n := numberOf 10 (← ungroup? Char.isDigit text)
  return if negative then -n else n

/-- Whether a word is a number with a point or an exponent. Too large ones are refused, but
only above zero. -/
def isFloat (text : List Char) : Bool :=
  let (negative, text) := splitSign text
  if text = "inf".toList ∨ text = "nan".toList then true
  else
    let isMark (c : Char) : Bool := c == 'e' || c == 'E'
    let mantissa := text.takeWhile fun c => !isMark c
    let exponent := match text.dropWhile fun c => !isMark c with
      | [] => some 0
      | _ :: rest => exponent? rest
    let whole := mantissa.takeWhile (· != '.')
    let fraction := match mantissa.dropWhile (· != '.') with
      | [] => some []
      | _ :: rest => ungroup? Char.isDigit rest
    match decimal? whole, fraction, exponent with
    | some whole, some fraction, some exponent =>
      (negative || !overflows (whole ++ fraction) (exponent - fraction.length)) &&
        text.any fun c => isMark c || c == '.'
    | _, _, _ => false

/-- The number of two digits, if it lies between the bounds. -/
def twoDigits? (low high : Nat) (text : List Char) : Option Nat :=
  let n := numberOf 10 text
  if text.length = 2 ∧ text.all Char.isDigit ∧ low ≤ n ∧ n ≤ high then some n else none

/-- The number of days of a month. -/
def daysOf (year month : Nat) : Nat :=
  let isLeap := year % 4 = 0 ∧ (year % 100 ≠ 0 ∨ year % 400 = 0)
  if month = 2 then (if isLeap then 29 else 28)
  else if month = 4 ∨ month = 6 ∨ month = 9 ∨ month = 11 then 30
  else 31

/-- Whether a text is a date. -/
def isDate (text : List Char) : Bool :=
  match Path.splitAt '-' text with
  | [year, month, day] =>
    year.length == 4 && year.all Char.isDigit &&
      match twoDigits? 1 12 month with
      | some month => (twoDigits? 1 (daysOf (numberOf 10 year) month) day).isSome
      | none => false
  | _ => false

/-- Whether a text is a time of the day. -/
def isTime (text : List Char) : Bool :=
  match Path.splitAt ':' text with
  | [hour, minute, second] =>
    (twoDigits? 0 23 hour).isSome && (twoDigits? 0 59 minute).isSome &&
      (twoDigits? 0 60 (second.take 2)).isSome &&
      match second.drop 2 with
      | [] => true
      | '.' :: digits => !digits.isEmpty && digits.all Char.isDigit
      | _ => false
  | _ => false

/-- Whether a text is the distance of a clock from universal time. -/
def isOffset : List Char → Bool
  | ['Z'] | ['z'] => true
  | c :: rest =>
    (c == '+' || c == '-') &&
      match Path.splitAt ':' rest with
      | [hour, minute] => (twoDigits? 0 23 hour).isSome && (twoDigits? 0 59 minute).isSome
      | _ => false
  | [] => false

/-- Whether a text is a time of the day, perhaps with the distance from universal time. -/
def isZonedTime (text : List Char) : Bool :=
  let isClock (c : Char) : Bool := c.isDigit || c == ':' || c == '.'
  let offset := text.dropWhile isClock
  isTime (text.takeWhile isClock) && (offset.isEmpty || isOffset offset)

/-- Whether a word is a moment in time. -/
def isMoment (text : List Char) : Bool :=
  isDate text || isTime text ||
    (isDate (text.take 10) &&
      match text.drop 10 with
      | c :: rest => (c == 'T' || c == 't') && isZonedTime rest
      | [] => false)

/-- The value of a word. -/
def ofWord? (word : List Char) : Option Toml :=
  if word = "true".toList then some (.boolean true)
  else if word = "false".toList then some (.boolean false)
  else if isMoment word then some .moment
  else if isFloat word then some .float
  else integer? word

end Toml
end Groth16
