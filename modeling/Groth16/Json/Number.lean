import Groth16.Power

/-!
# JSON numbers

The digits of a number as they were written. Documents that are read as a whole must hold
only numbers that fit a double: the leading digits that fill one word, and the power of ten
that goes with them, are each rounded to a double, and their product has to be finite.
-/

namespace Groth16

/-- A number of a JSON document. -/
structure JsonNumber where
  negative : Bool
  /-- The digits before the point. -/
  whole : List Char
  /-- The digits after the point, if there is one. -/
  fraction : List Char
  exponent : Option Int
  deriving DecidableEq, Repr

namespace JsonNumber

/-- The number with the given decimal digits after the given ones. -/
def appendDigits (n : Nat) (digits : List Char) : Nat :=
  digits.foldl (fun acc c => 10 * acc + (c.toNat - 48)) n

/-- A natural number as JSON number. -/
def ofNat (n : Nat) : JsonNumber := ⟨false, Nat.toDigits 10 n, [], none⟩

/-- The digits of a whole part: no zero comes first unless it stands alone. -/
def isWhole : List Char → Bool
  | [] => false
  | ['0'] => true
  | '0' :: _ => false
  | digits => digits.all Char.isDigit

/-- The exponent that a text after `e` denotes. -/
def exponent? (text : List Char) : Option Int :=
  let (negative, digits) := match text with
    | '-' :: digits => (true, digits)
    | '+' :: digits => (false, digits)
    | digits => (false, digits)
  if digits ≠ [] ∧ digits.all Char.isDigit then
    some (if negative then -(appendDigits 0 digits : Int) else appendDigits 0 digits)
  else none

/-- The digits after a leading point, and what follows them. -/
def splitFraction? : List Char → Option (List Char × List Char)
  | '.' :: rest =>
    let digits := rest.takeWhile Char.isDigit
    if digits = [] then none else some (digits, rest.dropWhile Char.isDigit)
  | rest => some ([], rest)

/-- The exponent that ends a number, if there is one. -/
def trailingExponent? : List Char → Option (Option Int)
  | [] => some none
  | c :: rest => if c = 'e' ∨ c = 'E' then (exponent? rest).map some else none

/-- The number without sign that a text denotes. -/
def parseUnsigned? (negative : Bool) (text : List Char) : Option JsonNumber :=
  let whole := text.takeWhile Char.isDigit
  if isWhole whole then do
    let (fraction, rest) ← splitFraction? (text.dropWhile Char.isDigit)
    let exponent ← trailingExponent? rest
    return ⟨negative, whole, fraction, exponent⟩
  else none

/-- The number that a text denotes. -/
def parse? : List Char → Option JsonNumber
  | '-' :: rest => parseUnsigned? true rest
  | text => parseUnsigned? false text

/-- The natural number below `2 ^ 64` that a number without sign, point and exponent
denotes. -/
def toWord? (number : JsonNumber) : Option UInt64 :=
  let n := appendDigits 0 number.whole
  if !number.negative && number.fraction.isEmpty && number.exponent.isNone && n < 2 ^ 64 then
    some (.ofNat n)
  else none

/-- The text of a number. -/
def render (number : JsonNumber) : List Char :=
  (if number.negative then ['-'] else []) ++ number.whole ++
    (if number.fraction = [] then [] else '.' :: number.fraction) ++
    match number.exponent with
    | some e => 'e' :: (toString e).toList
    | none => []

/-- The integer of 53 significant bits next to a number, an even one if two are next. -/
def roundToDouble (n : Nat) : Nat :=
  let shift := n.log2 + 1 - 53
  let quotient := n >>> shift
  let twice := 2 * (n % 2 ^ shift)
  if shift = 0 then n
  else if 2 ^ shift < twice ∨ (twice = 2 ^ shift ∧ quotient % 2 = 1) then
    (quotient + 1) <<< shift
  else quotient <<< shift

/-- The number of the leading digits that fit a word, and how many digits are left. -/
def leadingWord (n : Nat) : List Char → Nat × Nat
  | [] => (n, 0)
  | c :: rest =>
    let next := 10 * n + (c.toNat - 48)
    if next < 2 ^ 64 then leadingWord next rest else (n, rest.length + 1)

/-- Whether the number fits a double. -/
def isFinite (number : JsonNumber) : Bool :=
  let (word, left) := leadingWord 0 (number.whole ++ number.fraction)
  let exponent := number.exponent.getD 0 + left - number.fraction.length
  word == 0 || exponent ≤ 0 ||
    (exponent ≤ 308 &&
      roundToDouble (roundToDouble word * roundToDouble (10 ^ exponent.toNat)) < 2 ^ 1024)

end JsonNumber
end Groth16
