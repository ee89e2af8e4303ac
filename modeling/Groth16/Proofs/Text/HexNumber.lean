import Groth16.Proofs.Bytes
import Groth16.Proofs.Text.Hex
import Mathlib.Data.List.Induction

/-!
# Numbers in hexadecimal

The number that hexadecimal digits of either letter case denote. Digits that are even in number are
decoded exactly if they denote a number, and it is the number of the decoded bytes.
-/

namespace Groth16
namespace Hex

/-- The value of a hexadecimal digit of either letter case. -/
def digitValue? (c : Char) : Option Nat := "0123456789abcdef".toList.idxOf? c.toLower

/-- The number that hexadecimal digits denote, most significant digit first. -/
def value? : List Char → Option Nat
  | [] => some 0
  | c :: rest => do
    let digit ← digitValue? c
    let number ← value? rest
    return digit * 16 ^ rest.length + number

theorem value?_cons_eq_some_iff
    {c : Char}
    {rest : List Char}
    {n : Nat} :
    value? (c :: rest) = some n ↔
      ∃ digit number, digitValue? c = some digit ∧ value? rest = some number ∧
        digit * 16 ^ rest.length + number = n := by
  simp only [value?, Option.bind_eq_bind, Option.bind_eq_some_iff, Option.pure_def,
    Option.some.injEq]
  constructor
  · rintro ⟨digit, isDigit, number, isNumber, total⟩
    exact ⟨digit, number, isDigit, isNumber, total⟩
  · rintro ⟨digit, number, isDigit, isNumber, total⟩
    exact ⟨digit, isDigit, number, isNumber, total⟩

/-- Digits that are followed by others count by the number of these. -/
theorem value?_append
    {left right : List Char}
    {l r : Nat}
    (isLeft : value? left = some l)
    (isRight : value? right = some r) :
    value? (left ++ right) = some (l * 16 ^ right.length + r) := by
  induction left generalizing l with
  | nil =>
      cases isLeft
      rw [List.nil_append, isRight, Nat.zero_mul, Nat.zero_add]
  | cons c rest inductionHypothesis =>
      obtain ⟨digit, number, isDigit, isNumber, rfl⟩ := value?_cons_eq_some_iff.mp isLeft
      rw [List.cons_append]
      refine value?_cons_eq_some_iff.mpr
        ⟨digit, number * 16 ^ right.length + r, isDigit, inductionHypothesis isNumber, ?_⟩
      rw [List.length_append, Nat.pow_add, Nat.add_mul, Nat.mul_assoc, Nat.add_assoc]

/-- Zeros in front of a number do not count. -/
theorem value?_replicate_append (zeros : Nat) (digits : List Char) :
    value? (List.replicate zeros '0' ++ digits) = value? digits := by
  induction zeros with
  | zero => rfl
  | succ zeros inductionHypothesis =>
      have zero : digitValue? '0' = some 0 := by decide
      rw [List.replicate_succ, List.cons_append, value?, zero, inductionHypothesis]
      cases value? digits with
      | none => rfl
      | some n => exact congrArg some (by rw [Nat.zero_mul, Nat.zero_add])

/-- The characters of a number are digits. -/
theorem exists_digitValue?_of_value?
    {digits : List Char}
    {n : Nat}
    (isNumber : value? digits = some n) :
    ∀ c ∈ digits, ∃ digit, digitValue? c = some digit := by
  induction digits generalizing n with
  | nil => exact nofun
  | cons c rest inductionHypothesis =>
      obtain ⟨digit, _, isDigit, isRest, -⟩ := value?_cons_eq_some_iff.mp isNumber
      exact List.forall_mem_cons.mpr ⟨⟨digit, isDigit⟩, inductionHypothesis isRest⟩

theorem value?_lt
    {digits : List Char}
    {n : Nat}
    (isNumber : value? digits = some n) :
    n < 16 ^ digits.length := by
  induction digits generalizing n with
  | nil =>
      cases isNumber
      decide
  | cons c rest inductionHypothesis =>
      obtain ⟨digit, number, isDigit, isRest, rfl⟩ := value?_cons_eq_some_iff.mp isNumber
      have small : digit < 16 := (List.idxOf?_eq_some_iff.mp isDigit).1
      have below := inductionHypothesis isRest
      calc digit * 16 ^ rest.length + number
        _ < digit * 16 ^ rest.length + 16 ^ rest.length := Nat.add_lt_add_left below _
        _ = (digit + 1) * 16 ^ rest.length := (Nat.succ_mul _ _).symm
        _ ≤ 16 * 16 ^ rest.length := Nat.mul_le_mul_right _ small
        _ = 16 ^ (rest.length + 1) := (Nat.pow_succ').symm

/-- The usual numeral of a number denotes it. -/
theorem value?_toDigits (n : Nat) : value? (Nat.toDigits 16 n) = some n := by
  have single : ∀ digit < 16, value? [Nat.digitChar digit] = some digit := by decide
  induction n using Nat.strong_induction_on with
  | _ n inductionHypothesis =>
      rw [Nat.toDigits_eq_if (by decide)]
      split
      · next small => exact single n small
      · next large =>
          rw [value?_append (inductionHypothesis (n / 16) (by omega))
            (single (n % 16) (Nat.mod_lt n (by decide)))]
          exact congrArg some (Nat.div_add_mod' n 16)

/-- A character of the hexadecimal alphabet is a single byte when it is encoded. -/
theorem utf8Size_of_digitValue?
    {c : Char}
    {n : Nat}
    (isDigit : digitValue? c = some n) :
    c.utf8Size = 1 := by
  have member : c.toLower ∈ "0123456789abcdef".toList :=
    List.isSome_idxOf?.mp (Option.isSome_of_eq_some isDigit)
  have all : "0123456789abcdef".toList.all (·.val ≤ 127) = true := by decide
  rw [Char.utf8Size_eq_one_iff]
  by_cases upper : c.val ≥ 'A'.val ∧ c.val ≤ 'Z'.val
  · exact UInt32.le_trans upper.2 (by decide)
  · rw [show c.toLower = c from dif_neg upper] at member
    exact of_decide_eq_true (List.all_eq_true.mp all _ member)

/-- What holds of each character that is a single byte when it is encoded. -/
theorem forall_of_utf8Size
    (holds : Char → Prop)
    (all : ∀ n < 128, holds (Char.ofNat n))
    {c : Char}
    (single : c.utf8Size = 1) :
    holds c := by
  have small : c.toNat ≤ 127 := Char.utf8Size_eq_one_iff.mp single
  exact Char.ofNat_toNat c ▸ all c.toNat (by omega)

/-- The digit of an encoded character is its value. -/
theorem map_digit?_utf8EncodeChar
    {c : Char}
    (single : c.utf8Size = 1) :
    (String.utf8EncodeChar c).map digit? = [(digitValue? c).map UInt8.ofNat] := by
  refine forall_of_utf8Size
    (fun c => (String.utf8EncodeChar c).map digit? = [(digitValue? c).map UInt8.ofNat]) ?_ single
  decide +kernel

/-- A character is a digit for its value, and for no other number below sixteen. -/
theorem digitValue?_eq_some_iff
    {c : Char}
    {n : Nat} :
    digitValue? c = some n ↔ n < 16 ∧ IsDigit n c := by
  have all : ∀ c : Char, c.utf8Size = 1 → ∀ n ∈ digitValue? c,
      n < 16 ∧ Text.isBlank c = false ∧ c ≠ 'x' := by
    intro c
    refine forall_of_utf8Size
      (fun c => ∀ n ∈ digitValue? c, n < 16 ∧ Text.isBlank c = false ∧ c ≠ 'x') ?_
    decide +kernel
  constructor
  · intro isDigit
    have single := utf8Size_of_digitValue? isDigit
    obtain ⟨small, visible, unmarked⟩ := all c single n isDigit
    exact ⟨small, (map_digit?_utf8EncodeChar single).trans (by rw [isDigit]; rfl), visible,
      unmarked⟩
  · rintro ⟨small, isDigit⟩
    have single : c.utf8Size = 1 := by
      have length := congrArg List.length isDigit.encoded
      rwa [List.length_map, String.length_utf8EncodeChar] at length
    obtain ⟨value, isValue, equal⟩ := Option.map_eq_some_iff.mp
      (List.cons.inj ((map_digit?_utf8EncodeChar single).symm.trans isDigit.encoded)).1
    have small' := (all c single value isValue).1
    have same := congrArg UInt8.toNat equal
    rw [UInt8.toNat_ofNat_of_lt' (show value < 256 by omega),
      UInt8.toNat_ofNat_of_lt' (show n < 256 by omega)] at same
    exact same ▸ isValue

/-- What is no digit does not occur in a number. -/
theorem not_mem_of_value?
    {digits : List Char}
    {n : Nat}
    (isNumber : value? digits = some n)
    {c : Char}
    (noDigit : digitValue? c = none) :
    c ∉ digits := by
  intro member
  obtain ⟨_, isDigit⟩ := exists_digitValue?_of_value? isNumber c member
  exact nomatch noDigit.symm.trans isDigit

/-- The number of digits is zero only if all of them are. -/
theorem eq_zero_iff
    {digits : List Char}
    {n : Nat}
    (isNumber : value? digits = some n) :
    n = 0 ↔ ∀ c ∈ digits, c = '0' := by
  have isZero : ∀ c : Char, c.utf8Size = 1 → ∀ digit ∈ digitValue? c, digit = 0 ↔ c = '0' := by
    intro c
    refine forall_of_utf8Size (fun c => ∀ digit ∈ digitValue? c, digit = 0 ↔ c = '0') ?_
    decide +kernel
  induction digits generalizing n with
  | nil => exact iff_of_true (Option.some_inj.mp isNumber).symm nofun
  | cons c rest inductionHypothesis =>
      obtain ⟨digit, number, isDigit, isRest, rfl⟩ := value?_cons_eq_some_iff.mp isNumber
      have headZero := isZero c (utf8Size_of_digitValue? isDigit) digit isDigit
      have weight : 16 ^ rest.length ≠ 0 := (Nat.pow_pos (by decide)).ne'
      rw [List.forall_mem_cons, Nat.add_eq_zero_iff, Nat.mul_eq_zero, or_iff_left weight]
      exact and_congr headZero (inductionHypothesis isRest)

/-- The digits of the same number of bytes are twice as many. -/
theorem Spells.length_eq
    {bytes : List UInt8}
    {digits : List Char}
    (spelled : Spells bytes digits) :
    digits.length = 2 * bytes.length := by
  induction spelled with
  | nil => rfl
  | cons isHigh isLow rest inductionHypothesis =>
      rw [List.length_cons, List.length_cons, List.length_cons, inductionHypothesis]
      omega

/-- The digits of bytes denote the number of the bytes. -/
theorem Spells.value?_eq
    {bytes : List UInt8}
    {digits : List Char}
    (spelled : Spells bytes digits) :
    value? digits = some (Bytes.toNat bytes) := by
  induction spelled with
  | nil => rfl
  | @cons byte high low bytes digits isHigh isLow rest inductionHypothesis =>
      have bound : byte.toNat < 256 := byte.toNat_lt
      have length : 256 ^ bytes.length = 16 ^ digits.length := by
        rw [rest.length_eq, Nat.pow_mul]
      have afterHigh := value?_cons_eq_some_iff.mpr ⟨_, _,
        digitValue?_eq_some_iff.mpr ⟨by omega, isLow⟩, inductionHypothesis, rfl⟩
      refine value?_cons_eq_some_iff.mpr ⟨_, _,
        digitValue?_eq_some_iff.mpr ⟨by omega, isHigh⟩, afterHigh, ?_⟩
      rw [Bytes.toNat, length, List.length_cons, Nat.pow_succ, ← Nat.add_assoc]
      nth_rewrite 3 [← Nat.div_add_mod' byte.toNat 16]
      rw [Nat.add_mul, Nat.mul_comm (16 ^ digits.length), Nat.mul_assoc]

/-- An even number of digits that denote a number spell bytes. -/
theorem exists_spells_of_value?
    {digits : List Char}
    {n : Nat}
    (even : digits.length % 2 = 0)
    (isNumber : value? digits = some n) :
    ∃ bytes, Spells bytes digits := by
  induction digits using List.twoStepInduction generalizing n with
  | nil => exact ⟨[], .nil⟩
  | singleton c => cases even
  | cons_cons high low rest inductionHypothesis _ =>
      obtain ⟨h, _, isHigh, isRest, -⟩ := value?_cons_eq_some_iff.mp isNumber
      obtain ⟨l, _, isLow, isRest, -⟩ := value?_cons_eq_some_iff.mp isRest
      rw [List.length_cons, List.length_cons] at even
      obtain ⟨bytes, spelled⟩ := inductionHypothesis (by omega) isRest
      obtain ⟨smallHigh, isHigh⟩ := digitValue?_eq_some_iff.mp isHigh
      obtain ⟨smallLow, isLow⟩ := digitValue?_eq_some_iff.mp isLow
      have byte : (UInt8.ofNat (16 * h + l)).toNat = 16 * h + l :=
        UInt8.toNat_ofNat_of_lt' (show 16 * h + l < 256 by omega)
      refine ⟨.ofNat (16 * h + l) :: bytes, .cons ?_ ?_ spelled⟩
      · rwa [byte, show (16 * h + l) / 16 = h by omega]
      · rwa [byte, show (16 * h + l) % 16 = l by omega]

theorem encodedBytes_cons (c : Char) (rest : List Char) :
    encodedBytes (c :: rest) = String.utf8EncodeChar c ++ encodedBytes rest := rfl

/-- A text has at least as many bytes as characters. -/
theorem length_le_length_encodedBytes (text : List Char) :
    text.length ≤ (encodedBytes text).length := by
  induction text with
  | nil => exact le_rfl
  | cons c rest inductionHypothesis =>
      have positive := c.utf8Size_pos
      rw [encodedBytes_cons, List.length_append, String.length_utf8EncodeChar, List.length_cons]
      omega

/-- A text has as many bytes as characters if each of these is a single byte. -/
theorem length_encodedBytes_eq_iff {text : List Char} :
    (encodedBytes text).length = text.length ↔ ∀ c ∈ text, c.utf8Size = 1 := by
  induction text with
  | nil => exact iff_of_true rfl nofun
  | cons c rest inductionHypothesis =>
      have positive := c.utf8Size_pos
      have atLeast := length_le_length_encodedBytes rest
      rw [encodedBytes_cons, List.length_append, String.length_utf8EncodeChar, List.length_cons,
        List.forall_mem_cons, ← inductionHypothesis]
      omega

/-- A character that is a single byte is a digit if its byte is one. -/
theorem exists_isDigit_of_digitAt
    {c : Char}
    {position : Nat}
    {value : UInt8}
    (single : c.utf8Size = 1)
    (decoded : digitAt c.val.toUInt8 position = .ok value) :
    ∃ n < 16, IsDigit n c ∧ value.toNat = n := by
  have isDigit : digit? c.val.toUInt8 = some value := by
    unfold digitAt at decoded
    split at decoded
    · next found => exact found.trans (congrArg some (Except.ok.inj decoded))
    · cases decoded
  have mapped := map_digit?_utf8EncodeChar single
  rw [String.utf8EncodeChar_eq_singleton single, List.map_singleton, isDigit,
    List.singleton_inj] at mapped
  obtain ⟨n, isValue, equal⟩ := Option.map_eq_some_iff.mp mapped.symm
  obtain ⟨small, isDigit⟩ := digitValue?_eq_some_iff.mp isValue
  exact ⟨n, small, isDigit, equal ▸ UInt8.toNat_ofNat_of_lt' (show n < 256 by omega)⟩

/-- Only the digits of bytes are decoded to them. -/
theorem spells_of_decodePairs
    {digits : List Char}
    {bytes : List UInt8}
    {position : Nat}
    (singles : ∀ c ∈ digits, c.utf8Size = 1)
    (even : digits.length % 2 = 0)
    (decoded : decodePairs position (encodedBytes digits) = .ok bytes) :
    Spells bytes digits := by
  induction digits using List.twoStepInduction generalizing bytes position with
  | nil =>
      cases decoded
      exact .nil
  | singleton c => cases even
  | cons_cons high low rest inductionHypothesis _ =>
      obtain ⟨singleHigh, singles⟩ := List.forall_mem_cons.mp singles
      obtain ⟨singleLow, singles⟩ := List.forall_mem_cons.mp singles
      rw [List.length_cons, List.length_cons] at even
      rw [encodedBytes_cons, encodedBytes_cons, String.utf8EncodeChar_eq_singleton singleHigh,
        String.utf8EncodeChar_eq_singleton singleLow] at decoded
      obtain ⟨h, decodedHigh, decoded⟩ := Checks.bind_eq_ok.mp decoded
      obtain ⟨l, decodedLow, decoded⟩ := Checks.bind_eq_ok.mp decoded
      obtain ⟨others, decodedRest, equal⟩ := Checks.bind_eq_ok.mp decoded
      cases equal
      obtain ⟨n, smallHigh, isHigh, valueHigh⟩ := exists_isDigit_of_digitAt singleHigh decodedHigh
      obtain ⟨m, smallLow, isLow, valueLow⟩ := exists_isDigit_of_digitAt singleLow decodedLow
      have byte : (h * 16 + l).toNat = 16 * n + m := by
        rw [UInt8.toNat_add, UInt8.toNat_mul, valueHigh, valueLow,
          show (16 : UInt8).toNat = 16 from rfl]
        omega
      refine .cons ?_ ?_ (inductionHypothesis singles (by omega) decodedRest)
      · rwa [byte, show (16 * n + m) / 16 = n by omega]
      · rwa [byte, show (16 * n + m) % 16 = m by omega]

/-- Characters that are single bytes are decoded exactly if they are even in number and denote a
number. It is the number of the decoded bytes. -/
theorem decode_eq_ok_iff
    {digits : List Char}
    {bytes : List UInt8}
    (singles : ∀ c ∈ digits, c.utf8Size = 1) :
    decode digits = .ok bytes ↔
      digits.length = 2 * bytes.length ∧ value? digits = some (Bytes.toNat bytes) := by
  have length := length_encodedBytes_eq_iff.mpr singles
  constructor
  · intro decoded
    rw [decode, length] at decoded
    split at decoded
    · cases decoded
    · next even =>
        have spelled := spells_of_decodePairs singles (by omega) decoded
        exact ⟨spelled.length_eq, spelled.value?_eq⟩
  · rintro ⟨twice, isNumber⟩
    obtain ⟨others, spelled⟩ := exists_spells_of_value? (by omega) isNumber
    have sameLength : others.length = bytes.length := by
      have := spelled.length_eq
      omega
    have sameNumber : Bytes.toNat others = Bytes.toNat bytes :=
      Option.some_inj.mp (spelled.value?_eq.symm.trans isNumber)
    rw [← Bytes.eq_of_toNat_eq sameLength sameNumber]
    exact spelled.decode_eq

end Hex
end Groth16
