import Groth16.Proofs.Checks
import Groth16.Text.Hex
import Mathlib.Data.List.Forall2

/-!
# Spellings of a byte string

A hexadecimal text may be respelled: in other letter cases, with `0x` in front, and with white
space anywhere. However the digits of a byte string are respelled, they are decoded to it.
-/

namespace Groth16

namespace Text

/-- The second text is the first one with white space inserted anywhere. -/
inductive InsertsBlanks : List Char → List Char → Prop
  | nil : InsertsBlanks [] []
  | keep
    (c : Char)
    {text written : List Char}
    (rest : InsertsBlanks text written) :
    InsertsBlanks (c :: text) (c :: written)
  | blank
    {c : Char}
    {text written : List Char}
    (white : isBlank c = true)
    (rest : InsertsBlanks text written) :
    InsertsBlanks text (c :: written)

namespace InsertsBlanks

variable {text written : List Char}

theorem refl (text : List Char) : InsertsBlanks text text := by
  induction text with
  | nil => exact .nil
  | cons c rest inductionHypothesis => exact .keep c inductionHypothesis

/-- Inserted white space does not count. -/
theorem withoutBlanks_eq (inserts : InsertsBlanks text written) :
    withoutBlanks written = withoutBlanks text := by
  induction inserts with
  | nil => rfl
  | keep c rest inductionHypothesis =>
      rw [withoutBlanks, withoutBlanks, List.filter_cons, List.filter_cons,
        ← withoutBlanks, ← withoutBlanks, inductionHypothesis]
  | blank white rest inductionHypothesis =>
      rw [withoutBlanks, List.filter_cons_of_neg (by rw [white]; decide), ← withoutBlanks,
        inductionHypothesis]

end InsertsBlanks

end Text

namespace Hex

/-- The second character is the first one, in any letter case. -/
def SameLetter (c d : Char) : Prop := d = c ∨ d = c.toUpper ∨ d = c.toLower

/-- The second text is the first one in other letter cases, perhaps with `0x` in front, with white
space inserted anywhere. -/
inductive Respells (text : List Char) : List Char → Prop
  | plain
    {recased written : List Char}
    (sameLetters : List.Forall₂ SameLetter text recased)
    (blanks : Text.InsertsBlanks recased written) :
    Respells text written
  | marked
    {recased written : List Char}
    (sameLetters : List.Forall₂ SameLetter text recased)
    (blanks : Text.InsertsBlanks ('0' :: 'x' :: recased) written) :
    Respells text written

theorem Respells.refl (text : List Char) : Respells text text :=
  .plain (List.forall₂_same.mpr fun _ _ => .inl rfl) (.refl text)

/-- The character stands for the number as a digit. -/
structure IsDigit (n : Nat) (d : Char) : Prop where
  encoded : (String.utf8EncodeChar d).map digit? = [some (UInt8.ofNat n)]
  visible : Text.isBlank d = false
  unmarked : d ≠ 'x'

instance (n : Nat) (d : Char) : Decidable (IsDigit n d) :=
  decidable_of_iff
    ((String.utf8EncodeChar d).map digit? = [some (UInt8.ofNat n)] ∧ Text.isBlank d = false ∧
      d ≠ 'x')
    ⟨fun ⟨encoded, visible, unmarked⟩ => ⟨encoded, visible, unmarked⟩,
      fun ⟨encoded, visible, unmarked⟩ => ⟨encoded, visible, unmarked⟩⟩

theorem isDigit_of_sameLetter
    {n : Nat}
    {d : Char}
    (small : n < 16)
    (same : SameLetter (Bytes.hexDigit n) d) :
    IsDigit n d := by
  have all : ∀ n ∈ List.range 16, IsDigit n (Bytes.hexDigit n) ∧
      IsDigit n (Bytes.hexDigit n).toUpper ∧ IsDigit n (Bytes.hexDigit n).toLower := by
    decide +kernel
  obtain ⟨asIs, upper, lower⟩ := all n (List.mem_range.mpr small)
  rcases same with rfl | rfl | rfl
  · exact asIs
  · exact upper
  · exact lower

/-- The digits spell the bytes, two for each byte. -/
inductive Spells : List UInt8 → List Char → Prop
  | nil : Spells [] []
  | cons
    {byte : UInt8}
    {high low : Char}
    {bytes : List UInt8}
    {digits : List Char}
    (isHigh : IsDigit (byte.toNat / 16) high)
    (isLow : IsDigit (byte.toNat % 16) low)
    (rest : Spells bytes digits) :
    Spells (byte :: bytes) (high :: low :: digits)

/-- A text that begins with the digits of a byte string still does in other letter cases. -/
theorem exists_spells_append
    {bytes : List UInt8}
    {tail recased : List Char}
    (sameLetters : List.Forall₂ SameLetter (Bytes.hexDigits bytes ++ tail) recased) :
    ∃ digits rest, recased = digits ++ rest ∧ Spells bytes digits ∧
      List.Forall₂ SameLetter tail rest := by
  induction bytes generalizing recased with
  | nil => exact ⟨[], recased, rfl, .nil, sameLetters⟩
  | cons byte bytes inductionHypothesis =>
      have bound : byte.toNat < 256 := byte.toNat_lt
      change List.Forall₂ SameLetter (Bytes.hexDigit (byte.toNat / 16) ::
        Bytes.hexDigit (byte.toNat % 16) :: (Bytes.hexDigits bytes ++ tail)) recased at sameLetters
      obtain ⟨high, _, sameHigh, afterHigh, rfl⟩ := List.forall₂_cons_left_iff.mp sameLetters
      obtain ⟨low, _, sameLow, afterLow, rfl⟩ := List.forall₂_cons_left_iff.mp afterHigh
      obtain ⟨digits, rest, rfl, spelled, sameRest⟩ := inductionHypothesis afterLow
      exact ⟨high :: low :: digits, rest, rfl,
        .cons (isDigit_of_sameLetter (by omega) sameHigh) (isDigit_of_sameLetter (by omega) sameLow)
          spelled, sameRest⟩

theorem IsDigit.exists_byte {n : Nat} {d : Char} (isDigit : IsDigit n d) :
    ∃ byte, String.utf8EncodeChar d = [byte] ∧ digit? byte = some (UInt8.ofNat n) := by
  obtain ⟨byte, encoded, value⟩ := List.map_eq_singleton_iff.mp isDigit.encoded
  exact ⟨byte, encoded, value⟩

namespace Spells

variable {bytes : List UInt8} {digits : List Char}

theorem length_encodedBytes (spelled : Spells bytes digits) :
    (encodedBytes digits).length = 2 * bytes.length := by
  induction spelled with
  | nil => rfl
  | cons isHigh isLow rest inductionHypothesis =>
      obtain ⟨high, encodedHigh, -⟩ := isHigh.exists_byte
      obtain ⟨low, encodedLow, -⟩ := isLow.exists_byte
      rw [encodedBytes, List.flatMap_cons, List.flatMap_cons, encodedHigh, encodedLow,
        ← encodedBytes, List.length_append, List.length_append, inductionHypothesis,
        List.length_cons]
      simp only [List.length_cons, List.length_nil]
      omega

theorem decodePairs_eq (spelled : Spells bytes digits) (position : Nat) :
    decodePairs position (encodedBytes digits) = .ok bytes := by
  induction spelled generalizing position with
  | nil => rfl
  | @cons byte _ _ bytes digits isHigh isLow rest inductionHypothesis =>
      obtain ⟨high, encodedHigh, valueHigh⟩ := isHigh.exists_byte
      obtain ⟨low, encodedLow, valueLow⟩ := isLow.exists_byte
      have joined : UInt8.ofNat (byte.toNat / 16) * 16 + UInt8.ofNat (byte.toNat % 16) = byte := by
        apply UInt8.toNat_inj.mp
        have bound : byte.toNat < 256 := byte.toNat_lt
        simp
        omega
      rw [encodedBytes, List.flatMap_cons, List.flatMap_cons, encodedHigh, encodedLow,
        ← encodedBytes]
      simp only [List.singleton_append, decodePairs, digitAt, valueHigh, valueLow,
        inductionHypothesis, Checks.ok_bind, joined]
      rfl

theorem decode_eq (spelled : Spells bytes digits) : decode digits = .ok bytes := by
  rw [decode, if_neg (by rw [spelled.length_encodedBytes]; omega)]
  exact spelled.decodePairs_eq 0

theorem withoutBlanks_eq (spelled : Spells bytes digits) :
    Text.withoutBlanks digits = digits := by
  induction spelled with
  | nil => rfl
  | cons isHigh isLow rest inductionHypothesis =>
      rw [Text.withoutBlanks, List.filter_cons_of_pos (by rw [isHigh.visible]; rfl),
        List.filter_cons_of_pos (by rw [isLow.visible]; rfl), ← Text.withoutBlanks,
        inductionHypothesis]

/-- The digits of a byte string do not begin with `0x`. -/
theorem digitsOf_eq
    {written : List Char}
    (spelled : Spells bytes digits)
    (unblanked : Text.withoutBlanks written = digits) :
    digitsOf written = digits := by
  rw [digitsOf, unblanked]
  cases spelled with
  | nil => rfl
  | cons isHigh isLow rest =>
      split
      · next equal => exact absurd (List.cons.inj (List.cons.inj equal).2).1 isLow.unmarked
      · rfl

end Spells

/-- However the digits of a byte string and the end of their line are respelled, the byte string
is what they are decoded to. -/
theorem decodeText_of_respells
    {bytes : List UInt8}
    {written : List Char}
    (respells : Respells (Bytes.hexDigits bytes ++ ['\n']) written) :
    decodeText written = .ok bytes := by
  have digitsOf_recased {recased : List Char}
      (sameLetters : List.Forall₂ SameLetter (Bytes.hexDigits bytes ++ ['\n']) recased) :
      ∃ digits, Text.withoutBlanks recased = digits ∧ Spells bytes digits := by
    obtain ⟨digits, rest, rfl, spelled, sameRest⟩ := exists_spells_append sameLetters
    obtain ⟨c, rest, sameEnd, sameNil, rfl⟩ := List.forall₂_cons_left_iff.mp sameRest
    cases sameNil
    -- The end of the line is respelled like the digits, and stays white space.
    have white : Text.isBlank c = true := by
      rcases sameEnd with rfl | rfl | rfl <;> decide
    refine ⟨digits, ?_, spelled⟩
    rw [Text.withoutBlanks, List.filter_append, ← Text.withoutBlanks, spelled.withoutBlanks_eq,
      List.filter_cons_of_neg (by rw [white]; decide), List.filter_nil, List.append_nil]
  cases respells with
  | plain sameLetters blanks =>
      obtain ⟨digits, unblanked, spelled⟩ := digitsOf_recased sameLetters
      rw [decodeText, spelled.digitsOf_eq (blanks.withoutBlanks_eq.trans unblanked),
        spelled.decode_eq]
  | marked sameLetters blanks =>
      obtain ⟨digits, unblanked, spelled⟩ := digitsOf_recased sameLetters
      have marked : Text.withoutBlanks written = '0' :: 'x' :: digits := by
        rw [blanks.withoutBlanks_eq, ← unblanked]
        rfl
      rw [decodeText, digitsOf, marked]
      exact spelled.decode_eq

end Hex
end Groth16
