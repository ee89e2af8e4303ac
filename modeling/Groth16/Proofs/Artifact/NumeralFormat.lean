import Groth16.Proofs.Artifact.Numeral
import Groth16.Proofs.Field.Encoding
import Groth16.Proofs.Text.HexNumber

/-!
# What numerals denote

A numeral of an artifact is a row of decimal digits, or a mark with at most 64 hexadecimal digits.
Exactly the numerals of numbers of 256 bits are read, with white space around them or without. The
reader of 32 bytes gives the same bytes for hexadecimal digits after a mark that are even in
number, and refuses an odd number of them.
-/

namespace Groth16

namespace Scalar

theorem toNat_ofNat
    {n : Nat}
    (small : n < 2 ^ 256) :
    Bytes.toNat (ofNat n).val = n :=
  (Bytes.toNat_ofNat 32 n).trans (Nat.mod_eq_of_lt (small.trans_eq (by norm_num)))

theorem ext_toNat
    {left right : Scalar}
    (equal : Bytes.toNat left.val = Bytes.toNat right.val) :
    left = right :=
  Subtype.ext (Bytes.eq_of_toNat_eq (left.property.trans right.property.symm) equal)

theorem toNat_lt (scalar : Scalar) : Bytes.toNat scalar.val < 2 ^ 256 := by
  have bound := Bytes.toNat_lt scalar.val
  rw [scalar.property] at bound
  exact bound.trans_eq (by norm_num)

/-- A number of 256 bits and its bytes determine each other. -/
theorem ofNat_eq_iff
    {n : Nat}
    {scalar : Scalar}
    (small : n < 2 ^ 256) :
    ofNat n = scalar ↔ n = Bytes.toNat scalar.val := by
  constructor
  · rintro rfl
    exact (toNat_ofNat small).symm
  · intro equal
    exact ext_toNat ((toNat_ofNat small).trans equal)

theorem ofLimbs_eq_iff
    {n : Limbs}
    {scalar : Scalar} :
    ofLimbs n = scalar ↔ n.toNat = Bytes.toNat scalar.val := by
  constructor
  · rintro rfl
    exact (Limbs.toNat_toBytes n).symm
  · intro equal
    exact ext_toNat ((Limbs.toNat_toBytes n).trans equal)

end Scalar

namespace Numeral

/-- The letter of the marks `0x` and `0X`. -/
def IsMark (c : Char) : Prop := c = 'x' ∨ c = 'X'

/-- The text is a numeral of the number. -/
inductive Denotes : List Char → Nat → Prop
  | decimal
    {text : List Char}
    {n : Nat}
    (isDecimal : IsDecimal (String.ofList text) n) :
    Denotes text n
  | hexadecimal
    {mark : Char}
    {digits : List Char}
    {n : Nat}
    (isMark : IsMark mark)
    (bounded : digits.length ≤ 64)
    (isNumber : Hex.value? digits = some n) :
    Denotes ('0' :: mark :: digits) n

theorem hexDigits?_of_isMark
    {mark : Char}
    (isMark : IsMark mark)
    (digits : List Char) :
    hexDigits? ('0' :: mark :: digits) = some digits := by
  rcases isMark with rfl | rfl <;> rfl

theorem exists_isMark_of_hexDigits?
    {text digits : List Char}
    (marked : hexDigits? text = some digits) :
    ∃ mark, IsMark mark ∧ text = '0' :: mark :: digits := by
  unfold hexDigits? at marked
  split at marked
  · cases marked
    exact ⟨'x', .inl rfl, rfl⟩
  · cases marked
    exact ⟨'X', .inr rfl, rfl⟩
  · cases marked

theorem length_padded (digits : List Char) : (padded digits).length = max 64 digits.length := by
  rw [padded, List.length_append, List.length_replicate]
  omega

theorem utf8Size_padded
    {digits : List Char}
    (singles : ∀ c ∈ digits, c.utf8Size = 1) :
    ∀ c ∈ padded digits, c.utf8Size = 1 := by
  intro c member
  rcases List.mem_append.mp member with zero | digit
  · rw [List.eq_of_mem_replicate zero]
    decide
  · exact singles c digit

/-- Padded digits are at most 64 bytes exactly if there are at most 64 of them and each is a single
byte: padding counts characters, and those of several bytes are too many then. -/
theorem length_encodedBytes_padded_le_iff
    {digits : List Char} :
    (Hex.encodedBytes (padded digits)).length ≤ 64 ↔
      digits.length ≤ 64 ∧ ∀ c ∈ digits, c.utf8Size = 1 := by
  have atLeast := Hex.length_le_length_encodedBytes (padded digits)
  rw [length_padded] at atLeast
  constructor
  · intro fits
    have exactly : (Hex.encodedBytes (padded digits)).length = (padded digits).length := by
      rw [length_padded]
      omega
    have singles := Hex.length_encodedBytes_eq_iff.mp exactly
    exact ⟨by omega, fun c member => singles c (List.mem_append_right _ member)⟩
  · rintro ⟨bounded, singles⟩
    rw [Hex.length_encodedBytes_eq_iff.mpr (utf8Size_padded singles), length_padded]
    omega

/-- At most 64 digits that denote a number are read, and nothing else. -/
theorem ofHex?_eq_ok_iff
    {value : String}
    {digits : List Char}
    {scalar : Scalar} :
    ofHex? value digits = .ok scalar ↔
      digits.length ≤ 64 ∧ Hex.value? digits = some (Bytes.toNat scalar.val) := by
  unfold ofHex?
  split
  · next long =>
      refine iff_of_false nofun fun ⟨bounded, isNumber⟩ => long.not_ge ?_
      refine length_encodedBytes_padded_le_iff.mpr ⟨bounded, fun c member => ?_⟩
      obtain ⟨_, isDigit⟩ := Hex.exists_digitValue?_of_value? isNumber c member
      exact Hex.utf8Size_of_digitValue? isDigit
  · next fits =>
      obtain ⟨bounded, singles⟩ := length_encodedBytes_padded_le_iff.mp (not_lt.mp fits)
      have decoded (bytes : List UInt8) : Hex.decode (padded digits) = .ok bytes ↔
          bytes.length = 32 ∧ Hex.value? digits = some (Bytes.toNat bytes) := by
        rw [Hex.decode_eq_ok_iff (utf8Size_padded singles), length_padded, padded,
          Hex.value?_replicate_append]
        exact and_congr_left fun _ => by omega
      rw [and_iff_right bounded]
      cases found : Hex.decode (padded digits) with
      | ok bytes =>
          obtain ⟨length, isNumber⟩ := (decoded bytes).mp found
          have small : Bytes.toNat bytes < 2 ^ 256 := Scalar.toNat_lt ⟨bytes, length⟩
          rw [isNumber, Option.some_inj, Except.ok.injEq, Scalar.ofNat_eq_iff small]
      | error error =>
          refine iff_of_false nofun fun isNumber => ?_
          have accepted := (decoded scalar.val).mpr ⟨scalar.property, isNumber⟩
          exact nomatch found.symm.trans accepted

/-- A text is read exactly if it denotes a number of 256 bits between white space; its bytes are
those of the number. -/
theorem parse_eq_ok_iff
    {value : String}
    {scalar : Scalar} :
    parse value = .ok scalar ↔
      Denotes (Text.trim value.toList) (Bytes.toNat scalar.val) := by
  unfold parse
  generalize Text.trim value.toList = text
  dsimp only
  split
  · next digits marked =>
      rw [ofHex?_eq_ok_iff]
      obtain ⟨mark, isMark, rfl⟩ := exists_isMark_of_hexDigits? marked
      constructor
      · rintro ⟨bounded, isNumber⟩
        exact .hexadecimal isMark bounded isNumber
      · intro denotes
        cases denotes with
        | decimal isDecimal =>
            have none := hexDigits?_of_digits (String.toList_ofList ▸ isDecimal.digits)
            exact nomatch marked.symm.trans none
        | hexadecimal _ bounded isNumber => exact ⟨bounded, isNumber⟩
  · next unmarked =>
      rw [Checks.map_eq_ok]
      simp only [Checks.mapError_eq_ok, Scalar.ofLimbs_eq_iff]
      constructor
      · rintro ⟨n, read, equal⟩
        rw [← equal]
        exact .decimal (ofDecimal?_eq_ok_iff.mp (String.toList_ofList.symm ▸ read))
      · intro denotes
        cases denotes with
        | decimal isDecimal =>
            have value : (Limbs.ofNat (Bytes.toNat scalar.val)).toNat = Bytes.toNat scalar.val :=
              (Limbs.toNat_ofNat _).trans (Nat.mod_eq_of_lt scalar.toNat_lt)
            have read := ofDecimal?_eq_ok_iff.mpr (value.symm ▸ isDecimal)
            rw [String.toList_ofList] at read
            exact ⟨_, read, value⟩
        | hexadecimal isMark _ _ =>
            exact nomatch unmarked.symm.trans (hexDigits?_of_isMark isMark _)

/-- There is no white space in a numeral. -/
theorem Denotes.visible
    {text : List Char}
    {n : Nat}
    (denotes : Denotes text n) :
    ∀ c ∈ text, Text.isBlank c = false := by
  cases denotes with
  | decimal isDecimal =>
      have digits := isDecimal.digits
      rw [String.toList_ofList] at digits
      exact fun c member => Text.isBlank_of_isDigit (digits c member)
  | hexadecimal isMark _ isNumber =>
      refine List.forall_mem_cons.mpr ⟨by decide, List.forall_mem_cons.mpr ⟨?_, ?_⟩⟩
      · rcases isMark with rfl | rfl <;> decide
      · intro c member
        obtain ⟨_, isDigit⟩ := Hex.exists_digitValue?_of_value? isNumber c member
        exact (Hex.digitValue?_eq_some_iff.mp isDigit).2.visible

/-- The number of a numeral is read from it. -/
theorem Denotes.parse_eq
    {text : List Char}
    {n : Nat}
    (denotes : Denotes text n)
    (small : n < 2 ^ 256) :
    parse (String.ofList text) = .ok (Scalar.ofNat n) := by
  rw [parse_eq_ok_iff, String.toList_ofList, Text.trim_of_visible denotes.visible,
    Scalar.toNat_ofNat small]
  exact denotes

theorem IsDecimal.parse_eq
    {text : String}
    {n : Nat}
    (isDecimal : IsDecimal text n)
    (small : n < 2 ^ 256) :
    parse text = .ok (Scalar.ofNat n) := by
  rw [← String.ofList_toList (s := text)] at isDecimal ⊢
  exact (Denotes.decimal isDecimal).parse_eq small

/-- A text is read exactly if, without the white space around it, it denotes a number of 256 bits.
What is read are the bytes of this number. So the decimal numerals of such a number, with zeros at
their front or without, and its hexadecimal numerals are all read as the same bytes. -/
theorem parse_iff_denotes :
    (∀ value scalar, parse value = .ok scalar ↔
        ∃ n < 2 ^ 256, Denotes (Text.trim value.toList) n ∧ scalar.val = Bytes.ofNat 32 n) ∧
      ∀ n < 2 ^ 256, ∀ zeros mark, IsMark mark →
        parse (String.ofList (List.replicate zeros '0' ++ Nat.toDigits 10 n)) =
            .ok (Scalar.ofNat n) ∧
          parse (String.ofList ('0' :: mark :: Nat.toDigits 16 n)) = .ok (Scalar.ofNat n) := by
  refine ⟨?_, ?_⟩
  · intro value scalar
    rw [parse_eq_ok_iff]
    constructor
    · intro denotes
      refine ⟨_, scalar.toNat_lt, denotes, ?_⟩
      exact congrArg Subtype.val ((Scalar.ofNat_eq_iff scalar.toNat_lt).mpr rfl).symm
    · rintro ⟨n, small, denotes, bytes⟩
      have number : Bytes.toNat scalar.val = n := bytes ▸ Scalar.toNat_ofNat small
      rwa [number]
  · intro n small zeros mark isMark
    have bounded : (Nat.toDigits 16 n).length ≤ 64 :=
      (Nat.length_toDigits_le_iff (by decide) (by decide)).mpr (small.trans_eq (by norm_num))
    exact ⟨(Denotes.decimal (isDecimal_replicate_append zeros n)).parse_eq small,
      (Denotes.hexadecimal isMark bounded (Hex.value?_toDigits n)).parse_eq small⟩

/-- The largest number is read, also with zeros at its front. -/
theorem parse_iff_denotes_largest :
    2 ^ 256 - 1 < 2 ^ 256 ∧ IsMark 'X' ∧
      parse (String.ofList (List.replicate 3 '0' ++ Nat.toDigits 10 (2 ^ 256 - 1))) =
          .ok (Scalar.ofNat (2 ^ 256 - 1)) ∧
        parse (String.ofList ('0' :: 'X' :: Nat.toDigits 16 (2 ^ 256 - 1))) =
          .ok (Scalar.ofNat (2 ^ 256 - 1)) :=
  ⟨by decide, .inr rfl, parse_iff_denotes.2 _ (by decide) 3 'X' (.inr rfl)⟩

/-- One more is too much. -/
example :
    parse (toString (2 ^ 256)) = .error (.fieldElement (toString (2 ^ 256)) .tooLarge) := by
  decide +kernel

/-! ## The reader of 32 bytes -/

theorem lowerFirstMark_of_not_mem
    {text : List Char}
    (absent : 'X' ∉ text) :
    lowerFirstMark text = text := by
  fun_induction lowerFirstMark text with
  | case1 rest => exact absurd (List.mem_cons_of_mem _ List.mem_cons_self) absent
  | case2 c rest _ inductionHypothesis =>
      rw [inductionHypothesis fun member => absent (List.mem_cons_of_mem _ member)]
  | case3 => rfl

theorem lowerFirstMark_of_isMark
    {mark : Char}
    {digits : List Char}
    (isMark : IsMark mark)
    (absent : 'X' ∉ digits) :
    lowerFirstMark ('0' :: mark :: digits) = '0' :: 'x' :: digits := by
  rcases isMark with rfl | rfl
  · refine lowerFirstMark_of_not_mem fun member => ?_
    rcases List.mem_cons.mp member with impossible | member
    · cases impossible
    · rcases List.mem_cons.mp member with impossible | member
      · cases impossible
      · exact absent member
  · rfl

theorem isBytes_of_isMark
    {mark : Char}
    (isMark : IsMark mark)
    (digits : List Char) :
    isBytes ('0' :: mark :: digits) = true := by
  rw [isBytes, hexDigits?_of_isMark isMark]
  rfl

section Marked

variable {digits : List Char} {n : Nat}

/-- The digits of a number after a mark are decoded as they are. -/
theorem decodeText_lowerFirstMark
    {mark : Char}
    (isMark : IsMark mark)
    (bounded : digits.length ≤ 64)
    (isNumber : Hex.value? digits = some n) :
    Hex.decodeText (lowerFirstMark ('0' :: mark :: digits)) = Hex.decode digits := by
  have absent : 'X' ∉ digits := Hex.not_mem_of_value? isNumber (by decide)
  have visible := (Denotes.hexadecimal (.inl rfl) bounded isNumber).visible
  have unblanked : Text.withoutBlanks ('0' :: 'x' :: digits) = '0' :: 'x' :: digits :=
    List.filter_eq_self.mpr fun c member => by rw [visible c member]; rfl
  rw [lowerFirstMark_of_isMark isMark absent, Hex.decodeText, Hex.digitsOf, unblanked]
  rfl

theorem decode_of_odd
    (isNumber : Hex.value? digits = some n)
    (odd : digits.length % 2 = 1) :
    Hex.decode digits = .error .oddLength := by
  have singles : ∀ c ∈ digits, c.utf8Size = 1 := by
    intro c member
    obtain ⟨_, isDigit⟩ := Hex.exists_digitValue?_of_value? isNumber c member
    exact Hex.utf8Size_of_digitValue? isDigit
  rw [Hex.decode, Hex.length_encodedBytes_eq_iff.mpr singles]
  exact if_pos odd

end Marked

/-- At most 64 hexadecimal digits after a mark, with white space around them or without, are read
as the bytes of their number, however many they are. The reader of 32 bytes gives the same bytes if
the digits are even in number; an odd number of them it refuses. -/
theorem parseBytes_of_marked
    {value : String}
    {mark : Char}
    {digits : List Char}
    {n : Nat}
    (trimmed : Text.trim value.toList = '0' :: mark :: digits)
    (isMark : IsMark mark)
    (bounded : digits.length ≤ 64)
    (isNumber : Hex.value? digits = some n) :
    parse value = .ok (Scalar.ofNat n) ∧
      parseBytes value =
        if digits.length % 2 = 0 then parse value else .error (.hex .oddLength) := by
  have denotes : Denotes (Text.trim value.toList) n :=
    trimmed ▸ .hexadecimal isMark bounded isNumber
  have small : n < 2 ^ 256 := (Hex.value?_lt isNumber).trans_le
    ((Nat.pow_le_pow_right (by decide) bounded).trans_eq (by norm_num))
  have parsed : parse value = .ok (Scalar.ofNat n) :=
    parse_eq_ok_iff.mpr ((Scalar.toNat_ofNat small).symm ▸ denotes)
  refine ⟨parsed, ?_⟩
  unfold parseBytes
  rw [trimmed]
  dsimp only
  rw [if_pos (isBytes_of_isMark isMark digits), decodeText_lowerFirstMark isMark bounded isNumber]
  split
  · next even =>
      obtain ⟨bytes, spelled⟩ := Hex.exists_spells_of_value? even isNumber
      have length := spelled.length_eq
      have number : Bytes.toNat bytes = n :=
        Option.some_inj.mp (spelled.value?_eq.symm.trans isNumber)
      rw [spelled.decode_eq, parsed, ← number]
      exact if_neg (show ¬32 < bytes.length by omega)
  · next odd =>
      rw [decode_of_odd isNumber (by omega)]
      rfl

/-- Letters of both cases, two digits for each byte. -/
theorem parseBytes_of_marked_mixedCase :
    Text.trim " 0XaBcD\n".toList = ['0', 'X', 'a', 'B', 'c', 'D'] ∧
      IsMark 'X' ∧ ['a', 'B', 'c', 'D'].length ≤ 64 ∧
      Hex.value? ['a', 'B', 'c', 'D'] = some 0xabcd ∧
      parse " 0XaBcD\n" = .ok (Scalar.ofNat 0xabcd) ∧
      parseBytes " 0XaBcD\n" = parse " 0XaBcD\n" := by
  have trimmed : Text.trim " 0XaBcD\n".toList = ['0', 'X', 'a', 'B', 'c', 'D'] := by decide +kernel
  have isNumber : Hex.value? ['a', 'B', 'c', 'D'] = some 0xabcd := by decide +kernel
  exact ⟨trimmed, .inr rfl, by decide, isNumber,
    parseBytes_of_marked trimmed (.inr rfl) (by decide) isNumber⟩

/-- The two readers do not agree on a single digit after a mark. -/
theorem parseBytes_ne_parse_of_oddDigits :
    ¬∀ digits n, 1 ≤ digits.length → digits.length ≤ 64 → Hex.value? digits = some n →
      parseBytes (String.ofList ('0' :: 'x' :: digits)) = .ok (Scalar.ofNat n) ∧
        parseBytes (String.ofList ('0' :: 'x' :: digits)) =
          parse (String.ofList ('0' :: 'x' :: digits)) := by
  intro agree
  have refused : parseBytes (String.ofList ['0', 'x', '1']) = .error (.hex .oddLength) := by
    decide +kernel
  have accepted := (agree ['1'] 1 (by decide) (by decide) (by decide)).1
  exact nomatch refused.symm.trans accepted

end Numeral
end Groth16
