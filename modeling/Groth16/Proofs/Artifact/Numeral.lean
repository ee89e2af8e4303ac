import Groth16.Artifact.Numeral
import Groth16.Proofs.Checks
import Mathlib.Data.List.TakeWhile
import Mathlib.Order.Basic

/-!
# Decimal numerals

A decimal numeral is read digit by digit into four words. It is accepted exactly if its number has
256 bits, with zeros at its front or without.
-/

namespace Groth16

namespace Text

/-- The printed characters of the basic range are not white space. -/
theorem isBlank_of_bounds
    {c : Char}
    (low : 0x20 < c.toNat)
    (high : c.toNat < 0x85) :
    isBlank c = false := by
  simp only [isBlank, Bool.or_eq_false_iff, Bool.and_eq_false_iff, decide_eq_false_iff_not,
    beq_eq_false_iff_ne]
  omega

theorem isBlank_of_isDigit
    {c : Char}
    (digit : c.isDigit = true) :
    isBlank c = false := by
  obtain ⟨low, high⟩ := Char.isDigit_iff_toNat.mp digit
  change 48 ≤ c.toNat at low
  change c.toNat ≤ 57 at high
  exact isBlank_of_bounds (by omega) (by omega)

theorem trimStart_of_visible
    {text : List Char}
    (visible : ∀ c ∈ text, isBlank c = false) :
    trimStart text = text := by
  refine List.dropWhile_eq_self_iff.mpr fun inside => Bool.not_eq_true _ ▸ ?_
  exact visible _ (List.getElem_mem inside)

/-- There is no white space around a text that has none. -/
theorem trim_of_visible
    {text : List Char}
    (visible : ∀ c ∈ text, isBlank c = false) :
    trim text = text := by
  have backwards : ∀ c ∈ text.reverse, isBlank c = false := by
    intro c member
    exact visible c (List.mem_reverse.mp member)
  rw [trim, trimStart_of_visible visible, trimEnd, trimStart_of_visible backwards,
    List.reverse_reverse]

end Text

namespace Numeral

/-- The text is a decimal numeral of the number. -/
structure IsDecimal (text : String) (n : Nat) : Prop where
  ne_nil : text.toList ≠ []
  digits : ∀ c ∈ text.toList, c.isDigit = true
  value_eq : Nat.ofDigitChars 10 text.toList 0 = n

/-- Zeros at the front of a decimal numeral do not count. -/
theorem isDecimal_replicate_append
    (zeros n : Nat) :
    IsDecimal (String.ofList (List.replicate zeros '0' ++ Nat.toDigits 10 n)) n := by
  constructor
  · rw [String.toList_ofList]
    exact List.append_ne_nil_of_right_ne_nil _ Nat.toDigits_ne_nil
  · rw [String.toList_ofList]
    intro c member
    rcases List.mem_append.mp member with zero | digit
    · rw [List.eq_of_mem_replicate zero]
      decide
    · exact Nat.isDigit_of_mem_toDigits (by decide) (by decide) digit
  · rw [String.toList_ofList, Nat.ofDigitChars_append, Nat.ofDigitChars_replicate_zero,
      Nat.mul_zero, Nat.ofDigitChars_ten_toDigits]

/-- The usual decimal numeral, without zeros at its front. -/
theorem isDecimal_toString (n : Nat) : IsDecimal (toString n) n := by
  rw [Nat.toString_eq_ofList_toDigits]
  exact isDecimal_replicate_append 0 n

theorem decimalDigit?_of_isDigit
    {c : Char}
    (digit : c.isDigit = true) :
    decimalDigit? c = some (c.toNat - '0'.toNat) := by
  rw [Char.isDigit, Bool.and_eq_true, decide_eq_true_iff, decide_eq_true_iff] at digit
  exact if_pos digit

theorem decimalDigit?_of_not_isDigit
    {c : Char}
    (noDigit : c.isDigit ≠ true) :
    decimalDigit? c = none := by
  rw [Char.isDigit, ne_eq, Bool.and_eq_true, decide_eq_true_iff, decide_eq_true_iff] at noDigit
  exact if_neg noDigit

theorem le_ofDigitChars (digits : List Char) (n : Nat) : n ≤ Nat.ofDigitChars 10 digits n := by
  induction digits generalizing n with
  | nil => exact le_rfl
  | cons c rest inductionHypothesis =>
      rw [Nat.ofDigitChars_cons]
      exact le_trans (by omega) (inductionHypothesis _)

/-- A digit is appended exactly when the number with it has 256 bits: no carry is left then. -/
theorem appendDigit_eq_ok_iff
    {n appended : Limbs}
    {c : Char} :
    appendDigit n c = .ok appended ↔
      c.isDigit = true ∧ appended.toNat = 10 * n.toNat + (c.toNat - '0'.toNat) := by
  by_cases digit : c.isDigit = true
  · obtain ⟨-, high⟩ := Char.isDigit_iff_toNat.mp digit
    change c.toNat ≤ 57 at high
    rw [appendDigit, decimalDigit?_of_isDigit digit, and_iff_right digit]
    have equation := n.mulAddWord_equation 10 (.ofNat (c.toNat - '0'.toNat))
    rw [UInt64.toNat_ofNat_of_lt' (show c.toNat - '0'.toNat < 2 ^ 64 by omega),
      show (10 : UInt64).toNat = 10 from rfl] at equation
    dsimp only
    generalize n.mulAddWord 10 (.ofNat (c.toNat - '0'.toNat)) = product at equation ⊢
    have fits := appended.toNat_lt
    by_cases carry : product.2 = 0
    · rw [carry, UInt64.toNat_zero] at equation
      rw [if_pos carry, Except.ok.injEq, ← Limbs.toNat_inj]
      omega
    · have carried : product.2.toNat ≠ 0 := fun zero => carry (UInt64.toNat_inj.mp zero)
      rw [if_neg carry]
      exact iff_of_false nofun (by omega)
  · rw [appendDigit, decimalDigit?_of_not_isDigit digit]
    exact iff_of_false nofun (fun both => digit both.1)

/-- Digits are appended one after the other exactly while the number has 256 bits. The number only
grows, so it is enough that it has 256 bits in the end. -/
theorem foldlM_appendDigit_eq_ok_iff
    {digits : List Char}
    {n m : Limbs} :
    digits.foldlM appendDigit n = .ok m ↔
      (∀ c ∈ digits, c.isDigit = true) ∧ m.toNat = Nat.ofDigitChars 10 digits n.toNat := by
  induction digits generalizing n with
  | nil =>
      change Except.ok n = .ok m ↔ _
      rw [Except.ok.injEq, ← Limbs.toNat_inj, eq_comm]
      exact (and_iff_right nofun).symm
  | cons c rest inductionHypothesis =>
      rw [List.foldlM_cons, Checks.bind_eq_ok, List.forall_mem_cons, Nat.ofDigitChars_cons]
      constructor
      · rintro ⟨appended, isAppended, folded⟩
        obtain ⟨digit, value⟩ := appendDigit_eq_ok_iff.mp isAppended
        obtain ⟨digits, total⟩ := inductionHypothesis.mp folded
        exact ⟨⟨digit, digits⟩, value ▸ total⟩
      · rintro ⟨⟨digit, digits⟩, total⟩
        have small : 10 * n.toNat + (c.toNat - '0'.toNat) < 2 ^ 256 :=
          (le_ofDigitChars rest _).trans_lt (total ▸ m.toNat_lt)
        refine ⟨.ofNat (10 * n.toNat + (c.toNat - '0'.toNat)), ?_, ?_⟩
        · exact appendDigit_eq_ok_iff.mpr
            ⟨digit, (Limbs.toNat_ofNat _).trans (Nat.mod_eq_of_lt small)⟩
        · rw [inductionHypothesis, Limbs.toNat_ofNat, Nat.mod_eq_of_lt small]
          exact ⟨digits, total⟩

/-- Digits are not taken for a hexadecimal number. -/
theorem hexDigits?_of_digits
    {text : List Char}
    (digits : ∀ c ∈ text, c.isDigit = true) :
    hexDigits? text = none := by
  unfold hexDigits?
  split
  · cases digits 'x' (by simp)
  · cases digits 'X' (by simp)
  · rfl

/-- The numeral of a number of 256 bits is read, and no other decimal numeral. -/
theorem ofDecimal?_eq_ok_iff
    {text : String}
    {n : Limbs} :
    ofDecimal? text.toList = .ok n ↔ IsDecimal text n.toNat := by
  unfold ofDecimal?
  split
  · next empty => exact iff_of_false nofun (fun decimal => decimal.ne_nil empty)
  · next nonempty =>
      rw [foldlM_appendDigit_eq_ok_iff, Limbs.toNat_ofWord, UInt64.toNat_zero]
      constructor
      · rintro ⟨digits, value⟩
        exact ⟨nonempty, digits, value.symm⟩
      · intro decimal
        exact ⟨decimal.digits, decimal.value_eq.symm⟩

end Numeral
end Groth16
