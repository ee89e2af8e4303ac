import Groth16.Word

/-!
# Numbers of four words

A 256-bit number as four 64-bit words, least significant first, with the
comparison, addition and subtraction that the prime fields are built on, the
multiple by a word that numerals are read with, and its big-endian byte form.
-/

namespace Groth16

/-- A 256-bit number, least significant word first. -/
structure Limbs where
  w0 : UInt64
  w1 : UInt64
  w2 : UInt64
  w3 : UInt64
  deriving DecidableEq, Repr, Inhabited

namespace Limbs

open Word

/-- The number that the words denote. -/
def toNat (x : Limbs) : Nat :=
  x.w0.toNat + 2 ^ 64 * x.w1.toNat + 2 ^ 128 * x.w2.toNat + 2 ^ 192 * x.w3.toNat

/-- The number modulo `2 ^ 256`. -/
def ofNat (n : Nat) : Limbs :=
  ⟨.ofNat n, .ofNat (n / 2 ^ 64), .ofNat (n / 2 ^ 128), .ofNat (n / 2 ^ 192)⟩

/-- The number that one word denotes. -/
def ofWord (word : UInt64) : Limbs := ⟨word, 0, 0, 0⟩

/-- The number that 32 bytes denote, most significant byte first: each word from the eight bytes
at its place. -/
def ofBytes (bytes : List UInt8) : Limbs :=
  let wordAt (place : Nat) := Word.ofBytes (Bytes.slice bytes (24 - 8 * place) 8)
  ⟨wordAt 0, wordAt 1, wordAt 2, wordAt 3⟩

/-- The 32 bytes of the number, most significant byte first. -/
def toBytes (x : Limbs) : List UInt8 :=
  Word.toBytes x.w3 ++ Word.toBytes x.w2 ++ Word.toBytes x.w1 ++ Word.toBytes x.w0

/-- The 256 binary digits, most significant first. -/
def bits (x : Limbs) : List Bool :=
  Word.bits x.w3 ++ Word.bits x.w2 ++ Word.bits x.w1 ++ Word.bits x.w0

/-- The word of the given number, counted from the least significant one. -/
def word (x : Limbs) : Nat → UInt64
  | 0 => x.w0
  | 1 => x.w1
  | 2 => x.w2
  | 3 => x.w3
  | _ => 0

/-- The words, least significant first. -/
def toList (x : Limbs) : List UInt64 := [x.w0, x.w1, x.w2, x.w3]

@[simp]
theorem length_toBytes (x : Limbs) : x.toBytes.length = 32 := by
  simp only [toBytes, List.length_append, Word.length_toBytes]

theorem toNat_lt (x : Limbs) : x.toNat < 2 ^ 256 := by
  have h0 := toNat_lt_radix x.w0
  have h1 := toNat_lt_radix x.w1
  have h2 := toNat_lt_radix x.w2
  have h3 := toNat_lt_radix x.w3
  simp only [toNat]
  omega

theorem toNat_inj {x y : Limbs} : x.toNat = y.toNat ↔ x = y := by
  constructor
  · intro equal
    have a0 := toNat_lt_radix x.w0
    have a1 := toNat_lt_radix x.w1
    have a2 := toNat_lt_radix x.w2
    have b0 := toNat_lt_radix y.w0
    have b1 := toNat_lt_radix y.w1
    have b2 := toNat_lt_radix y.w2
    simp only [toNat] at equal
    cases x
    cases y
    simp only [mk.injEq, ← UInt64.toNat_inj]
    simp only at *
    omega
  · exact congrArg toNat

@[simp]
theorem toNat_ofNat (n : Nat) : (ofNat n).toNat = n % 2 ^ 256 := by
  simp only [ofNat, toNat, UInt64.toNat_ofNat']
  omega

@[simp]
theorem toNat_ofWord (word : UInt64) : (ofWord word).toNat = word.toNat := by
  simp [ofWord, toNat]

/-- The second number where the mask is set and the first elsewhere. -/
@[inline]
def select (mask : UInt64) (x y : Limbs) : Limbs :=
  ⟨Word.select mask x.w0 y.w0, Word.select mask x.w1 y.w1, Word.select mask x.w2 y.w2,
    Word.select mask x.w3 y.w3⟩

/-- The bits of the number where the mask is set. -/
@[inline]
def masked (mask : UInt64) (x : Limbs) : Limbs :=
  ⟨x.w0 &&& mask, x.w1 &&& mask, x.w2 &&& mask, x.w3 &&& mask⟩

theorem select_mask (choice : Bool) (x y : Limbs) :
    select (mask choice) x y = if choice then y else x := by
  simp only [select, Word.select_mask]
  cases choice <;> rfl

theorem masked_mask (choice : Bool) (x : Limbs) :
    masked (mask choice) x = if choice then x else ⟨0, 0, 0, 0⟩ := by
  simp only [masked, Word.and_mask]
  cases choice <;> rfl

/-- The difference modulo `2 ^ 256`, and a borrow when it is negative. -/
@[inline]
def subWithBorrow (x y : Limbs) : Limbs × UInt64 :=
  let (d0, b0) := subBorrow x.w0 y.w0 0
  let (d1, b1) := subBorrow x.w1 y.w1 b0
  let (d2, b2) := subBorrow x.w2 y.w2 b1
  let (d3, b3) := subBorrow x.w3 y.w3 b2
  (⟨d0, d1, d2, d3⟩, b3)

/-- The sum modulo `2 ^ 256`, and a carry of one when it does not fit. -/
@[inline]
def addWithCarry (x y : Limbs) : Limbs × UInt64 :=
  let (s0, c0) := addCarry x.w0 y.w0 0
  let (s1, c1) := addCarry x.w1 y.w1 c0
  let (s2, c2) := addCarry x.w2 y.w2 c1
  let (s3, c3) := addCarry x.w3 y.w3 c2
  (⟨s0, s1, s2, s3⟩, c3)

/-- The number `x * factor + carry` modulo `2 ^ 256`, and the word of it that does not fit. -/
@[inline]
def mulAddWord (x : Limbs) (factor carry : UInt64) : Limbs × UInt64 :=
  let (p0, c0) := mulAdd 0 x.w0 factor carry
  let (p1, c1) := mulAdd 0 x.w1 factor c0
  let (p2, c2) := mulAdd 0 x.w2 factor c1
  let (p3, c3) := mulAdd 0 x.w3 factor c2
  (⟨p0, p1, p2, p3⟩, c3)

/-- The borrow is a mask that stands for the missing `2 ^ 256`. -/
theorem subWithBorrow_equation (x y : Limbs) :
    ∃ borrow : Bool, (subWithBorrow x y).2 = mask borrow ∧
      (subWithBorrow x y).1.toNat + y.toNat = x.toNat + 2 ^ 256 * borrow.toNat := by
  obtain ⟨b0, m0, e0⟩ := subBorrow_equation x.w0 y.w0 false
  obtain ⟨b1, m1, e1⟩ := subBorrow_equation x.w1 y.w1 b0
  obtain ⟨b2, m2, e2⟩ := subBorrow_equation x.w2 y.w2 b1
  obtain ⟨b3, m3, e3⟩ := subBorrow_equation x.w3 y.w3 b2
  rw [show mask false = 0 from rfl] at m0 e0
  refine ⟨b3, ?_, ?_⟩
  · simp only [subWithBorrow, m0, m1, m2, m3]
  · simp only [subWithBorrow, toNat, m0, m1, m2]
    simp only [Bool.toNat_false] at e0
    omega

theorem addWithCarry_equation (x y : Limbs) :
    (addWithCarry x y).2.toNat ≤ 1 ∧
      (addWithCarry x y).1.toNat + 2 ^ 256 * (addWithCarry x y).2.toNat =
        x.toNat + y.toNat := by
  have e0 := addCarry_equation x.w0 y.w0 0
  have l0 := addCarry_carry_le_one x.w0 y.w0 0 (by decide)
  have e1 := addCarry_equation x.w1 y.w1 (addCarry x.w0 y.w0 0).2
  have l1 := addCarry_carry_le_one x.w1 y.w1 _ l0
  have e2 := addCarry_equation x.w2 y.w2 (addCarry x.w1 y.w1 (addCarry x.w0 y.w0 0).2).2
  have l2 := addCarry_carry_le_one x.w2 y.w2 _ l1
  have e3 := addCarry_equation x.w3 y.w3
    (addCarry x.w2 y.w2 (addCarry x.w1 y.w1 (addCarry x.w0 y.w0 0).2).2).2
  have l3 := addCarry_carry_le_one x.w3 y.w3 _ l2
  refine ⟨l3, ?_⟩
  simp only [addWithCarry, toNat] at *
  simp only [UInt64.toNat_zero] at e0
  omega

theorem mulAddWord_equation (x : Limbs) (factor carry : UInt64) :
    (mulAddWord x factor carry).1.toNat + 2 ^ 256 * (mulAddWord x factor carry).2.toNat =
      x.toNat * factor.toNat + carry.toNat := by
  have e0 := mulAdd_equation 0 x.w0 factor carry
  have e1 := mulAdd_equation 0 x.w1 factor (mulAdd 0 x.w0 factor carry).2
  have e2 := mulAdd_equation 0 x.w2 factor
    (mulAdd 0 x.w1 factor (mulAdd 0 x.w0 factor carry).2).2
  have e3 := mulAdd_equation 0 x.w3 factor
    (mulAdd 0 x.w2 factor (mulAdd 0 x.w1 factor (mulAdd 0 x.w0 factor carry).2).2).2
  simp only [mulAddWord, toNat, Nat.add_mul, Nat.mul_assoc] at *
  simp only [UInt64.toNat_zero, Nat.zero_add] at e0 e1 e2 e3
  omega

/-- Whether the first number is below the second, read off the borrow. -/
@[inline]
def isBelow (x y : Limbs) : Bool := (subWithBorrow x y).2 != 0

theorem isBelow_iff (x y : Limbs) : isBelow x y = true ↔ x.toNat < y.toNat := by
  obtain ⟨borrow, borrowed, equation⟩ := subWithBorrow_equation x y
  have hx := x.toNat_lt
  have hy := y.toNat_lt
  have hd := (subWithBorrow x y).1.toNat_lt
  rw [isBelow, borrowed, bne_iff_ne]
  cases borrow with
  | false =>
    rw [Bool.toNat_false] at equation
    exact iff_of_false (fun nonzero => nonzero rfl) (by omega)
  | true =>
    rw [Bool.toNat_true] at equation
    exact iff_of_true (by decide) (by omega)

/-- Whether all words are zero. -/
@[inline]
def isZero (x : Limbs) : Bool := (x.w0 ||| x.w1 ||| x.w2 ||| x.w3) == 0

theorem isZero_iff (x : Limbs) : isZero x = true ↔ x.toNat = 0 := by
  simp only [isZero, beq_iff_eq, UInt64.or_eq_zero_iff]
  simp only [← UInt64.toNat_inj, UInt64.toNat_zero, toNat]
  omega

/-- Whether two numbers have the same words, compared without a branch. -/
@[inline]
def areEqual (x y : Limbs) : Bool :=
  ((x.w0 ^^^ y.w0) ||| (x.w1 ^^^ y.w1) ||| (x.w2 ^^^ y.w2) ||| (x.w3 ^^^ y.w3)) == 0

theorem areEqual_iff (x y : Limbs) : areEqual x y = true ↔ x = y := by
  cases x
  cases y
  simp only [areEqual, beq_iff_eq, UInt64.or_eq_zero_iff, UInt64.xor_eq_zero_iff, mk.injEq,
    and_assoc]

end Limbs
end Groth16
