import Groth16.Bytes

/-!
# Machine words with carries

Addition, subtraction and multiplication of 64-bit words that keep what
overflows: the carry, the borrow, and the high half of a product. Each operation
comes with the one equation over the natural numbers that describes it. A borrow is a
mask, all ones or zero, so that it can select between words without a branch. A word is
written as eight bytes, most significant byte first.
-/

namespace Groth16
namespace Word

/-- The word `a + b + carry` and the carry out of it. -/
@[inline]
def addCarry (a b carry : UInt64) : UInt64 × UInt64 :=
  let partialSum := a + b
  let sum := partialSum + carry
  (sum, (if partialSum < a then 1 else 0) + (if sum < carry then 1 else 0))

/-- All ones for `true` and zero for `false`. -/
@[inline]
def mask (choice : Bool) : UInt64 := 0 - choice.toUInt64

/-- The bits of `b` where the mask is set and those of `a` elsewhere. -/
@[inline]
def select (mask a b : UInt64) : UInt64 := (a &&& ~~~mask) ||| (b &&& mask)

/-- The word `a - b - 1` or `a - b`, for a borrow that is a mask, and the borrow out of it. -/
@[inline]
def subBorrow (a b borrow : UInt64) : UInt64 × UInt64 :=
  let one := borrow >>> 63
  let partialDifference := a - b
  (partialDifference - one, mask (a < b || partialDifference < one))

/-- The high word of the product `a * b`, from its four half-word products. -/
@[inline]
def mulHigh (a b : UInt64) : UInt64 :=
  let aLow := a % 0x100000000
  let aHigh := a / 0x100000000
  let bLow := b % 0x100000000
  let bHigh := b / 0x100000000
  let lowLow := aLow * bLow
  let lowHigh := aLow * bHigh
  let highLow := aHigh * bLow
  let middle := lowLow / 0x100000000 + lowHigh % 0x100000000 + highLow % 0x100000000
  aHigh * bHigh + lowHigh / 0x100000000 + highLow / 0x100000000 + middle / 0x100000000

/-- The low and the high word of `acc + a * b + carry`, which never exceeds two words. -/
@[inline]
def mulAdd (acc a b carry : UInt64) : UInt64 × UInt64 :=
  let low := a * b
  let withAcc := low + acc
  let sum := withAcc + carry
  (sum, mulHigh a b + (if withAcc < acc then 1 else 0) + (if sum < carry then 1 else 0))

/-- The 64 binary digits of a word, most significant first. -/
def bits (word : UInt64) : List Bool :=
  (List.range 64).map fun i => word.toNat.testBit (63 - i)

/-- The word that eight bytes denote, most significant byte first. -/
def ofBytes (bytes : List UInt8) : UInt64 := .ofNat (Bytes.toNat bytes)

/-- The eight bytes of the word, most significant byte first. -/
def toBytes (word : UInt64) : List UInt8 := Bytes.ofNat 8 word.toNat

@[simp]
theorem length_toBytes (word : UInt64) : (toBytes word).length = 8 := Bytes.length_ofNat 8 _

theorem toNat_lt_radix (word : UInt64) : word.toNat < 2 ^ 64 :=
  UInt64.toNat_lt word

theorem toNat_ofBytes {bytes : List UInt8} (length : bytes.length = 8) :
    (ofBytes bytes).toNat = Bytes.toNat bytes := by
  have lt := Bytes.toNat_lt bytes
  rw [length] at lt
  rw [ofBytes, UInt64.toNat_ofNat', Nat.mod_eq_of_lt lt]

theorem toNat_toBytes (word : UInt64) : Bytes.toNat (toBytes word) = word.toNat := by
  rw [toBytes, Bytes.toNat_ofNat]
  exact Nat.mod_eq_of_lt (toNat_lt_radix word)

theorem toBytes_ofBytes {bytes : List UInt8} (length : bytes.length = 8) :
    toBytes (ofBytes bytes) = bytes := by
  rw [toBytes, toNat_ofBytes length, ← length, Bytes.ofNat_toNat]

theorem addCarry_equation (a b carry : UInt64) :
    (addCarry a b carry).1.toNat + 2 ^ 64 * (addCarry a b carry).2.toNat =
      a.toNat + b.toNat + carry.toNat := by
  have ha := toNat_lt_radix a
  have hb := toNat_lt_radix b
  have hc := toNat_lt_radix carry
  simp only [addCarry, UInt64.lt_iff_toNat_lt]
  split <;> split <;> simp_all [UInt64.toNat_add] <;> omega

theorem addCarry_carry_le_one (a b carry : UInt64) (carry_le_one : carry.toNat ≤ 1) :
    (addCarry a b carry).2.toNat ≤ 1 := by
  have equation := addCarry_equation a b carry
  have ha := toNat_lt_radix a
  have hb := toNat_lt_radix b
  omega

theorem select_mask (choice : Bool) (a b : UInt64) :
    select (mask choice) a b = if choice then b else a := by
  cases choice with
  | false => simp [select, show mask false = 0 from rfl]
  | true => simp [select, show mask true = -1 from rfl]

theorem and_mask (choice : Bool) (a : UInt64) :
    a &&& mask choice = if choice then a else 0 := by
  cases choice with
  | false => simp [show mask false = 0 from rfl]
  | true => simp [show mask true = -1 from rfl]

theorem toNat_mask_shift (choice : Bool) : (mask choice >>> 63).toNat = choice.toNat := by
  cases choice <;> rfl

/-- The borrow out is a mask again, and it stands for the missing `2 ^ 64`. -/
theorem subBorrow_equation (a b : UInt64) (borrow : Bool) :
    ∃ next : Bool, (subBorrow a b (mask borrow)).2 = mask next ∧
      (subBorrow a b (mask borrow)).1.toNat + b.toNat + borrow.toNat =
        a.toNat + 2 ^ 64 * next.toNat := by
  have one := toNat_mask_shift borrow
  have one_le := borrow.toNat_le
  have ha := toNat_lt_radix a
  have hb := toNat_lt_radix b
  refine ⟨_, rfl, ?_⟩
  simp only [subBorrow]
  generalize mask borrow >>> 63 = word at one ⊢
  rw [UInt64.toNat_sub, UInt64.toNat_sub, one]
  simp only [UInt64.lt_iff_toNat_lt, UInt64.toNat_sub, one]
  by_cases below : a.toNat < b.toNat <;> by_cases wraps :
      (2 ^ 64 - b.toNat + a.toNat) % 2 ^ 64 < borrow.toNat <;>
    simp only [below, wraps, decide_true, decide_false, Bool.or_true, Bool.or_false,
      Bool.toNat_true, Bool.toNat_false] <;> omega

private theorem mul_le_of_half_words {x y : Nat} (hx : x < 2 ^ 32) (hy : y < 2 ^ 32) :
    x * y ≤ (2 ^ 32 - 1) * (2 ^ 32 - 1) :=
  Nat.mul_le_mul (by omega) (by omega)

private theorem mul_of_half_words (x y : Nat) :
    x * y = 2 ^ 64 * (x / 2 ^ 32 * (y / 2 ^ 32)) + 2 ^ 32 * (x / 2 ^ 32 * (y % 2 ^ 32))
      + 2 ^ 32 * (x % 2 ^ 32 * (y / 2 ^ 32)) + x % 2 ^ 32 * (y % 2 ^ 32) := by
  have hx : 2 ^ 32 * (x / 2 ^ 32) + x % 2 ^ 32 = x := Nat.div_add_mod x (2 ^ 32)
  have hy : 2 ^ 32 * (y / 2 ^ 32) + y % 2 ^ 32 = y := Nat.div_add_mod y (2 ^ 32)
  generalize x / 2 ^ 32 = xHigh at *
  generalize x % 2 ^ 32 = xLow at *
  generalize y / 2 ^ 32 = yHigh at *
  generalize y % 2 ^ 32 = yLow at *
  subst hx hy
  grind

theorem toNat_mulHigh (a b : UInt64) :
    (mulHigh a b).toNat = a.toNat * b.toNat / 2 ^ 64 := by
  have ha := toNat_lt_radix a
  have hb := toNat_lt_radix b
  have lowLow := mul_le_of_half_words (x := a.toNat % 2 ^ 32) (y := b.toNat % 2 ^ 32)
    (by omega) (by omega)
  have lowHigh := mul_le_of_half_words (x := a.toNat % 2 ^ 32) (y := b.toNat / 2 ^ 32)
    (by omega) (by omega)
  have highLow := mul_le_of_half_words (x := a.toNat / 2 ^ 32) (y := b.toNat % 2 ^ 32)
    (by omega) (by omega)
  have highHigh := mul_le_of_half_words (x := a.toNat / 2 ^ 32) (y := b.toNat / 2 ^ 32)
    (by omega) (by omega)
  rw [mul_of_half_words a.toNat b.toNat]
  simp only [mulHigh, UInt64.toNat_add, UInt64.toNat_mul, UInt64.toNat_div, UInt64.toNat_mod,
    UInt64.reduceToNat]
  generalize a.toNat % 2 ^ 32 * (b.toNat % 2 ^ 32) = ll at *
  generalize a.toNat % 2 ^ 32 * (b.toNat / 2 ^ 32) = lh at *
  generalize a.toNat / 2 ^ 32 * (b.toNat % 2 ^ 32) = hl at *
  generalize a.toNat / 2 ^ 32 * (b.toNat / 2 ^ 32) = hh at *
  omega

theorem mulAdd_equation (acc a b carry : UInt64) :
    (mulAdd acc a b carry).1.toNat + 2 ^ 64 * (mulAdd acc a b carry).2.toNat =
      acc.toNat + a.toNat * b.toNat + carry.toNat := by
  have ha := toNat_lt_radix a
  have hb := toNat_lt_radix b
  have hacc := toNat_lt_radix acc
  have hcarry := toNat_lt_radix carry
  have product_le : a.toNat * b.toNat ≤ (2 ^ 64 - 1) * (2 ^ 64 - 1) :=
    Nat.mul_le_mul (by omega) (by omega)
  have high := toNat_mulHigh a b
  simp only [mulAdd, UInt64.lt_iff_toNat_lt, UInt64.toNat_add, UInt64.toNat_mul, high]
  generalize a.toNat * b.toNat = product at *
  split <;> split <;> simp_all <;> omega

end Word
end Groth16
