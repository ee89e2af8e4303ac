import Groth16.Limbs

/-!
# Montgomery multiplication

Modular addition, subtraction and multiplication of four-word numbers. A product
is taken word by word: each round adds one word's multiple of the first factor and
then the multiple of the modulus that clears the lowest word, which is dropped. A round is
two steps, `addMultiple` and `dropLowest`, with one exact equation for each.

`mul_lt` and `mul_equation` describe the product: for any first factor and a second
factor below the modulus `m`, it is below `m` and `2 ^ 256` times it is the plain
product modulo `m`.
-/

namespace Groth16
namespace Montgomery

open Word

/-- Subtracts the modulus once from the number `high * 2 ^ 256 + low` unless it is below it. -/
@[inline]
def reduceOnce (low : Limbs) (high : UInt64) (modulus : Limbs) : Limbs :=
  let (difference, borrow) := low.subWithBorrow modulus
  let (_, below) := subBorrow high 0 borrow
  difference.select below low

theorem toNat_reduceOnce (low : Limbs) (high : UInt64) (modulus : Limbs)
    (below_double : low.toNat + 2 ^ 256 * high.toNat < 2 * modulus.toNat) :
    (reduceOnce low high modulus).toNat =
      if low.toNat + 2 ^ 256 * high.toNat < modulus.toNat
      then low.toNat + 2 ^ 256 * high.toNat
      else low.toNat + 2 ^ 256 * high.toNat - modulus.toNat := by
  obtain ⟨borrow, borrowed, equation⟩ := low.subWithBorrow_equation modulus
  obtain ⟨below, masked, highEquation⟩ := subBorrow_equation high 0 borrow
  have hm := modulus.toNat_lt
  have hl := low.toNat_lt
  have hd := (low.subWithBorrow modulus).1.toNat_lt
  have hh := toNat_lt_radix (subBorrow high 0 (mask borrow)).1
  have hb := borrow.toNat_le
  simp only [reduceOnce, borrowed, masked, Limbs.select_mask]
  rw [UInt64.toNat_zero] at highEquation
  cases below with
  | false =>
    rw [Bool.toNat_false] at highEquation
    rw [if_neg Bool.false_ne_true, if_neg (by omega)]
    omega
  | true =>
    rw [Bool.toNat_true] at highEquation
    rw [if_pos rfl, if_pos (by omega)]
    omega

/-- The sum of two numbers below the modulus, reduced. -/
@[inline]
def add (x y modulus : Limbs) : Limbs :=
  let (sum, carry) := x.addWithCarry y
  reduceOnce sum carry modulus

theorem toNat_add (x y modulus : Limbs) (hx : x.toNat < modulus.toNat)
    (hy : y.toNat < modulus.toNat) :
    (add x y modulus).toNat = (x.toNat + y.toNat) % modulus.toNat := by
  obtain ⟨carry_le_one, equation⟩ := x.addWithCarry_equation y
  have reduced := toNat_reduceOnce (x.addWithCarry y).1 (x.addWithCarry y).2 modulus (by omega)
  simp only [add]
  rw [reduced, equation]
  split
  · rw [Nat.mod_eq_of_lt (by assumption)]
  · rw [Nat.mod_eq_sub_mod (by omega), Nat.mod_eq_of_lt (by omega)]

/-- The difference of two numbers below the modulus, reduced. -/
@[inline]
def sub (x y modulus : Limbs) : Limbs :=
  let (difference, borrow) := x.subWithBorrow y
  (difference.addWithCarry (modulus.masked borrow)).1

theorem toNat_sub (x y modulus : Limbs) (hx : x.toNat < modulus.toNat)
    (hy : y.toNat < modulus.toNat) :
    (sub x y modulus).toNat = (x.toNat + (modulus.toNat - y.toNat)) % modulus.toNat := by
  obtain ⟨borrow, borrowed, equation⟩ := x.subWithBorrow_equation y
  obtain ⟨carry_le_one, sum_equation⟩ :=
    (x.subWithBorrow y).1.addWithCarry_equation (modulus.masked (mask borrow))
  have hm := modulus.toNat_lt
  have hd := (x.subWithBorrow y).1.toNat_lt
  have hs := ((x.subWithBorrow y).1.addWithCarry (modulus.masked (mask borrow))).1.toNat_lt
  simp only [sub, borrowed]
  rw [Limbs.masked_mask] at sum_equation hs ⊢
  cases borrow with
  | false =>
    rw [Bool.toNat_false] at equation
    rw [if_neg Bool.false_ne_true, show (⟨0, 0, 0, 0⟩ : Limbs).toNat = 0 from rfl] at sum_equation
    rw [if_neg Bool.false_ne_true] at hs ⊢
    rw [Nat.mod_eq_sub_mod (by omega), Nat.mod_eq_of_lt (by omega)]
    omega
  | true =>
    rw [Bool.toNat_true] at equation
    rw [if_pos rfl] at sum_equation hs ⊢
    rw [Nat.mod_eq_of_lt (by omega)]
    omega

/-- The running value of a product: five words, least significant first. -/
structure Accumulator where
  w0 : UInt64
  w1 : UInt64
  w2 : UInt64
  w3 : UInt64
  w4 : UInt64

namespace Accumulator

/-- The number that the words denote. -/
def toNat (t : Accumulator) : Nat :=
  t.w0.toNat + 2 ^ 64 * t.w1.toNat + 2 ^ 128 * t.w2.toNat + 2 ^ 192 * t.w3.toNat +
    2 ^ 256 * t.w4.toNat

/-- The accumulator at the start of a product. -/
def zero : Accumulator := ⟨0, 0, 0, 0, 0⟩

end Accumulator

/-- The running value in the middle of a round: six words, least significant first. -/
structure WideAccumulator where
  w0 : UInt64
  w1 : UInt64
  w2 : UInt64
  w3 : UInt64
  w4 : UInt64
  w5 : UInt64

/-- The number that the words denote. -/
def WideAccumulator.toNat (s : WideAccumulator) : Nat :=
  s.w0.toNat + 2 ^ 64 * s.w1.toNat + 2 ^ 128 * s.w2.toNat + 2 ^ 192 * s.w3.toNat +
    2 ^ 256 * s.w4.toNat + 2 ^ 320 * s.w5.toNat

/-- Adds `a * word`. -/
@[inline]
def addMultiple (a : Limbs) (word : UInt64) (t : Accumulator) : WideAccumulator :=
  let (s0, c0) := mulAdd t.w0 a.w0 word 0
  let (s1, c1) := mulAdd t.w1 a.w1 word c0
  let (s2, c2) := mulAdd t.w2 a.w2 word c1
  let (s3, c3) := mulAdd t.w3 a.w3 word c2
  let (s4, s5) := addCarry t.w4 c3 0
  ⟨s0, s1, s2, s3, s4, s5⟩

/-- Adds the multiple of the modulus that makes the lowest word zero and drops that word: gives
the next four words, and the carry that belongs to the sixth one. -/
@[inline]
def dropLowest (modulus : Limbs) (negInv : UInt64) (s : WideAccumulator) : Limbs × UInt64 :=
  let factor := s.w0 * negInv
  let (_, d0) := mulAdd s.w0 factor modulus.w0 0
  let (u0, d1) := mulAdd s.w1 factor modulus.w1 d0
  let (u1, d2) := mulAdd s.w2 factor modulus.w2 d1
  let (u2, d3) := mulAdd s.w3 factor modulus.w3 d2
  let (u3, d4) := addCarry s.w4 d3 0
  (⟨u0, u1, u2, u3⟩, d4)

/-- One round: adds `a * word`, then the multiple of the modulus that makes the lowest word
zero, and drops that word. -/
@[inline]
def round (modulus : Limbs) (negInv : UInt64) (a : Limbs) (word : UInt64) (t : Accumulator) :
    Accumulator :=
  let s := addMultiple a word t
  let (low, carry) := dropLowest modulus negInv s
  ⟨low.w0, low.w1, low.w2, low.w3, s.w5 + carry⟩

/-- The running value after a round for each word of `b`. -/
@[inline]
def rounds (modulus : Limbs) (negInv : UInt64) (a b : Limbs) : Accumulator :=
  round modulus negInv a b.w3
    (round modulus negInv a b.w2
      (round modulus negInv a b.w1
        (round modulus negInv a b.w0 .zero)))

/-- The Montgomery product: `a * b / 2 ^ 256` modulo the modulus. -/
@[inline]
def mul (modulus : Limbs) (negInv : UInt64) (a b : Limbs) : Limbs :=
  let t := rounds modulus negInv a b
  reduceOnce ⟨t.w0, t.w1, t.w2, t.w3⟩ t.w4 modulus

private theorem mul_words (w0 w1 w2 w3 factor : Nat) :
    (w0 + 2 ^ 64 * w1 + 2 ^ 128 * w2 + 2 ^ 192 * w3) * factor =
      w0 * factor + 2 ^ 64 * (w1 * factor) + 2 ^ 128 * (w2 * factor) +
        2 ^ 192 * (w3 * factor) := by
  grind

private theorem lowest_word_cleared (s0 negInv m0 : UInt64)
    (inverse : negInv * m0 = 0xffffffffffffffff) :
    (mulAdd s0 (s0 * negInv) m0 0).1.toNat = 0 := by
  have cleared : s0 * negInv * m0 + s0 + 0 = 0 := by
    rw [UInt64.mul_assoc, inverse]
    grind
  simp [mulAdd, cleared]

/-- A multiple of the first factor is added exactly, and the sixth word is a carry. -/
theorem addMultiple_equation (a : Limbs) (word : UInt64) (t : Accumulator) :
    (addMultiple a word t).w5.toNat ≤ 1 ∧
      (addMultiple a word t).toNat = t.toNat + a.toNat * word.toNat := by
  have e0 := mulAdd_equation t.w0 a.w0 word 0
  have e1 := mulAdd_equation t.w1 a.w1 word (mulAdd t.w0 a.w0 word 0).2
  generalize h0 : mulAdd t.w0 a.w0 word 0 = r0 at *
  have e2 := mulAdd_equation t.w2 a.w2 word (mulAdd t.w1 a.w1 word r0.2).2
  generalize h1 : mulAdd t.w1 a.w1 word r0.2 = r1 at *
  have e3 := mulAdd_equation t.w3 a.w3 word (mulAdd t.w2 a.w2 word r1.2).2
  generalize h2 : mulAdd t.w2 a.w2 word r1.2 = r2 at *
  have e4 := addCarry_equation t.w4 (mulAdd t.w3 a.w3 word r2.2).2 0
  generalize h3 : mulAdd t.w3 a.w3 word r2.2 = r3 at *
  have le4 := addCarry_carry_le_one t.w4 r3.2 0 (by decide)
  simp only [UInt64.toNat_zero] at e0 e4
  simp only [addMultiple, h0, h1, h2, h3]
  refine ⟨le4, ?_⟩
  simp only [WideAccumulator.toNat, Accumulator.toNat, Limbs.toNat, mul_words]
  omega

/-- The lowest word becomes zero, so what is left after dropping it is an exact quotient, and the
carry that belongs to the sixth word is at most one. -/
theorem dropLowest_equation (modulus : Limbs) (negInv : UInt64) (s : WideAccumulator)
    (inverse : negInv * modulus.w0 = 0xffffffffffffffff) :
    (dropLowest modulus negInv s).2.toNat ≤ 1 ∧
      2 ^ 64 * ((dropLowest modulus negInv s).1.toNat +
        2 ^ 256 * (s.w5.toNat + (dropLowest modulus negInv s).2.toNat)) =
          s.toNat + (s.w0 * negInv).toNat * modulus.toNat := by
  have cleared := lowest_word_cleared s.w0 negInv modulus.w0 inverse
  have f0 := mulAdd_equation s.w0 (s.w0 * negInv) modulus.w0 0
  generalize hf : s.w0 * negInv = factor at *
  have f1 := mulAdd_equation s.w1 factor modulus.w1 (mulAdd s.w0 factor modulus.w0 0).2
  generalize g0 : mulAdd s.w0 factor modulus.w0 0 = q0 at *
  have f2 := mulAdd_equation s.w2 factor modulus.w2 (mulAdd s.w1 factor modulus.w1 q0.2).2
  generalize g1 : mulAdd s.w1 factor modulus.w1 q0.2 = q1 at *
  have f3 := mulAdd_equation s.w3 factor modulus.w3 (mulAdd s.w2 factor modulus.w2 q1.2).2
  generalize g2 : mulAdd s.w2 factor modulus.w2 q1.2 = q2 at *
  have f4 := addCarry_equation s.w4 (mulAdd s.w3 factor modulus.w3 q2.2).2 0
  generalize g3 : mulAdd s.w3 factor modulus.w3 q2.2 = q3 at *
  have le4 := addCarry_carry_le_one s.w4 q3.2 0 (by decide)
  simp only [UInt64.toNat_zero, Nat.mul_comm factor.toNat] at f0 f1 f2 f3 f4
  simp only [dropLowest, hf, g0, g1, g2, g3]
  refine ⟨le4, ?_⟩
  simp only [WideAccumulator.toNat, Limbs.toNat]
  rw [Nat.mul_comm factor.toNat, mul_words]
  omega

/-- The two words that a round adds into its highest word have a sum of one word. -/
theorem top_words_le_two (modulus : Limbs) (negInv : UInt64) (a : Limbs) (word : UInt64)
    (t : Accumulator) (inverse : negInv * modulus.w0 = 0xffffffffffffffff) :
    (addMultiple a word t).w5.toNat +
      (dropLowest modulus negInv (addMultiple a word t)).2.toNat ≤ 2 :=
  Nat.add_le_add (addMultiple_equation a word t).1
    (dropLowest_equation modulus negInv (addMultiple a word t) inverse).1

/-- One round on numbers: the word dropped is zero, so the division is exact. -/
theorem round_equation (modulus : Limbs) (negInv : UInt64) (a : Limbs) (word : UInt64)
    (t : Accumulator) (inverse : negInv * modulus.w0 = 0xffffffffffffffff) :
    ∃ factor < 2 ^ 64, 2 ^ 64 * (round modulus negInv a word t).toNat =
      t.toNat + a.toNat * word.toNat + factor * modulus.toNat := by
  have added := (addMultiple_equation a word t).2
  have dropped := (dropLowest_equation modulus negInv (addMultiple a word t) inverse).2
  have top_le := top_words_le_two modulus negInv a word t inverse
  have top := UInt64.toNat_add (addMultiple a word t).w5
    (dropLowest modulus negInv (addMultiple a word t)).2
  rw [Nat.mod_eq_of_lt (by omega)] at top
  refine ⟨((addMultiple a word t).w0 * negInv).toNat, toNat_lt_radix _, ?_⟩
  rw [← added, ← dropped, ← top]
  rfl

/-- The number of some words, least significant first. -/
def wordsToNat (words : List UInt64) : Nat :=
  words.foldr (fun word number => word.toNat + 2 ^ 64 * number) 0

/-- Rounds for any words, on numbers. -/
theorem foldl_round_equation (modulus : Limbs) (negInv : UInt64) (a : Limbs)
    (words : List UInt64) (t : Accumulator)
    (inverse : negInv * modulus.w0 = 0xffffffffffffffff) :
    ∃ factor < (2 ^ 64) ^ words.length, (2 ^ 64) ^ words.length *
      (words.foldl (fun t word => round modulus negInv a word t) t).toNat =
        t.toNat + a.toNat * wordsToNat words + factor * modulus.toNat := by
  induction words generalizing t with
  | nil => exact ⟨0, Nat.one_pos, by simp [wordsToNat]⟩
  | cons word rest inductionHypothesis =>
    obtain ⟨first, first_lt, step⟩ := round_equation modulus negInv a word t inverse
    obtain ⟨factor, factor_lt, run⟩ := inductionHypothesis (round modulus negInv a word t)
    have number : wordsToNat (word :: rest) = word.toNat + 2 ^ 64 * wordsToNat rest := rfl
    have power : (2 ^ 64) ^ (rest.length + 1) = 2 ^ 64 * (2 ^ 64) ^ rest.length :=
      Nat.pow_succ'
    rw [List.foldl_cons, List.length_cons, number, power]
    generalize (2 ^ 64) ^ rest.length = radix at *
    refine ⟨first + 2 ^ 64 * factor, by omega, ?_⟩
    rw [Nat.mul_assoc, run]
    grind

/-- The value that enters the last reduction of a product, on numbers. -/
theorem rounds_equation (modulus : Limbs) (negInv : UInt64) (a b : Limbs)
    (inverse : negInv * modulus.w0 = 0xffffffffffffffff) :
    ∃ factor < 2 ^ 256, 2 ^ 256 * (rounds modulus negInv a b).toNat =
      a.toNat * b.toNat + factor * modulus.toNat := by
  obtain ⟨factor, factor_lt, run⟩ :=
    foldl_round_equation modulus negInv a b.toList .zero inverse
  have number : wordsToNat b.toList = b.toNat := by
    simp only [wordsToNat, Limbs.toList, List.foldr_cons, List.foldr_nil, Limbs.toNat]
    omega
  have start : Accumulator.zero.toNat = 0 := rfl
  have radix : (2 ^ 64) ^ b.toList.length = 2 ^ 256 := (Nat.pow_mul 2 64 4).symm
  rw [number, start, Nat.zero_add, radix] at run
  rw [radix] at factor_lt
  exact ⟨factor, factor_lt, run⟩

/-- The value that enters the last reduction is below twice the modulus. -/
theorem rounds_lt (modulus : Limbs) (negInv : UInt64) (a b : Limbs)
    (inverse : negInv * modulus.w0 = 0xffffffffffffffff) (hb : b.toNat < modulus.toNat) :
    (rounds modulus negInv a b).toNat < 2 * modulus.toNat := by
  obtain ⟨factor, hfactor, equation⟩ := rounds_equation modulus negInv a b inverse
  have first : a.toNat * b.toNat < 2 ^ 256 * modulus.toNat :=
    Nat.mul_lt_mul'' a.toNat_lt hb
  have second : factor * modulus.toNat ≤ 2 ^ 256 * modulus.toNat :=
    Nat.mul_le_mul_right modulus.toNat (by omega)
  omega

/-- After the rounds the modulus is subtracted once, unless their value is below it. -/
theorem toNat_mul (modulus : Limbs) (negInv : UInt64) (a b : Limbs)
    (inverse : negInv * modulus.w0 = 0xffffffffffffffff) (hb : b.toNat < modulus.toNat) :
    (mul modulus negInv a b).toNat =
      if (rounds modulus negInv a b).toNat < modulus.toNat
      then (rounds modulus negInv a b).toNat
      else (rounds modulus negInv a b).toNat - modulus.toNat :=
  toNat_reduceOnce _ _ _ (rounds_lt modulus negInv a b inverse hb)

/-- The Montgomery product is reduced, for any first factor. -/
theorem mul_lt (modulus : Limbs) (negInv : UInt64) (a b : Limbs)
    (inverse : negInv * modulus.w0 = 0xffffffffffffffff) (hb : b.toNat < modulus.toNat) :
    (mul modulus negInv a b).toNat < modulus.toNat := by
  have below := rounds_lt modulus negInv a b inverse hb
  rw [toNat_mul modulus negInv a b inverse hb]
  split <;> omega

/-- `2 ^ 256` times the Montgomery product is the plain product, modulo the modulus. -/
theorem mul_equation (modulus : Limbs) (negInv : UInt64) (a b : Limbs)
    (inverse : negInv * modulus.w0 = 0xffffffffffffffff) (hb : b.toNat < modulus.toNat) :
    2 ^ 256 * (mul modulus negInv a b).toNat % modulus.toNat =
      a.toNat * b.toNat % modulus.toNat := by
  obtain ⟨factor, -, equation⟩ := rounds_equation modulus negInv a b inverse
  rw [toNat_mul modulus negInv a b inverse hb]
  split
  · rw [equation, Nat.add_mul_mod_self_right]
  · rw [← Nat.add_mul_mod_self_right _ (2 ^ 256), ← Nat.mul_add, Nat.sub_add_cancel (by omega),
      equation, Nat.add_mul_mod_self_right]

attribute [irreducible] add sub mul

end Montgomery
end Groth16
