import Groth16.Limbs
import Mathlib.Data.Nat.Bitwise
import Mathlib.Tactic.Ring

/-!
# Numbers from binary digits

The number that a list of binary digits denotes, most significant first, and the rule
by which a loop over such digits is understood: what each step does to the number so
far, the whole loop does to the number of all digits.
-/

namespace Groth16
namespace Digits

/-- The number that the digits denote, most significant first. -/
def value : List Bool → Nat
  | [] => 0
  | digit :: rest => digit.toNat * 2 ^ rest.length + value rest

@[simp] theorem value_nil : value [] = 0 := rfl

@[simp] theorem value_cons
    (digit : Bool)
    (rest : List Bool) :
    value (digit :: rest) = digit.toNat * 2 ^ rest.length + value rest := rfl

theorem value_append (high low : List Bool) :
    value (high ++ low) = value high * 2 ^ low.length + value low := by
  induction high with
  | nil => simp
  | cons digit rest inductionHypothesis =>
      rw [List.cons_append, value_cons, value_cons, inductionHypothesis, List.length_append,
        pow_add]
      ring

/-- Leading zeros do not change the number. -/
theorem value_dropWhile (digits : List Bool) :
    value (digits.dropWhile (!·)) = value digits := by
  induction digits with
  | nil => rfl
  | cons digit rest inductionHypothesis =>
      cases digit with
      | false => simpa using inductionHypothesis
      | true => rfl

/-- The given number of lowest digits of a number. -/
def lowest (count number : Nat) : List Bool :=
  (List.range count).map fun index => number.testBit (count - 1 - index)

theorem value_lowest (count number : Nat) :
    value (lowest count number) = number % 2 ^ count := by
  induction count with
  | zero => simp [lowest, Nat.mod_one]
  | succ count inductionHypothesis =>
      rw [lowest] at inductionHypothesis ⊢
      rw [List.range_succ_eq_map, List.map_cons, value_cons, List.map_map]
      have tail : (fun index => number.testBit (count + 1 - 1 - index)) ∘ Nat.succ =
          fun index => number.testBit (count - 1 - index) := by
        funext index
        change number.testBit (count + 1 - 1 - (index + 1)) = _
        congr 1
        omega
      rw [tail, inductionHypothesis, Nat.mod_pow_succ, Nat.toNat_testBit]
      simp only [List.length_map, List.length_range, Nat.add_sub_cancel, Nat.sub_zero]
      ring

@[simp] theorem value_bits (word : UInt64) : value (Word.bits word) = word.toNat := by
  have lowest_eq : Word.bits word = lowest 64 word.toNat := rfl
  rw [lowest_eq, value_lowest, Nat.mod_eq_of_lt word.toNat_lt]

theorem length_bits (word : UInt64) : (Word.bits word).length = 64 := by
  simp [Word.bits]

@[simp] theorem value_limbs_bits (number : Limbs) : value number.bits = number.toNat := by
  simp only [Limbs.bits, value_append, value_bits, length_bits, Limbs.toNat]
  ring

/-- The digits of one word after the other denote the number of the words. -/
theorem value_append_flatMap_bits
    (high : List Bool)
    (words : List UInt64) :
    value (high ++ words.flatMap Word.bits) =
      words.foldl (fun number word => number * 2 ^ 64 + word.toNat) (value high) := by
  induction words generalizing high with
  | nil => rw [List.flatMap_nil, List.append_nil, List.foldl_nil]
  | cons word rest inductionHypothesis =>
      rw [List.flatMap_cons, ← List.append_assoc, inductionHypothesis, List.foldl_cons,
        value_append, value_bits, length_bits]

theorem value_flatMap_bits (words : List UInt64) :
    value (words.flatMap Word.bits) =
      words.foldl (fun number word => number * 2 ^ 64 + word.toNat) 0 :=
  value_append_flatMap_bits [] words

/-- The words of a number, most significant first, denote the number. -/
theorem value_toList (number : Limbs) :
    value (number.toList.reverse.flatMap Word.bits) = number.toNat := by
  rw [value_flatMap_bits]
  simp only [Limbs.toList, List.reverse_cons, List.reverse_nil, List.nil_append,
    List.cons_append, List.foldl_cons, List.foldl_nil, Limbs.toNat]
  ring

/-- A loop over digits keeps a relation between the number read so far and its state, if
every step does. -/
theorem foldl_relation
    {State : Type*}
    (relation : Nat → State → Prop)
    (step : State → Bool → State)
    (keeps : ∀ number state digit,
      relation number state → relation (2 * number + digit.toNat) (step state digit))
    (digits : List Bool)
    (number : Nat)
    (state : State)
    (start : relation number state) :
    relation (number * 2 ^ digits.length + value digits) (digits.foldl step state) := by
  induction digits generalizing number state with
  | nil => simpa using start
  | cons digit rest inductionHypothesis =>
      have next := inductionHypothesis _ _ (keeps number state digit start)
      rw [List.foldl_cons]
      have equal : number * 2 ^ (digit :: rest).length + value (digit :: rest) =
          (2 * number + digit.toNat) * 2 ^ rest.length + value rest := by
        rw [List.length_cons, value_cons, pow_succ]
        ring
      rwa [equal]

/-- The power of the number that the digits denote, by squaring. -/
def power
    {M : Type*} [One M] [Mul M]
    (x : M)
    (digits : List Bool) : M :=
  digits.foldl (fun acc digit => if digit then acc * acc * x else acc * acc) 1

/-- Maps that keep the product keep the power. -/
theorem map_power
    {M N : Type*} [One M] [Mul M] [One N] [Mul N]
    {f : M → N}
    (map_one : f 1 = 1)
    (map_mul : ∀ x y, f (x * y) = f x * f y)
    (x : M)
    (digits : List Bool) :
    f (power x digits) = power (f x) digits := by
  rw [power, power, ← map_one]
  symm
  apply List.foldl_hom f
  intro acc digit
  cases digit <;> simp only [Bool.false_eq_true, if_false, if_true, map_mul]

theorem power_eq
    {M : Type*} [Monoid M]
    (x : M)
    (digits : List Bool) :
    power x digits = x ^ value digits := by
  have final := foldl_relation (fun number acc => acc = x ^ number)
    (fun acc digit => if digit then acc * acc * x else acc * acc)
    (by
      intro number acc digit equal
      subst equal
      cases digit with
      | false => simp [two_mul, pow_add]
      | true => simp [two_mul, pow_add, mul_assoc])
    digits 0 1 (pow_zero x).symm
  rwa [zero_mul, zero_add] at final

end Digits
end Groth16
