import Groth16.Power
import Mathlib.NumberTheory.LucasPrimality
import Mathlib.Data.ZMod.Basic
import Mathlib.Data.Nat.Prime.Basic
import Mathlib.Algebra.BigOperators.Group.List.Basic

/-!
# Primality certificates

A large number is shown to be prime by a generator of its multiplicative group and
the factorization of its predecessor, whose factors are certified before it or are
small enough for trial division. Checking a chain of certificates is a computation
on natural numbers; `PrimeCertificate.prime_of_checks` says that every number of an
accepted chain is prime.
-/

namespace Groth16

/-- The product of `result` and a power modulo `modulus`, by squaring from the lowest
binary digit of the exponent. -/
def powerModulo (modulus : Nat) : (digits base exponent result : Nat) → Nat
  | 0, _, _, result => result
  | digits + 1, base, exponent, result =>
      powerModulo modulus digits (base * base % modulus) (exponent / 2)
        (if exponent % 2 = 1 then result * base % modulus else result)

/-- The modular power is the power in the ring of residues, for exponents of at most
the given number of binary digits. -/
theorem cast_powerModulo
    (modulus digits base exponent result : Nat)
    (fits : exponent < 2 ^ digits) :
    (powerModulo modulus digits base exponent result : ZMod modulus) =
      result * (base : ZMod modulus) ^ exponent := by
  induction digits generalizing base exponent result with
  | zero =>
      have exponentZero : exponent = 0 := by simpa using fits
      simp [powerModulo, exponentZero]
  | succ digits inductionHypothesis =>
      have halfFits : exponent / 2 < 2 ^ digits := by
        rw [pow_succ] at fits
        omega
      have halves := Nat.div_add_mod exponent 2
      rw [powerModulo, inductionHypothesis _ _ _ halfFits]
      have squared : ((base * base % modulus : Nat) : ZMod modulus) ^ (exponent / 2) =
          (base : ZMod modulus) ^ (2 * (exponent / 2)) := by
        rw [ZMod.natCast_mod, Nat.cast_mul, ← pow_two, ← pow_mul]
      rw [squared]
      rcases Nat.mod_two_eq_zero_or_one exponent with even | odd
      · rw [if_neg (by omega)]
        congr 2
        omega
      · rw [if_pos odd, ZMod.natCast_mod, Nat.cast_mul, mul_assoc, ← pow_succ']
        congr 2
        omega

/-- A number with a generator of its residues and the prime factors of its predecessor,
repeated as often as they divide it. -/
structure PrimeCertificate where
  number : Nat
  generator : Nat
  factors : List Nat
  deriving Repr

namespace PrimeCertificate

/-- Trial division, which decides primality below `2 ^ 14`. -/
def isSmallPrime (number : Nat) : Bool :=
  decide (2 ≤ number) && decide (number < 2 ^ 14) &&
    (List.range' 2 126).all fun divisor => number % divisor != 0 || number == divisor

theorem prime_of_isSmallPrime
    {number : Nat}
    (small : isSmallPrime number = true) :
    number.Prime := by
  simp only [isSmallPrime, Bool.and_eq_true, decide_eq_true_eq, List.all_eq_true,
    List.mem_range'_1, Bool.or_eq_true, bne_iff_ne, beq_iff_eq] at small
  obtain ⟨⟨two_le, lt_bound⟩, indivisible⟩ := small
  rw [Nat.prime_def_le_sqrt]
  refine ⟨two_le, ?_⟩
  intro divisor two_le_divisor divisor_le divides
  have sqrt_lt : Nat.sqrt number < 128 := by
    rw [Nat.sqrt_lt']
    omega
  rcases indivisible divisor (by omega) with remainder | equal
  · exact remainder (Nat.mod_eq_zero_of_dvd divides)
  · have square_le := Nat.le_sqrt.1 divisor_le
    subst equal
    nlinarith

/-- Checks one certificate, given the numbers certified before it. -/
def check (known : List Nat) (certificate : PrimeCertificate) : Bool :=
  let power := fun exponent =>
    powerModulo certificate.number (certificate.number.log2 + 1) certificate.generator exponent 1
  decide (1 < certificate.number) &&
    certificate.factors.prod == certificate.number - 1 &&
    power (certificate.number - 1) == 1 &&
    certificate.factors.all fun factor =>
      (isSmallPrime factor || known.contains factor) &&
        power ((certificate.number - 1) / factor) % certificate.number != 1

/-- Checks a chain of certificates, each of which may use the numbers before it. -/
def checkAll : (known : List Nat) → List PrimeCertificate → Bool
  | _, [] => true
  | known, certificate :: rest =>
      check known certificate && checkAll (certificate.number :: known) rest

theorem prime_of_check
    {known : List Nat}
    {certificate : PrimeCertificate}
    (knownPrime : ∀ number ∈ known, number.Prime)
    (checked : check known certificate = true) :
    certificate.number.Prime := by
  simp only [check, Bool.and_eq_true, decide_eq_true_eq, beq_iff_eq, List.all_eq_true,
    Bool.or_eq_true, List.contains_iff_mem, bne_iff_ne, ne_eq] at checked
  obtain ⟨⟨⟨one_lt, product⟩, fermat⟩, generates⟩ := checked
  have power_eq (exponent : Nat) (le : exponent ≤ certificate.number) :
      (powerModulo certificate.number (certificate.number.log2 + 1) certificate.generator
        exponent 1 : ZMod certificate.number) =
          (certificate.generator : ZMod certificate.number) ^ exponent := by
    have fits := le.trans_lt Nat.lt_log2_self
    rw [cast_powerModulo _ _ _ _ _ fits, Nat.cast_one, one_mul]
  refine lucas_primality _ certificate.generator ?_ ?_
  · rw [← power_eq _ (by omega), fermat, Nat.cast_one]
  · intro divisor divisorPrime divides
    rw [← product] at divides
    obtain ⟨factor, member, divides⟩ := (divisorPrime.prime.dvd_prod_iff).1 divides
    obtain ⟨factorKnown, powerNe⟩ := generates factor member
    have factorPrime : factor.Prime := by
      rcases factorKnown with small | found
      · exact prime_of_isSmallPrime small
      · exact knownPrime factor found
    have equal := (Nat.prime_dvd_prime_iff_eq divisorPrime factorPrime).1 divides
    subst equal
    intro powerOne
    rw [← power_eq _ ((Nat.div_le_self _ _).trans (by omega))] at powerOne
    have congruent := (ZMod.natCast_eq_natCast_iff' _ 1 _).1 (powerOne.trans Nat.cast_one.symm)
    exact powerNe (by rw [congruent, Nat.mod_eq_of_lt one_lt])

/-- Every number of an accepted chain is prime. -/
theorem prime_of_checkAll
    {known : List Nat}
    {certificates : List PrimeCertificate}
    (knownPrime : ∀ number ∈ known, number.Prime)
    (checked : checkAll known certificates = true)
    {certificate : PrimeCertificate}
    (member : certificate ∈ certificates) :
    certificate.number.Prime := by
  induction certificates generalizing known with
  | nil => cases member
  | cons first rest inductionHypothesis =>
      simp only [checkAll, Bool.and_eq_true] at checked
      obtain ⟨firstChecked, restChecked⟩ := checked
      have firstPrime := prime_of_check knownPrime firstChecked
      rcases List.mem_cons.1 member with equal | inRest
      · subst equal
        exact firstPrime
      · refine inductionHypothesis ?_ restChecked inRest
        intro number numberMember
        rcases List.mem_cons.1 numberMember with equal | inKnown
        · exact equal ▸ firstPrime
        · exact knownPrime number inKnown

end PrimeCertificate
end Groth16
