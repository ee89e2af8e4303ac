import Groth16.Proofs.Field.Encoding

/-!
# Computations in a prime field

Any sequence of field operations on registers keeps in each register the residue that the
same sequence of operations on residues gives. The operations and the comparison are thus
those of the integers modulo the modulus.
-/

namespace Groth16
namespace FieldElement

variable {F : FieldParameters}

/-- An operation on registers with the given numbers. -/
inductive Operation where
  | ofLimbs (n : Limbs)
  | ofWord (n : UInt64)
  | ofBytes (bytes : Bytes.Fixed 32)
  | ofBytesReduced (bytes : Bytes.Fixed 32)
  | add (left right : Nat)
  | sub (left right : Nat)
  | mul (left right : Nat)
  | neg (operand : Nat)
  | double (operand : Nat)
  | square (operand : Nat)
  | pow (operand : Nat) (exponent : Limbs)
  | invert (operand : Nat)

namespace Operation

/-- The element that the operation gives, unless it refuses. -/
def element (registers : Nat → FieldElement F) : Operation → Option (FieldElement F)
  | ofLimbs n => some (.ofLimbs n)
  | ofWord n => some (.ofWord n)
  | ofBytes bytes => (FieldElement.ofBytes? bytes.val).toOption
  | ofBytesReduced bytes => some (.ofBytesReduced bytes.val)
  | add left right => some (registers left + registers right)
  | sub left right => some (registers left - registers right)
  | mul left right => some (registers left * registers right)
  | neg operand => some (-registers operand)
  | double operand => some (registers operand).double
  | square operand => some (registers operand).square
  | pow operand exponent => some ((registers operand).pow exponent)
  | invert operand => (registers operand).inverse?

/-- The residue that the operation gives, unless it refuses. -/
def residue {modulus : Nat} (registers : Nat → ZMod modulus) : Operation → Option (ZMod modulus)
  | ofLimbs n => some n.toNat
  | ofWord n => some n.toNat
  | ofBytes bytes =>
    if Bytes.toNat bytes.val < modulus then some (Bytes.toNat bytes.val) else none
  | ofBytesReduced bytes => some (Bytes.toNat bytes.val)
  | add left right => some (registers left + registers right)
  | sub left right => some (registers left - registers right)
  | mul left right => some (registers left * registers right)
  | neg operand => some (-registers operand)
  | double operand => some (2 * registers operand)
  | square operand => some (registers operand ^ 2)
  | pow operand exponent => some (registers operand ^ exponent.toNat)
  | invert operand => if registers operand = 0 then none else some (registers operand)⁻¹

end Operation

/-- An operation whose result goes to a register. An assigning form is one whose target is
its left operand. -/
structure Instruction where
  target : Nat
  operation : Operation

namespace Instruction

/-- The registers after the instruction. A refusal leaves them as they are. -/
def execute
    (registers : Nat → FieldElement F)
    (instruction : Instruction) : Nat → FieldElement F :=
  match instruction.operation.element registers with
  | some result => Function.update registers instruction.target result
  | none => registers

/-- The residues after the instruction. -/
def executeResidues
    {modulus : Nat}
    (registers : Nat → ZMod modulus)
    (instruction : Instruction) : Nat → ZMod modulus :=
  match instruction.operation.residue registers with
  | some result => Function.update registers instruction.target result
  | none => registers

end Instruction

/-- The registers after the instructions, all zero at the start. -/
def run (program : List Instruction) : Nat → FieldElement F :=
  program.foldl Instruction.execute fun _ => 0

/-- The residues after the instructions, all zero at the start. -/
def runResidues (modulus : Nat) (program : List Instruction) : Nat → ZMod modulus :=
  program.foldl Instruction.executeResidues fun _ => 0

theorem toNat_canonical_intCast (n : Int) :
    ((n : FieldElement F).canonical.toNat : Int) = n % F.modulus.toNat := by
  have : NeZero F.modulus.toNat := ⟨F.modulus_pos.ne'⟩
  rw [← val_toZMod, toZMod_intCast, ZMod.val_intCast]

theorem toNat_canonical_add (x y : FieldElement F) :
    (x + y).canonical.toNat = (x.canonical.toNat + y.canonical.toNat) % F.modulus.toNat := by
  rw [← toNat_canonical_natCast, Nat.cast_add, natCast_toNat_canonical, natCast_toNat_canonical]

theorem toNat_canonical_mul (x y : FieldElement F) :
    (x * y).canonical.toNat = x.canonical.toNat * y.canonical.toNat % F.modulus.toNat := by
  rw [← toNat_canonical_natCast, Nat.cast_mul, natCast_toNat_canonical, natCast_toNat_canonical]

theorem toNat_canonical_pow (x : FieldElement F) (exponent : Nat) :
    (x ^ exponent).canonical.toNat = x.canonical.toNat ^ exponent % F.modulus.toNat := by
  rw [← toNat_canonical_natCast, Nat.cast_pow, natCast_toNat_canonical]

theorem toNat_canonical_sub (x y : FieldElement F) :
    ((x - y).canonical.toNat : Int) =
      ((x.canonical.toNat : Int) - y.canonical.toNat) % F.modulus.toNat := by
  rw [← toNat_canonical_intCast, Int.cast_sub, Int.cast_natCast, Int.cast_natCast,
    natCast_toNat_canonical, natCast_toNat_canonical]

theorem toNat_canonical_neg (x : FieldElement F) :
    ((-x).canonical.toNat : Int) = -(x.canonical.toNat : Int) % F.modulus.toNat := by
  rw [← toNat_canonical_intCast, Int.cast_neg, Int.cast_natCast, natCast_toNat_canonical]

theorem toNat_canonical_inj {x y : FieldElement F} :
    x.canonical.toNat = y.canonical.toNat ↔ x = y := by
  refine ⟨fun equal => ?_, fun equal => equal ▸ rfl⟩
  rw [← natCast_toNat_canonical x, equal, natCast_toNat_canonical]

variable [Fact F.modulus.toNat.Prime]

theorem toZMod_inv (x : FieldElement F) : (x⁻¹).toZMod = x.toZMod⁻¹ :=
  map_inv₀ (toZModHom F) x

theorem toZMod_eq_zero_iff (x : FieldElement F) : x.toZMod = 0 ↔ x = 0 :=
  map_eq_zero (toZModHom F)

/-- An operation on elements gives the residue of the operation on their residues. -/
theorem Operation.toZMod_element
    (registers : Nat → FieldElement F)
    (operation : Operation) :
    (operation.element registers).map toZMod =
      operation.residue fun number => (registers number).toZMod := by
  cases operation with
  | ofLimbs n => exact congrArg some (toZMod_ofLimbs n)
  | ofWord n =>
      simp only [element, residue, Option.map_some, ofWord_eq, toZMod_natCast]
  | ofBytes bytes =>
      rw [element, residue, ofBytes?_fixed]
      split
      · exact congrArg some (toZMod_natCast _)
      · rfl
  | ofBytesReduced bytes =>
      simp only [element, residue, Option.map_some, ofBytesReduced_eq, toZMod_natCast]
  | add left right => exact congrArg some (toZMod_add _ _)
  | sub left right => exact congrArg some (toZMod_sub _ _)
  | mul left right => exact congrArg some (toZMod_mul _ _)
  | neg operand => exact congrArg some (toZMod_neg _)
  | double operand =>
      simp only [element, residue, Option.map_some, FieldElement.double, toZMod_add, two_mul]
  | square operand =>
      simp only [element, residue, Option.map_some, FieldElement.square, toZMod_mul, pow_two]
  | pow operand exponent =>
      rw [element, residue, pow_eq]
      exact congrArg some (map_pow (toZModHom F) _ _)
  | invert operand =>
      rw [element, residue, inverse?_eq]
      simp only [toZMod_eq_zero_iff]
      split
      · rfl
      · exact congrArg some (toZMod_inv _)

/-- An instruction keeps the residues of the registers. -/
theorem Instruction.toZMod_execute
    (registers : Nat → FieldElement F)
    (instruction : Instruction) :
    (fun number => (instruction.execute registers number).toZMod) =
      instruction.executeResidues fun number => (registers number).toZMod := by
  have equal := instruction.operation.toZMod_element registers
  unfold execute executeResidues
  rw [← equal]
  cases instruction.operation.element registers with
  | none => rfl
  | some result =>
      funext number
      simp only [Option.map_some, Function.update_apply]
      split <;> rfl

/-- A program keeps the residues of the registers. -/
theorem toZMod_foldl_execute
    (program : List Instruction)
    (registers : Nat → FieldElement F) :
    (fun number => (program.foldl Instruction.execute registers number).toZMod) =
      program.foldl Instruction.executeResidues fun number => (registers number).toZMod := by
  induction program generalizing registers with
  | nil => rfl
  | cons instruction rest inductionHypothesis =>
      rw [List.foldl_cons, List.foldl_cons, inductionHypothesis,
        Instruction.toZMod_execute]

theorem toZMod_run
    (program : List Instruction)
    (number : Nat) :
    (run program number : FieldElement F).toZMod = runResidues _ program number := by
  have equal := toZMod_foldl_execute program fun _ => (0 : FieldElement F)
  simp only [toZMod_zero] at equal
  exact congrFun equal number

end FieldElement

/-- The elements are the integers modulo a prime, by their canonical numbers. -/
structure FieldParameters.IsPrimeField (F : FieldParameters) : Prop where
  prime : F.modulus.toNat.Prime
  /-- Every value that a sequence of operations reaches is reduced, and it stands for what
  the same sequence of operations on residues gives. -/
  reachable : ∀ (program : List FieldElement.Instruction) (number : Nat),
    (FieldElement.run program number : FieldElement F).residue.toNat < F.modulus.toNat ∧
      (FieldElement.run program number : FieldElement F).canonical.toNat =
        (FieldElement.runResidues F.modulus.toNat program number).val
  add : ∀ x y : FieldElement F,
    (x + y).canonical.toNat = (x.canonical.toNat + y.canonical.toNat) % F.modulus.toNat
  sub : ∀ x y : FieldElement F,
    ((x - y).canonical.toNat : Int) =
      ((x.canonical.toNat : Int) - y.canonical.toNat) % F.modulus.toNat
  neg : ∀ x : FieldElement F,
    ((-x).canonical.toNat : Int) = -(x.canonical.toNat : Int) % F.modulus.toNat
  double : ∀ x : FieldElement F,
    x.double.canonical.toNat = 2 * x.canonical.toNat % F.modulus.toNat
  mul : ∀ x y : FieldElement F,
    (x * y).canonical.toNat = x.canonical.toNat * y.canonical.toNat % F.modulus.toNat
  square : ∀ x : FieldElement F,
    x.square.canonical.toNat = x.canonical.toNat ^ 2 % F.modulus.toNat
  beq_iff : ∀ x y : FieldElement F,
    (x == y) = true ↔ x.canonical.toNat = y.canonical.toNat
  pow : ∀ (x : FieldElement F) (exponent : Limbs),
    (x.pow exponent).canonical.toNat =
      x.canonical.toNat ^ exponent.toNat % F.modulus.toNat
  inverse?_eq_none_iff : ∀ x : FieldElement F, x.inverse? = none ↔ x = 0
  mul_inverse? : ∀ x y : FieldElement F, x.inverse? = some y → x * y = 1

namespace FieldParameters

/-- A field of prime modulus computes with the integers modulo it. -/
theorem isPrimeField_of_prime
    (F : FieldParameters)
    [prime : Fact F.modulus.toNat.Prime] :
    F.IsPrimeField where
  prime := prime.out
  reachable program number := by
    refine ⟨(FieldElement.run program number).residue_lt, ?_⟩
    rw [← FieldElement.val_toZMod, FieldElement.toZMod_run]
  add := FieldElement.toNat_canonical_add
  sub := FieldElement.toNat_canonical_sub
  neg := FieldElement.toNat_canonical_neg
  double x := by
    rw [FieldElement.double, FieldElement.toNat_canonical_add, two_mul]
  mul := FieldElement.toNat_canonical_mul
  square x := by
    rw [FieldElement.square, FieldElement.toNat_canonical_mul, pow_two]
  beq_iff x y := by
    rw [beq_iff_eq, FieldElement.toNat_canonical_inj]
  pow x exponent := by
    rw [FieldElement.pow_eq, FieldElement.toNat_canonical_pow]
  inverse?_eq_none_iff x := by
    rw [FieldElement.inverse?_eq]
    split
    next zero => exact iff_of_true rfl zero
    next nonzero => exact iff_of_false nofun nonzero
  mul_inverse? x y inverse := by
    rw [FieldElement.inverse?_eq] at inverse
    split at inverse
    next => cases inverse
    next nonzero =>
      cases inverse
      exact FieldElement.mul_inv_of_ne_zero nonzero

/-- Both fields of the curve compute with the integers modulo their prime. -/
theorem isPrimeField_scalar_and_base : scalar.IsPrimeField ∧ base.IsPrimeField :=
  ⟨isPrimeField_of_prime scalar, isPrimeField_of_prime base⟩

end FieldParameters
end Groth16
