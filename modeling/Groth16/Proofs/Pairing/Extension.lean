import Groth16.Power
import Mathlib.Algebra.Group.Prod
import Mathlib.Tactic.Ring

/-!
# Extensions by a cocycle

The values of lines form a cocycle on the group of the twist. The pairs of a point and a
factor then form a group, in which the lifts of points multiply up to the cocycle, and the
Miller loop is the computation of a power in that group. The product of the lifts of a
point under a power and three powers of an endomorphism depends on the point, and on the
cocycle, multiplicatively, when the cocycle turns the endomorphism into a power.
-/

namespace Groth16

variable {G Γ Δ : Type} [AddCommGroup G] [CommGroup Γ] [CommGroup Δ]

/-- The product for the exponent `s + φ - φ ^ 2 + φ ^ 3` of the ate pairing, given the images
under the powers of `φ`. -/
def ateProduct
    {M : Type} [CommGroup M]
    (s : Nat)
    (x₀ x₁ x₂ x₃ : M) : M :=
  x₀ ^ s * x₁ * x₂⁻¹ * x₃

theorem ateProduct_mul
    {M : Type} [CommGroup M]
    (s : Nat)
    (x₀ x₁ x₂ x₃ y₀ y₁ y₂ y₃ : M) :
    ateProduct s (x₀ * y₀) (x₁ * y₁) (x₂ * y₂) (x₃ * y₃) =
      ateProduct s x₀ x₁ x₂ x₃ * ateProduct s y₀ y₁ y₂ y₃ := by
  simp only [ateProduct, mul_pow, mul_inv]
  ac_rfl

theorem map_ateProduct
    {M N : Type} [CommGroup M] [CommGroup N]
    (h : M →* N)
    (s : Nat)
    (x₀ x₁ x₂ x₃ : M) :
    h (ateProduct s x₀ x₁ x₂ x₃) = ateProduct s (h x₀) (h x₁) (h x₂) (h x₃) := by
  simp only [ateProduct, map_mul, map_pow, map_inv]

/-- An element of order `r` on which `φ` is the power of exponent `q` has no part in the
product. -/
theorem ateProduct_eq_one
    {M : Type} [CommGroup M]
    {s q r : Nat}
    (divides : ∃ k, s + q + q ^ 3 = q ^ 2 + r * k)
    {γ : M}
    (order : γ ^ r = 1) :
    ateProduct s γ (γ ^ q) ((γ ^ q) ^ q) (((γ ^ q) ^ q) ^ q) = 1 := by
  obtain ⟨k, equal⟩ := divides
  rw [ateProduct, ← pow_mul, ← pow_mul, mul_right_comm, mul_inv_eq_one, ← pow_add, ← pow_add,
    show q * q * q = q ^ 3 by ring, equal, pow_add, pow_mul _ r, order, one_pow, mul_one, pow_two]

/-- A symmetric cocycle that is one on opposite points and on the identity. -/
@[ext]
structure Cocycle
    (G Γ : Type)
    [AddCommGroup G]
    [CommGroup Γ] where
  value : G → G → Γ
  comm : ∀ A B, value A B = value B A
  assoc : ∀ A B D, value A B * value (A + B) D = value B D * value A (B + D)
  zero : ∀ A, value 0 A = 1
  neg : ∀ A, value A (-A) = 1

namespace Cocycle

instance : One (Cocycle G Γ) := ⟨⟨fun _ _ => 1, by simp, by simp, by simp, by simp⟩⟩

@[simp] theorem one_value (A B : G) : (1 : Cocycle G Γ).value A B = 1 := rfl

theorem eq_one_of_opposite
    (c : Cocycle G Γ)
    {A B : G}
    (opposite : A = 0 ∨ B = 0 ∨ B = -A) :
    c.value A B = 1 := by
  rcases opposite with rfl | rfl | rfl
  · exact c.zero B
  · rw [c.comm, c.zero]
  · exact c.neg A

/-- The cocycle with the images of the values. -/
def map
    (h : Γ →* Δ)
    (c : Cocycle G Γ) : Cocycle G Δ where
  value A B := h (c.value A B)
  comm A B := by rw [c.comm]
  assoc A B D := by rw [← map_mul, ← map_mul, c.assoc]
  zero A := by rw [c.zero, map_one]
  neg A := by rw [c.neg, map_one]

/-- The cocycle with the pairs of the values. -/
def pair
    (c : Cocycle G Γ)
    (c' : Cocycle G Δ) : Cocycle G (Γ × Δ) where
  value A B := (c.value A B, c'.value A B)
  comm A B := by rw [c.comm, c'.comm]
  assoc A B D := by rw [Prod.mk_mul_mk, Prod.mk_mul_mk, c.assoc, c'.assoc]
  zero A := by rw [c.zero, c'.zero, Prod.mk_one_one]
  neg A := by rw [c.neg, c'.neg, Prod.mk_one_one]

/-- The cocycle with the products of the values. -/
def mul (c c' : Cocycle G Γ) : Cocycle G Γ :=
  (c.pair c').map (mulMonoidHom : Γ × Γ →* Γ)

theorem mul_value
    (c c' : Cocycle G Γ)
    (A B : G) :
    (c.mul c').value A B = c.value A B * c'.value A B := rfl

/-- The extension of the group by the factors. -/
@[ext]
structure Extension (c : Cocycle G Γ) where
  point : G
  factor : Γ

namespace Extension

variable {c : Cocycle G Γ}

instance : Mul (Extension c) :=
  ⟨fun x y => ⟨x.point + y.point, x.factor * y.factor * c.value x.point y.point⟩⟩

instance : One (Extension c) := ⟨⟨0, 1⟩⟩

instance : Inv (Extension c) := ⟨fun x => ⟨-x.point, x.factor⁻¹⟩⟩

@[simp] theorem mul_point (x y : Extension c) : (x * y).point = x.point + y.point := rfl
@[simp] theorem mul_factor (x y : Extension c) :
    (x * y).factor = x.factor * y.factor * c.value x.point y.point := rfl
@[simp] theorem one_point : (1 : Extension c).point = 0 := rfl
@[simp] theorem one_factor : (1 : Extension c).factor = 1 := rfl
@[simp] theorem inv_point (x : Extension c) : x⁻¹.point = -x.point := rfl
@[simp] theorem inv_factor (x : Extension c) : x⁻¹.factor = x.factor⁻¹ := rfl

instance : CommGroup (Extension c) where
  mul_assoc x y z := by
    ext1
    · exact add_assoc _ _ _
    · simp only [mul_factor, mul_point]
      calc x.factor * y.factor * c.value x.point y.point * z.factor *
            c.value (x.point + y.point) z.point
          = x.factor * y.factor * z.factor *
              (c.value x.point y.point * c.value (x.point + y.point) z.point) := by
            simp only [mul_assoc, mul_comm, mul_left_comm]
        _ = x.factor * y.factor * z.factor *
              (c.value y.point z.point * c.value x.point (y.point + z.point)) := by
            rw [c.assoc]
        _ = _ := by simp only [mul_assoc]
  one_mul x := by ext1 <;> simp [c.zero]
  mul_one x := by ext1 <;> simp [c.comm _ 0, c.zero]
  inv_mul_cancel x := by ext1 <;> simp [c.comm _ x.point, c.neg]
  mul_comm x y := by
    ext1
    · exact add_comm _ _
    · rw [mul_factor, mul_factor, c.comm, mul_comm x.factor]

/-- A factor as an element of the extension. -/
def ofFactor : Γ →* Extension c where
  toFun factor := ⟨0, factor⟩
  map_one' := rfl
  map_mul' x y := by ext1 <;> simp [c.zero]

@[simp] theorem ofFactor_point (factor : Γ) : (ofFactor factor : Extension c).point = 0 := rfl
@[simp] theorem ofFactor_factor (factor : Γ) :
    (ofFactor factor : Extension c).factor = factor := rfl

/-- The point of an element. -/
def pointHom : Extension c →* Multiplicative G where
  toFun x := Multiplicative.ofAdd x.point
  map_one' := rfl
  map_mul' _ _ := rfl

theorem pow_point
    (x : Extension c)
    (n : Nat) :
    (x ^ n).point = n • x.point :=
  congrArg Multiplicative.toAdd (map_pow pointHom x n)

/-- The lift of a point, with factor one. -/
def lift (c : Cocycle G Γ) (A : G) : Extension c := ⟨A, 1⟩

@[simp] theorem lift_point (A : G) : (lift c A).point = A := rfl
@[simp] theorem lift_factor (A : G) : (lift c A).factor = 1 := rfl

theorem lift_neg (A : G) : lift c (-A) = (lift c A)⁻¹ := by
  ext1 <;> simp

/-- The lift of a sum is the product of the lifts, up to the cocycle. -/
theorem lift_add (A B : G) :
    lift c (A + B) = lift c A * lift c B * ofFactor (c.value A B)⁻¹ := by
  rw [map_inv, eq_mul_inv_iff_mul_eq]
  ext1 <;> simp [c.comm _ 0, c.zero]

/-- The extension by the images of the factors. -/
def mapFactor (h : Γ →* Δ) : Extension c →* Extension (c.map h) where
  toFun x := ⟨x.point, h x.factor⟩
  map_one' := by ext1 <;> simp
  map_mul' x y := by
    ext1
    · rfl
    · simp only [mul_factor, map_mul]
      rfl

@[simp] theorem mapFactor_factor (h : Γ →* Δ) (x : Extension c) :
    (mapFactor h x).factor = h x.factor := rfl

@[simp] theorem mapFactor_lift (h : Γ →* Δ) (A : G) :
    mapFactor h (lift c A) = lift (c.map h) A := by
  ext1
  · rfl
  · exact map_one h

/-! ## The element of the ate pairing -/

variable (φ : G →+ G) (s : Nat)

/-- The product of the lifts of a point and of its images, for the exponent
`s + φ - φ ^ 2 + φ ^ 3`. -/
def ate
    (c : Cocycle G Γ)
    (A : G) : Extension c :=
  ateProduct s (lift c A) (lift c (φ A)) (lift c (φ (φ A))) (lift c (φ (φ (φ A))))

theorem ate_point (A : G) :
    (ate φ s c A).point = s • A + φ A - φ (φ A) + φ (φ (φ A)) := by
  simp only [ate, ateProduct, mul_point, pow_point, inv_point, lift_point, sub_eq_add_neg]

/-- Where the exponent vanishes, the last lift adds nothing to the factor. -/
theorem ate_factor_of_closes
    {φ : G →+ G}
    {s : Nat}
    {A : G}
    (closes : s • A + φ A - φ (φ A) + φ (φ (φ A)) = 0) :
    (ate φ s c A).factor =
      (lift c A ^ s * lift c (φ A) * lift c (-φ (φ A))).factor := by
  have opposite : φ (φ (φ A)) = -(lift c A ^ s * lift c (φ A) * lift c (-φ (φ A))).point := by
    simp only [mul_point, pow_point, lift_point, ← sub_eq_add_neg]
    exact eq_neg_of_add_eq_zero_right closes
  rw [ate, ateProduct, ← lift_neg, mul_factor, lift_factor, mul_one, lift_point,
    c.eq_one_of_opposite (.inr (.inr opposite)), mul_one]

theorem mapFactor_ate
    (h : Γ →* Δ)
    (A : G) :
    mapFactor h (ate φ s c A) = ate φ s (c.map h) A := by
  simp only [ate, map_ateProduct, mapFactor_lift]

/-- The factor is multiplicative in the cocycle. -/
theorem ate_mul_factor
    (c c' : Cocycle G Γ)
    (A : G) :
    (ate φ s (c.mul c') A).factor = (ate φ s c A).factor * (ate φ s c' A).factor := by
  have first := congrArg factor (mapFactor_ate φ s (c := c.pair c') (MonoidHom.fst Γ Γ) A)
  have second := congrArg factor (mapFactor_ate φ s (c := c.pair c') (MonoidHom.snd Γ Γ) A)
  have product := congrArg factor (mapFactor_ate φ s (c := c.pair c') mulMonoidHom A)
  exact product.symm.trans (congrArg₂ (· * ·) first second)

variable {φ s} {q r : Nat}

/-- The element is multiplicative in the point. -/
theorem ate_add
    (divides : ∃ k, s + q + q ^ 3 = q ^ 2 + r * k)
    (power : ∀ A B, c.value (φ A) (φ B) = c.value A B ^ q)
    (order : ∀ A B, c.value A B ^ r = 1)
    (A B : G) :
    ate φ s c (A + B) = ate φ s c A * ate φ s c B := by
  have inverse_order : (c.value A B)⁻¹ ^ r = 1 := by
    rw [inv_pow, order, inv_one]
  have trivial := congrArg (ofFactor (c := c)) (ateProduct_eq_one divides inverse_order)
  rw [map_ateProduct, map_one] at trivial
  simp only [ate, map_add, lift_add, power, ateProduct_mul, ← inv_pow]
  exact mul_eq_left.mpr trivial

section Coboundary

variable {c c' : Cocycle G Γ} {d : G → Γ}

theorem coboundary_zero
    (coboundary : ∀ A B, c.value A B * d (A + B) = c'.value A B * (d A * d B)) :
    d 0 = 1 := by
  have equal := coboundary 0 0
  rw [c.zero, c'.zero, one_mul, one_mul, add_zero] at equal
  exact (mul_eq_left.mp equal.symm)

/-- Cocycles that differ by a coboundary have the same extension. -/
def changeLift
    (coboundary : ∀ A B, c.value A B * d (A + B) = c'.value A B * (d A * d B)) :
    Extension c →* Extension c' where
  toFun x := ⟨x.point, x.factor * d x.point⟩
  map_one' := by
    ext1
    · rfl
    · rw [one_factor, one_point, coboundary_zero coboundary, one_factor, mul_one]
  map_mul' x y := by
    ext1
    · rfl
    · simp only [mul_factor, mul_point]
      rw [mul_assoc, coboundary]
      ac_rfl

theorem changeLift_lift
    (coboundary : ∀ A B, c.value A B * d (A + B) = c'.value A B * (d A * d B))
    (A : G) :
    changeLift coboundary (lift c A) = lift c' A * ofFactor (d A) := by
  ext1 <;> simp [changeLift, c'.comm _ 0, c'.zero]

/-- Cocycles that differ by a coboundary on which the endomorphism is a power give the same
element. -/
theorem changeLift_ate
    (coboundary : ∀ A B, c.value A B * d (A + B) = c'.value A B * (d A * d B))
    (divides : ∃ k, s + q + q ^ 3 = q ^ 2 + r * k)
    (power : ∀ A, d (φ A) = d A ^ q)
    (order : ∀ A, d A ^ r = 1)
    (A : G) :
    changeLift coboundary (ate φ s c A) = ate φ s c' A := by
  have trivial := congrArg (ofFactor (c := c')) (ateProduct_eq_one divides (order A))
  rw [map_ateProduct, map_one] at trivial
  simp only [ate, map_ateProduct, changeLift_lift, power, ateProduct_mul]
  exact mul_eq_left.mpr trivial

theorem ate_factor_eq
    (coboundary : ∀ A B, c.value A B * d (A + B) = c'.value A B * (d A * d B))
    (divides : ∃ k, s + q + q ^ 3 = q ^ 2 + r * k)
    (power : ∀ A, d (φ A) = d A ^ q)
    (order : ∀ A, d A ^ r = 1)
    {A : G}
    (closes : s • A + φ A - φ (φ A) + φ (φ (φ A)) = 0) :
    (ate φ s c A).factor = (ate φ s c' A).factor := by
  rw [← changeLift_ate coboundary divides power order]
  change _ = (ate φ s c A).factor * d (ate φ s c A).point
  rw [ate_point, closes, coboundary_zero coboundary, mul_one]

end Coboundary

/-- The factor is multiplicative in the points at which the exponent vanishes. -/
theorem ate_add_factor
    (divides : ∃ k, s + q + q ^ 3 = q ^ 2 + r * k)
    (power : ∀ A B, c.value (φ A) (φ B) = c.value A B ^ q)
    (order : ∀ A B, c.value A B ^ r = 1)
    {A B : G}
    (closes : s • A + φ A - φ (φ A) + φ (φ (φ A)) = 0) :
    (ate φ s c (A + B)).factor = (ate φ s c A).factor * (ate φ s c B).factor := by
  rw [ate_add divides power order, mul_factor, ate_point, closes, c.zero, mul_one]

end Extension
end Cocycle
end Groth16
