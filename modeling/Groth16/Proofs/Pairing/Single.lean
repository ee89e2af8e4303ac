import Groth16.Proofs.Pairing.Loop

/-!
# The loop of one pair

On a pair of finite validated points the running multiple of the loop never meets a point
it cannot add: the multiples read from the digits stay between one and the group order. So
the product of the loop has the factor of the element of the ate pairing, and the final
exponentiation gives the value of the pairing.
-/

namespace Groth16
namespace Pairing

theorem zpow_point
    {G Γ : Type} [AddCommGroup G] [CommGroup Γ]
    {c : Cocycle G Γ}
    (x : Cocycle.Extension c)
    (n : Int) :
    (x ^ n).point = n • x.point :=
  congrArg Multiplicative.toAdd (map_zpow Cocycle.Extension.pointHom x n)

/-- A multiple of a finite point of the subgroup is the identity only if the order divides
its factor. -/
theorem zsmul_ne_zero
    {Q : Curve.g2.Point}
    (member : Q ∈ G2.subgroup)
    (finite : Q ≠ 0)
    {n : Int}
    (indivisible : ¬(groupOrder : Int) ∣ n) :
    n • Q ≠ 0 := by
  intro zero
  have order := addOrderOf_eq_prime (G2.groupOrder_nsmul_of_mem member) finite
  rw [← order] at indivisible
  exact indivisible (addOrderOf_dvd_iff_zsmul_eq_zero.mpr zero)

theorem not_dvd_of_lt
    {n : Int}
    (positive : 0 < n)
    (small : n < groupOrder) :
    ¬(groupOrder : Int) ∣ n :=
  fun divides => absurd (Int.le_of_dvd positive divides) (not_le.mpr small)

/-- The group order separates the multiples by two numbers: they are neither equal nor opposite,
and the first one is not the identity. -/
def AreApart (number added : Int) : Prop :=
  ¬(groupOrder : Int) ∣ number ∧ ¬(groupOrder : Int) ∣ number - added ∧
    ¬(groupOrder : Int) ∣ number + added

instance (number added : Int) : Decidable (AreApart number added) :=
  inferInstanceAs (Decidable (_ ∧ _ ∧ _))

theorem AreApart.zsmul
    {number added : Int}
    (apart : AreApart number added)
    {Q : Curve.g2.Point}
    (member : Q ∈ G2.subgroup)
    (finite : Q ≠ 0) :
    number • Q ≠ 0 ∧ number • Q ≠ added • Q ∧ number • Q ≠ -(added • Q) := by
  obtain ⟨nonzero, different, opposite⟩ := apart
  refine ⟨zsmul_ne_zero member finite nonzero, ?_, ?_⟩
  · intro equal
    exact zsmul_ne_zero member finite different (by rw [sub_zsmul, equal, add_neg_cancel])
  · intro equal
    exact zsmul_ne_zero member finite opposite (by rw [add_zsmul, equal, neg_add_cancel])

theorem areApart_of_lt
    {number digit : Int}
    (positive : 1 < number)
    (small : number + 1 < groupOrder)
    (signed : digit = -1 ∨ digit = 1) :
    AreApart number digit :=
  ⟨not_dvd_of_lt (by omega) (by omega), not_dvd_of_lt (by omega) (by omega),
    not_dvd_of_lt (by omega) (by omega)⟩

/-- The number that signed digits denote after the number read so far. -/
def signedValue (number : Int) (digits : List Int) : Int :=
  digits.foldl (fun number digit => 2 * number + digit) number

theorem signedValue_ateDigits : signedValue 1 ateDigits = loopCount := by decide +kernel

theorem ateDigits_signed : ∀ digit ∈ ateDigits, digit = -1 ∨ digit = 0 ∨ digit = 1 := by decide

theorem frobenius_eq (x y : Fq2) :
    Track.frobenius x y =
      (G2.rootFactor ^ 2 * x.conjugate, G2.rootFactor ^ 3 * y.conjugate) := by
  rw [Track.frobenius, G2.psiFactorX_eq, G2.psiFactorY_eq, mul_comm, mul_comm y.conjugate]

/-- A point or its negative, by the sign of a digit. -/
theorem signed_equation
    {x y : Fq2}
    (equation : y ^ 2 = x ^ 3 + Curve.g2.b)
    (digit : Int) :
    (if digit = 1 then y else -y) ^ 2 = x ^ 3 + Curve.g2.b := by
  split
  · exact equation
  · exact Curve.neg_equation equation

theorem signed_point
    {x y : Fq2}
    (equation : y ^ 2 = x ^ 3 + Curve.g2.b)
    {digit : Int}
    (signed : digit = -1 ∨ digit = 1) :
    Curve.point x (if digit = 1 then y else -y) (signed_equation equation digit) =
      digit • Curve.point x y equation := by
  rcases signed with rfl | rfl
  · rw [neg_one_zsmul, Curve.neg_point]
    rfl
  · rw [one_zsmul]
    rfl

/-- On the subgroup the endomorphism is a multiplication, also by an integer. -/
theorem endomorphism_eq_zsmul
    {Q : Curve.g2.Point}
    (member : Q ∈ G2.subgroup) :
    G2.endomorphism Q = (G2.eigenvalue : Int) • Q := by
  rw [natCast_zsmul]
  exact member

theorem neg_endomorphism_endomorphism_eq_zsmul
    {Q : Curve.g2.Point}
    (member : Q ∈ G2.subgroup) :
    -G2.endomorphism (G2.endomorphism Q) = (-(G2.eigenvalue : Int) ^ 2) • Q := by
  rw [endomorphism_eq_zsmul member, map_zsmul, endomorphism_eq_zsmul member, smul_smul, pow_two,
    neg_smul]

/-- The first addition after the digits adds the image under the endomorphism. -/
theorem addFrobenius_eq_add (track : Track) :
    track.addFrobenius =
      track.add (G2.rootFactor ^ 2 * track.qx.conjugate)
        (G2.rootFactor ^ 3 * track.qy.conjugate) := by
  rw [Track.addFrobenius, frobenius_eq]

/-- The second addition after the digits subtracts the image under the square of the
endomorphism. -/
theorem subFrobeniusSquared_eq_add (track : Track) :
    track.subFrobeniusSquared =
      track.add (G2.rootFactor ^ 2 * (G2.rootFactor ^ 2 * track.qx.conjugate).conjugate)
        (-(G2.rootFactor ^ 3 * (G2.rootFactor ^ 3 * track.qy.conjugate).conjugate)) := by
  simp only [Track.subFrobeniusSquared, frobenius_eq]

theorem moveTrack_congr
    {step step' : Track → Line × Track}
    {state : Fq12 × Track}
    (equal : step state.2 = step' state.2) :
    moveTrack step state = moveTrack step' state := by
  rw [moveTrack, moveTrack, equal]

namespace TrackFollows

variable {px py : Fq} {equation : py ^ 2 = px ^ 3 + Curve.g1.b}
variable {qx qy : Fq2} {onTwist : qy ^ 2 = qx ^ 3 + Curve.g2.b}

/-- Adding a multiple of the point to another one that is neither equal nor opposite. -/
theorem addMultiple
    (member : Curve.point qx qy onTwist ∈ G2.subgroup)
    {element : Cocycle.Extension (finiteCocycle equation)}
    {number added : Int}
    (pointEq : element.point = number • Curve.point qx qy onTwist)
    {x y : Fq2}
    {addedTwist : y ^ 2 = x ^ 3 + Curve.g2.b}
    (addedEq : Curve.point x y addedTwist = added • Curve.point qx qy onTwist)
    (apart : AreApart number added)
    {state : Fq12 × Track}
    (follows : TrackFollows equation qx qy element state)
    {step : Track → Line × Track}
    (adds : step state.2 = Track.add x y state.2) :
    TrackFollows equation qx qy
      (element * Cocycle.Extension.lift _ (Curve.point x y addedTwist))
      (moveTrack step state) := by
  obtain ⟨product, track⟩ := state
  have separate := apart.zsmul member (Curve.point_ne_zero onTwist)
  rw [← pointEq, ← addedEq] at separate
  obtain ⟨finite, different, opposite⟩ := separate
  rw [moveTrack_congr adds]
  exact follows.add addedTwist finite different opposite

/-- Adding the point, or its negative for a negative digit. -/
theorem addDigit
    (member : Curve.point qx qy onTwist ∈ G2.subgroup)
    {number digit : Int}
    (apart : AreApart number digit)
    (signed : digit = -1 ∨ digit = 1)
    {state : Fq12 × Track}
    (follows : TrackFollows equation qx qy
      (Cocycle.Extension.lift _ (Curve.point qx qy onTwist) ^ number) state) :
    TrackFollows equation qx qy
      (Cocycle.Extension.lift _ (Curve.point qx qy onTwist) ^ (number + digit))
      (moveTrack (Track.addDigit digit) state) := by
  have signedPoint := signed_point onTwist signed
  have lifted : Cocycle.Extension.lift (finiteCocycle equation)
      (Curve.point qx (if digit = 1 then qy else -qy) (signed_equation onTwist digit)) =
      Cocycle.Extension.lift _ (Curve.point qx qy onTwist) ^ digit := by
    rw [signedPoint]
    rcases signed with rfl | rfl
    · rw [neg_one_zsmul, Cocycle.Extension.lift_neg, zpow_neg_one]
    · rw [one_zsmul, zpow_one]
  obtain ⟨_, _, qxEq, qyEq⟩ := follows.coordinates
  rw [zpow_add, ← lifted]
  exact follows.addMultiple member (zpow_point _ _) signedPoint apart
    (by rw [Track.addDigit, qxEq, qyEq])

/-- One digit doubles the number read so far and adds the digit. -/
theorem digit
    (member : Curve.point qx qy onTwist ∈ G2.subgroup)
    {number digit : Int}
    (positive : 0 < number)
    (small : 2 * number + 1 < groupOrder)
    (signed : digit = -1 ∨ digit = 0 ∨ digit = 1)
    {state : Fq12 × Track}
    (follows : TrackFollows equation qx qy
      (Cocycle.Extension.lift _ (Curve.point qx qy onTwist) ^ number) state) :
    TrackFollows equation qx qy
      (Cocycle.Extension.lift _ (Curve.point qx qy onTwist) ^ (2 * number + digit))
      (digitTrack state digit) := by
  have doubled := follows.double (by
    rw [zpow_point]
    exact zsmul_ne_zero member (Curve.point_ne_zero onTwist)
      (not_dvd_of_lt positive (by omega)))
  rw [← zpow_add, ← two_mul] at doubled
  rw [digitTrack]
  split
  next zero => rwa [zero, add_zero]
  next nonzero =>
    have minusOrOne : digit = -1 ∨ digit = 1 := by omega
    exact doubled.addDigit member (areApart_of_lt (by omega) (by omega) minusOrOne) minusOrOne

/-- The digits multiply the point by the number that they denote. -/
theorem digits
    (member : Curve.point qx qy onTwist ∈ G2.subgroup)
    (digits : List Int)
    (signed : ∀ digit ∈ digits, digit = -1 ∨ digit = 0 ∨ digit = 1)
    {number : Int}
    (positive : 0 < number)
    (small : (number + 1) * 2 ^ digits.length ≤ groupOrder)
    {state : Fq12 × Track}
    (follows : TrackFollows equation qx qy
      (Cocycle.Extension.lift _ (Curve.point qx qy onTwist) ^ number) state) :
    TrackFollows equation qx qy
      (Cocycle.Extension.lift _ (Curve.point qx qy onTwist) ^ signedValue number digits)
      (digits.foldl digitTrack state) := by
  induction digits generalizing number state with
  | nil => exact follows
  | cons first rest inductionHypothesis =>
      have range := signed first List.mem_cons_self
      rw [List.length_cons, pow_succ] at small
      have power : (1 : Int) ≤ 2 ^ rest.length := one_le_pow₀ (by norm_num)
      have bound : 2 * number + 1 < groupOrder := by nlinarith
      have nextPositive : 0 < 2 * number + first := by omega
      refine inductionHypothesis (fun digit member => signed digit (List.mem_cons_of_mem _ member))
        nextPositive ?_ (follows.digit member positive bound range)
      calc (2 * number + first + 1) * 2 ^ rest.length
          ≤ (2 * number + 2) * 2 ^ rest.length :=
            mul_le_mul_of_nonneg_right (by omega) (by positivity)
        _ = (number + 1) * (2 ^ rest.length * 2) := by ring
        _ ≤ groupOrder := small

/-- The additions after the digits complete the element of the ate pairing, up to a lift that
is opposite to it. -/
theorem close
    (member : Curve.point qx qy onTwist ∈ G2.subgroup)
    {state : Fq12 × Track}
    (follows : TrackFollows equation qx qy
      (Cocycle.Extension.lift _ (Curve.point qx qy onTwist) ^ (loopCount : Int)) state) :
    TrackFollows equation qx qy
      (Cocycle.Extension.lift _ (Curve.point qx qy onTwist) ^ (loopCount : Int) *
        Cocycle.Extension.lift _ (G2.endomorphism (Curve.point qx qy onTwist)) *
        Cocycle.Extension.lift _
          (-G2.endomorphism (G2.endomorphism (Curve.point qx qy onTwist))))
      (closeTrack state) := by
  have eigen := endomorphism_eq_zsmul member
  have eigenSquare := neg_endomorphism_endomorphism_eq_zsmul member
  have once := G2.frobenius_equation onTwist
  have twice := G2.frobenius_equation once
  have adds : Track.addFrobenius state.2 =
      Track.add (G2.rootFactor ^ 2 * qx.conjugate) (G2.rootFactor ^ 3 * qy.conjugate) state.2 := by
    obtain ⟨_, _, qxEq, qyEq⟩ := follows.coordinates
    rw [addFrobenius_eq_add, qxEq, qyEq]
  have onceEq : Curve.point _ _ once =
      (G2.eigenvalue : Int) • Curve.point qx qy onTwist := eigen
  have firstAdded := follows.addMultiple member (zpow_point _ _) onceEq (by decide) adds
  have negated : -G2.endomorphism (G2.endomorphism (Curve.point qx qy onTwist)) =
      Curve.point _ _ (Curve.neg_equation twice) := Curve.neg_point twice
  have sumEq : (Cocycle.Extension.lift (finiteCocycle equation) (Curve.point qx qy onTwist) ^
      (loopCount : Int) * Cocycle.Extension.lift _ (Curve.point _ _ once)).point =
      (loopCount + G2.eigenvalue : Int) • Curve.point qx qy onTwist := by
    rw [Cocycle.Extension.mul_point, zpow_point, Cocycle.Extension.lift_point,
      Cocycle.Extension.lift_point, add_zsmul, ← eigen]
    rfl
  rw [negated] at eigenSquare ⊢
  refine firstAdded.addMultiple member sumEq eigenSquare (by decide) ?_
  obtain ⟨_, _, qxEq, qyEq⟩ := firstAdded.coordinates
  rw [subFrobeniusSquared_eq_add, qxEq, qyEq]

end TrackFollows

/-- The track of a pair of finite points at the start. -/
def startTrack (px py : Fq) (qx qy : Fq2) : Track := ⟨px, py, qx, qy, ⟨qx, qy, 1⟩⟩

section Run

variable {px py : Fq} (equation : py ^ 2 = px ^ 3 + Curve.g1.b)
variable {qx qy : Fq2} (onTwist : qy ^ 2 = qx ^ 3 + Curve.g2.b)

theorem startTrack_follows :
    TrackFollows equation qx qy (Cocycle.Extension.lift _ (Curve.point qx qy onTwist))
      (1, startTrack px py qx qy) := by
  have denotes : (⟨qx, qy, 1⟩ : G2.Projective).Denotes (Curve.point qx qy onTwist) :=
    ProjectivePoint.denotes_point_iff.mpr ⟨one_ne_zero, (mul_one qx).symm, (mul_one qy).symm⟩
  exact ⟨⟨rfl, rfl, rfl, rfl⟩, one_ne_zero, finalUnit_one, denotes⟩

/-- The loop computes the factor of the element of the ate pairing. -/
theorem finalUnit_trackProduct
    (member : Curve.point qx qy onTwist ∈ G2.subgroup) :
    trackProduct ateDigits (startTrack px py qx qy) ≠ 0 ∧
      finalUnit (trackProduct ateDigits (startTrack px py qx qy)) =
        ateUnit (Curve.point px py equation) (Curve.point qx qy onTwist) := by
  have start := startTrack_follows equation onTwist
  rw [← zpow_one (Cocycle.Extension.lift _ _)] at start
  have follows := start.digits member ateDigits ateDigits_signed one_pos (by decide)
  rw [signedValue_ateDigits] at follows
  have closed := follows.close member
  rw [zpow_natCast] at closed
  refine ⟨closed.nonzero, closed.factor.trans ?_⟩
  rw [ateUnit, lineCocycle_point]
  exact (Cocycle.Extension.ate_factor_of_closes (exponent_nsmul_eq_zero member)).symm

/-- The pairing of two finite validated points. -/
theorem pairing_finite
    (member : Curve.point qx qy onTwist ∈ G2.subgroup) :
    pairing (.finite px py) (.finite qx qy) =
      ⟨ateUnit (Curve.point px py equation) (Curve.point qx qy onTwist)⟩ := by
  obtain ⟨nonzero, unit⟩ := finalUnit_trackProduct equation onTwist member
  have loop : millerLoop [(.finite px py, .finite qx qy)] =
      trackProduct ateDigits (startTrack px py qx qy) := by
    rw [millerLoop_eq]
    exact List.prod_singleton
  rw [pairing, pairingProduct, loop, finalExponentiation_eq_finalUnit nonzero, unit]

end Run

/-- The pairing of validated points. -/
theorem pairing_ofPoint
    (P : Curve.g1.Point)
    {Q : Curve.g2.Point}
    (member : Q ∈ G2.subgroup) :
    pairing (.ofPoint P) (.ofPoint Q) = ⟨ateUnit P Q⟩ := by
  rcases Curve.eq_zero_or_eq_point P with rfl | ⟨px, py, equation, rfl⟩
  · rw [ateUnit_zero_left member, Units.val_one]
    exact pairing_eq_one rfl
  rcases Curve.eq_zero_or_eq_point Q with rfl | ⟨qx, qy, onTwist, rfl⟩
  · rw [ateUnit_zero_right, Units.val_one]
    exact pairing_eq_one rfl
  · exact pairing_finite equation onTwist member

end Pairing
end Groth16
