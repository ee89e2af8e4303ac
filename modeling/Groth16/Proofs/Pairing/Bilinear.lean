import Groth16.Proofs.Pairing.Reciprocity

/-!
# The pairing is bilinear

The pairing of two points is the factor of the element of the ate pairing in the extension
by the cocycle of the first point. On the subgroup the exponent of that element vanishes, so
the factor is multiplicative in both points.
-/

namespace Groth16

namespace G2

theorem generatorPoint_mem : generatorPoint ∈ subgroup := endomorphism_generatorPoint

theorem groupOrder_nsmul_of_mem
    {A : Curve.g2.Point}
    (member : A ∈ subgroup) :
    groupOrder • A = 0 :=
  groupOrder_nsmul_of_endomorphism member

end G2

namespace Pairing

/-- The number of the digits of the Miller loop, `6 * x + 2`. -/
def loopCount : Nat := 29793968203157093288

theorem groupOrder_dvd_exponent :
    ∃ k, loopCount + baseModulus + baseModulus ^ 3 = baseModulus ^ 2 + groupOrder * k :=
  ⟨(loopCount + baseModulus + baseModulus ^ 3 - baseModulus ^ 2) / groupOrder, by decide⟩

theorem groupOrder_dvd_eigenvalue :
    ∃ k, loopCount + G2.eigenvalue + G2.eigenvalue ^ 3 =
      G2.eigenvalue ^ 2 + groupOrder * k :=
  ⟨(loopCount + G2.eigenvalue + G2.eigenvalue ^ 3 - G2.eigenvalue ^ 2) / groupOrder,
    by decide⟩

/-- On the subgroup the exponent of the ate pairing vanishes. -/
theorem exponent_nsmul_eq_zero
    {Q : Curve.g2.Point}
    (member : Q ∈ G2.subgroup) :
    loopCount • Q + G2.endomorphism Q - G2.endomorphism (G2.endomorphism Q) +
      G2.endomorphism (G2.endomorphism (G2.endomorphism Q)) = 0 := by
  obtain ⟨k, equal⟩ := groupOrder_dvd_eigenvalue
  have multiple := congrArg (· • Q) equal
  simp only [add_nsmul, mul_nsmul, G2.groupOrder_nsmul_of_mem member, smul_zero,
    add_zero] at multiple
  simp only [G2.mem_subgroup.mp member, map_nsmul]
  rw [pow_succ, pow_two, mul_nsmul, mul_nsmul] at multiple
  rw [sub_add_eq_add_sub, sub_eq_zero, multiple]

/-- The pairing as a unit of the target field. -/
noncomputable def ateUnit (P : Curve.g1.Point) (Q : Curve.g2.Point) : Fq12ˣ :=
  (Cocycle.Extension.ate G2.endomorphism loopCount (lineCocycle P) Q).factor

/-- The pairing is multiplicative in the first point. -/
theorem ateUnit_add_left
    (P P' : Curve.g1.Point)
    {Q : Curve.g2.Point}
    (member : Q ∈ G2.subgroup) :
    ateUnit (P + P') Q = ateUnit P Q * ateUnit P' Q := by
  obtain ⟨d, coboundary, power, order⟩ := lineCocycle_add P P'
  have equal := Cocycle.Extension.ate_factor_eq coboundary groupOrder_dvd_exponent power order
    (exponent_nsmul_eq_zero member)
  rw [Cocycle.Extension.ate_mul_factor] at equal
  exact equal.symm

/-- The pairing is multiplicative in the second point. -/
theorem ateUnit_add_right
    (P : Curve.g1.Point)
    {Q : Curve.g2.Point}
    (member : Q ∈ G2.subgroup)
    (Q' : Curve.g2.Point) :
    ateUnit P (Q + Q') = ateUnit P Q * ateUnit P Q' :=
  Cocycle.Extension.ate_add_factor groupOrder_dvd_exponent (lineCocycle_endomorphism P)
    (lineCocycle_pow_groupOrder P) (exponent_nsmul_eq_zero member)

theorem ateUnit_zero_left
    {Q : Curve.g2.Point}
    (member : Q ∈ G2.subgroup) :
    ateUnit 0 Q = 1 := by
  have double := ateUnit_add_left 0 0 member
  rw [add_zero] at double
  exact mul_eq_left.mp double.symm

theorem ateUnit_zero_right
    (P : Curve.g1.Point) :
    ateUnit P 0 = 1 := by
  have double := ateUnit_add_right P G2.subgroup.zero_mem 0
  rw [add_zero] at double
  exact mul_eq_left.mp double.symm

theorem ateUnit_nsmul_left
    (n : Nat)
    (P : Curve.g1.Point)
    {Q : Curve.g2.Point}
    (member : Q ∈ G2.subgroup) :
    ateUnit (n • P) Q = ateUnit P Q ^ n := by
  induction n with
  | zero => rw [zero_nsmul, ateUnit_zero_left member, pow_zero]
  | succ n inductionHypothesis =>
      rw [succ_nsmul, ateUnit_add_left _ _ member, inductionHypothesis, pow_succ]

theorem ateUnit_nsmul_right
    (n : Nat)
    (P : Curve.g1.Point)
    {Q : Curve.g2.Point}
    (member : Q ∈ G2.subgroup) :
    ateUnit P (n • Q) = ateUnit P Q ^ n := by
  induction n with
  | zero => rw [zero_nsmul, ateUnit_zero_right, pow_zero]
  | succ n inductionHypothesis =>
      rw [succ_nsmul', ateUnit_add_right P member, inductionHypothesis, pow_succ']

/-- The values have the order of the groups. -/
theorem ateUnit_pow_groupOrder
    (P : Curve.g1.Point)
    {Q : Curve.g2.Point}
    (member : Q ∈ G2.subgroup) :
    ateUnit P Q ^ groupOrder = 1 := by
  rw [← ateUnit_nsmul_left _ _ member, G1.groupOrder_nsmul, ateUnit_zero_left member]

end Pairing
end Groth16
