import Groth16.Proofs.Curve.Sum
import Groth16.Proofs.Pairing.Nondegenerate

/-!
# Values of the pairing on valid points

The product of the pairings of valid pairs is the product of their units. The pairing of
decoded points is multiplicative in both points, has values of the order of the groups, and
is one only if one of the points is the identity.
-/

namespace Groth16
namespace Pairing

/-- A pair of points that have passed the checks of decoding. -/
structure IsValidPair (pair : G1.Affine × G2.Affine) : Prop where
  left : pair.1.IsValid
  right : pair.2.IsValid

/-- The unit that a pair contributes to a product. -/
noncomputable def pairUnit (pair : G1.Affine × G2.Affine) : Fq12ˣ :=
  ateUnit pair.1.toPoint pair.2.toPoint

theorem pairing_eq_pairUnit
    {pair : G1.Affine × G2.Affine}
    (valid : IsValidPair pair) :
    pairing pair.1 pair.2 = ⟨pairUnit pair⟩ := by
  have equal := pairing_ofPoint pair.1.toPoint (G2.toPoint_mem valid.right)
  rwa [AffinePoint.ofPoint_toPoint valid.left.isOnCurve,
    AffinePoint.ofPoint_toPoint valid.right.isOnCurve] at equal

/-- The shared loop gives the product of the units. -/
theorem pairingProduct_eq_prod
    {pairs : List (G1.Affine × G2.Affine)}
    (valid : ∀ pair ∈ pairs, IsValidPair pair) :
    pairingProduct pairs = ⟨(pairs.map pairUnit).prod⟩ := by
  apply Gt.ext
  rw [pairingProduct_eq, ← Units.coeHom_apply, map_list_prod, List.map_map]
  congr 1
  apply List.map_congr_left
  intro pair member
  rw [pairing_eq_pairUnit (valid pair member)]
  rfl

theorem isOne_eq_true_iff (u : Fq12ˣ) : Gt.isOne ⟨u⟩ = true ↔ u = 1 := by
  rw [Gt.isOne, Fq12.isOne_iff, Units.val_eq_one]

theorem mk_mul_mk (u v : Fq12ˣ) : (⟨u⟩ : Gt) * ⟨v⟩ = ⟨(u * v : Fq12ˣ)⟩ := rfl

/-- The pairing of decoded points is bilinear and not degenerate. -/
theorem pairing_bilinear
    {p p' q q' : List UInt8}
    {P P' : G1.Affine}
    {Q Q' : G2.Affine}
    (acceptedP : AffinePoint.ofBytes? p = .ok P)
    (acceptedP' : AffinePoint.ofBytes? p' = .ok P')
    (acceptedQ : AffinePoint.ofBytes? q = .ok Q)
    (acceptedQ' : AffinePoint.ofBytes? q' = .ok Q') :
    pairing (P.toProjective.add P'.toProjective).toAffine Q = pairing P Q * pairing P' Q ∧
      pairing P (Q.toProjective.add Q'.toProjective).toAffine = pairing P Q * pairing P Q' ∧
      (pairing P Q).value ^ groupOrder = 1 ∧
      (pairing P Q = 1 ↔ P.isIdentity = true ∨ Q.isIdentity = true) := by
  obtain ⟨A, rfl⟩ := G1.exists_ofPoint acceptedP
  obtain ⟨A', rfl⟩ := G1.exists_ofPoint acceptedP'
  obtain ⟨B, memberB, rfl⟩ := G2.exists_ofPoint acceptedQ
  obtain ⟨B', memberB', rfl⟩ := G2.exists_ofPoint acceptedQ'
  have sumA := ((AffinePoint.toProjective_denotes A).add
    (AffinePoint.toProjective_denotes A')).toAffine
  have sumB := ((AffinePoint.toProjective_denotes B).add
    (AffinePoint.toProjective_denotes B')).toAffine
  rw [sumA, sumB, pairing_ofPoint _ memberB, pairing_ofPoint _ memberB,
    pairing_ofPoint _ memberB, pairing_ofPoint _ memberB',
    pairing_ofPoint _ (G2.subgroup.add_mem memberB memberB')]
  refine ⟨?_, ?_, ?_, ?_⟩
  · rw [ateUnit_add_left A A' memberB, mk_mul_mk]
  · rw [ateUnit_add_right A memberB B', mk_mul_mk]
  · rw [← Units.val_pow_eq_pow_val, ateUnit_pow_groupOrder A memberB, Units.val_one]
  · rw [AffinePoint.isIdentity_ofPoint, AffinePoint.isIdentity_ofPoint,
      ← ateUnit_eq_one_iff A memberB, ← Units.val_eq_one]
    exact Gt.ext_iff

/-- The pairing of the generators is bilinear and not degenerate. -/
theorem pairing_bilinear_generators :
    let P := AffinePoint.ofPoint G1.generatorPoint
    let Q := AffinePoint.ofPoint G2.generatorPoint
    (AffinePoint.ofBytes? P.toBytes = .ok P ∧ AffinePoint.ofBytes? Q.toBytes = .ok Q) ∧
      pairing (P.toProjective.add P.toProjective).toAffine Q = pairing P Q * pairing P Q ∧
      pairing P (Q.toProjective.add Q.toProjective).toAffine = pairing P Q * pairing P Q ∧
      (pairing P Q).value ^ groupOrder = 1 ∧
      (pairing P Q = 1 ↔ P.isIdentity = true ∨ Q.isIdentity = true) := by
  have left := G1.ofBytes?_toBytes G1.generatorPoint
  have right := G2.ofBytes?_toBytes G2.generatorPoint_mem
  exact ⟨⟨left, right⟩, pairing_bilinear left left right right⟩

end Pairing
end Groth16
