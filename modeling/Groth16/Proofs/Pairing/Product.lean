import Groth16.Proofs.Arena.Demand
import Groth16.Proofs.Pairing.Loop

/-!
# Products of pairings

One shared loop with one final exponentiation gives the product of the pairings of the single
pairs, whether their points lie on the curves or not, and an arena only decides whether the
product is computed. So neither the order of the pairs nor a pair with an identity matters.
-/

namespace Groth16

namespace Pairing

/-- One of the two points is the identity. -/
def HasIdentity (pair : G1.Affine × G2.Affine) : Prop :=
  pair.1.isIdentity = true ∨ pair.2.isIdentity = true

/-- The pairs without a track are those with an identity. -/
theorem ofPair?_eq_none_iff
    {pair : G1.Affine × G2.Affine} :
    Track.ofPair? pair = none ↔ HasIdentity pair := by
  obtain ⟨P, Q⟩ := pair
  cases P <;> cases Q <;> simp [Track.ofPair?, HasIdentity, AffinePoint.isIdentity]

/-- The shared loop gives the product of the single pairings. -/
theorem pairingProduct_eq_prod_pairing (pairs : List (G1.Affine × G2.Affine)) :
    pairingProduct pairs = (pairs.map fun pair => pairing pair.1 pair.2).prod := by
  induction pairs with
  | nil => exact pairingProduct_nil
  | cons pair rest inductionHypothesis =>
      rw [pairingProduct_cons, List.map_cons, List.prod_cons, inductionHypothesis]

theorem pairingProduct_perm
    {pairs others : List (G1.Affine × G2.Affine)}
    (perm : others.Perm pairs) :
    pairingProduct others = pairingProduct pairs := by
  apply Gt.ext
  rw [pairingProduct_eq, pairingProduct_eq]
  exact (perm.map _).prod_eq

theorem pairingProduct_cons_of_hasIdentity
    {pair : G1.Affine × G2.Affine}
    (hasIdentity : HasIdentity pair)
    (pairs : List (G1.Affine × G2.Affine)) :
    pairingProduct (pair :: pairs) = pairingProduct pairs := by
  apply Gt.ext
  rw [pairingProduct_cons, pairing_eq_one (ofPair?_eq_none_iff.mpr hasIdentity), Gt.value_mul,
    Gt.value_one, one_mul]

/-- With room for one point per pair the product is computed, and nothing else ever is. -/
theorem pairingProductIn_takes (pairs : List (G1.Affine × G2.Affine)) :
    (pairingProductIn pairs).Takes (ProjectivePoint.storedSize Curve.g2 * pairs.length)
      (pairingProduct pairs) :=
  .reserveItems (by decide) fun _ => .pure _

/-- The shared loop, with room in an arena or without one, gives the product of the single
pairings, which depends neither on the order of the pairs nor on pairs with an identity. -/
theorem pairingProduct_shared (pairs : List (G1.Affine × G2.Affine)) :
    pairingProduct pairs = (pairs.map fun pair => pairing pair.1 pair.2).prod ∧
      (pairingProductIn pairs).Gives (192 * pairs.length)
        (pairs.map fun pair => pairing pair.1 pair.2).prod ∧
      (∀ others, others.Perm pairs → pairingProduct others = pairingProduct pairs) ∧
      ∀ left right pair, left ++ right = pairs → HasIdentity pair →
        pairingProduct (left ++ pair :: right) = pairingProduct pairs := by
  refine ⟨pairingProduct_eq_prod_pairing pairs, ?_, ?_, ?_⟩
  · rw [← pairingProduct_eq_prod_pairing]
    exact (pairingProductIn_takes pairs).toGives
  · intro others perm
    exact pairingProduct_perm perm
  · rintro left right pair rfl hasIdentity
    rw [pairingProduct_perm List.perm_middle]
    exact pairingProduct_cons_of_hasIdentity hasIdentity _

/-- A pair off the curves and the pair of the generators, in both orders and with an identity
between them. -/
theorem pairingProduct_shared_offCurve :
    let offCurve : G1.Affine × G2.Affine := (.finite 0 0, .finite 0 0)
    let generators : G1.Affine × G2.Affine := (.generator, .generator)
    let infinite : G1.Affine × G2.Affine := (.identity, .generator)
    (offCurve.1.isOnCurve = false ∧
        [generators, offCurve].Perm [offCurve, generators] ∧ HasIdentity infinite) ∧
      pairingProduct [generators, offCurve] = pairingProduct [offCurve, generators] ∧
      pairingProduct ([offCurve] ++ infinite :: [generators]) =
        pairingProduct [offCurve, generators] := by
  intro offCurve generators infinite
  have notOnCurve : offCurve.1.isOnCurve = false := by
    rw [AffinePoint.isOnCurve, decide_eq_false_iff_not]
    intro equation
    apply Curve.Complete.cube_add_ne_zero (C := Curve.g1) 0
    linear_combination -equation
  have swapped : [generators, offCurve].Perm [offCurve, generators] := List.Perm.swap _ _ _
  have hasIdentity : HasIdentity infinite := Or.inl rfl
  obtain ⟨-, -, perm, insertion⟩ := pairingProduct_shared [offCurve, generators]
  exact ⟨⟨notOnCurve, swapped, hasIdentity⟩, perm _ swapped,
    insertion [offCurve] [generators] infinite rfl hasIdentity⟩

end Pairing
end Groth16
