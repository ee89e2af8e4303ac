import Groth16.Batch.Aggregate
import Groth16.Proofs.Curve.MultiScalar
import Groth16.Proofs.Curve.Scalars
import Groth16.Proofs.Verification.Equation

/-!
# The sums of one key

For the items of one key, the weights and the weighted inputs are summed before the points
of the key are multiplied. The points that result are the sums of the weighted points of
each item.
-/

namespace Groth16

theorem Weight.toScalar_eq (weight : Weight) : weight.toScalar = (weight.value : Fr) := by
  rw [toScalar, FieldElement.ofNat, FieldElement.ofLimbs_eq, Limbs.toNat_ofNat,
    Nat.mod_eq_of_lt (weight.value_lt.trans (by decide))]

theorem Weight.toScalar_smul (weight : Weight) (A : Curve.g1.Point) :
    weight.toScalar • A = weight.value • A :=
  G1.smul_eq_nsmul weight.toScalar_eq A

namespace Batch

namespace Item

/-- The points of the item and of its key have passed the checks of decoding. -/
structure IsValid (item : Item) : Prop where
  key : item.key.IsValid
  proof : item.proof.IsValid

/-- The input point of the item. -/
def inputSum (item : Item) : Curve.g1.Point :=
  item.key.inputSum (item.inputs.map fun x => x.canonical.toNat)

/-- The input point of the item is what verification computes. -/
theorem inputPoint_eq
    {item : Item}
    (valid : item.IsValid) :
    ∃ X, item.key.inputPoint item.inputs = .ok X ∧ X.toAffine = .ofPoint item.inputSum := by
  obtain ⟨X, computed, denotes⟩ :=
    VerifyingKey.inputPoint_denotes valid.key item.inputs_length
  exact ⟨X, computed, denotes.toAffine⟩

end Item

/-- The sum of the multiples of the points by the scalars. -/
def combination (points : List G1.Affine) (scalars : List Fr) : Curve.g1.Point :=
  ((points.zip scalars).map fun term => term.2 • term.1.toPoint).sum

theorem sumOfMultiples_denotes
    {points : List G1.Affine}
    (onCurve : ∀ P ∈ points, P.isOnCurve = true)
    (scalars : List Fr) :
    (sumOfMultiples points scalars).Denotes (combination points scalars) := by
  rw [← zero_add (combination points scalars)]
  refine ProjectivePoint.Denotes.foldl_add (points.zip scalars) ?_
    ProjectivePoint.denotes_identity
  intro term member
  exact (AffinePoint.toProjective_denotes_toPoint
    (onCurve _ (List.of_mem_zip member).1)).mul term.2

theorem combination_cons
    (P : G1.Affine)
    (points : List G1.Affine)
    (x : Fr)
    (scalars : List Fr) :
    combination (P :: points) (x :: scalars) = x • P.toPoint + combination points scalars := by
  rw [combination, List.zip_cons_cons, List.map_cons, List.sum_cons, combination]

theorem combination_replicate_zero (points : List G1.Affine) (count : Nat) :
    combination points (List.replicate count 0) = 0 := by
  apply List.sum_eq_zero
  intro point member
  obtain ⟨term, termMember, rfl⟩ := List.mem_map.mp member
  rw [List.eq_of_mem_replicate (List.of_mem_zip termMember).2, zero_smul]

/-- Sums of scalars give the sum of the combinations. -/
theorem combination_zipWith_add
    {points : List G1.Affine}
    {scalars scalars' : List Fr}
    (length : scalars.length = points.length)
    (length' : scalars'.length = points.length) :
    combination points (scalars.zipWith (· + ·) scalars') =
      combination points scalars + combination points scalars' := by
  induction points generalizing scalars scalars' with
  | nil => exact (add_zero _).symm
  | cons P points inductionHypothesis =>
      obtain ⟨x, scalars, rfl⟩ := List.exists_cons_of_length_eq_add_one length
      obtain ⟨x', scalars', rfl⟩ := List.exists_cons_of_length_eq_add_one length'
      rw [List.zipWith_cons_cons, combination_cons, combination_cons, combination_cons,
        inductionHypothesis (Nat.succ.inj length) (Nat.succ.inj length'), add_smul]
      abel

theorem combination_map_mul
    (points : List G1.Affine)
    (x : Fr)
    (scalars : List Fr) :
    combination points (scalars.map (x * ·)) = x • combination points scalars := by
  induction points generalizing scalars with
  | nil => exact (smul_zero x).symm
  | cons P points inductionHypothesis =>
      cases scalars with
      | nil => exact (smul_zero x).symm
      | cons y scalars =>
          rw [List.map_cons, combination_cons, combination_cons, inductionHypothesis, mul_smul,
            smul_add]

theorem combination_eq_zip (points : List G1.Affine) (scalars : List Fr) :
    combination points scalars =
      ((scalars.zip points).map fun term => term.1.canonical.toNat • term.2.toPoint).sum := by
  induction points generalizing scalars with
  | nil => rw [List.zip_nil_right]; rfl
  | cons P points inductionHypothesis =>
      cases scalars with
      | nil => rfl
      | cons x scalars =>
          rw [combination_cons, List.zip_cons_cons, List.map_cons, List.sum_cons,
            inductionHypothesis, G1.smul_eq]

/-- The input point of an item is a combination of the input points of its key. -/
theorem Item.combination_inputs
    {item : Item}
    (valid : item.key.IsValid) :
    combination item.key.ic (1 :: item.inputs) = item.inputSum := by
  obtain ⟨constant, points, icEq⟩ := List.exists_cons_of_ne_nil valid.ic_ne_nil
  rw [inputSum, VerifyingKey.inputSum_cons icEq, icEq, combination_cons, one_smul,
    combination_eq_zip]

/-- The coefficients of the input points in the term of one item. -/
def termCoefficients (entry : Weighted) : List Fr :=
  entry.weight :: entry.item.inputs.map (entry.weight * ·)

theorem termCoefficients_eq (entry : Weighted) :
    termCoefficients entry = (1 :: entry.item.inputs).map (entry.weight * ·) := by
  rw [List.map_cons, mul_one, termCoefficients]

theorem length_termCoefficients
    {entry : Weighted}
    (valid : entry.item.key.IsValid) :
    (termCoefficients entry).length = entry.item.key.ic.length := by
  have positive := List.length_pos_of_ne_nil valid.ic_ne_nil
  rw [termCoefficients, List.length_cons, List.length_map, entry.item.inputs_length]
  exact Nat.sub_add_cancel positive

/-- Adding the coefficients of a group to sums adds the weights to the first sum and the
weighted input points to the combination. -/
theorem foldl_termCoefficients
    {key : VerifyingKey}
    (valid : key.IsValid)
    {group : List Weighted}
    (same : ∀ entry ∈ group, entry.item.key = key)
    {sums : List Fr}
    (length : sums.length = key.ic.length) :
    let total := group.foldl (fun sums entry => sums.zipWith (· + ·) (termCoefficients entry)) sums
    total.headD 0 = sums.headD 0 + (group.map Weighted.weight).sum ∧
      combination key.ic total = combination key.ic sums +
        (group.map fun entry => entry.weight • entry.item.inputSum).sum := by
  induction group generalizing sums with
  | nil => exact ⟨(add_zero _).symm, (add_zero _).symm⟩
  | cons entry rest inductionHypothesis =>
      have keyEq := same entry List.mem_cons_self
      have entryValid : entry.item.key.IsValid := keyEq ▸ valid
      have termLength := length_termCoefficients entryValid
      rw [keyEq] at termLength
      have nextLength : (sums.zipWith (· + ·) (termCoefficients entry)).length =
          key.ic.length := by
        rw [List.length_zipWith, length, termLength, Nat.min_self]
      obtain ⟨weights, points⟩ := inductionHypothesis
        (fun other member => same other (List.mem_cons_of_mem _ member)) nextLength
      have head : (sums.zipWith (· + ·) (termCoefficients entry)).headD 0 =
          sums.headD 0 + entry.weight := by
        have positive := List.length_pos_of_ne_nil valid.ic_ne_nil
        obtain ⟨sum, others, rfl⟩ := List.exists_cons_of_length_pos (length ▸ positive)
        rw [termCoefficients, List.zipWith_cons_cons, List.headD_cons, List.headD_cons]
      have term : combination key.ic (termCoefficients entry) =
          entry.weight • entry.item.inputSum := by
        rw [termCoefficients_eq, combination_map_mul, ← keyEq, Item.combination_inputs entryValid]
      refine ⟨?_, ?_⟩
      · rw [List.foldl_cons, weights, head, List.map_cons, List.sum_cons, add_assoc]
      · rw [List.foldl_cons, points, combination_zipWith_add length termLength, term,
          List.map_cons, List.sum_cons, add_assoc]

theorem coefficients_eq
    {key : VerifyingKey}
    (valid : key.IsValid)
    {group : List Weighted}
    (same : ∀ entry ∈ group, entry.item.key = key) :
    (coefficients key.ic.length group).headD 0 = (group.map Weighted.weight).sum ∧
      combination key.ic (coefficients key.ic.length group) =
        (group.map fun entry => entry.weight • entry.item.inputSum).sum := by
  have zeros : (List.replicate key.ic.length (0 : Fr)).length = key.ic.length :=
    List.length_replicate
  obtain ⟨weights, points⟩ := foldl_termCoefficients valid same zeros
  have head : (List.replicate key.ic.length (0 : Fr)).headD 0 = 0 := by
    cases key.ic.length <;> rfl
  rw [head, zero_add] at weights
  rw [combination_replicate_zero, zero_add] at points
  exact ⟨weights, points⟩

/-- The number of bytes that the pairs of one key take in an arena while they are computed. -/
def groupBytes (key : VerifyingKey) (count : Nat) : Nat :=
  32 * key.ic.length + (AffinePoint.storedSize Curve.g1 * count +
    (32 * count + ProjectivePoint.multiScalarBytes Curve.g1 count))

/-- The three pairs of one key, as they are computed. -/
def groupSums (key : VerifyingKey) (group : List Weighted) : List (G1.Affine × G2.Affine) :=
  let sums := coefficients key.ic.length group
  let cSum := ProjectivePoint.multiScalarSum (group.map (·.item.proof.c)) (group.map (·.weight))
  [((key.alpha.toProjective.mul (sums.headD 0)).toAffine, key.beta),
    ((sumOfMultiples key.ic sums).toAffine, key.gamma), (cSum.toAffine, key.delta)]

theorem groupPairs_takes (key : VerifyingKey) (group : List Weighted) :
    (groupPairs key group).Takes (groupBytes key group.length) (groupSums key group) := by
  have cSum := ProjectivePoint.multiScalarMul_takes (C := Curve.g1) (by decide)
    (group.map (·.item.proof.c)) (group.map (·.weight))
  rw [List.zip_map', List.length_map] at cSum
  refine .reserveItems (by decide) fun _ => ?_
  refine .reserveItems (by decide) fun _ => ?_
  refine .reserveItems (by decide) fun _ => ?_
  exact cSum.bind_pure _

/-- The three pairs of a group are the sums of the terms of its entries. -/
theorem groupSums_eq
    {key : VerifyingKey}
    (valid : key.IsValid)
    {group : List Weighted}
    (same : ∀ entry ∈ group, entry.item.key = key)
    (proofs : ∀ entry ∈ group, entry.item.proof.IsValid) :
    groupSums key group =
      [(.ofPoint ((group.map Weighted.weight).sum • key.alpha.toPoint), key.beta),
        (.ofPoint (group.map fun entry => entry.weight • entry.item.inputSum).sum, key.gamma),
        (.ofPoint (group.map fun entry => entry.weight • entry.item.proof.c.toPoint).sum,
          key.delta)] := by
  obtain ⟨weights, inputPoints⟩ := coefficients_eq valid same
  have cOnCurve : ∀ P ∈ group.map (·.item.proof.c), P.isOnCurve = true := by
    intro P member
    obtain ⟨entry, entryMember, rfl⟩ := List.mem_map.mp member
    exact (proofs entry entryMember).c.isOnCurve
  have cDenotes := ProjectivePoint.multiScalarSum_denotes cOnCurve (group.map Weighted.weight)
  rw [List.zip_map', List.map_map] at cDenotes
  have alphaEq : (key.alpha.toProjective.mul
      ((coefficients key.ic.length group).headD 0)).toAffine =
        .ofPoint ((group.map Weighted.weight).sum • key.alpha.toPoint) := by
    rw [← weights]
    exact ((AffinePoint.toProjective_denotes_toPoint valid.alpha.isOnCurve).mul _).toAffine
  have inputEq : (sumOfMultiples key.ic (coefficients key.ic.length group)).toAffine =
      .ofPoint (group.map fun entry => entry.weight • entry.item.inputSum).sum := by
    rw [← inputPoints]
    exact (sumOfMultiples_denotes (fun P member => (valid.ic P member).isOnCurve) _).toAffine
  have cEq : (ProjectivePoint.multiScalarSum (group.map (·.item.proof.c))
      (group.map Weighted.weight)).toAffine =
        .ofPoint (group.map fun entry => entry.weight • entry.item.proof.c.toPoint).sum :=
    cDenotes.toAffine
  rw [← alphaEq, ← inputEq, ← cEq]
  rfl

end Batch
end Groth16
