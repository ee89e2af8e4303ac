import Groth16.Proofs.Curve.GroupLaw
import Groth16.Proofs.Curve.MultiScalar

/-!
# Sums of multiples in an arena

The scalars and the buckets of a sum of multiples are placed in an arena one after the other. The
sum is computed exactly when both fit behind what the arena already holds, and it stands for the
sum of the multiples, in windows of any of the three widths. No arena is touched for the empty
sum.
-/

namespace Groth16
namespace ProjectivePoint

section Run

variable {F : Type} [Field F] {C : Curve F} [Coordinate F]

/-- The places for the scalars and for the buckets come before the sum. -/
theorem multiScalarMul_of_pos
    {points : List (AffinePoint C)}
    {scalars : List Fr}
    (positive : 0 < (points.zip scalars).length) :
    multiScalarMul points scalars = (do
      let _ ← Arena.reserveItems 32 8 (points.zip scalars).length
      let _ ← Arena.reserveItems (storedSize C) 8
        (2 ^ windowWidth (points.zip scalars).length - 1)
      return multiScalarSum points scalars) := by
  have lengthEq : (points.zip scalars).length =
      (points.zip (scalars.map FieldElement.canonical)).length := by
    rw [List.length_zip, List.length_zip, List.length_map]
  rw [lengthEq] at positive ⊢
  unfold multiScalarMul multiScalarSum
  dsimp only
  generalize points.zip (scalars.map FieldElement.canonical) = terms at positive
  cases terms with
  | nil => exact absurd positive (Nat.lt_irrefl 0)
  | cons term rest => rfl

theorem multiScalarMul_run_of_eq_zero
    {points : List (AffinePoint C)}
    {scalars : List Fr}
    (empty : (points.zip scalars).length = 0)
    (arena : Arena) :
    (multiScalarMul points scalars).run.run arena = (.ok identity, arena) := by
  have noTerms : points.zip (scalars.map FieldElement.canonical) = [] := by
    rw [List.zip_map_right, List.length_eq_zero_iff.mp empty, List.map_nil]
  unfold multiScalarMul
  rw [noTerms]
  rfl

/-- Behind what the arena holds there is room for the scalars and the buckets. -/
def Fits (C : Curve F) (arena : Arena) (count : Nat) : Prop :=
  Arena.roundUp arena.used 8 + (32 * count + storedSize C * (2 ^ windowWidth count - 1)) ≤
    arena.capacity

/-- A sum that is computed had room for the scalars and the buckets. -/
theorem fits_of_multiScalarMul_eq_ok
    {points : List (AffinePoint C)}
    {scalars : List Fr}
    (positive : 0 < (points.zip scalars).length)
    {arena after : Arena}
    {sum : ProjectivePoint C}
    (run : (multiScalarMul points scalars).run.run arena = (.ok sum, after)) :
    Fits C arena (points.zip scalars).length := by
  rw [multiScalarMul_of_pos positive] at run
  obtain ⟨_, between, runScalars, run⟩ := Checks.run_bind_eq_ok.mp run
  obtain ⟨_, _, runBuckets, -⟩ := Checks.run_bind_eq_ok.mp run
  obtain ⟨rfl, -⟩ := Arena.claim_of_reserveItems_eq_ok runScalars
  obtain ⟨-, fits⟩ := Arena.claim_of_reserveItems_eq_ok runBuckets
  change Arena.roundUp (Arena.roundUp arena.used 8 + 32 * (points.zip scalars).length) 8 +
    storedSize C * (2 ^ windowWidth (points.zip scalars).length - 1) ≤ arena.capacity at fits
  have whole : 8 ∣ 32 * (points.zip scalars).length := Dvd.dvd.mul_right (by decide) _
  rwa [Arena.roundUp_eight_add whole, Nat.add_assoc] at fits

/-- With room for the scalars and the buckets the sum is computed. -/
theorem multiScalarMul_run_of_fits
    (words : 8 ∣ Coordinate.size F)
    {points : List (AffinePoint C)}
    {scalars : List Fr}
    (positive : 0 < (points.zip scalars).length)
    {arena : Arena}
    (capacity_lt : arena.capacity < 2 ^ 64)
    (fits : Fits C arena (points.zip scalars).length) :
    ∃ after, (multiScalarMul points scalars).run.run arena =
      (.ok (multiScalarSum points scalars), after) := by
  have room : arena.HasRoom (multiScalarBytes C (points.zip scalars).length + 0) := by
    refine ⟨capacity_lt, ?_⟩
    rw [multiScalarBytes, if_neg positive.ne']
    exact fits
  obtain ⟨after, run, -⟩ := (multiScalarMul_takes words points scalars).run_of_hasRoom arena 0 room
  exact ⟨after, run⟩

/-- The arena is exhausted exactly when there is something to place that does not fit. -/
theorem multiScalarMul_eq_exhausted_iff
    (words : 8 ∣ Coordinate.size F)
    {points : List (AffinePoint C)}
    {scalars : List Fr}
    {arena : Arena}
    (capacity_lt : arena.capacity < 2 ^ 64) :
    (∃ requested available after, (multiScalarMul points scalars).run.run arena =
        (.error (.exhausted requested available), after)) ↔
      0 < (points.zip scalars).length ∧ ¬Fits C arena (points.zip scalars).length := by
  constructor
  · rintro ⟨requested, available, after, refused⟩
    have positive : 0 < (points.zip scalars).length := by
      rw [Nat.pos_iff_ne_zero]
      intro empty
      rw [multiScalarMul_run_of_eq_zero empty] at refused
      cases refused
    refine ⟨positive, fun fits => ?_⟩
    obtain ⟨other, run⟩ := multiScalarMul_run_of_fits words positive capacity_lt fits
    rw [run] at refused
    cases refused
  · rintro ⟨positive, small⟩
    rcases (multiScalarMul_takes words points scalars).run_cases arena with ⟨after, run⟩ | refused
    · exact absurd (fits_of_multiScalarMul_eq_ok positive run) small
    · exact refused

theorem windowWidth_mem (count : Nat) : windowWidth count ∈ [4, 6, 8] := by
  unfold windowWidth
  split
  · decide
  · split <;> decide

variable [DecidableEq F] [Curve.Complete C]

/-- The sum of the multiples of the points by the scalars, as far as both lists go. -/
def multiplesSum (points : List (AffinePoint C)) (scalars : List Fr) : C.Point :=
  ((points.zip scalars).map fun term => term.2.canonical.toNat • term.1.toPoint).sum

variable [PartialInverse F]

/-- What a sum of multiples gives in an arena: the identity without a request when one of the
lists is empty, and otherwise the sum if there is room for it, or an exhausted arena. The sum is
the same in windows of each width that is chosen for some number of points. -/
structure SumsMultiples
    (points : List (AffinePoint C))
    (scalars : List Fr)
    (arena : Arena) : Prop where
  of_empty : min points.length scalars.length = 0 →
    (multiScalarMul points scalars).run.run arena = (.ok identity, arena)
  of_fits : 0 < min points.length scalars.length →
    Fits C arena (min points.length scalars.length) →
      ∃ sum after, (multiScalarMul points scalars).run.run arena = (.ok sum, after) ∧
        sum.StandsFor (multiplesSum points scalars)
  exhausted_iff : (∃ requested available after, (multiScalarMul points scalars).run.run arena =
      (.error (.exhausted requested available), after)) ↔
    0 < min points.length scalars.length ∧ ¬Fits C arena (min points.length scalars.length)
  width_mem : windowWidth (min points.length scalars.length) ∈ [4, 6, 8]
  sumWindows : ∀ width ∈ [4, 6, 8],
    (sumWindows (points.zip (scalars.map FieldElement.canonical)) width).StandsFor
      (multiplesSum points scalars)

variable [LawfulInverse F]

theorem sumsMultiples
    (words : 8 ∣ Coordinate.size F)
    {points : List (AffinePoint C)}
    (onCurve : ∀ P ∈ points, P.isOnCurve = true)
    (scalars : List Fr)
    {arena : Arena}
    (capacity_lt : arena.capacity < 2 ^ 64) :
    SumsMultiples points scalars arena := by
  have lengthEq : min points.length scalars.length = (points.zip scalars).length :=
    List.length_zip.symm
  constructor
  · intro empty
    exact multiScalarMul_run_of_eq_zero (lengthEq ▸ empty) arena
  · rw [lengthEq]
    intro positive fits
    obtain ⟨after, run⟩ := multiScalarMul_run_of_fits words positive capacity_lt fits
    exact ⟨_, after, run, (multiScalarSum_denotes onCurve scalars).standsFor⟩
  · rw [lengthEq]
    exact multiScalarMul_eq_exhausted_iff words capacity_lt
  · exact windowWidth_mem _
  · intro width member
    have bounds : width < 64 ∧ 0 < width := by
      simp only [List.mem_cons, List.not_mem_nil, or_false] at member
      omega
    exact (sumWindows_zip_denotes bounds.1 bounds.2 onCurve scalars).standsFor

end Run
end ProjectivePoint

/-- In every arena the sums of multiples of both groups are computed exactly when there is room for
the scalars and the buckets, and they stand for the sums of the multiples. -/
theorem sumsMultiples_g1_g2
    {arena : Arena}
    (capacity_lt : arena.capacity < 2 ^ 64)
    (scalars : List Fr) :
    (∀ points : List G1.Affine, (∀ P ∈ points, P.isOnCurve = true) →
        ProjectivePoint.SumsMultiples points scalars arena) ∧
      ∀ points : List G2.Affine, (∀ P ∈ points, P.isOnCurve = true) →
        ProjectivePoint.SumsMultiples points scalars arena := by
  constructor
  · intro points onCurve
    exact ProjectivePoint.sumsMultiples (by decide) onCurve scalars capacity_lt
  · intro points onCurve
    exact ProjectivePoint.sumsMultiples (by decide) onCurve scalars capacity_lt

/-- A page with room for two points of `G1`, one of them the identity, down to its last byte, and
without room for a point of the twist, which lies outside the subgroup. -/
theorem sumsMultiples_lastByte :
    let arena : Arena := ⟨4096, 2585, 2585, false, fun _ => 0⟩
    let points : List G1.Affine := [.identity, .ofPoint G1.generatorPoint]
    let outside : List G2.Affine := [.ofPoint G2.outsidePoint]
    (arena.capacity < 2 ^ 64 ∧ (∀ P ∈ points, P.isOnCurve = true) ∧
        ∀ P ∈ outside, P.isOnCurve = true) ∧
      (ProjectivePoint.Fits Curve.g1 arena 2 ∧ ¬ProjectivePoint.Fits Curve.g2 arena 1) ∧
      ProjectivePoint.SumsMultiples points [0, 1] arena ∧
      ProjectivePoint.SumsMultiples outside [0, 1] arena := by
  intro arena points outside
  have capacity_lt : arena.capacity < 2 ^ 64 := by decide
  have onCurve : ∀ P ∈ points, P.isOnCurve = true := by
    intro P member
    simp only [points, List.mem_cons, List.not_mem_nil, or_false] at member
    rcases member with rfl | rfl
    · rfl
    · exact AffinePoint.isOnCurve_iff.mpr ⟨_, rfl⟩
  have onCurveOutside : ∀ P ∈ outside, P.isOnCurve = true := by
    intro P member
    rw [List.mem_singleton.mp member]
    exact AffinePoint.isOnCurve_iff.mpr ⟨_, rfl⟩
  have room : ProjectivePoint.Fits Curve.g1 arena 2 ∧ ¬ProjectivePoint.Fits Curve.g2 arena 1 := by
    unfold ProjectivePoint.Fits
    decide
  obtain ⟨first, second⟩ := sumsMultiples_g1_g2 capacity_lt [0, 1]
  exact ⟨⟨capacity_lt, onCurve, onCurveOutside⟩, room, first points onCurve,
    second outside onCurveOutside⟩

end Groth16
