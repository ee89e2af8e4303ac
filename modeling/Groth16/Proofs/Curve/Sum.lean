import Groth16.Proofs.Curve.Encoding

/-!
# Sums of points

The points of the group that valid affine forms stand for, and the sums that a run of
additions computes. The affine form of a sum does not depend on how it was computed.
-/

namespace Groth16

section General

variable {F : Type} [Field F] [DecidableEq F] {C : Curve F} [Curve.Complete C]

namespace AffinePoint

/-- The point of an affine form, which is the identity off the curve. -/
def toPoint : AffinePoint C → C.Point
  | identity => 0
  | finite x y =>
    if equation : y ^ 2 = x ^ 3 + C.b then Curve.point x y equation else 0

@[simp] theorem toPoint_ofPoint (A : C.Point) : (ofPoint A).toPoint = A := by
  rcases Curve.eq_zero_or_eq_point A with rfl | ⟨x, y, equation, rfl⟩
  · rfl
  · exact dif_pos equation

theorem ofPoint_toPoint
    {P : AffinePoint C}
    (onCurve : P.isOnCurve = true) :
    ofPoint P.toPoint = P := by
  obtain ⟨A, rfl⟩ := isOnCurve_iff.mp onCurve
  rw [toPoint_ofPoint]

theorem toProjective_denotes_toPoint
    {P : AffinePoint C}
    (onCurve : P.isOnCurve = true) :
    P.toProjective.Denotes P.toPoint := by
  obtain ⟨A, rfl⟩ := isOnCurve_iff.mp onCurve
  rw [toPoint_ofPoint]
  exact toProjective_denotes A

omit [DecidableEq F] in
theorem isIdentity_ofPoint_eq_false
    {A : C.Point} :
    (ofPoint A).isIdentity = false ↔ A ≠ 0 := by
  rw [Bool.eq_false_iff, Ne, isIdentity_ofPoint]

theorem neg_eq_ofPoint
    {P : AffinePoint C}
    (onCurve : P.isOnCurve = true) :
    -P = ofPoint (-P.toPoint) := by
  rw [← neg_ofPoint, ofPoint_toPoint onCurve]

end AffinePoint

namespace ProjectivePoint

/-- Adding up points gives their sum. -/
theorem Denotes.foldl_add
    {Term : Type}
    {point : Term → ProjectivePoint C}
    {value : Term → C.Point}
    (terms : List Term)
    (each : ∀ term ∈ terms, (point term).Denotes (value term))
    {acc : ProjectivePoint C}
    {A : C.Point}
    (start : acc.Denotes A) :
    (terms.foldl (fun acc term => acc.add (point term)) acc).Denotes
      (A + (terms.map value).sum) := by
  induction terms generalizing acc A with
  | nil =>
      rw [List.map_nil, List.sum_nil, add_zero]
      exact start
  | cons term rest inductionHypothesis =>
      rw [List.foldl_cons, List.map_cons, List.sum_cons, ← add_assoc]
      exact inductionHypothesis (fun other member => each other (List.mem_cons_of_mem _ member))
        (start.add (each term List.mem_cons_self))

end ProjectivePoint

end General

namespace AffinePoint

variable {F : Type} [Zero F] [One F] [Add F] [Mul F] [DecidableEq F]
variable {C : Curve F} [SubgroupTest C]

/-- The point has passed the checks of decoding. -/
structure IsValid (P : AffinePoint C) : Prop where
  isOnCurve : P.isOnCurve = true
  isInSubgroup : P.isInSubgroup = true

/-- The points that decoding accepts are valid. -/
theorem isValid_of_ofBytes?
    [Coordinate F]
    {bytes : List UInt8}
    {P : AffinePoint C}
    (accepted : ofBytes? bytes = .ok P) :
    P.IsValid := by
  obtain ⟨-, onCurve, member⟩ := ofBytes?_eq_ok_iff.mp accepted
  exact ⟨onCurve, member⟩

/-- Decoding accepts the byte forms of the valid points. -/
theorem ofBytes?_eq_ok_iff_isValid
    {F : Type} [Field F] [DecidableEq F] [Coordinate F] [LawfulCoordinate F]
    [CanonicalCoordinate F]
    {C : Curve F} [Curve.Complete C] [SubgroupTest C]
    {bytes : List UInt8}
    {P : AffinePoint C} :
    ofBytes? bytes = .ok P ↔ P.IsValid ∧ P.toBytes = bytes := by
  constructor
  · intro accepted
    exact ⟨isValid_of_ofBytes? accepted, toBytes_of_ofBytes? accepted⟩
  · rintro ⟨valid, rfl⟩
    obtain ⟨A, rfl⟩ := isOnCurve_iff.mp valid.isOnCurve
    exact ofBytes?_eq_ok_iff.mpr
      ⟨ofBytesUnchecked_toBytes A, valid.isOnCurve, valid.isInSubgroup⟩

end AffinePoint

namespace G1

theorem isValid_ofPoint (A : Curve.g1.Point) : (AffinePoint.ofPoint A).IsValid :=
  ⟨AffinePoint.isOnCurve_iff.mpr ⟨A, rfl⟩, rfl⟩

end G1

namespace G2

theorem isValid_ofPoint
    {A : Curve.g2.Point}
    (member : A ∈ subgroup) :
    (AffinePoint.ofPoint A).IsValid :=
  ⟨AffinePoint.isOnCurve_iff.mpr ⟨A, rfl⟩, (isInSubgroup_iff A).mpr member⟩

theorem toPoint_mem
    {P : Affine}
    (valid : P.IsValid) :
    P.toPoint ∈ subgroup := by
  rw [← isInSubgroup_iff, AffinePoint.ofPoint_toPoint valid.isOnCurve]
  exact valid.isInSubgroup

end G2
end Groth16
