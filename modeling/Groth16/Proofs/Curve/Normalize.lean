import Groth16.Curve.Normalize
import Groth16.Proofs.Arena.Demand
import Groth16.Proofs.Curve.Affine

/-!
# Shared inversions

Undoing the running product step by step inverts every nonzero element, and the affine forms
of many points are the affine forms of each of them.
-/

namespace Groth16

variable {F : Type} [Field F] [DecidableEq F] [PartialInverse F] [LawfulInverse F]

/-- The inverse of a running product leads back to the inverse of each element. -/
theorem invertAfter_eq
    {product : F}
    (nonzero : product ≠ 0)
    (elements : List F) :
    invertAfter product elements = some (product⁻¹, elements.map (·⁻¹)) := by
  induction elements generalizing product with
  | nil =>
      rw [invertAfter, LawfulInverse.inverse?_of_ne_zero product nonzero]
      rfl
  | cons element rest inductionHypothesis =>
      rw [invertAfter]
      by_cases zero : element = 0
      · rw [if_pos zero, inductionHypothesis nonzero, List.map_cons, zero, inv_zero]
        rfl
      · rw [if_neg zero, inductionHypothesis (mul_ne_zero nonzero zero), List.map_cons]
        have undone : (product * element)⁻¹ * element = product⁻¹ := by
          rw [mul_inv, mul_assoc, inv_mul_cancel₀ zero, mul_one]
        have inverse : (product * element)⁻¹ * product = element⁻¹ := by
          rw [mul_inv, mul_right_comm, inv_mul_cancel₀ nonzero, one_mul]
        simp only [Option.map_some, undone, inverse]

theorem invertNonzero_eq (elements : List F) : invertNonzero elements = elements.map (·⁻¹) := by
  rw [invertNonzero, invertAfter_eq one_ne_zero]

variable [Coordinate F]

/-- The elements are inverted once the arena has given room for the products. -/
theorem run_invertSlice (elements : List F) (arena : Arena) :
    invertSlice.run.run (arena, elements) =
      match (Arena.reserveItems (Coordinate.size F) 8 elements.length).run.run arena with
      | (.error error, after) => (.error error, after, elements)
      | (.ok _, after) => (.ok (), after, elements.map (·⁻¹)) := by
  unfold invertSlice
  rw [Checks.run_bind]
  change (do
    let _ ← SliceM.ofArena (Arena.reserveItems (Coordinate.size F) 8 elements.length)
    SliceM.replace invertNonzero : SliceM F Unit).run.run (arena, elements) = _
  rw [Checks.run_bind, SliceM.run_ofArena]
  rcases (Arena.reserveItems (Coordinate.size F) 8 elements.length).run.run arena with
    ⟨error | start, after⟩
  · rfl
  · rw [← invertNonzero_eq]
    rfl

/-- Inverting in a slice of its own reserves the room and gives the inverses. -/
theorem invertAll_eq (elements : List F) :
    invertAll elements = (do
      let _ ← Arena.reserveItems (Coordinate.size F) 8 elements.length
      return elements.map (·⁻¹)) := by
  apply ArenaM.ext_run
  intro arena
  refine (SliceM.run_output (Prod.eta _).symm).trans ?_
  rw [run_invertSlice, Checks.run_bind]
  rcases (Arena.reserveItems (Coordinate.size F) 8 elements.length).run.run arena with
    ⟨error | start, after⟩
  · rfl
  · rfl

namespace ProjectivePoint

variable {C : Curve F}

omit [Coordinate F] in
theorem scaleBy_inv (P : ProjectivePoint C) : P.scaleBy P.z⁻¹ = P.toAffine := by
  rw [scaleBy, isIdentity, toAffine]
  by_cases zero : P.z = 0
  · rw [zero, LawfulInverse.inverse?_zero]
    exact if_pos (decide_eq_true rfl)
  · rw [LawfulInverse.inverse?_of_ne_zero _ zero]
    exact if_neg (by simpa using zero)

omit [Coordinate F] in
theorem zipWith_scaleBy_inv (points : List (ProjectivePoint C)) :
    points.zipWith scaleBy ((points.map (·.z)).map (·⁻¹)) = points.map toAffine := by
  rw [List.map_map, List.zipWith_map_right, List.zipWith_self]
  exact List.map_congr_left fun P _ => scaleBy_inv P

/-- The affine forms are written once the arena has given both pieces of room. -/
theorem run_writeAffine
    (points : List (ProjectivePoint C))
    (arena : Arena)
    (slice : List (AffinePoint C)) :
    (writeAffine points).run.run (arena, slice) =
      match (Arena.reserveItems (Coordinate.size F) 8 points.length).run.run arena with
      | (.error error, after) => (.error error, after, slice)
      | (.ok _, between) =>
        match (Arena.reserveItems (Coordinate.size F) 8 points.length).run.run between with
        | (.error error, after) => (.error error, after, slice)
        | (.ok _, after) =>
          (.ok (), after, (points.map toAffine).take slice.length ++ slice.drop points.length) := by
  unfold writeAffine
  rw [Checks.run_bind, SliceM.run_ofArena, invertAll_eq, List.length_map]
  rcases (Arena.reserveItems (Coordinate.size F) 8 points.length).run.run arena with
    ⟨error | start, between⟩
  · rfl
  · dsimp only
    rw [Checks.run_bind, SliceM.run_ofArena, Checks.run_bind]
    rcases (Arena.reserveItems (Coordinate.size F) 8 points.length).run.run between with
      ⟨error | start, after⟩
    · rfl
    · rw [← zipWith_scaleBy_inv]
      rfl

/-- Writing the affine forms to a slice of their own reserves the room twice and gives them. -/
theorem toAffineAll_eq (points : List (ProjectivePoint C)) :
    toAffineAll points = (do
      let _ ← Arena.reserveItems (Coordinate.size F) 8 points.length
      let _ ← Arena.reserveItems (Coordinate.size F) 8 points.length
      return points.map toAffine) := by
  apply ArenaM.ext_run
  intro arena
  refine (SliceM.run_output (Prod.eta _).symm).trans ?_
  rw [run_writeAffine, Checks.run_bind]
  rcases (Arena.reserveItems (Coordinate.size F) 8 points.length).run.run arena with
    ⟨error | start, between⟩
  · rfl
  · dsimp only
    rw [Checks.run_bind]
    rcases (Arena.reserveItems (Coordinate.size F) 8 points.length).run.run between with
      ⟨error | start, after⟩
    · rfl
    · have whole : (points.map toAffine).take (List.replicate points.length
          (AffinePoint.identity (C := C))).length ++
            (List.replicate points.length .identity).drop points.length =
          points.map toAffine := by
        rw [List.length_replicate, List.take_of_length_le (List.length_map _).le,
          List.drop_of_length_le List.length_replicate.le, List.append_nil]
      dsimp only
      rw [whole]
      rfl

/-- Points brought into affine form together are the affine forms of the points. -/
theorem toAffineAll_takes
    (words : 8 ∣ Coordinate.size F)
    (points : List (ProjectivePoint C)) :
    (toAffineAll points).Takes
      (Coordinate.size F * points.length + Coordinate.size F * points.length)
      (points.map toAffine) := by
  rw [toAffineAll_eq]
  refine .reserveItems words fun _ => ?_
  exact .reserveItems words fun _ => .pure _

end ProjectivePoint
end Groth16
