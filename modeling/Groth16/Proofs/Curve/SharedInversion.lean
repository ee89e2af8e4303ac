import Groth16.Proofs.Curve.Groups
import Groth16.Proofs.Curve.Normalize

/-!
# Inverting and normalizing in place

Inverting the elements of a slice together is inverting each of them, with zeros left where they
are, and bringing points into affine form together is bringing each of them into it. The shared
product is never zero, so its inversion never fails. What can fail is a request for room in the
arena, and then the slice is left as it was.
-/

namespace Groth16

section Inversion

/-- What inversion leaves in the place of an element: zero of zero, and the inverse of any other
element. -/
structure InvertsTo
    {F : Type} [Zero F] [One F] [Mul F] [PartialInverse F]
    (element inverted : F) : Prop where
  of_zero : element = 0 → inverted = 0
  of_ne_zero : element ≠ 0 →
    PartialInverse.inverse? element = some inverted ∧ element * inverted = 1

/-- What inverting the elements of a slice together does in any arena. -/
structure InvertsInPlace
    (F : Type) [Zero F] [One F] [Mul F] [PartialInverse F] [DecidableEq F] [Coordinate F] :
    Prop where
  /-- The product of the nonzero elements has an inverse. -/
  invertAfter_ne_none : ∀ elements : List F, invertAfter 1 elements ≠ none
  of_room : ∀ (elements : List F) (arena : Arena),
    arena.HasRoomForItems (Coordinate.size F) elements.length →
      ∃ inverted after, invertSlice.run.run (arena, elements) = (.ok (), after, inverted) ∧
        List.Forall₂ InvertsTo elements inverted
  of_no_room : ∀ (elements : List F) (arena : Arena),
    ¬arena.HasRoomForItems (Coordinate.size F) elements.length →
      ∃ requested available, invertSlice.run.run (arena, elements) =
        (.error (.exhausted requested available), arena, elements)

variable {F : Type} [Field F] [DecidableEq F] [PartialInverse F] [LawfulInverse F]

omit [DecidableEq F] in
theorem invertsTo_inv (element : F) : InvertsTo element element⁻¹ where
  of_zero zero := by rw [zero, inv_zero]
  of_ne_zero nonzero :=
    ⟨LawfulInverse.inverse?_of_ne_zero element nonzero, mul_inv_cancel₀ nonzero⟩

theorem invertsInPlace [Coordinate F] : InvertsInPlace F where
  invertAfter_ne_none elements := by
    rw [invertAfter_eq one_ne_zero]
    exact Option.some_ne_none _
  of_room elements arena room := by
    rw [run_invertSlice, Arena.reserveItems_of_room room]
    refine ⟨elements.map (·⁻¹), _, rfl, ?_⟩
    rw [List.forall₂_map_right_iff]
    exact List.forall₂_same.mpr fun element _ => invertsTo_inv element
  of_no_room elements arena noRoom := by
    rw [run_invertSlice, Arena.reserveItems_of_no_room noRoom]
    exact ⟨_, _, rfl⟩

end Inversion

/-- Scalars and coordinates of points are inverted in place, whatever they are. -/
theorem invertsInPlace_fr_fq_fq2 : InvertsInPlace Fr ∧ InvertsInPlace Fq ∧ InvertsInPlace Fq2 :=
  ⟨invertsInPlace, invertsInPlace, invertsInPlace⟩

namespace ProjectivePoint

/-- There is room for the third coordinates of some points, and behind them for as many products
of the inversion. -/
structure HasRoomToNormalize
    (F : Type) [Coordinate F]
    (arena : Arena)
    (count : Nat) : Prop where
  coordinates : arena.HasRoomForItems (Coordinate.size F) count
  products : (arena.claim (Arena.roundUp arena.used 8) (Coordinate.size F * count)).HasRoomForItems
    (Coordinate.size F) count

/-- What bringing points into affine form together does in any arena, to any slice that is long
enough. -/
structure NormalizesInPlace
    {F : Type} [Zero F] [One F] [Mul F] [PartialInverse F] [DecidableEq F] [Coordinate F]
    (C : Curve F) : Prop where
  of_room : ∀ (points : List (ProjectivePoint C)) (slice : List (AffinePoint C)) (arena : Arena),
    points.length ≤ slice.length → HasRoomToNormalize F arena points.length →
      ∃ after, (writeAffine points).run.run (arena, slice) =
        (.ok (), after, points.map toAffine ++ slice.drop points.length)
  of_no_room : ∀ (points : List (ProjectivePoint C)) (slice : List (AffinePoint C)) (arena : Arena),
    ¬HasRoomToNormalize F arena points.length →
      ∃ requested available after, (writeAffine points).run.run (arena, slice) =
        (.error (.exhausted requested available), after, slice)

variable {F : Type} [Field F] [DecidableEq F] [PartialInverse F] [LawfulInverse F] [Coordinate F]

theorem normalizesInPlace (C : Curve F) : NormalizesInPlace C where
  of_room points slice arena longEnough room := by
    have whole : (points.map toAffine).length ≤ slice.length :=
      (List.length_map _).trans_le longEnough
    rw [run_writeAffine, Arena.reserveItems_of_room room.coordinates]
    dsimp only
    rw [Arena.reserveItems_of_room room.products, List.take_of_length_le whole]
    exact ⟨_, rfl⟩
  of_no_room points slice arena noRoom := by
    rw [run_writeAffine]
    by_cases coordinates : arena.HasRoomForItems (Coordinate.size F) points.length
    · have noProducts : ¬(arena.claim (Arena.roundUp arena.used 8)
          (Coordinate.size F * points.length)).HasRoomForItems (Coordinate.size F) points.length :=
        fun products => noRoom ⟨coordinates, products⟩
      rw [Arena.reserveItems_of_room coordinates]
      dsimp only
      rw [Arena.reserveItems_of_no_room noProducts]
      exact ⟨_, _, _, rfl⟩
    · rw [Arena.reserveItems_of_no_room coordinates]
      exact ⟨_, _, _, rfl⟩

end ProjectivePoint

/-- Points of both groups are brought into affine form in place, whatever their coordinates are. -/
theorem normalizesInPlace_g1_g2 :
    ProjectivePoint.NormalizesInPlace Curve.g1 ∧ ProjectivePoint.NormalizesInPlace Curve.g2 :=
  ⟨ProjectivePoint.normalizesInPlace _, ProjectivePoint.normalizesInPlace _⟩

end Groth16
