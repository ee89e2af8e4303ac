import Groth16.Proofs.Curve.Endomorphism
import Groth16.Proofs.Field.Encoding

/-!
# Byte form of points

The points that decoding accepts are the affine forms of the points of `G1` and of the
subgroup of the twist, and each of these is the point that its bytes encode.
-/

namespace Groth16

/-- A byte form that can be read back, in which zero bytes alone stand for zero. -/
class LawfulCoordinate
    (F : Type)
    [Zero F]
    [Coordinate F] : Prop where
  length_toBytes : ∀ x : F, (Coordinate.toBytes x).length = Coordinate.size F
  ofBytes?_toBytes : ∀ x : F, Coordinate.ofBytes? (Coordinate.toBytes x) = some x
  eq_zero_of_areZero : ∀ x : F, Bytes.areZero (Coordinate.toBytes x) = true → x = 0

instance {F : FieldParameters} : LawfulCoordinate (FieldElement F) where
  length_toBytes := FieldElement.length_toBytes
  ofBytes?_toBytes x := by
    change (FieldElement.ofBytes? x.toBytes).toOption = some x
    rw [FieldElement.ofBytes?_toBytes]
    rfl
  eq_zero_of_areZero x zero := by
    rw [← FieldElement.toNat_canonical_eq_zero_iff, ← FieldElement.toNat_toBytes]
    exact Bytes.toNat_eq_zero_of_areZero zero

instance : LawfulCoordinate Fq2 where
  length_toBytes x := by
    change (x.c1.toBytes ++ x.c0.toBytes).length = 64
    rw [List.length_append, FieldElement.length_toBytes, FieldElement.length_toBytes]
  ofBytes?_toBytes x := by
    have first : (x.c1.toBytes ++ x.c0.toBytes).take 32 = x.c1.toBytes :=
      List.take_left' (FieldElement.length_toBytes _)
    have second : (x.c1.toBytes ++ x.c0.toBytes).drop 32 = x.c0.toBytes :=
      List.drop_left' (FieldElement.length_toBytes _)
    have length : (x.c1.toBytes ++ x.c0.toBytes).length = 64 := by
      rw [List.length_append, FieldElement.length_toBytes, FieldElement.length_toBytes]
    change Fq2.ofBytes? (x.c1.toBytes ++ x.c0.toBytes) = some x
    rw [Fq2.ofBytes?, if_pos length, first, second]
    have firstValue := LawfulCoordinate.ofBytes?_toBytes x.c1
    have secondValue := LawfulCoordinate.ofBytes?_toBytes x.c0
    change Coordinate.ofBytes? x.c1.toBytes = some x.c1 at firstValue
    change Coordinate.ofBytes? x.c0.toBytes = some x.c0 at secondValue
    rw [firstValue, secondValue]
    rfl
  eq_zero_of_areZero x zero := by
    change Bytes.areZero (x.c1.toBytes ++ x.c0.toBytes) = true at zero
    rw [Bytes.areZero_append, Bool.and_eq_true] at zero
    ext1
    · exact LawfulCoordinate.eq_zero_of_areZero x.c0 zero.2
    · exact LawfulCoordinate.eq_zero_of_areZero x.c1 zero.1

/-- A byte form in which an element is read from its own bytes only. -/
class CanonicalCoordinate
    (F : Type)
    [Coordinate F] : Prop where
  toBytes_of_ofBytes? : ∀ {bytes : List UInt8} {x : F},
    Coordinate.ofBytes? bytes = some x → Coordinate.toBytes x = bytes

instance {F : FieldParameters} : CanonicalCoordinate (FieldElement F) where
  toBytes_of_ofBytes? {bytes x} read := by
    change (FieldElement.ofBytes? bytes).toOption = some x at read
    cases decoded : (FieldElement.ofBytes? bytes : Except FieldError (FieldElement F)) with
    | error error =>
        rw [decoded] at read
        cases read
    | ok y =>
        rw [decoded] at read
        cases read
        exact FieldElement.toBytes_of_ofBytes? decoded

instance : CanonicalCoordinate Fq2 where
  toBytes_of_ofBytes? {bytes x} read := by
    change Fq2.ofBytes? bytes = some x at read
    unfold Fq2.ofBytes? at read
    split at read
    next length =>
      obtain ⟨c1, readFirst, rest⟩ := Option.bind_eq_some_iff.mp read
      obtain ⟨c0, readSecond, equal⟩ := Option.bind_eq_some_iff.mp rest
      cases equal
      change Coordinate.toBytes c1 ++ Coordinate.toBytes c0 = bytes
      rw [CanonicalCoordinate.toBytes_of_ofBytes? readFirst,
        CanonicalCoordinate.toBytes_of_ofBytes? readSecond, List.take_append_drop]
    next => cases read

namespace AffinePoint

section Accepted

variable {F : Type} [Zero F] [One F] [Add F] [Mul F] [DecidableEq F] [Coordinate F]
variable {C : Curve F} [SubgroupTest C]

/-- The checks on the point that the bytes encode, in their order. -/
theorem ofBytes?_eq (bytes : List UInt8) :
    (ofBytes? bytes : Except PointError (AffinePoint C)) =
      (ofBytesUnchecked bytes).bind fun P =>
        if P.isOnCurve = true then
          if P.isInSubgroup = true then .ok P else .error .notInSubgroup
        else .error .notOnCurve := by
  rw [ofBytes?]
  cases ofBytesUnchecked (C := C) bytes with
  | error error => rfl
  | ok P =>
      cases onCurve : P.isOnCurve <;> cases member : P.isInSubgroup <;>
        simp [bind, Except.bind, pure, Except.pure, throw, throwThe, MonadExceptOf.throw, onCurve,
          member]

/-- Bytes are accepted as a point on the curve that passes the test for the subgroup. -/
theorem ofBytes?_eq_ok_iff
    {bytes : List UInt8}
    {P : AffinePoint C} :
    ofBytes? bytes = .ok P ↔
      ofBytesUnchecked bytes = .ok P ∧ P.isOnCurve = true ∧ P.isInSubgroup = true := by
  rw [ofBytes?_eq]
  cases ofBytesUnchecked (C := C) bytes with
  | error error => exact iff_of_false nofun (fun accepted => nomatch accepted.1)
  | ok Q =>
      change (if Q.isOnCurve = true then _ else _) = _ ↔ _
      constructor
      · intro accepted
        split at accepted
        next onCurve =>
          split at accepted
          next member =>
            cases accepted
            exact ⟨rfl, onCurve, member⟩
          next => cases accepted
        next => cases accepted
      · rintro ⟨equal, onCurve, member⟩
        cases equal
        rw [if_pos onCurve, if_pos member]

end Accepted

section RoundTrip

variable {F : Type} [Field F] [DecidableEq F] [Coordinate F] [LawfulCoordinate F]
variable {C : Curve F} [Curve.Complete C]

omit [DecidableEq F] [Curve.Complete C] in
theorem length_toBytes (P : AffinePoint C) : P.toBytes.length = encodedSize C := by
  cases P with
  | identity => exact List.length_replicate
  | finite x y =>
      rw [toBytes, List.length_append, LawfulCoordinate.length_toBytes,
        LawfulCoordinate.length_toBytes, encodedSize, two_mul]

omit [DecidableEq F] in
/-- The bytes of a finite point of the curve are not all zero. -/
theorem areZero_toBytes_point
    {x y : F}
    (equation : y ^ 2 = x ^ 3 + C.b) :
    Bytes.areZero (finite (C := C) x y).toBytes = false := by
  rw [Bool.eq_false_iff, toBytes, Bytes.areZero_append, Ne, Bool.and_eq_true]
  rintro ⟨xZero, yZero⟩
  apply Curve.Complete.cube_add_ne_zero (C := C) x
  rw [← equation, LawfulCoordinate.eq_zero_of_areZero y yZero, zero_pow two_ne_zero]

omit [DecidableEq F] in
/-- Every point of the curve is the one that its bytes encode. -/
theorem ofBytesUnchecked_toBytes (A : C.Point) :
    ofBytesUnchecked (ofPoint A).toBytes = .ok (ofPoint A) := by
  rw [ofBytesUnchecked, if_neg (not_not_intro (length_toBytes _))]
  rcases Curve.eq_zero_or_eq_point A with rfl | ⟨x, y, equation, rfl⟩
  · exact if_pos (Bytes.areZero_replicate _)
  · have first : (finite (C := C) x y).toBytes.take (Coordinate.size F) = Coordinate.toBytes x :=
      List.take_left' (LawfulCoordinate.length_toBytes x)
    have second : (finite (C := C) x y).toBytes.drop (Coordinate.size F) = Coordinate.toBytes y :=
      List.drop_left' (LawfulCoordinate.length_toBytes x)
    rw [ofPoint_point, areZero_toBytes_point equation, first, second,
      LawfulCoordinate.ofBytes?_toBytes, LawfulCoordinate.ofBytes?_toBytes]
    rfl

end RoundTrip

section Canonical

variable {F : Type} [Coordinate F] [CanonicalCoordinate F] {C : Curve F}

/-- Bytes that are read as a point are its byte form. -/
theorem toBytes_of_ofBytesUnchecked
    {bytes : List UInt8}
    {P : AffinePoint C}
    (read : ofBytesUnchecked bytes = .ok P) :
    P.toBytes = bytes := by
  unfold ofBytesUnchecked at read
  split at read
  · cases read
  next length =>
    split at read
    next zero =>
      cases read
      rw [Bytes.eq_replicate_of_areZero zero, not_not.mp length]
      rfl
    next =>
      split at read
      next x y readX readY =>
        cases read
        rw [toBytes, CanonicalCoordinate.toBytes_of_ofBytes? readX,
          CanonicalCoordinate.toBytes_of_ofBytes? readY, List.take_append_drop]
      next => cases read

/-- Bytes that are accepted as a point are its byte form. -/
theorem toBytes_of_ofBytes?
    [Zero F] [One F] [Add F] [Mul F] [DecidableEq F] [SubgroupTest C]
    {bytes : List UInt8}
    {P : AffinePoint C}
    (accepted : ofBytes? bytes = .ok P) :
    P.toBytes = bytes :=
  toBytes_of_ofBytesUnchecked (ofBytes?_eq_ok_iff.mp accepted).1

end Canonical

end AffinePoint

namespace G1

/-- The accepted points are those of the group. -/
theorem exists_ofPoint
    {bytes : List UInt8}
    {P : Affine}
    (accepted : AffinePoint.ofBytes? bytes = .ok P) :
    ∃ A : Curve.g1.Point, AffinePoint.ofPoint A = P :=
  AffinePoint.isOnCurve_iff.mp (AffinePoint.ofBytes?_eq_ok_iff.mp accepted).2.1

/-- Every point of the group is accepted. -/
theorem ofBytes?_toBytes (A : Curve.g1.Point) :
    AffinePoint.ofBytes? (AffinePoint.ofPoint A).toBytes = .ok (AffinePoint.ofPoint A) :=
  AffinePoint.ofBytes?_eq_ok_iff.mpr ⟨AffinePoint.ofBytesUnchecked_toBytes A,
    AffinePoint.isOnCurve_iff.mpr ⟨A, rfl⟩, rfl⟩

end G1

namespace G2

theorem isInSubgroup_iff (A : Curve.g2.Point) :
    (AffinePoint.ofPoint A).isInSubgroup = true ↔ A ∈ subgroup :=
  isMember_iff (AffinePoint.toProjective_denotes A)

/-- The accepted points are those of the subgroup. -/
theorem exists_ofPoint
    {bytes : List UInt8}
    {P : Affine}
    (accepted : AffinePoint.ofBytes? bytes = .ok P) :
    ∃ A ∈ subgroup, AffinePoint.ofPoint A = P := by
  obtain ⟨_, onCurve, member⟩ := AffinePoint.ofBytes?_eq_ok_iff.mp accepted
  obtain ⟨A, rfl⟩ := AffinePoint.isOnCurve_iff.mp onCurve
  exact ⟨A, (isInSubgroup_iff A).mp member, rfl⟩

/-- Every point of the subgroup is accepted. -/
theorem ofBytes?_toBytes
    {A : Curve.g2.Point}
    (member : A ∈ subgroup) :
    AffinePoint.ofBytes? (AffinePoint.ofPoint A).toBytes = .ok (AffinePoint.ofPoint A) :=
  AffinePoint.ofBytes?_eq_ok_iff.mpr ⟨AffinePoint.ofBytesUnchecked_toBytes A,
    AffinePoint.isOnCurve_iff.mpr ⟨A, rfl⟩, (isInSubgroup_iff A).mpr member⟩

end G2
end Groth16
