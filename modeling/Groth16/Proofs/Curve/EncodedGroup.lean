import Groth16.Proofs.Curve.Encoded
import Groth16.Proofs.Curve.Subgroup

/-!
# Encoded points form a group

The operations on encoded points compute the group law of the points that the group order
annihilates. Each of these points has one byte form, so the laws of the group hold as equalities of
bytes: sums, negatives, multiples by scalars modulo the order, and sums of multiples.
-/

namespace Groth16
namespace Encoded

variable {F : Type}

section Forms

variable [Field F] [Coordinate F] {C : Curve F}

/-- The byte form of a point. -/
def form (A : C.Point) : List UInt8 := (AffinePoint.ofPoint A).toBytes

theorem form_zero : form (0 : C.Point) = List.replicate (AffinePoint.encodedSize C) 0 := rfl

variable [DecidableEq F]

variable (C) in
/-- The points that the group order annihilates. -/
def annihilated : AddSubgroup C.Point := (nsmulAddMonoidHom groupOrder).ker

variable [SubgroupTest C]

variable (C) in
/-- The bytes are accepted as a point. -/
def IsPoint (bytes : List UInt8) : Prop :=
  ∃ P : AffinePoint C, AffinePoint.ofBytes? bytes = .ok P

/-- The bytes are accepted as a scalar: 32 of them, whose number is below the group order. -/
structure IsScalar (bytes : List UInt8) : Prop where
  length_eq : bytes.length = 32
  toNat_lt : Bytes.toNat bytes < groupOrder

/-- The bytes of a number as a scalar. -/
def scalarOf (n : Nat) : List UInt8 := Bytes.ofNat 32 (n % groupOrder)

variable [Curve.Complete C] [LawfulCoordinate F] [CanonicalCoordinate F] [LawfulSubgroupTest C]

/-- The bytes that decode are the form of a point that the group order annihilates. -/
theorem decode_eq_ok_iff
    {bytes : List UInt8}
    {P : AffinePoint C} :
    decode C bytes = .ok P ↔
      ∃ A ∈ annihilated C, AffinePoint.ofPoint A = P ∧ form A = bytes := by
  rw [decode, Checks.mapError_eq_ok, AffinePoint.ofBytes?_eq_ok_iff_isValid,
    AffinePoint.isValid_iff]
  constructor
  · rintro ⟨⟨A, member, rfl⟩, same⟩
    exact ⟨A, member, rfl, same⟩
  · rintro ⟨A, member, rfl, same⟩
    exact ⟨⟨A, member, rfl⟩, same⟩

theorem decode_form
    {A : C.Point}
    (member : A ∈ annihilated C) :
    decode C (form A) = .ok (AffinePoint.ofPoint A) :=
  decode_eq_ok_iff.mpr ⟨A, member, rfl, rfl⟩

theorem isPoint_iff
    {bytes : List UInt8} :
    IsPoint C bytes ↔ ∃ A ∈ annihilated C, form A = bytes := by
  constructor
  · rintro ⟨P, accepted⟩
    obtain ⟨A, member, -, same⟩ := decode_eq_ok_iff.mp (Checks.mapError_eq_ok.mpr accepted)
    exact ⟨A, member, same⟩
  · rintro ⟨A, member, rfl⟩
    exact ⟨_, Checks.mapError_eq_ok.mp (decode_form member)⟩

omit [DecidableEq F] [SubgroupTest C] [Curve.Complete C] [LawfulCoordinate F]
  [CanonicalCoordinate F] [LawfulSubgroupTest C] in
theorem decodeScalar_of_isScalar
    {bytes : List UInt8}
    (scalar : IsScalar bytes) :
    decodeScalar bytes = .ok (Bytes.toNat bytes : Fr) := by
  rw [decodeScalar, FieldElement.ofBytes?_eq, if_pos scalar.length_eq, toNat_modulus_scalar_eq,
    if_pos scalar.toNat_lt]
  rfl

end Forms

theorem toNat_scalarOf (n : Nat) : Bytes.toNat (scalarOf n) = n % groupOrder := by
  have small : n % groupOrder < groupOrder := Nat.mod_lt n (by decide)
  rw [scalarOf, Bytes.toNat_ofNat, Nat.mod_eq_of_lt (small.trans (by decide))]

theorem isScalar_scalarOf (n : Nat) : IsScalar (scalarOf n) where
  length_eq := Bytes.length_ofNat 32 _
  toNat_lt := by
    rw [toNat_scalarOf]
    exact Nat.mod_lt n (by decide)

theorem toNat_of_decodeScalar
    {bytes : List UInt8}
    {k : Fr}
    (decoded : decodeScalar bytes = .ok k) :
    k.canonical.toNat = Bytes.toNat bytes := by
  have read : FieldElement.ofBytes? bytes = .ok k := Checks.mapError_eq_ok.mp decoded
  rw [← FieldElement.toBytes_of_ofBytes? read, FieldElement.toNat_toBytes]

section Operations

variable [Field F] [DecidableEq F] [PartialInverse F] [LawfulInverse F]
variable [Coordinate F] [LawfulCoordinate F] [CanonicalCoordinate F]
variable {C : Curve F} [Curve.Complete C] [SubgroupTest C] [LawfulSubgroupTest C]
variable {A B : C.Point}

omit [LawfulCoordinate F] [CanonicalCoordinate F] [SubgroupTest C] [LawfulSubgroupTest C]
  [DecidableEq F] in
theorem encode_eq
    {P : ProjectivePoint C}
    (denotes : P.Denotes A) :
    encode P = form A := by
  rw [encode, denotes.toAffine, form]

theorem add_form
    (left : A ∈ annihilated C)
    (right : B ∈ annihilated C) :
    add C (form A) (form B) = .ok (form (A + B)) := by
  rw [add, decode_form left, Checks.ok_bind, decode_form right, Checks.ok_bind]
  exact congrArg Except.ok (encode_eq (AffinePoint.toProjective_denotes A).addAffine)

omit [PartialInverse F] [LawfulInverse F] in
theorem neg_form (member : A ∈ annihilated C) : neg C (form A) = .ok (form (-A)) := by
  rw [neg, decode_form member, Checks.ok_bind, AffinePoint.neg_ofPoint]
  rfl

theorem sub_form
    (left : A ∈ annihilated C)
    (right : B ∈ annihilated C) :
    sub C (form A) (form B) = .ok (form (A - B)) := by
  rw [sub, neg_form right, Checks.ok_bind, add_form left (neg_mem right), sub_eq_add_neg]

theorem scalarMul_of_decodeScalar
    {bytes : List UInt8}
    {k : Fr}
    (member : A ∈ annihilated C)
    (decoded : decodeScalar bytes = .ok k) :
    scalarMul C (form A) bytes = .ok (form (k.canonical.toNat • A)) := by
  rw [scalarMul, decode_form member, Checks.ok_bind, decoded, Checks.ok_bind]
  exact congrArg Except.ok (encode_eq ((AffinePoint.toProjective_denotes A).mul k))

theorem scalarMul_form
    {k : List UInt8}
    (member : A ∈ annihilated C)
    (scalar : IsScalar k) :
    scalarMul C (form A) k = .ok (form (Bytes.toNat k • A)) := by
  have decoded := decodeScalar_of_isScalar scalar
  rw [scalarMul_of_decodeScalar member decoded, toNat_of_decodeScalar decoded]

/-- Multiples by numbers depend on the residue modulo the group order only. -/
theorem scalarMul_scalarOf
    (member : A ∈ annihilated C)
    (n : Nat) :
    scalarMul C (form A) (scalarOf n) = .ok (form (n • A)) := by
  rw [scalarMul_form member (isScalar_scalarOf n), toNat_scalarOf,
    ← nsmul_eq_mod_nsmul n member]

/-! ## Closure -/

theorem isPoint_of_add
    {a b out : List UInt8}
    (added : add C a b = .ok out) :
    IsPoint C out := by
  obtain ⟨P, left, found⟩ := Checks.bind_eq_ok.mp added
  obtain ⟨Q, right, -⟩ := Checks.bind_eq_ok.mp found
  obtain ⟨A, leftMember, -, rfl⟩ := decode_eq_ok_iff.mp left
  obtain ⟨B, rightMember, -, rfl⟩ := decode_eq_ok_iff.mp right
  rw [add_form leftMember rightMember, Except.ok.injEq] at added
  exact isPoint_iff.mpr ⟨A + B, add_mem leftMember rightMember, added⟩

omit [PartialInverse F] [LawfulInverse F] in
theorem isPoint_of_neg
    {a out : List UInt8}
    (negated : neg C a = .ok out) :
    IsPoint C out := by
  obtain ⟨P, decoded, -⟩ := Checks.bind_eq_ok.mp negated
  obtain ⟨A, member, -, rfl⟩ := decode_eq_ok_iff.mp decoded
  rw [neg_form member, Except.ok.injEq] at negated
  exact isPoint_iff.mpr ⟨-A, neg_mem member, negated⟩

theorem isPoint_of_sub
    {a b out : List UInt8}
    (subtracted : sub C a b = .ok out) :
    IsPoint C out := by
  obtain ⟨negative, -, added⟩ := Checks.bind_eq_ok.mp subtracted
  exact isPoint_of_add added

theorem isPoint_of_scalarMul
    {a k out : List UInt8}
    (multiplied : scalarMul C a k = .ok out) :
    IsPoint C out := by
  obtain ⟨P, decoded, found⟩ := Checks.bind_eq_ok.mp multiplied
  obtain ⟨multiplier, decodedScalar, -⟩ := Checks.bind_eq_ok.mp found
  obtain ⟨A, member, -, rfl⟩ := decode_eq_ok_iff.mp decoded
  rw [scalarMul_of_decodeScalar member decodedScalar, Except.ok.injEq] at multiplied
  exact isPoint_iff.mpr ⟨_, nsmul_mem member _, multiplied⟩

/-! ## Laws -/

variable (C) in
/-- The operations on the byte strings that are accepted as points are those of a module over the
scalars: they succeed, with accepted byte strings as results, and follow its laws as equalities of
bytes. -/
structure IsModule : Prop where
  isPoint_add {a b out : List UInt8} : add C a b = .ok out → IsPoint C out
  isPoint_neg {a out : List UInt8} : neg C a = .ok out → IsPoint C out
  isPoint_sub {a b out : List UInt8} : sub C a b = .ok out → IsPoint C out
  isPoint_scalarMul {a k out : List UInt8} : scalarMul C a k = .ok out → IsPoint C out
  exists_add {a b : List UInt8} : IsPoint C a → IsPoint C b → ∃ out, add C a b = .ok out
  exists_neg {a : List UInt8} : IsPoint C a → ∃ out, neg C a = .ok out
  exists_scalarMul {a k : List UInt8} :
    IsPoint C a → IsScalar k → ∃ out, scalarMul C a k = .ok out
  add_assoc {a b c : List UInt8} : IsPoint C a → IsPoint C b → IsPoint C c →
    (do add C (← add C a b) c) = (do add C a (← add C b c))
  add_comm {a b : List UInt8} : IsPoint C a → IsPoint C b → add C a b = add C b a
  isPoint_zero : IsPoint C (List.replicate (AffinePoint.encodedSize C) 0)
  add_zero {a : List UInt8} : IsPoint C a →
    add C a (List.replicate (AffinePoint.encodedSize C) 0) = .ok a
  add_neg {a : List UInt8} : IsPoint C a →
    (do add C a (← neg C a)) = .ok (List.replicate (AffinePoint.encodedSize C) 0)
  sub_eq_add_neg (a b : List UInt8) : sub C a b = (do add C a (← neg C b))
  sub_add_cancel {a b : List UInt8} : IsPoint C a → IsPoint C b →
    (do add C (← sub C a b) b) = .ok a
  scalarMul_one {a : List UInt8} : IsPoint C a → scalarMul C a (scalarOf 1) = .ok a
  scalarMul_scalarMul {a k m : List UInt8} : IsPoint C a → IsScalar k → IsScalar m →
    (do scalarMul C (← scalarMul C a m) k) =
      scalarMul C a (scalarOf (Bytes.toNat k * Bytes.toNat m))
  add_scalarMul {a k m : List UInt8} : IsPoint C a → IsScalar k → IsScalar m →
    (do add C (← scalarMul C a k) (← scalarMul C a m)) =
      scalarMul C a (scalarOf (Bytes.toNat k + Bytes.toNat m))
  scalarMul_add {a b k : List UInt8} : IsPoint C a → IsPoint C b → IsScalar k →
    (do scalarMul C (← add C a b) k) = (do add C (← scalarMul C a k) (← scalarMul C b k))

variable (C) in
theorem isModule : IsModule C where
  isPoint_add := isPoint_of_add
  isPoint_neg := isPoint_of_neg
  isPoint_sub := isPoint_of_sub
  isPoint_scalarMul := isPoint_of_scalarMul
  exists_add := by
    intro a b left right
    obtain ⟨A, leftMember, rfl⟩ := isPoint_iff.mp left
    obtain ⟨B, rightMember, rfl⟩ := isPoint_iff.mp right
    exact ⟨_, add_form leftMember rightMember⟩
  exists_neg := by
    intro a point
    obtain ⟨A, member, rfl⟩ := isPoint_iff.mp point
    exact ⟨_, neg_form member⟩
  exists_scalarMul := by
    intro a k point scalar
    obtain ⟨A, member, rfl⟩ := isPoint_iff.mp point
    exact ⟨_, scalarMul_form member scalar⟩
  add_assoc := by
    intro a b c first second third
    obtain ⟨A, memberA, rfl⟩ := isPoint_iff.mp first
    obtain ⟨B, memberB, rfl⟩ := isPoint_iff.mp second
    obtain ⟨D, memberD, rfl⟩ := isPoint_iff.mp third
    rw [add_form memberA memberB, Checks.ok_bind, add_form (add_mem memberA memberB) memberD,
      add_form memberB memberD, Checks.ok_bind, add_form memberA (add_mem memberB memberD),
      add_assoc]
  add_comm := by
    intro a b left right
    obtain ⟨A, leftMember, rfl⟩ := isPoint_iff.mp left
    obtain ⟨B, rightMember, rfl⟩ := isPoint_iff.mp right
    rw [add_form leftMember rightMember, add_form rightMember leftMember, add_comm]
  isPoint_zero := isPoint_iff.mpr ⟨0, zero_mem _, form_zero⟩
  add_zero := by
    intro a point
    obtain ⟨A, member, rfl⟩ := isPoint_iff.mp point
    rw [← form_zero, add_form member (zero_mem _), add_zero]
  add_neg := by
    intro a point
    obtain ⟨A, member, rfl⟩ := isPoint_iff.mp point
    rw [neg_form member, Checks.ok_bind, add_form member (neg_mem member), add_neg_cancel,
      form_zero]
  sub_eq_add_neg _ _ := rfl
  sub_add_cancel := by
    intro a b left right
    obtain ⟨A, leftMember, rfl⟩ := isPoint_iff.mp left
    obtain ⟨B, rightMember, rfl⟩ := isPoint_iff.mp right
    rw [sub_form leftMember rightMember, Checks.ok_bind,
      add_form (sub_mem leftMember rightMember) rightMember, sub_add_cancel]
  scalarMul_one := by
    intro a point
    obtain ⟨A, member, rfl⟩ := isPoint_iff.mp point
    rw [scalarMul_scalarOf member, one_nsmul]
  scalarMul_scalarMul := by
    intro a k m point scalarK scalarM
    obtain ⟨A, member, rfl⟩ := isPoint_iff.mp point
    rw [scalarMul_form member scalarM, Checks.ok_bind, scalarMul_form (nsmul_mem member _) scalarK,
      scalarMul_scalarOf member, mul_nsmul']
  add_scalarMul := by
    intro a k m point scalarK scalarM
    obtain ⟨A, member, rfl⟩ := isPoint_iff.mp point
    rw [scalarMul_form member scalarK, Checks.ok_bind, scalarMul_form member scalarM,
      Checks.ok_bind, add_form (nsmul_mem member _) (nsmul_mem member _),
      scalarMul_scalarOf member, add_nsmul]
  scalarMul_add := by
    intro a b k left right scalar
    obtain ⟨A, leftMember, rfl⟩ := isPoint_iff.mp left
    obtain ⟨B, rightMember, rfl⟩ := isPoint_iff.mp right
    rw [add_form leftMember rightMember, Checks.ok_bind,
      scalarMul_form (add_mem leftMember rightMember) scalar, scalarMul_form leftMember scalar,
      Checks.ok_bind, scalarMul_form rightMember scalar, Checks.ok_bind,
      add_form (nsmul_mem leftMember _) (nsmul_mem rightMember _), nsmul_add]

end Operations

/-! ## Sums of multiples -/

/-- Adds the multiple of a point by a scalar to a sum. -/
def addMultiple
    (sum : List UInt8)
    (term : List UInt8 × List UInt8) : Except VerifyError (List UInt8) := do
  add Curve.g1 sum (← scalarMul Curve.g1 term.1 term.2)

/-- The sum that is built up from the zero bytes by one multiple after the other. -/
def sumOfMultiples (points scalars : List (List UInt8)) : Except VerifyError (List UInt8) :=
  (points.zip scalars).foldlM addMultiple
    (List.replicate (AffinePoint.encodedSize Curve.g1) 0)

theorem addMultiple_form
    {A B : Curve.g1.Point}
    (sumMember : A ∈ annihilated Curve.g1)
    (member : B ∈ annihilated Curve.g1)
    {scalar : List UInt8}
    {k : Fr}
    (decoded : decodeScalar scalar = .ok k) :
    addMultiple (form A) (form B, scalar) = .ok (form (A + k.canonical.toNat • B)) := by
  rw [addMultiple, scalarMul_of_decodeScalar member decoded, Checks.ok_bind,
    add_form sumMember (nsmul_mem member _)]

/-- The multiples that are added one after the other add up to the sum of the decoded ones. -/
theorem foldlM_addMultiple
    {points scalars : List (List UInt8)}
    {decoded : List G1.Affine}
    {multipliers : List Fr}
    (decodedPoints : List.Forall₂ (fun bytes P => decode Curve.g1 bytes = .ok P) points decoded)
    (decodedScalars : List.Forall₂ (fun bytes k => decodeScalar bytes = .ok k) scalars multipliers)
    {A : Curve.g1.Point}
    (sumMember : A ∈ annihilated Curve.g1) :
    (points.zip scalars).foldlM addMultiple (form A) =
      .ok (form (A + ((decoded.zip multipliers).map fun term =>
        term.2.canonical.toNat • term.1.toPoint).sum)) := by
  -- Each step moves one multiple into the sum `A`, which stays in the group.
  induction decodedPoints generalizing scalars multipliers A with
  | nil =>
      rw [List.zip_nil_left, List.zip_nil_left, List.map_nil, List.sum_nil, add_zero]
      rfl
  | cons decodedPoint _ inductionHypothesis =>
      cases decodedScalars with
      | nil =>
          rw [List.zip_nil_right, List.zip_nil_right, List.map_nil, List.sum_nil, add_zero]
          rfl
      | cons decodedScalar decodedScalars =>
          obtain ⟨B, member, rfl, rfl⟩ := decode_eq_ok_iff.mp decodedPoint
          rw [List.zip_cons_cons, List.foldlM_cons,
            addMultiple_form sumMember member decodedScalar, Checks.ok_bind,
            inductionHypothesis decodedScalars (add_mem sumMember (nsmul_mem member _)),
            List.zip_cons_cons, List.map_cons, List.sum_cons, AffinePoint.toPoint_ofPoint,
            add_assoc]

/-- Whatever the scratch space, a sum of multiples is the one that single additions and
multiplications give, and it is accepted as a point. -/
theorem multiScalarMul_eq_ok
    {points scalars : List (List UInt8)}
    {space : Scratch}
    {out : List UInt8}
    (run : ((multiScalarMul points scalars).run.run space).1 = .ok out) :
    sumOfMultiples points scalars = .ok out ∧ IsPoint Curve.g1 out := by
  rcases multiScalarMul_cases points scalars with
    ⟨error, finds⟩ | ⟨decoded, multipliers, -, decodedPoints, decodedScalars, finds⟩
  · cases finds.eq_of_run_eq_ok run
  have outEq := finds.eq_of_run_eq_ok run
  rw [Checks.mapM_eq_ok_iff] at decodedPoints decodedScalars
  have onCurve : ∀ P ∈ decoded, P.isOnCurve = true := by
    intro P member
    obtain ⟨bytes, -, decodes⟩ := Checks.exists_of_forall₂ decodedPoints member
    obtain ⟨A, -, rfl, -⟩ := decode_eq_ok_iff.mp decodes
    exact AffinePoint.isOnCurve_iff.mpr ⟨A, rfl⟩
  have folded := foldlM_addMultiple decodedPoints decodedScalars (zero_mem _)
  rw [zero_add] at folded
  rw [Except.ok.injEq,
    encode_eq (ProjectivePoint.multiScalarSum_denotes onCurve multipliers)] at outEq
  rw [← outEq]
  exact ⟨folded, isPoint_iff.mpr ⟨_, G1.groupOrder_nsmul _, rfl⟩⟩

/-- A sum of multiples of accepted points by accepted scalars is found, as far as the default
capacity is enough. -/
theorem exists_multiScalarMul
    {points scalars : List (List UInt8)}
    (arePoints : ∀ bytes ∈ points, IsPoint Curve.g1 bytes)
    (areScalars : ∀ bytes ∈ scalars, IsScalar bytes)
    (lengths : points.length = scalars.length)
    (few : points.length ≤ 7427)
    {space : Scratch}
    (rested : space.IsRested) :
    ∃ out, ((multiScalarMul points scalars).run.run space).1 = .ok out := by
  have decodes : ∀ bytes ∈ points, ∃ P, decode Curve.g1 bytes = .ok P := by
    intro bytes member
    obtain ⟨P, accepted⟩ := arePoints bytes member
    exact ⟨P, Checks.mapError_eq_ok.mpr accepted⟩
  obtain ⟨decoded, decodedPoints⟩ := Checks.exists_forall₂_iff.mpr decodes
  have decodedScalars := Checks.mapM_eq_ok _ fun bytes member =>
    decodeScalar_of_isScalar (areScalars bytes member)
  have finds :=
    findsAnswer_multiScalarMul lengths (Checks.mapM_eq_ok_iff.mpr decodedPoints) decodedScalars
  have made : Arena.make (max Scratch.defaultCapacity Scratch.defaultCapacity) false = .ok _ := rfl
  obtain ⟨capacity, served⟩ := rested.exists_capacityFor made
  exact ⟨_, finds.needsRoom.eq_value space capacity rested served
    ((multiScalarMulBytes_le few scalars).trans (rested.le_capacityFor served))⟩

/-- On accepted byte strings the operations of both groups are those of modules over the scalars,
and a sum of multiples is the one that single additions and multiplications give. -/
theorem isModule_g1_g2 :
    IsModule Curve.g1 ∧ IsModule Curve.g2 ∧
      (∀ (points scalars : List (List UInt8)) (space : Scratch) (out : List UInt8),
        ((multiScalarMul points scalars).run.run space).1 = .ok out →
          IsPoint Curve.g1 out ∧ sumOfMultiples points scalars = .ok out) ∧
      ∀ (points scalars : List (List UInt8)) (space : Scratch),
        (∀ bytes ∈ points, IsPoint Curve.g1 bytes) → (∀ bytes ∈ scalars, IsScalar bytes) →
        points.length = scalars.length → points.length ≤ 7427 → space.IsRested →
          ∃ out, ((multiScalarMul points scalars).run.run space).1 = .ok out := by
  refine ⟨isModule Curve.g1, isModule Curve.g2, ?_, ?_⟩
  · intro points scalars space out run
    obtain ⟨folded, isPoint⟩ := multiScalarMul_eq_ok run
    exact ⟨isPoint, folded⟩
  · intro points scalars space arePoints areScalars lengths few rested
    exact exists_multiScalarMul arePoints areScalars lengths few rested

/-- The generators are accepted, a negative cancels, and twice the generator is a sum of
multiples. -/
theorem isModule_generators :
    IsPoint Curve.g1 (form G1.generatorPoint) ∧ IsPoint Curve.g2 (form G2.generatorPoint) ∧
      (do add Curve.g2 (form G2.generatorPoint) (← neg Curve.g2 (form G2.generatorPoint))) =
        .ok (List.replicate 128 0) ∧
      ∃ out, ((multiScalarMul [form G1.generatorPoint] [scalarOf 2]).run.run .empty).1 = .ok out ∧
        IsPoint Curve.g1 out ∧ sumOfMultiples [form G1.generatorPoint] [scalarOf 2] = .ok out := by
  have point : IsPoint Curve.g1 (form G1.generatorPoint) :=
    isPoint_iff.mpr ⟨_, G1.groupOrder_nsmul_generatorPoint, rfl⟩
  have twistPoint : IsPoint Curve.g2 (form G2.generatorPoint) :=
    isPoint_iff.mpr ⟨_, G2.groupOrder_nsmul_generatorPoint, rfl⟩
  obtain ⟨-, twist, sums, found⟩ := isModule_g1_g2
  obtain ⟨out, run⟩ := found [form G1.generatorPoint] [scalarOf 2] .empty
    (List.forall_mem_singleton.mpr point) (List.forall_mem_singleton.mpr (isScalar_scalarOf 2)) rfl
    (by decide) Scratch.isRested_empty
  exact ⟨point, twistPoint, twist.add_neg twistPoint, out, run, sums _ _ _ _ run⟩

end Encoded
end Groth16
