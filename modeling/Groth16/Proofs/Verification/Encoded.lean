import Groth16.Proofs.Verification.Multiples

/-!
# Verification of encoded proofs

Verification of bytes makes its checks in a fixed order and reports the first that fails.
When none fails, the bytes encode three points and the inputs are numbers below the group
order, and the verdict is whether the product of the four pairings is one.
-/

namespace Groth16

section PointCheck

variable {F : Type} [Zero F] [One F] [Add F] [Mul F] [DecidableEq F] [Coordinate F]
variable (C : Curve F) [SubgroupTest C]

/-- The error of bytes that are not accepted as a point. -/
def pointError (bytes : List UInt8) : Option VerifyError :=
  match (AffinePoint.ofBytes? bytes : Except PointError (AffinePoint C)) with
  | .ok _ => none
  | .error error => some (.invalidPoint error)

/-- Whether the bytes are accepted as the identity. -/
def encodesIdentity (bytes : List UInt8) : Bool :=
  match (AffinePoint.ofBytes? bytes : Except PointError (AffinePoint C)) with
  | .ok P => P.isIdentity
  | .error _ => false

variable {C}

theorem pointError_of_ok
    {bytes : List UInt8}
    {P : AffinePoint C}
    (accepted : AffinePoint.ofBytes? bytes = .ok P) :
    pointError C bytes = none := by
  rw [pointError, accepted]

theorem encodesIdentity_of_ok
    {bytes : List UInt8}
    {P : AffinePoint C}
    (accepted : AffinePoint.ofBytes? bytes = .ok P) :
    encodesIdentity C bytes = P.isIdentity := by
  rw [encodesIdentity, accepted]

end PointCheck

namespace Proof

/-- The checks on an encoded proof in their order, each with its error if it fails. -/
def checks (bytes : List UInt8) : List (Option VerifyError) :=
  [if bytes.length = 256 then none else some (.proof (.invalidSize 256 bytes.length)),
    pointError Curve.g1 (Bytes.slice bytes 0 64),
    pointError Curve.g2 (Bytes.slice bytes 64 128),
    pointError Curve.g1 (Bytes.slice bytes 192 64),
    if encodesIdentity Curve.g1 (Bytes.slice bytes 0 64) ||
        encodesIdentity Curve.g2 (Bytes.slice bytes 64 128) ||
        encodesIdentity Curve.g1 (Bytes.slice bytes 192 64)
    then some (.invalidPoint .identity) else none]

/-- The bytes encode three points, none of which is the identity. -/
structure Encodes
    (bytes : List UInt8)
    (A : Curve.g1.Point)
    (B : Curve.g2.Point)
    (C : Curve.g1.Point) : Prop where
  length : bytes.length = 256
  a : AffinePoint.ofBytes? (Bytes.slice bytes 0 64) = .ok (AffinePoint.ofPoint A)
  b : AffinePoint.ofBytes? (Bytes.slice bytes 64 128) = .ok (AffinePoint.ofPoint B)
  c : AffinePoint.ofBytes? (Bytes.slice bytes 192 64) = .ok (AffinePoint.ofPoint C)
  a_ne_zero : A ≠ 0
  b_ne_zero : B ≠ 0
  c_ne_zero : C ≠ 0

namespace Encodes

variable {bytes : List UInt8} {A A' : Curve.g1.Point} {B B' : Curve.g2.Point}
variable {C C' : Curve.g1.Point}

/-- The bytes determine the points. -/
theorem unique
    (first : Encodes bytes A B C)
    (second : Encodes bytes A' B' C') :
    A = A' ∧ B = B' ∧ C = C' := by
  refine ⟨AffinePoint.ofPoint_injective ?_, AffinePoint.ofPoint_injective ?_,
    AffinePoint.ofPoint_injective ?_⟩
  · exact Except.ok.inj (first.a.symm.trans second.a)
  · exact Except.ok.inj (first.b.symm.trans second.b)
  · exact Except.ok.inj (first.c.symm.trans second.c)

theorem isValid (encodes : Encodes bytes A B C) :
    (⟨.ofPoint A, .ofPoint B, .ofPoint C⟩ : Proof).IsValid :=
  ⟨AffinePoint.isValid_of_ofBytes? encodes.a, AffinePoint.isValid_of_ofBytes? encodes.b,
    AffinePoint.isValid_of_ofBytes? encodes.c⟩

/-- No check fails on the encoding of three points. -/
theorem findSome?_checks (encodes : Encodes bytes A B C) :
    (checks bytes).findSome? id = none := by
  rw [checks, if_pos encodes.length, pointError_of_ok encodes.a, pointError_of_ok encodes.b,
    pointError_of_ok encodes.c, encodesIdentity_of_ok encodes.a, encodesIdentity_of_ok encodes.b,
    encodesIdentity_of_ok encodes.c,
    AffinePoint.isIdentity_ofPoint_eq_false.mpr encodes.a_ne_zero,
    AffinePoint.isIdentity_ofPoint_eq_false.mpr encodes.b_ne_zero,
    AffinePoint.isIdentity_ofPoint_eq_false.mpr encodes.c_ne_zero]
  rfl

end Encodes

theorem ofBytes?_of_length
    {bytes : List UInt8}
    (length : bytes.length = 256) :
    ofBytes? bytes =
      (AffinePoint.ofBytes? (Bytes.slice bytes 0 64)).mapError .invalidPoint >>= fun a =>
      (AffinePoint.ofBytes? (Bytes.slice bytes 64 128)).mapError .invalidPoint >>= fun b =>
      (AffinePoint.ofBytes? (Bytes.slice bytes 192 64)).mapError .invalidPoint >>= fun c =>
        if a.isIdentity || b.isIdentity || c.isIdentity
        then .error (.invalidPoint .identity)
        else .ok ⟨a, b, c⟩ :=
  if_neg (not_not_intro length)

theorem ofBytes?_of_length_ne
    {bytes : List UInt8}
    (length : bytes.length ≠ 256) :
    ofBytes? bytes = .error (.proof (.invalidSize 256 bytes.length)) :=
  if_pos length

/-- Decoding of a proof reports the first check that fails, or gives the encoded points. -/
theorem ofBytes?_cases (bytes : List UInt8) :
    (∃ error, (checks bytes).findSome? id = some error ∧ ofBytes? bytes = .error error) ∨
      ∃ A B C, Encodes bytes A B C ∧
        ofBytes? bytes = .ok ⟨.ofPoint A, .ofPoint B, .ofPoint C⟩ := by
  by_cases length : bytes.length = 256
  swap
  · left
    refine ⟨_, ?_, ofBytes?_of_length_ne length⟩
    rw [checks, if_neg length]
    rfl
  rw [ofBytes?_of_length length, checks, if_pos length]
  unfold pointError encodesIdentity
  cases acceptedA : (AffinePoint.ofBytes? (Bytes.slice bytes 0 64) :
      Except PointError G1.Affine) with
  | error error => exact Or.inl ⟨_, rfl, rfl⟩
  | ok P =>
  cases acceptedB : (AffinePoint.ofBytes? (Bytes.slice bytes 64 128) :
      Except PointError G2.Affine) with
  | error error => exact Or.inl ⟨_, rfl, rfl⟩
  | ok Q =>
  cases acceptedC : (AffinePoint.ofBytes? (Bytes.slice bytes 192 64) :
      Except PointError G1.Affine) with
  | error error => exact Or.inl ⟨_, rfl, rfl⟩
  | ok R =>
  simp only [Except.mapError, Checks.ok_bind]
  cases identity : P.isIdentity || Q.isIdentity || R.isIdentity with
  | true => exact Or.inl ⟨_, rfl, rfl⟩
  | false =>
      right
      obtain ⟨A, rfl⟩ := G1.exists_ofPoint acceptedA
      obtain ⟨B, -, rfl⟩ := G2.exists_ofPoint acceptedB
      obtain ⟨C, rfl⟩ := G1.exists_ofPoint acceptedC
      rw [Bool.or_eq_false_iff, Bool.or_eq_false_iff,
        AffinePoint.isIdentity_ofPoint_eq_false, AffinePoint.isIdentity_ofPoint_eq_false,
        AffinePoint.isIdentity_ofPoint_eq_false] at identity
      exact ⟨A, B, C, ⟨length, acceptedA, acceptedB, acceptedC, identity.1.1, identity.1.2,
        identity.2⟩, rfl⟩

end Proof

/-- The error of an input whose number is not below the group order. -/
def inputError (bytes : Bytes.Fixed 32) : Option VerifyError :=
  if Bytes.toNat bytes.val < groupOrder then none else some (.outOfRange .notCanonical)

/-- Inputs of 32 bytes are decoded up to the first whose number is too large. -/
theorem decodeInputs_eq
    {inputs : List (Bytes.Fixed 32)}
    (bounded : inputs.length ≤ VerifyingKey.maxPublicInputs) :
    decodeInputs (inputs.map (·.val)) =
      Checks.unlessError (inputs.findSome? inputError)
        (.ok (inputs.map fun bytes => (Bytes.toNat bytes.val : Fr))) := by
  have goesOn : decodeInputs (inputs.map (·.val)) =
      (inputs.map (·.val)).mapM fun bytes =>
        (FieldElement.ofBytes? bytes).mapError VerifyError.outOfRange := by
    refine if_neg ?_
    rw [List.length_map]
    exact Nat.not_lt.mpr bounded
  rw [goesOn, List.mapM_map]
  apply Checks.mapM_eq_unlessError
  intro bytes _
  rw [Function.comp_apply, FieldElement.ofBytes?_fixed, inputError, toNat_modulus_scalar_eq]
  split <;> rfl

namespace VerifyingKey

variable {key : VerifyingKey}

/-- The checks of verification in their order, each with its error if it fails. -/
def checks
    (key : VerifyingKey)
    (proof : List UInt8)
    (inputs : List (Bytes.Fixed 32)) : List (Option VerifyError) :=
  (if inputs.length = key.ic.length - 1 then none
    else some (.badInputs (key.ic.length - 1) inputs.length)) ::
  (Proof.checks proof ++ inputs.map inputError)

/-- The error of the first check that fails. -/
def firstError
    (key : VerifyingKey)
    (proof : List UInt8)
    (inputs : List (Bytes.Fixed 32)) : Option VerifyError :=
  (key.checks proof inputs).findSome? id

/-- The proof encodes three points, and there are as many inputs as the key expects, all
below the group order. -/
structure Decodes
    (key : VerifyingKey)
    (proof : List UInt8)
    (inputs : List (Bytes.Fixed 32))
    (A : Curve.g1.Point)
    (B : Curve.g2.Point)
    (C : Curve.g1.Point) : Prop where
  count : inputs.length = key.ic.length - 1
  proof : Proof.Encodes proof A B C
  inputs_lt : ∀ bytes ∈ inputs, Bytes.toNat bytes.val < groupOrder

/-- The numbers that the inputs encode. -/
def numbers (inputs : List (Bytes.Fixed 32)) : List Nat :=
  inputs.map fun bytes => Bytes.toNat bytes.val

/-- The product of the pairings of a proof. -/
def equationValue
    (key : VerifyingKey)
    (A : Curve.g1.Point)
    (B : Curve.g2.Point)
    (C : Curve.g1.Point)
    (inputs : List (Bytes.Fixed 32)) : Gt :=
  Pairing.pairing (.ofPoint (-A)) (.ofPoint B) * Pairing.pairing key.alpha key.beta *
    Pairing.pairing (.ofPoint (key.inputSum (numbers inputs))) key.gamma *
    Pairing.pairing (.ofPoint C) key.delta

/-- The single pairings multiply to the unit of the equation. -/
theorem equationValue_eq
    (valid : key.IsValid)
    {A : Curve.g1.Point}
    {B : Curve.g2.Point}
    {C : Curve.g1.Point}
    (proofValid : (⟨.ofPoint A, .ofPoint B, .ofPoint C⟩ : Proof).IsValid)
    (inputs : List (Bytes.Fixed 32)) :
    key.equationValue A B C inputs =
      ⟨key.equationUnit ⟨.ofPoint A, .ofPoint B, .ofPoint C⟩ (key.inputSum (numbers inputs))⟩ := by
  have pairs := isValidPair_of_mem_pairsFor valid proofValid (key.inputSum (numbers inputs))
  simp only [pairsFor, List.forall_mem_cons, AffinePoint.neg_ofPoint] at pairs
  obtain ⟨own, constant, input, last, -⟩ := pairs
  rw [equationValue, Pairing.pairing_eq_pairUnit own, Pairing.pairing_eq_pairUnit constant,
    Pairing.pairing_eq_pairUnit input, Pairing.pairing_eq_pairUnit last, Pairing.mk_mul_mk,
    Pairing.mk_mul_mk, Pairing.mk_mul_mk, equationUnit, pairsFor, AffinePoint.neg_ofPoint]
  simp only [List.map_cons, List.map_nil, List.prod_cons, List.prod_nil, mul_one, mul_assoc]

variable {proof : List UInt8} {inputs : List (Bytes.Fixed 32)}

/-- No check fails when everything decodes. -/
theorem Decodes.firstError_eq_none
    {A : Curve.g1.Point}
    {B : Curve.g2.Point}
    {C : Curve.g1.Point}
    (decodes : key.Decodes proof inputs A B C) :
    key.firstError proof inputs = none := by
  rw [firstError, checks, if_pos decodes.count, List.findSome?_cons, id, List.findSome?_append,
    decodes.proof.findSome?_checks, Option.none_or, List.findSome?_map, List.findSome?_eq_none_iff]
  intro bytes member
  exact if_pos (decodes.inputs_lt bytes member)

/-- Verification reports the first check that fails, or everything decodes. -/
theorem verifyBytes_cases
    (bounded : key.ic.length ≤ maxPublicInputs + 1)
    (proof : List UInt8)
    (inputs : List (Bytes.Fixed 32)) :
    (∃ error, key.firstError proof inputs = some error ∧
        key.verifyBytes proof (inputs.map (·.val)) = .error error) ∨
      ∃ A B C, key.Decodes proof inputs A B C ∧
        key.verifyBytes proof (inputs.map (·.val)) =
          key.verify ⟨.ofPoint A, .ofPoint B, .ofPoint C⟩
            (inputs.map fun bytes => (Bytes.toNat bytes.val : Fr)) := by
  unfold firstError checks verifyBytes checkInputCount
  rw [List.length_map, publicInputs]
  by_cases count : inputs.length = key.ic.length - 1
  swap
  · rw [if_neg count, if_neg count]
    exact Or.inl ⟨_, rfl, rfl⟩
  rw [if_pos count, if_pos count, List.findSome?_cons, id, List.findSome?_append,
    List.findSome?_map, decodeInputs_eq (by omega), Checks.ok_bind]
  rcases Proof.ofBytes?_cases proof with ⟨error, failed, refused⟩ | ⟨A, B, C, encodes, decoded⟩
  · rw [failed, refused]
    exact Or.inl ⟨error, rfl, rfl⟩
  · rw [encodes.findSome?_checks, decoded, Option.none_or, Function.id_comp]
    cases found : inputs.findSome? inputError with
    | some error => exact Or.inl ⟨error, rfl, rfl⟩
    | none =>
        refine Or.inr ⟨A, B, C, ⟨count, encodes, ?_⟩, rfl⟩
        intro bytes member
        have passed := List.findSome?_eq_none_iff.mp found bytes member
        rw [inputError] at passed
        by_contra large
        rw [if_neg large] at passed
        cases passed

/-- Verification of everything that decodes has the verdict of the equation. -/
theorem Decodes.verifyBytes_eq
    (valid : key.IsValid)
    (bounded : key.ic.length ≤ maxPublicInputs + 1)
    {A : Curve.g1.Point}
    {B : Curve.g2.Point}
    {C : Curve.g1.Point}
    (decodes : key.Decodes proof inputs A B C) :
    ∃ holds, key.verifyBytes proof (inputs.map (·.val)) = .ok holds ∧
      (holds = true ↔ key.equationValue A B C inputs = 1) := by
  rcases verifyBytes_cases bounded proof inputs with
    ⟨error, failed, -⟩ | ⟨A', B', C', decodes', computed⟩
  · rw [decodes.firstError_eq_none] at failed
    cases failed
  obtain ⟨rfl, rfl, rfl⟩ := decodes.proof.unique decodes'.proof
  have count : (inputs.map fun bytes => (Bytes.toNat bytes.val : Fr)).length =
      key.publicInputs := by
    rw [List.length_map]
    exact decodes.count
  have scalars : (inputs.map fun bytes => (Bytes.toNat bytes.val : Fr)).map
      (fun x => x.canonical.toNat) = numbers inputs := by
    rw [List.map_map]
    apply List.map_congr_left
    intro bytes member
    rw [Function.comp_apply, FieldElement.toNat_canonical_natCast, toNat_modulus_scalar_eq]
    exact Nat.mod_eq_of_lt (decodes.inputs_lt bytes member)
  obtain ⟨holds, verified, decides⟩ := verify_eq valid decodes.proof.isValid count
  refine ⟨holds, computed.trans verified, decides.trans ?_⟩
  rw [scalars, equationValue_eq valid decodes.proof.isValid, ← Units.val_eq_one]
  exact Gt.ext_iff.symm

/-- Verification of bytes under an accepted key accepts exactly the encoded proofs that
satisfy the equation, rejects the other encoded proofs, and otherwise reports the first check
that fails. -/
theorem verifyBytes_spec
    {encoded : List UInt8}
    {key : VerifyingKey}
    (accepted : ofBytes? encoded = .ok key)
    (proof : List UInt8)
    (inputs : List (Bytes.Fixed 32)) :
    (key.verifyBytes proof (inputs.map (·.val)) = .ok true ↔
        ∃ A B C, key.Decodes proof inputs A B C ∧ key.equationValue A B C inputs = 1) ∧
      (key.verifyBytes proof (inputs.map (·.val)) = .ok false ↔
        ∃ A B C, key.Decodes proof inputs A B C ∧ key.equationValue A B C inputs ≠ 1) ∧
      ∀ error, key.verifyBytes proof (inputs.map (·.val)) = .error error ↔
        key.firstError proof inputs = some error := by
  obtain ⟨valid, bounded⟩ := isValid_of_ofBytes? accepted
  rcases verifyBytes_cases bounded proof inputs with
    ⟨reported, failed, refused⟩ | ⟨A, B, C, decodes, -⟩
  · have undecoded : ∀ A B C, ¬key.Decodes proof inputs A B C := by
      intro A B C decodes
      rw [decodes.firstError_eq_none] at failed
      cases failed
    rw [refused, failed]
    refine ⟨iff_of_false nofun ?_, iff_of_false nofun ?_, ?_⟩
    · rintro ⟨A, B, C, decodes, -⟩
      exact undecoded A B C decodes
    · rintro ⟨A, B, C, decodes, -⟩
      exact undecoded A B C decodes
    · intro error
      rw [Except.error.injEq, Option.some.injEq]
  · obtain ⟨holds, computed, decides⟩ := decodes.verifyBytes_eq valid bounded
    have same : ∀ A' B' C', key.Decodes proof inputs A' B' C' →
        key.equationValue A' B' C' inputs = key.equationValue A B C inputs := by
      intro A' B' C' decodes'
      obtain ⟨rfl, rfl, rfl⟩ := decodes.proof.unique decodes'.proof
      rfl
    rw [computed, decodes.firstError_eq_none, Except.ok.injEq, Except.ok.injEq]
    refine ⟨?_, ?_, ?_⟩
    · constructor
      · intro holdsTrue
        exact ⟨A, B, C, decodes, decides.mp holdsTrue⟩
      · rintro ⟨A', B', C', decodes', one⟩
        rw [same A' B' C' decodes'] at one
        exact decides.mpr one
    · rw [← Bool.not_eq_true, decides]
      constructor
      · intro different
        exact ⟨A, B, C, decodes, different⟩
      · rintro ⟨A', B', C', decodes', different⟩
        rwa [same A' B' C' decodes'] at different
    · intro error
      exact iff_of_false nofun nofun

/-- Two proofs for the input 6 of a key with one input, of which the second does not hold, and the
first without its input. -/
theorem verifyBytes_spec_oneInput :
    let input : Bytes.Fixed 32 := ⟨FieldElement.toBytes (6 : Fr), FieldElement.length_toBytes 6⟩
    let accepted := Proof.multipleBytes 2 97 9
    let rejected := Proof.multipleBytes 2 98 9
    ofBytes? oneInput.toBytes = .ok oneInput ∧
      (oneInput.verifyBytes accepted [input.val] = .ok true ∧
        ∃ A B C, oneInput.Decodes accepted [input] A B C ∧
          oneInput.equationValue A B C [input] = 1) ∧
      (oneInput.verifyBytes rejected [input.val] = .ok false ∧
        ∃ A B C, oneInput.Decodes rejected [input] A B C ∧
          oneInput.equationValue A B C [input] ≠ 1) ∧
      oneInput.verifyBytes accepted [] = .error (.badInputs 1 0) ∧
        oneInput.firstError accepted [] = some (.badInputs 1 0) := by
  intro input accepted rejected
  have holds : oneInput.verifyBytes accepted [input.val] = .ok true := by
    rw [verifyBytes_oneInput (by decide +kernel) (by decide +kernel) (by decide +kernel)]
    exact congrArg Except.ok (decide_eq_true (by decide +kernel))
  have fails : oneInput.verifyBytes rejected [input.val] = .ok false := by
    rw [verifyBytes_oneInput (by decide +kernel) (by decide +kernel) (by decide +kernel)]
    exact congrArg Except.ok (decide_eq_false (by decide +kernel))
  have refused : oneInput.verifyBytes accepted [] = .error (.badInputs 1 0) := rfl
  exact ⟨ofBytes?_oneInput,
    ⟨holds, (verifyBytes_spec ofBytes?_oneInput accepted [input]).1.mp holds⟩,
    ⟨fails, (verifyBytes_spec ofBytes?_oneInput rejected [input]).2.1.mp fails⟩,
    refused, ((verifyBytes_spec ofBytes?_oneInput accepted []).2.2 _).mp refused⟩

end VerifyingKey
end Groth16
