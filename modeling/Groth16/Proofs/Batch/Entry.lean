import Groth16.Batch.Aggregate
import Groth16.Batch.Outcome
import Groth16.Proofs.Checks
import Mathlib.Data.List.Forall2
import Mathlib.Data.List.Induction

/-!
# Entries of a batch

An entry is decoded with the checks of single verification, in the same order. The decoded
items are kept without gaps, yet the slots lead every verdict back to its entry.
-/

namespace Groth16

theorem length_decodeInputs
    {encoded : List (List UInt8)}
    {inputs : List Fr}
    (decoded : decodeInputs encoded = .ok inputs) :
    inputs.length = encoded.length := by
  unfold decodeInputs at decoded
  obtain ⟨-, computed⟩ := Checks.guard_eq_ok.mp decoded
  exact Checks.length_eq_of_mapM_eq_ok computed

theorem VerifyingKey.checkInputCount_eq_ok
    {key : VerifyingKey}
    {count : Nat}
    {done : Unit}
    (checked : key.checkInputCount count = .ok done) :
    count = key.publicInputs := by
  unfold checkInputCount at checked
  by_cases fits : count = key.publicInputs
  · exact fits
  · rw [if_neg fits] at checked
    cases checked

namespace Batch

namespace Item

/-- Whether the item holds by itself. -/
def holds (item : Item) : Bool :=
  match item.verify with
  | .ok holds => holds
  | .error _ => false

/-- Verification of a decoded item has a verdict. -/
theorem verify_eq_ok
    {item : Item}
    (nonempty : item.key.ic ≠ []) :
    item.verify = .ok item.holds := by
  obtain ⟨constant, points, icEq⟩ := List.exists_cons_of_ne_nil nonempty
  have count : item.inputs.length = points.length := by
    have length := item.inputs_length
    rw [VerifyingKey.publicInputs, show item.shared.key.ic = item.key.ic from rfl, icEq,
      List.length_cons, Nat.add_sub_cancel] at length
    exact length
  have computed : ∃ X, item.key.inputPoint item.inputs = .ok X := by
    unfold VerifyingKey.inputPoint
    rw [icEq]
    exact ⟨_, if_pos count⟩
  obtain ⟨X, computed⟩ := computed
  have verified : ∃ holds, item.verify = .ok holds := by
    rw [verify, VerifyingKey.verify, computed]
    exact ⟨_, rfl⟩
  obtain ⟨verdict, verified⟩ := verified
  rw [holds, verified]

variable {shared : SharedKey} {proof : List UInt8} {inputs : List (List UInt8)}

/-- Verification of bytes is decoding followed by verification of the item. -/
theorem verifyBytes_eq
    (shared : SharedKey)
    (proof : List UInt8)
    (inputs : List (List UInt8)) :
    shared.key.verifyBytes proof inputs = ofBytes? shared proof inputs >>= verify := by
  unfold VerifyingKey.verifyBytes ofBytes?
  cases checked : shared.key.checkInputCount inputs.length with
  | error error => rfl
  | ok done =>
      cases Proof.ofBytes? proof with
      | error error => rfl
      | ok proof =>
          cases decoded : decodeInputs inputs with
          | error error => rfl
          | ok scalars =>
              have fits : scalars.length = shared.key.publicInputs :=
                (length_decodeInputs decoded).trans
                  (VerifyingKey.checkInputCount_eq_ok checked)
              rw [Checks.ok_bind, Checks.ok_bind, Checks.ok_bind, Checks.ok_bind, Checks.ok_bind,
                Checks.ok_bind, make?, dif_pos fits, Checks.ok_bind]
              rfl

/-- A decoded item has the key object that it was decoded for. -/
theorem shared_eq_of_ofBytes?
    {item : Item}
    (decoded : ofBytes? shared proof inputs = .ok item) :
    item.shared = shared := by
  obtain ⟨_, _, decoded⟩ := Checks.bind_eq_ok.mp decoded
  obtain ⟨proof', _, decoded⟩ := Checks.bind_eq_ok.mp decoded
  obtain ⟨scalars, _, made⟩ := Checks.bind_eq_ok.mp decoded
  unfold make? at made
  by_cases fits : scalars.length = shared.key.publicInputs
  · rw [dif_pos fits, Except.ok.injEq] at made
    rw [← made]
  · rw [dif_neg fits] at made
    cases made

/-- A decoded item has input points if the key object has. -/
theorem ic_ne_nil_of_ofBytes?
    {item : Item}
    (nonempty : shared.key.ic ≠ [])
    (decoded : ofBytes? shared proof inputs = .ok item) :
    item.key.ic ≠ [] := by
  rw [key, shared_eq_of_ofBytes? decoded]
  exact nonempty

/-- Verification of bytes gives the verdict on the decoded item. -/
theorem verifyBytes_eq_map
    (nonempty : shared.key.ic ≠ [])
    (proof : List UInt8)
    (inputs : List (List UInt8)) :
    shared.key.verifyBytes proof inputs = (ofBytes? shared proof inputs).map holds := by
  rw [verifyBytes_eq]
  cases decoded : ofBytes? shared proof inputs with
  | error error => rfl
  | ok item =>
      rw [Checks.ok_bind, verify_eq_ok (ic_ne_nil_of_ofBytes? nonempty decoded), Except.map]

/-- Verification of encoded entries one by one gives the verdicts on the decoded items. -/
theorem zipWith_verifyBytes
    (nonempty : shared.key.ic ≠ [])
    (proofs : List (List UInt8))
    (inputs : List (List (List UInt8))) :
    proofs.zipWith shared.key.verifyBytes inputs =
      (proofs.zipWith (ofBytes? shared) inputs).map fun entry => entry.map holds := by
  rw [List.map_zipWith]
  congr 1
  funext proof encoded
  exact verifyBytes_eq_map nonempty proof encoded

end Item

/-- Whether the entry could not be decoded. -/
def Outcome.isMalformed : Outcome → Bool
  | malformed _ => true
  | _ => false

/-- The verdict on the item of the entry, if it was decoded. -/
def Outcome.verdict? : Outcome → Option Bool
  | valid => some true
  | rejected => some false
  | malformed _ => none

/-- The outcome of an entry whose single verification has the given result. -/
def Outcome.ofResult : Except VerifyError Bool → Outcome
  | .ok holds => ofBool holds
  | .error reason => malformed reason

/-- The slot leads to the result of decoding an entry: to the item, or to the same reason. -/
inductive Slot.LeadsTo {Item : Type} (items : List Item) : Slot → Except VerifyError Item → Prop
  | item
    {number : Nat}
    {item : Item}
    (found : items[number]? = some item) : LeadsTo items (.ok number) (.ok item)
  | reason (reason : VerifyError) : LeadsTo items (.error reason) (.error reason)

namespace Slot.LeadsTo

variable {Item : Type} {items : List Item} {slot : Slot} {decoded : Except VerifyError Item}

/-- Further items leave the slot as it is. -/
theorem append
    (leads : LeadsTo items slot decoded)
    (more : List Item) :
    LeadsTo (items ++ more) slot decoded := by
  cases leads with
  | reason reason => exact .reason reason
  | item found =>
      obtain ⟨bound, -⟩ := List.getElem?_eq_some_iff.mp found
      exact .item ((List.getElem?_append_left bound).trans found)

theorem number_lt
    {number : Nat}
    (leads : LeadsTo items (.ok number) decoded) :
    number < items.length := by
  cases leads with
  | item found => exact (List.getElem?_eq_some_iff.mp found).1

theorem ofSlot_eq
    (leads : LeadsTo items slot decoded)
    (verdict : Item → Bool) :
    Outcome.ofSlot (items.map verdict) slot = .ofResult (decoded.map verdict) := by
  cases leads with
  | reason reason => rfl
  | item found =>
      rw [Outcome.ofSlot, List.getD_eq_getElem?_getD, List.getElem?_map, found]
      rfl

end Slot.LeadsTo

namespace Entries

variable {Item : Type}

theorem length_push (entries : Entries Item) (decoded : Except VerifyError Item) :
    (entries.push decoded).length = entries.length + 1 := by
  cases decoded <;> exact List.length_append

theorem ofList_append_singleton
    (results : List (Except VerifyError Item))
    (decoded : Except VerifyError Item) :
    ofList (results ++ [decoded]) = (ofList results).push decoded := by
  rw [ofList, List.foldl_append]
  rfl

theorem length_ofList (results : List (Except VerifyError Item)) :
    (ofList results).length = results.length := by
  induction results using List.reverseRecOn with
  | nil => rfl
  | append_singleton results decoded inductionHypothesis =>
      rw [ofList_append_singleton, length_push, inductionHypothesis, List.length_append]
      rfl

/-- The items are those that were decoded, in order. -/
theorem items_ofList (results : List (Except VerifyError Item)) :
    (ofList results).items = results.filterMap Except.toOption := by
  induction results using List.reverseRecOn with
  | nil => rfl
  | append_singleton results decoded inductionHypothesis =>
      rw [ofList_append_singleton, List.filterMap_append, ← inductionHypothesis]
      cases decoded with
      | error reason => exact (List.append_nil _).symm
      | ok item => rfl

theorem mem_items_ofList
    {results : List (Except VerifyError Item)}
    {item : Item} :
    item ∈ (ofList results).items ↔ .ok item ∈ results := by
  rw [items_ofList, List.mem_filterMap]
  constructor
  · rintro ⟨error | other, member, equal⟩
    · cases equal
    · cases equal
      exact member
  · intro member
    exact ⟨_, member, rfl⟩

theorem length_items_ofList (results : List (Except VerifyError Item)) :
    (ofList results).items.length = results.countP fun decoded => decoded.isOk := by
  rw [items_ofList, List.length_filterMap_eq_countP]
  congr 1
  funext decoded
  cases decoded <;> rfl

/-- Each slot leads to the result of its own entry. -/
theorem slots_lead_push
    {entries : Entries Item}
    {results : List (Except VerifyError Item)}
    (lead : List.Forall₂ (Slot.LeadsTo entries.items) entries.slots results)
    (decoded : Except VerifyError Item) :
    List.Forall₂ (Slot.LeadsTo (entries.push decoded).items) (entries.push decoded).slots
      (results ++ [decoded]) := by
  cases decoded with
  | error reason => exact List.rel_append lead (.cons (.reason reason) .nil)
  | ok item =>
      refine List.rel_append (lead.imp fun slot result leads => leads.append [item]) ?_
      exact .cons (.item List.getElem?_concat_length) .nil

theorem slots_lead_ofList (results : List (Except VerifyError Item)) :
    List.Forall₂ (Slot.LeadsTo (ofList results).items) (ofList results).slots results := by
  induction results using List.reverseRecOn with
  | nil => exact .nil
  | append_singleton results decoded inductionHypothesis =>
      rw [ofList_append_singleton]
      exact slots_lead_push inductionHypothesis decoded

/-- Every entry has the outcome that the verdict on its own item gives. -/
theorem outcomes_ofList
    (results : List (Except VerifyError Item))
    (verdict : Item → Bool) :
    (ofList results).outcomes ((ofList results).items.map verdict) =
      results.map fun decoded => .ofResult (decoded.map verdict) := by
  rw [outcomes, ← List.forall₂_eq_eq_eq, List.forall₂_map_left_iff, List.forall₂_map_right_iff]
  exact (slots_lead_ofList results).imp fun slot decoded leads => leads.ofSlot_eq verdict

/-- The numbers in the slots are numbers of items. -/
theorem number_lt_of_mem_slots
    {results : List (Except VerifyError Item)}
    {number : Nat}
    (member : .ok number ∈ (ofList results).slots) :
    number < (ofList results).items.length := by
  have lead := slots_lead_ofList results
  obtain ⟨index, bound, at_index⟩ := List.mem_iff_getElem.mp member
  have leads := lead.get bound (lead.length_eq ▸ bound)
  rw [List.get_eq_getElem, at_index] at leads
  exact leads.number_lt

/-- One more item takes the next verdict. -/
theorem outcomes_push_item
    {results : List (Except VerifyError Item)}
    {verdicts : List Bool}
    (length : verdicts.length = (ofList results).items.length)
    (item : Item)
    (verdict : Bool) :
    ((ofList results).push (.ok item)).outcomes (verdicts ++ [verdict]) =
      (ofList results).outcomes verdicts ++ [.ofBool verdict] := by
  rw [push, outcomes, List.map_append, List.map_singleton, ← length, outcomes]
  congr 1
  · apply List.map_congr_left
    intro slot member
    cases slot with
    | error reason => rfl
    | ok number =>
        have bound := number_lt_of_mem_slots member
        rw [← length] at bound
        rw [Outcome.ofSlot, Outcome.ofSlot, List.getD_eq_getElem?_getD,
          List.getElem?_append_left bound, ← List.getD_eq_getElem?_getD]
  · rw [Outcome.ofSlot, List.getD_eq_getElem?_getD, List.getElem?_concat_length]
    rfl

/-- The verdicts on the items stand in the outcomes, in order. -/
theorem filterMap_verdict?_outcomes
    {results : List (Except VerifyError Item)}
    {verdicts : List Bool}
    (length : verdicts.length = (ofList results).items.length) :
    ((ofList results).outcomes verdicts).filterMap Outcome.verdict? = verdicts := by
  induction results using List.reverseRecOn generalizing verdicts with
  | nil => exact (List.length_eq_zero_iff.mp length).symm
  | append_singleton results decoded inductionHypothesis =>
      rw [ofList_append_singleton] at length ⊢
      cases decoded with
      | error reason =>
          rw [outcomes, push, List.map_append, List.filterMap_append, ← outcomes,
            inductionHypothesis length]
          exact List.append_nil verdicts
      | ok item =>
          -- The number in the new slot is that of the last verdict.
          rw [push, List.length_append, List.length_singleton] at length
          rcases List.eq_nil_or_concat' verdicts with rfl | ⟨earlier, verdict, rfl⟩
          · cases length
          · rw [List.length_append, List.length_singleton, Nat.add_right_cancel_iff] at length
            rw [outcomes_push_item length, List.filterMap_append, inductionHypothesis length]
            cases verdict <;> rfl

theorem countP_isMalformed_outcomes (entries : Entries Item) (verdicts : List Bool) :
    (entries.outcomes verdicts).countP Outcome.isMalformed = entries.malformedCount := by
  rw [outcomes, malformedCount, List.countP_map]
  congr 1
  funext slot
  cases slot with
  | error reason => rfl
  | ok number =>
      change (Outcome.ofBool _).isMalformed = false
      cases verdicts.getD number false <;> rfl

/-- The outcomes count the verdicts on the items and the entries without an item. -/
theorem countP_outcomes
    {results : List (Except VerifyError Item)}
    {verdicts : List Bool}
    (length : verdicts.length = (ofList results).items.length) :
    let outcomes := (ofList results).outcomes verdicts
    outcomes.countP Outcome.isValid = verdicts.count true ∧
      outcomes.countP Outcome.isRejected = verdicts.count false ∧
      outcomes.countP Outcome.isMalformed = (ofList results).malformedCount ∧
      (outcomes.countP fun outcome => !outcome.isMalformed) = verdicts.length := by
  intro outcomes
  have verdictsEq : outcomes.filterMap Outcome.verdict? = verdicts :=
    filterMap_verdict?_outcomes length
  refine ⟨?_, ?_, ?_, ?_⟩
  · rw [← verdictsEq, List.count, List.countP_filterMap]
    congr 1
    funext outcome
    cases outcome <;> rfl
  · rw [← verdictsEq, List.count, List.countP_filterMap]
    congr 1
    funext outcome
    cases outcome <;> rfl
  · exact countP_isMalformed_outcomes _ _
  · rw [← verdictsEq, List.length_filterMap_eq_countP]
    congr 1
    funext outcome
    cases outcome <;> rfl

end Entries

end Batch
end Groth16
