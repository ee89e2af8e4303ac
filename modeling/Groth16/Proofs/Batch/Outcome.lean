import Groth16.Engine
import Groth16.Proofs.Arena.Scratch
import Groth16.Proofs.Batch.Entry
import Groth16.Proofs.Verification.Equation

/-!
# Outcomes of a batch

A batch that is verified together has the outcomes of single verification, except that the
combined check may accept what single verification rejects. Where it was not made, or did
not accept, the outcomes are those of single verification.
-/

namespace Groth16
namespace Batch

section Items

variable {items : List Item}

/-- Verifying items one by one gives the verdict on each. -/
theorem verifySingly_eq
    (nonempty : ∀ item ∈ items, item.key.ic ≠ []) :
    verifySingly items = .ok (items.map Item.holds) :=
  Checks.mapM_eq_ok Item.holds fun item member => Item.verify_eq_ok (nonempty item member)

/-- The combined check accepts the items in some arena. -/
def Accepts (items : List Item) (weights : Nat → Weight) : Prop :=
  ∃ arena after, (aggregate items weights).run.run arena = (.ok true, after)

/-- The verdicts on the items are those of verification one by one, unless there are enough
items and the combined check accepts them all. -/
theorem verify_cases
    {minBatchSize : Nat}
    {weights : Nat → Weight}
    {arena after : Arena}
    {verdicts : List Bool}
    (run : (verify items minBatchSize weights).run.run arena = (.ok verdicts, after)) :
    verifySingly items = .ok verdicts ∨
      (minBatchSize ≤ items.length ∧ Accepts items weights) ∧
        verdicts = items.map fun _ => true := by
  have singly {arena after : Arena}
      (run : (liftM (verifySingly items) : ExceptT VerifyError (StateM Arena) _).run.run arena =
        (.ok verdicts, after)) :
      verifySingly items = .ok verdicts := congrArg Prod.fst run
  unfold verify at run
  by_cases empty : items.isEmpty = true
  · rw [if_pos empty] at run
    rw [List.isEmpty_iff.mp empty, ← (Checks.run_pure_eq_ok.mp run).1]
    exact Or.inl rfl
  rw [if_neg empty] at run
  by_cases few : items.length < minBatchSize
  · rw [if_pos few] at run
    exact Or.inl (singly run)
  rw [if_neg few] at run
  obtain ⟨combined, between, checked, run⟩ := Checks.run_bind_eq_ok.mp run
  cases combined with
  | true =>
      have answered : ((aggregate items weights).run.run arena).1.mapError
          VerifyError.allocationFailed = .ok true := congrArg Prod.fst checked
      have accepted : Accepts items weights :=
        ⟨arena, _, Prod.ext (Checks.mapError_eq_ok.mp answered) rfl⟩
      exact Or.inr ⟨⟨Nat.le_of_not_lt few, accepted⟩, (Checks.run_pure_eq_ok.mp run).1.symm⟩
  | false => exact Or.inl (singly run)

end Items

theorem exists_of_mem_zipWith
    {First Second Result : Type}
    {combine : First → Second → Result}
    {firsts : List First}
    {seconds : List Second}
    {result : Result}
    (member : result ∈ firsts.zipWith combine seconds) :
    ∃ first second, combine first second = result := by
  rw [← List.map_uncurry_zip_eq_zipWith] at member
  obtain ⟨pair, -, equal⟩ := List.mem_map.mp member
  exact ⟨pair.1, pair.2, equal⟩

/-- The outcome agrees with the result of single verification, up to what the combined check
accepts. -/
structure Outcome.Agrees (result : Except VerifyError Bool) (outcome : Outcome) : Prop where
  malformed_iff : ∀ reason, outcome = .malformed reason ↔ result = .error reason
  valid_of_ok_true : result = .ok true → outcome = .valid
  ok_false_of_rejected : outcome = .rejected → result = .ok false

/-- The outcome of single verification agrees with its result. -/
theorem Outcome.agrees_ofResult (result : Except VerifyError Bool) :
    Agrees result (ofResult result) := by
  rcases result with reason | holds
  · exact ⟨fun other => by simp [ofResult], nofun, nofun⟩
  · cases holds with
    | false => exact ⟨fun other => by simp [ofResult, ofBool], nofun, fun _ => rfl⟩
    | true => exact ⟨fun other => by simp [ofResult, ofBool], fun _ => rfl, nofun⟩

/-- The outcome of an entry that decodes and is accepted agrees with any verdict on it. -/
theorem Outcome.agrees_accepted
    (decoded : Except VerifyError Item)
    (verdict : Item → Bool) :
    Agrees (decoded.map verdict) (ofResult (decoded.map fun _ => true)) := by
  cases decoded with
  | error reason => exact agrees_ofResult (.error reason)
  | ok item => exact ⟨fun other => by simp [ofResult, ofBool, Except.map], fun _ => rfl, nofun⟩

/-- The combined check rejects no entry. -/
theorem Outcome.rejected_notMem_accepted (entries : List (Except VerifyError Item)) :
    rejected ∉ entries.map fun entry => ofResult (entry.map fun _ => true) := by
  intro member
  obtain ⟨entry, -, equal⟩ := List.mem_map.mp member
  cases entry with
  | error reason => cases equal
  | ok item => cases equal

theorem Outcome.forall₂_agrees
    {results : Except VerifyError Item → Except VerifyError Bool}
    {outcomes : Except VerifyError Item → Outcome}
    (agrees : ∀ entry, Agrees (results entry) (outcomes entry))
    (entries : List (Except VerifyError Item)) :
    List.Forall₂ Agrees (entries.map results) (entries.map outcomes) := by
  rw [List.forall₂_map_left_iff, List.forall₂_map_right_iff, List.forall₂_same]
  intro entry _
  exact agrees entry

end Batch

namespace Engine

variable {engine after : Engine}

/-- A computation in scratch space gives what it gives in some arena. -/
theorem exists_of_inScratch_eq_ok
    {Value : Type}
    {capacity : Nat}
    {zeroOnRestore : Bool}
    {body : ExceptT VerifyError (StateM Arena) Value}
    {value : Value}
    (run : (inScratch capacity zeroOnRestore body).run.run engine = (.ok value, after)) :
    ∃ arena arenaAfter, body.run.run arena = (.ok value, arenaAfter) := by
  have given : ((Scratch.useArena capacity zeroOnRestore body.run engine.scratch).1.mapError
      VerifyError.allocationFailed).bind id = .ok value := congrArg Prod.fst run
  cases used : (Scratch.useArena capacity zeroOnRestore body.run engine.scratch).1 with
  | error error =>
      rw [used] at given
      cases given
  | ok result =>
      rw [used] at given
      obtain ⟨arena, runs⟩ := Scratch.exists_of_useArena_eq_ok used
      have resultEq : (body.run.run arena).1 = .ok value := runs.trans given
      exact ⟨arena, _, Prod.ext resultEq rfl⟩

/-- Verdicts in scratch space are those of verification one by one, unless there are enough
items and the combined check accepts them all. -/
theorem verifyItems_cases
    {items : List Batch.Item}
    {config : EngineConfig}
    {weights : Nat → Weight}
    {verdicts : List Bool}
    (run : (verifyItems items config weights).run.run engine = (.ok verdicts, after)) :
    Batch.verifySingly items = .ok verdicts ∨
      (config.minBatchSize ≤ items.length ∧ Batch.Accepts items weights) ∧
        verdicts = items.map fun _ => true := by
  unfold verifyItems at run
  obtain ⟨given, scratched, inScratch, run⟩ := Checks.run_bind_eq_ok.mp run
  obtain ⟨_, _, _, run⟩ := Checks.run_bind_eq_ok.mp run
  obtain ⟨_, _, _, run⟩ := Checks.run_bind_eq_ok.mp run
  obtain ⟨engine', _, _, run⟩ := Checks.run_bind_eq_ok.mp run
  have same : given = verdicts := by
    cases peak : engine'.scratch.peak with
    | none =>
        rw [peak] at run
        exact (Checks.run_pure_eq_ok.mp run).1
    | some peak =>
        rw [peak] at run
        obtain ⟨_, _, _, run⟩ := Checks.run_bind_eq_ok.mp run
        exact (Checks.run_pure_eq_ok.mp run).1
  rw [same] at inScratch
  obtain ⟨arena, arenaAfter, verified⟩ := exists_of_inScratch_eq_ok inScratch
  exact Batch.verify_cases verified

/-- There is one verdict for each item. -/
theorem length_of_verifyItems_eq_ok
    {items : List Batch.Item}
    {config : EngineConfig}
    {weights : Nat → Weight}
    {verdicts : List Bool}
    (run : (verifyItems items config weights).run.run engine = (.ok verdicts, after)) :
    verdicts.length = items.length := by
  rcases verifyItems_cases run with singly | ⟨-, combined⟩
  · exact Checks.length_eq_of_mapM_eq_ok singly
  · rw [combined, List.length_map]

/-- The outcomes of entries come from verdicts on all their items. They are not those of
verification one by one only if the combined check accepts all items. -/
theorem verifyEntries_accepts_cases
    {entries : Batch.Entries Batch.Item}
    (nonempty : ∀ item ∈ entries.items, item.key.ic ≠ [])
    {config : EngineConfig}
    {weights : Nat → Weight}
    {outcomes : List Batch.Outcome}
    (run : (verifyEntries entries config weights).run.run engine = (.ok outcomes, after)) :
    outcomes = entries.outcomes (entries.items.map Batch.Item.holds) ∨
      (config.minBatchSize ≤ entries.items.length ∧ Batch.Accepts entries.items weights) ∧
        outcomes = entries.outcomes (entries.items.map fun _ => true) := by
  unfold verifyEntries at run
  obtain ⟨verdicts, _, verified, run⟩ := Checks.run_bind_eq_ok.mp run
  obtain ⟨_, _, _, run⟩ := Checks.run_bind_eq_ok.mp run
  rw [← (Checks.run_pure_eq_ok.mp run).1]
  rcases verifyItems_cases verified with singly | ⟨accepted, combined⟩
  · rw [Batch.verifySingly_eq nonempty, Except.ok.injEq] at singly
    exact Or.inl (congrArg entries.outcomes singly.symm)
  · exact Or.inr ⟨accepted, congrArg entries.outcomes combined⟩

theorem verifyEntries_cases
    {entries : Batch.Entries Batch.Item}
    (nonempty : ∀ item ∈ entries.items, item.key.ic ≠ [])
    {config : EngineConfig}
    {weights : Nat → Weight}
    {outcomes : List Batch.Outcome}
    (run : (verifyEntries entries config weights).run.run engine = (.ok outcomes, after)) :
    outcomes = entries.outcomes (entries.items.map Batch.Item.holds) ∨
      config.minBatchSize ≤ entries.items.length ∧
        outcomes = entries.outcomes (entries.items.map fun _ => true) :=
  (verifyEntries_accepts_cases nonempty run).imp_right fun accepted =>
    ⟨accepted.1.1, accepted.2⟩

/-- A batch of as many proofs as inputs is verified entry by entry. -/
theorem verifyEntries_of_verifyBatch_eq_ok
    {shared : SharedKey}
    {proofs : List (List UInt8)}
    {inputs : List (List (List UInt8))}
    {config : EngineConfig}
    {weights : Nat → Weight}
    {outcomes : List Batch.Outcome}
    (run : (verifyBatch shared proofs inputs config weights).run.run engine =
      (.ok outcomes, after)) :
    proofs.length = inputs.length ∧
      (verifyEntries (.ofList (proofs.zipWith (Batch.Item.ofBytes? shared) inputs)) config
        weights).run.run engine = (.ok outcomes, after) := by
  unfold verifyBatch at run
  by_cases lengths : proofs.length = inputs.length
  · rw [if_neg (not_not_intro lengths)] at run
    exact ⟨lengths, run⟩
  · rw [if_pos lengths] at run
    cases run

end Engine
end Groth16
