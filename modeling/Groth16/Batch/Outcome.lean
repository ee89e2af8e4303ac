import Groth16.Error

/-!
# Batch outcomes

Each entry of a batch has one outcome, in the order of submission. Decoded items are kept
without gaps; the slot of each entry holds the number of its item, or the reason for which
there is none.
-/

namespace Groth16
namespace Batch

/-- What became of one entry. -/
inductive Outcome where
  | valid
  | rejected
  | malformed (reason : VerifyError)
  deriving DecidableEq, Repr

namespace Outcome

/-- The outcome of a decoded entry. -/
def ofBool (holds : Bool) : Outcome := if holds then valid else rejected

/-- Whether the entry holds. -/
def isValid : Outcome → Bool
  | valid => true
  | _ => false

/-- Whether the entry was decoded and does not hold. -/
def isRejected : Outcome → Bool
  | rejected => true
  | _ => false

end Outcome

/-- Whether every entry holds. -/
def allValid (outcomes : List Outcome) : Bool := outcomes.all Outcome.isValid

/-- The number of entries that hold. -/
def countValid (outcomes : List Outcome) : Nat := outcomes.countP Outcome.isValid

/-- The indices of the entries that do not hold. -/
def failedIndices (outcomes : List Outcome) : List Nat :=
  (outcomes.zipIdx.filter fun (outcome, _) => !outcome.isValid).map (·.2)

/-- What stands for one entry: the number of its item, or why it could not be decoded. -/
abbrev Slot := Except VerifyError Nat

/-- The outcome of the entry of a slot, given the verdicts on the items. -/
def Outcome.ofSlot (verdicts : List Bool) : Slot → Outcome
  | .ok number => ofBool (verdicts.getD number false)
  | .error reason => malformed reason

/-- The decoded items of a batch, and one slot for each entry. -/
structure Entries (Item : Type) where
  items : List Item
  slots : List Slot

namespace Entries

variable {Item : Type}

/-- No entries. -/
def empty : Entries Item := ⟨[], []⟩

/-- The number of entries. -/
def length (entries : Entries Item) : Nat := entries.slots.length

/-- Whether there are no entries. -/
def isEmpty (entries : Entries Item) : Bool := entries.slots.isEmpty

/-- The entries with one more, decoded or not. -/
def push (entries : Entries Item) : Except VerifyError Item → Entries Item
  | .ok item => ⟨entries.items ++ [item], entries.slots ++ [.ok entries.items.length]⟩
  | .error reason => ⟨entries.items, entries.slots ++ [.error reason]⟩

/-- The entries of the given results of decoding. -/
def ofList (decoded : List (Except VerifyError Item)) : Entries Item := decoded.foldl push empty

/-- The number of entries that could not be decoded. -/
def malformedCount (entries : Entries Item) : Nat :=
  entries.slots.countP fun slot => !slot.isOk

/-- The outcomes of all entries, given the verdicts on the items. -/
def outcomes (entries : Entries Item) (verdicts : List Bool) : List Outcome :=
  entries.slots.map (.ofSlot verdicts)

end Entries

end Batch
end Groth16
