import Groth16.Proofs.Arena.Scratch
import Groth16.Proofs.Calls

/-!
# Runs of scratch space

After any calls scratch space is not in use, and the arena that it keeps, if any, is empty. So
every use that is served runs in an empty arena of the wished kind and leaves an empty one behind.
A use that is refused leaves everything as it was. A computation that turns to scratch space while
it runs there is refused as well, and has no effect on it.
-/

namespace Groth16
namespace Scratch

/-- A computation in scratch space, step by step. Each step may depend on what the steps before it
gave, and may turn to scratch space again. -/
inductive Guest (Value : Type) where
  | finish (value : Value)
  /-- Allocates, writes, rewinds or looks around, whatever it does with its arena. -/
  | work (step : StateM Arena Value) (next : Value → Guest Value)
  | use
    (minCapacity : Nat)
    (zeroOnRestore : Bool)
    (body : Guest Value)
    (next : Except ArenaError Value → Guest Value)
  | peak (next : Option Nat → Guest Value)
  | release (next : Guest Value)

namespace Guest

variable {Value : Type}

/-- Runs the computation in its arena and with the scratch space that it may turn to. -/
def run : Guest Value → StateT Arena (StateM Scratch) Value
  | finish value => pure value
  | work step next => fun arena =>
    let (value, after) := step.run arena
    (next value).run after
  | use minCapacity zeroOnRestore body next => do
    let answer ← StateT.lift (Scratch.use minCapacity zeroOnRestore body.run)
    (next answer).run
  | peak next => do
    let largest ← StateT.lift (Scratch.peak <$> get)
    (next largest).run
  | release next => do
    StateT.lift (modify Scratch.release)
    next.run

/-- Runs the computation in its arena alone: a use is refused without running what it is for,
there is no peak to be seen, and a release does nothing. -/
def alone : Guest Value → StateM Arena Value
  | finish value => pure value
  | work step next => do (next (← step)).alone
  | use _ _ _ next => (next (.error .scratchBusy)).alone
  | peak next => (next none).alone
  | release next => next.alone

/-- While scratch space is in use, a computation in it runs as if it were alone. -/
theorem run_inUse (guest : Guest Value) (arena : Arena) :
    guest.run arena .inUse = (guest.alone arena, .inUse) := by
  induction guest generalizing arena with
  | finish value => rfl
  | work step next inductionHypothesis => exact inductionHypothesis _ _
  | use minCapacity zeroOnRestore body next _ inductionHypothesis =>
      exact inductionHypothesis (.error .scratchBusy) arena
  | peak next inductionHypothesis => exact inductionHypothesis none arena
  | release next inductionHypothesis => exact inductionHypothesis arena

end Guest

/-- A call of scratch space. -/
inductive Call (Value : Type) where
  | use (minCapacity : Nat) (zeroOnRestore : Bool) (guest : Guest Value)
  | peak
  | release

/-- What a call answers. -/
inductive Answer (Value : Type) where
  | used (result : Except ArenaError Value)
  | peak (largest : Option Nat)
  | released

variable {Value : Type}

def perform : Call Value → StateM Scratch (Answer Value)
  | .use minCapacity zeroOnRestore guest => .used <$> use minCapacity zeroOnRestore guest.run
  | .peak => fun space => (.peak space.peak, space)
  | .release => fun space => (.released, space.release)

theorem perform_use
    (minCapacity : Nat)
    (zeroOnRestore : Bool)
    (guest : Guest Value)
    (space : Scratch) :
    (perform (.use minCapacity zeroOnRestore guest)).run space =
      (.used (use minCapacity zeroOnRestore guest.run space).1,
        (use minCapacity zeroOnRestore guest.run space).2) := rfl

/-- What a call answers while scratch space is in use. -/
def Call.answerInUse : Call Value → Answer Value
  | use .. => .used (.error .scratchBusy)
  | peak => .peak none
  | release => .released

/-- A call has no effect while scratch space is in use. -/
theorem perform_inUse (call : Call Value) :
    (perform call).run .inUse = (call.answerInUse, .inUse) := by
  cases call <;> rfl

/-- A use runs its computation alone in an empty arena of the wished kind, and leaves another empty
arena behind. -/
structure Serves
    (kept : Option Arena)
    (minCapacity : Nat)
    (zeroOnRestore : Bool)
    (guest : Guest Value)
    (arena left : Arena) : Prop where
  isArenaFor : IsArenaFor kept minCapacity zeroOnRestore arena
  used_eq : arena.used = 0
  minCapacity_le : minCapacity ≤ arena.capacity
  zeroOnRestore_eq : arena.zeroOnRestore = zeroOnRestore
  perform_eq : (perform (.use minCapacity zeroOnRestore guest)).run (.idle kept) =
    (.used (.ok (guest.alone.run arena).1), .idle (some left))
  left_eq : left = (guest.alone.run arena).2.reset
  used_left_eq : left.used = 0

/-- A use for which the kept arena does not serve and no new one can be made leaves the kept one
in its place. -/
structure Refuses
    (kept : Option Arena)
    (minCapacity : Nat)
    (zeroOnRestore : Bool)
    (guest : Guest Value)
    (error : ArenaError) : Prop where
  unserved : ∀ old ∈ kept, serves old minCapacity zeroOnRestore = false
  make_eq : Arena.make (max minCapacity defaultCapacity) zeroOnRestore = .error error
  perform_eq : (perform (.use minCapacity zeroOnRestore guest)).run (.idle kept) =
    (.used (.error error), .idle kept)

/-- Scratch space between calls keeps an empty arena, if any, and either serves a use or refuses
it. -/
structure IsReady (Value : Type) (kept : Option Arena) : Prop where
  used_eq : ∀ arena ∈ kept, arena.used = 0
  serves_or_refuses : ∀ minCapacity zeroOnRestore (guest : Guest Value),
    (∃ arena left, Serves kept minCapacity zeroOnRestore guest arena left) ∨
      ∃ error, Refuses kept minCapacity zeroOnRestore guest error
  perform_peak : (perform (.peak : Call Value)).run (.idle kept) =
    (.peak (kept.map Arena.peak), .idle kept)
  perform_release : (perform (.release : Call Value)).run (.idle kept) = (.released, empty)

theorem serves_of_arenaFor
    {kept : Option Arena}
    {minCapacity : Nat}
    {zeroOnRestore : Bool}
    {arena : Arena}
    (empty : ∀ old ∈ kept, old.used = 0)
    (found : arenaFor kept minCapacity zeroOnRestore = .ok arena)
    (guest : Guest Value) :
    Serves kept minCapacity zeroOnRestore guest arena (guest.alone.run arena).2.reset := by
  have isArenaFor := arenaFor_eq_ok_iff.mp found
  obtain ⟨used_eq, large, clears⟩ := isArenaFor.wished empty
  refine ⟨isArenaFor, used_eq, large, clears, ?_, rfl, ?_⟩
  · rw [perform_use, use_idle, found]
    dsimp only
    rw [guest.run_inUse, used_eq]
    rfl
  · rw [Arena.reset, Arena.used_restore, Nat.min_zero]

theorem refuses_of_arenaFor
    {kept : Option Arena}
    {minCapacity : Nat}
    {zeroOnRestore : Bool}
    {error : ArenaError}
    (refused : arenaFor kept minCapacity zeroOnRestore = .error error)
    (guest : Guest Value) :
    Refuses kept minCapacity zeroOnRestore guest error := by
  obtain ⟨unserved, failed⟩ := of_arenaFor_eq_error refused
  refine ⟨unserved, failed, ?_⟩
  rw [perform_use, use_idle, refused]

/-- Scratch space that keeps an empty arena, if any, is ready for all calls. -/
theorem isReady_of_used_eq
    {kept : Option Arena}
    (empty : ∀ arena ∈ kept, arena.used = 0) :
    IsReady Value kept where
  used_eq := empty
  serves_or_refuses minCapacity zeroOnRestore guest := by
    cases found : arenaFor kept minCapacity zeroOnRestore with
    | ok arena => exact Or.inl ⟨arena, _, serves_of_arenaFor empty found guest⟩
    | error error => exact Or.inr ⟨error, refuses_of_arenaFor found guest⟩
  perform_peak := by cases kept <;> rfl
  perform_release := rfl

/-- Scratch space is not in use, and the arena that it keeps, if any, is empty. -/
def Waits (space : Scratch) : Prop :=
  ∃ kept, space = .idle kept ∧ ∀ arena ∈ kept, arena.used = 0

/-- Every call leaves scratch space that waits for the next one. -/
theorem waits_perform
    {kept : Option Arena}
    (empty : ∀ arena ∈ kept, arena.used = 0)
    (call : Call Value) :
    Waits ((perform call).run (.idle kept)).2 := by
  have ready : IsReady Value kept := isReady_of_used_eq empty
  cases call with
  | use minCapacity zeroOnRestore guest =>
      obtain ⟨arena, left, serves⟩ | ⟨error, refuses⟩ :=
        ready.serves_or_refuses minCapacity zeroOnRestore guest
      · refine ⟨some left, congrArg Prod.snd serves.perform_eq, ?_⟩
        rintro _ ⟨⟩
        exact serves.used_left_eq
      · exact ⟨kept, congrArg Prod.snd refuses.perform_eq, empty⟩
  | peak => exact ⟨kept, rfl, empty⟩
  | release => exact ⟨none, rfl, nofun⟩

/-- After any calls scratch space is not in use and ready for all calls. Whatever a computation does
in it, a call made from there is refused and has no effect. -/
theorem isReady_run (calls : List (Call Value)) :
    (∃ kept, (Calls.run perform empty calls).2 = .idle kept ∧ IsReady Value kept) ∧
      (∀ call : Call Value, (perform call).run .inUse = (call.answerInUse, .inUse)) ∧
      ∀ (guest : Guest Value) arena, guest.run arena .inUse = (guest.alone arena, .inUse) := by
  refine ⟨?_, perform_inUse, Guest.run_inUse⟩
  obtain ⟨kept, idle, used_eq⟩ : Waits (Calls.run perform empty calls).2 := by
    refine Calls.holds_run Waits ⟨none, rfl, nofun⟩ ?_ calls
    rintro _ ⟨kept, rfl, used_eq⟩ call
    exact waits_perform used_eq call
  exact ⟨kept, idle, isReady_of_used_eq used_eq⟩

end Scratch
end Groth16
