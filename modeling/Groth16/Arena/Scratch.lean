import Groth16.Arena.Session

/-!
# Scratch space

Scratch space keeps one arena between uses and makes a new one only when the old one is
too small or clears released bytes differently. While a computation runs in it, the
space is in use: a second use is refused, and it can be neither inspected nor released.
-/

namespace Groth16

/-- The arena kept between uses, if there is one, or the note that it is in use. -/
inductive Scratch where
  | idle (arena : Option Arena)
  | inUse

namespace Scratch

/-- Scratch arenas have at least this capacity. -/
def defaultCapacity : Nat := 256 * 1024

/-- Scratch space before its first use. -/
def empty : Scratch := .idle none

/-- Whether a kept arena serves a use with these wishes. -/
def serves (arena : Arena) (minCapacity : Nat) (zeroOnRestore : Bool) : Bool :=
  minCapacity ≤ arena.capacity && arena.zeroOnRestore == zeroOnRestore

/-- The arena for a use with these wishes: the kept one if it serves, a new one otherwise. -/
def arenaFor
    (kept : Option Arena)
    (minCapacity : Nat)
    (zeroOnRestore : Bool) : Except ArenaError Arena :=
  match kept with
  | some arena =>
    if serves arena minCapacity zeroOnRestore then .ok arena
    else Arena.make (max minCapacity defaultCapacity) zeroOnRestore
  | none => Arena.make (max minCapacity defaultCapacity) zeroOnRestore

/-- Runs a computation in scratch space and releases what it allocated. When no arena can be
made for it, the kept one stays. The computation may itself turn to scratch space, which it
finds in use. -/
def use
    {α : Type}
    (minCapacity : Nat)
    (zeroOnRestore : Bool)
    (body : StateT Arena (StateM Scratch) α) : StateM Scratch (Except ArenaError α) :=
  fun
  | .inUse => (.error .scratchBusy, .inUse)
  | .idle kept =>
    match arenaFor kept minCapacity zeroOnRestore with
    | .error error => (.error error, .idle kept)
    | .ok arena =>
      let ((result, after), _) := Arena.scope body arena .inUse
      (.ok result, .idle (some after))

/-- Runs a computation that only allocates in scratch space. -/
def useArena
    {α : Type}
    (minCapacity : Nat)
    (zeroOnRestore : Bool)
    (body : StateM Arena α) : StateM Scratch (Except ArenaError α) :=
  use minCapacity zeroOnRestore fun arena => pure (body arena)

/-- The peak of the kept arena. -/
def peak : Scratch → Option Nat
  | .idle (some arena) => some arena.peak
  | _ => none

/-- Gives up the kept arena. -/
def release : Scratch → Scratch
  | .idle _ => .idle none
  | .inUse => .inUse

/-- What a computation inside scratch space sees at its end. -/
structure Visit where
  capacity : Nat
  zeroOnRestore : Bool
  /-- The bytes handed out at entry. -/
  before : Nat
  results : List (Except ArenaError Arena.Grant)
  used : Nat

/-- Serves requests in scratch space. -/
def visit
    (minCapacity : Nat)
    (zeroOnRestore : Bool)
    (requests : List Arena.Request) : StateM Scratch (Except ArenaError Visit) :=
  useArena minCapacity zeroOnRestore do
    let entered ← get
    let results ← Arena.serveAll requests
    return ⟨entered.capacity, entered.zeroOnRestore, entered.used, results, (← get).used⟩

/-- Uses scratch space from within a use of it. -/
def useNested (minCapacity : Nat) : StateM Scratch (Except ArenaError Unit) := do
  let outcome ← use minCapacity false (StateT.lift (use minCapacity false (pure ())))
  return outcome.bind id

/-- Inspects scratch space from within a use of it, and tries to release it there. -/
def peakInside (minCapacity : Nat) : StateM Scratch (Except ArenaError (Option Nat)) :=
  use minCapacity false (StateT.lift do
    let peak := (← get).peak
    modify release
    return peak)

end Scratch
end Groth16
