import Groth16.Power
import Groth16.Refusal

/-!
# Bump arenas

An arena hands out consecutive stretches of one region of bytes. Allocation moves an
offset forward, nothing is released singly, and rewinding to an earlier mark releases
all that was handed out after it. Sizes and offsets are counted in bytes.
-/

namespace Groth16

/-- Why an arena could not be made or could not serve a request. -/
inductive ArenaError where
  | exhausted (requested available : Nat)
  | invalidAlignment (alignment : Nat)
  | invalidCapacity (capacity : Nat)
  | outOfMemory (capacity : Nat)
  | scratchBusy
  deriving DecidableEq, Repr

/-- The wording of an arena error. -/
def ArenaError.message : ArenaError → String
  | exhausted requested available =>
    s!"Arena exhausted: requested {requested} bytes, {available} available"
  | invalidAlignment alignment =>
    s!"Unsupported alignment {alignment} (must be a power of two, at most 4096)"
  | invalidCapacity capacity => s!"Invalid arena capacity {capacity}"
  | outOfMemory capacity => s!"Out of memory reserving {capacity} bytes"
  | scratchBusy => "Scratch arena already in use on this thread"

/-- The short name of an arena error. -/
def ArenaError.kind : ArenaError → String
  | exhausted .. => "Exhausted"
  | invalidAlignment _ => "InvalidAlignment"
  | invalidCapacity _ => "InvalidCapacity"
  | outOfMemory _ => "OutOfMemory"
  | scratchBusy => "ScratchBusy"

instance : Refusal ArenaError where
  kind := ArenaError.kind
  message := ArenaError.message

/-- A region of bytes, of which the first `used` are handed out. -/
structure Arena where
  capacity : Nat
  used : Nat
  /-- The largest value of `used` so far. -/
  peak : Nat
  /-- Whether released bytes are set to zero. -/
  zeroOnRestore : Bool
  /-- The byte at each offset of the region. -/
  memory : Nat → UInt8

/-- A computation that may allocate. What it allocated before a failure stays allocated. -/
abbrev ArenaM := ExceptT ArenaError (StateM Arena)

/-- A computation that may allocate and that writes to a slice of values in place. What it
allocated and wrote before a failure stays. -/
abbrev SliceM (Value : Type) := ExceptT ArenaError (StateM (Arena × List Value))

namespace Arena

/-- Capacities are whole pages, and no alignment exceeds a page. -/
def pageSize : Nat := 4096

/-- The least multiple of `unit` that is not below `n`. -/
def roundUp (n unit : Nat) : Nat := (n + unit - 1) / unit * unit

/-- The largest capacity that can be asked for. -/
def maxCapacity : Nat := 2 ^ 63 - pageSize

/-- Regions of this size or more cannot be addressed. The memory is idealised: every smaller region
is granted, where an allocator that is short of memory would refuse some of them. -/
def addressSpace : Nat := 2 ^ 47

/-- An empty arena of at least the given capacity, in whole pages. -/
def make (capacity : Nat) (zeroOnRestore : Bool) : Except ArenaError Arena :=
  let rounded := roundUp capacity pageSize
  if capacity = 0 ∨ 2 ^ 64 ≤ rounded then .error (.invalidCapacity capacity)
  else if maxCapacity < rounded then .error (.invalidCapacity rounded)
  else if addressSpace ≤ rounded then .error (.outOfMemory rounded)
  else .ok ⟨rounded, 0, 0, zeroOnRestore, fun _ => 0⟩

/-- The bytes not handed out, alignment aside. -/
def remaining (arena : Arena) : Nat := arena.capacity - arena.used

/-- Whether a request may ask for this alignment: a power of two, at most a page. -/
def isAlignment (alignment : Nat) : Bool :=
  (List.range 13).any fun exponent => alignment == 2 ^ exponent

/-- The region with `count` bytes from `start` on replaced. -/
def overwrite
    (arena : Arena)
    (start count : Nat)
    (contents : Nat → UInt8) : Arena :=
  { arena with
    memory := fun offset =>
      if start ≤ offset ∧ offset < start + count then contents (offset - start)
      else arena.memory offset }

/-- The `count` bytes from `start` on. -/
def read (arena : Arena) (start count : Nat) : List UInt8 :=
  (List.range count).map fun index => arena.memory (start + index)

/-- The result of a request for `size` bytes: the offset of the first one, which is the
least multiple of the alignment that is not yet handed out. -/
def place (arena : Arena) (size alignment : Nat) : Except ArenaError Nat :=
  if isAlignment alignment then
    let start := roundUp arena.used alignment
    if start + size ≤ arena.capacity then .ok start
    else .error (.exhausted size arena.remaining)
  else .error (.invalidAlignment alignment)

/-- The arena after `size` bytes from `start` on were handed out. -/
def claim (arena : Arena) (start size : Nat) : Arena :=
  { arena with used := start + size, peak := max arena.peak (start + size) }

/-- Hands out `size` bytes and gives the offset of the first; a refusal changes nothing. -/
def reserve (size alignment : Nat) : ArenaM Nat := fun arena =>
  match arena.place size alignment with
  | .ok start => (.ok start, arena.claim start size)
  | .error error => (.error error, arena)

/-- Hands out `size` bytes, all zero. -/
def allocBytes (size alignment : Nat) : ArenaM Nat := do
  let start ← reserve size alignment
  modify (·.overwrite start size fun _ => 0)
  return start

/-- Refuses a request for `count` items whose size in bytes is no machine word. -/
def checkSize (itemSize count : Nat) : ArenaM Unit := fun arena =>
  if itemSize * count < 2 ^ 64 then (.ok (), arena)
  else (.error (.exhausted (2 ^ 64 - 1) arena.remaining), arena)

/-- Hands out room for `count` items of `itemSize` bytes, whose values are kept elsewhere. -/
def reserveItems (itemSize alignment count : Nat) : ArenaM Nat := do
  checkSize itemSize count
  reserve (itemSize * count) alignment

/-- Hands out room for `count` copies of the item of the given bytes. -/
def allocItems (item : List UInt8) (alignment count : Nat) : ArenaM Nat := do
  let start ← reserveItems item.length alignment count
  modify (·.overwrite start (item.length * count) fun index =>
    item.getD (index % item.length) 0)
  return start

/-- The mark to which a later `restore` rewinds. -/
def checkpoint (arena : Arena) : Nat := arena.used

/-- Releases what was handed out after the mark; a mark beyond the offset is ignored. -/
def restore (arena : Arena) (mark : Nat) : Arena :=
  if arena.used < mark then arena
  else
    let cleared :=
      if arena.zeroOnRestore then arena.overwrite mark (arena.used - mark) fun _ => 0 else arena
    { cleared with used := mark }

/-- Releases everything. -/
def reset (arena : Arena) : Arena := arena.restore 0

/-- Runs a computation and then releases what it allocated, also when it failed. -/
def scope
    {m : Type → Type} [Monad m]
    {α : Type}
    (body : StateT Arena m α) : StateT Arena m α := fun arena => do
  let (result, after) ← body arena
  return (result, after.restore arena.checkpoint)

/-- The region as it is given back at the end: all that was ever handed out is cleared. -/
def wipe (arena : Arena) : Arena := arena.overwrite 0 arena.peak fun _ => 0

/-- The sizes of the arena in words. -/
def describe (arena : Arena) : String :=
  s!"Arena \x7b capacity: {arena.capacity}, used: {arena.used}, peak: {arena.peak} \x7d"

end Arena

namespace SliceM

variable {Value Result : Type}

/-- A computation that leaves the slice alone. -/
def ofArena (computation : ArenaM Result) : SliceM Value Result := fun (arena, slice) =>
  let (result, after) := computation.run.run arena
  (result, after, slice)

/-- Changes the values of the slice. -/
def replace (write : List Value → List Value) : SliceM Value Unit :=
  modify fun (arena, slice) => (arena, write slice)

/-- The slice that a computation leaves, given what it holds at the start. -/
def output (computation : SliceM Value Unit) (slice : List Value) : ArenaM (List Value) :=
  fun arena =>
    let (result, after, written) := computation.run.run (arena, slice)
    (result.map fun _ => written, after)

end SliceM

end Groth16
