import Groth16.Proofs.Arena.Runs
import Mathlib.Data.List.GetD

/-!
# Contents of an arena

Bytes are written only into pieces as they are handed out, and by clients into pieces that they
hold. So all bytes beyond the peak are zero along every run, and all bytes beyond the offset are
if the arena clears what it releases. What a client finds in a new piece is what it asked for.
-/

namespace Groth16
namespace Arena

section Overwrite

variable {arena : Arena} {start count offset : Nat} {contents : Nat → UInt8}

theorem memory_overwrite_of_mem
    (above : start ≤ offset)
    (below : offset < start + count) :
    (arena.overwrite start count contents).memory offset = contents (offset - start) :=
  if_pos ⟨above, below⟩

theorem memory_overwrite_of_lt (below : offset < start) :
    (arena.overwrite start count contents).memory offset = arena.memory offset :=
  if_neg fun inside => Nat.not_le_of_lt below inside.1

theorem memory_overwrite_of_le (beyond : start + count ≤ offset) :
    (arena.overwrite start count contents).memory offset = arena.memory offset :=
  if_neg fun inside => Nat.not_lt_of_le beyond inside.2

theorem read_overwrite :
    (arena.overwrite start count contents).read start count = (List.range count).map contents := by
  apply List.map_congr_left
  intro index member
  rw [memory_overwrite_of_mem (Nat.le_add_right _ _)
    (Nat.add_lt_add_left (List.mem_range.mp member) _), Nat.add_sub_cancel_left]

end Overwrite

theorem map_getD_range (item : List UInt8) :
    ((List.range item.length).map fun index => item.getD index 0) = item := by
  apply List.ext_getElem
  · rw [List.length_map, List.length_range]
  · intro index _ inside
    rw [List.getElem_map, List.getElem_range, List.getD_eq_getElem _ _ inside]

/-- Copies of an item, by their bytes. -/
theorem map_getD_mod_range (item : List UInt8) (count : Nat) :
    ((List.range (item.length * count)).map fun index => item.getD (index % item.length) 0) =
      (List.replicate count item).flatten := by
  induction count with
  | zero => rfl
  | succ count inductionHypothesis =>
      have last : ((List.range item.length).map fun index =>
          item.getD ((item.length * count + index) % item.length) 0) = item := by
        refine (List.map_congr_left fun index member => ?_).trans (map_getD_range item)
        rw [Nat.mul_add_mod, Nat.mod_eq_of_lt (List.mem_range.mp member)]
      rw [Nat.mul_succ, List.range_add, List.map_append, inductionHypothesis, List.map_map,
        List.replicate_succ', List.flatten_concat]
      exact congrArg _ last

namespace FillsPlace

variable {request : ArenaM Nat} {arena : Arena} {size alignment : Nat} {contents : Nat → UInt8}

/-- The piece lies beyond the offset and is filled, or nothing changes. -/
theorem run_cases (fills : FillsPlace request arena size alignment contents) :
    (∃ start, arena.used ≤ start ∧
      request.run.run arena =
        (.ok start, (arena.claim start size).overwrite start size contents)) ∨
      ∃ error, request.run.run arena = (.error error, arena) := by
  cases placed : arena.place size alignment with
  | ok start =>
      have free := (place_eq_ok_iff.mp placed).2.1.1.2
      exact Or.inl ⟨start, free, fills.of_place_eq_ok start placed⟩
  | error error => exact Or.inr (fills.of_place_eq_error error placed)

theorem read_eq
    (fills : FillsPlace request arena size alignment contents)
    {start : Nat}
    {after : Arena}
    (run : request.run.run arena = (.ok start, after)) :
    after.read start size = (List.range size).map contents := by
  obtain ⟨place, -, ran⟩ | ⟨error, ran⟩ := fills.run_cases
  · cases ran.symm.trans run
    exact read_overwrite
  · cases ran.symm.trans run

/-- No byte below the old offset changes. -/
theorem memory_eq_of_lt
    (fills : FillsPlace request arena size alignment contents)
    {offset : Nat}
    (below : offset < arena.used) :
    (request.run.run arena).2.memory offset = arena.memory offset := by
  obtain ⟨start, free, ran⟩ | ⟨error, ran⟩ := fills.run_cases
  · rw [ran]
    exact memory_overwrite_of_lt (below.trans_le free)
  · rw [ran]

end FillsPlace

/-- No byte beyond the peak differs from zero, and if the arena clears what it releases, none beyond
the offset does. -/
structure IsClean (arena : Arena) : Prop where
  memory_of_peak_le : ∀ offset, arena.peak ≤ offset → arena.memory offset = 0
  memory_of_used_le :
    arena.zeroOnRestore = true → ∀ offset, arena.used ≤ offset → arena.memory offset = 0

namespace IsClean

variable {arena : Arena}

theorem of_make_eq_ok
    {capacity : Nat}
    {zeroOnRestore : Bool}
    (made : make capacity zeroOnRestore = .ok arena) :
    arena.IsClean ∧ arena.zeroOnRestore = zeroOnRestore := by
  dsimp only [make] at made
  split_ifs at made
  cases made
  exact ⟨⟨fun _ _ => rfl, fun _ _ _ => rfl⟩, rfl⟩

/-- Writing below the offset is not seen beyond it. -/
theorem overwrite
    (clean : arena.IsClean)
    (used_le_peak : arena.used ≤ arena.peak)
    {start count : Nat}
    (inside : start + count ≤ arena.used)
    (contents : Nat → UInt8) :
    (arena.overwrite start count contents).IsClean where
  memory_of_peak_le offset beyond := by
    rw [memory_overwrite_of_le (inside.trans (used_le_peak.trans beyond))]
    exact clean.memory_of_peak_le offset beyond
  memory_of_used_le clears offset beyond := by
    rw [memory_overwrite_of_le (inside.trans beyond)]
    exact clean.memory_of_used_le clears offset beyond

/-- Padding in front of a new piece was never written, and stays below the offset. -/
theorem claim
    (clean : arena.IsClean)
    {start : Nat}
    (free : arena.used ≤ start)
    (size : Nat) :
    (arena.claim start size).IsClean where
  memory_of_peak_le offset beyond :=
    clean.memory_of_peak_le offset ((Nat.le_max_left _ _).trans beyond)
  memory_of_used_le clears offset beyond :=
    clean.memory_of_used_le clears offset
      (free.trans ((Nat.le_add_right start size).trans beyond))

theorem run_request
    (clean : arena.IsClean)
    {request : ArenaM Nat}
    {size alignment : Nat}
    {contents : Nat → UInt8}
    (fills : FillsPlace request arena size alignment contents) :
    (request.run.run arena).2.IsClean := by
  obtain ⟨start, free, ran⟩ | ⟨error, ran⟩ := fills.run_cases
  · rw [ran]
    exact (clean.claim free size).overwrite (Nat.le_max_right _ _) le_rfl contents
  · rw [ran]
    exact clean

/-- Rewinding gives up the bytes between the mark and the old offset. They are cleared where this
is asked for, and what lies beyond was clean before. -/
theorem restore
    (clean : arena.IsClean)
    (used_le_peak : arena.used ≤ arena.peak)
    (mark : Nat) :
    (arena.restore mark).IsClean := by
  unfold Arena.restore
  by_cases beyondOffset : arena.used < mark
  · rw [if_pos beyondOffset]
    exact clean
  rw [if_neg beyondOffset]
  have range : mark + (arena.used - mark) = arena.used :=
    Nat.add_sub_of_le (Nat.le_of_not_lt beyondOffset)
  cases clears : arena.zeroOnRestore with
  | false => exact ⟨clean.memory_of_peak_le, fun impossible => nomatch clears.symm.trans impossible⟩
  | true =>
      have zero : ∀ offset, mark ≤ offset →
          (arena.overwrite mark (arena.used - mark) fun _ => 0).memory offset = 0 := by
        intro offset above
        by_cases released : offset < arena.used
        · exact memory_overwrite_of_mem above (range.symm ▸ released)
        · have beyond := Nat.le_of_not_lt released
          rw [memory_overwrite_of_le (range.trans_le beyond)]
          exact clean.memory_of_used_le clears offset beyond
      refine ⟨fun offset beyond => zero offset ?_, fun _ => zero⟩
      exact (Nat.le_of_not_lt beyondOffset).trans (used_le_peak.trans beyond)

/-- The wipe at the end reaches all bytes that were ever written. -/
theorem memory_wipe (clean : arena.IsClean) (offset : Nat) : arena.wipe.memory offset = 0 := by
  by_cases written : offset < arena.peak
  · exact memory_overwrite_of_mem (Nat.zero_le _) (by rwa [Nat.zero_add])
  · have beyond := Nat.le_of_not_lt written
    rw [wipe, memory_overwrite_of_le (by rwa [Nat.zero_add])]
    exact clean.memory_of_peak_le offset beyond

end IsClean

theorem zeroOnRestore_restore
    (arena : Arena)
    (mark : Nat) :
    (arena.restore mark).zeroOnRestore = arena.zeroOnRestore := by
  unfold restore
  split_ifs <;> rfl

namespace Client

/-- What an action keeps of the contents of an arena. -/
structure KeepsClean (client after : Client) : Prop where
  isClean : after.arena.IsClean
  zeroOnRestore_eq : after.arena.zeroOnRestore = client.arena.zeroOnRestore

variable {client : Client}

theorem arena_allocate (request : ArenaM Nat) (size : Nat) :
    (client.allocate request size).arena = (request.run.run client.arena).2 := by
  unfold allocate
  split
  next run => rw [run]
  next run => rw [run]

theorem keepsClean_allocate
    (clean : client.arena.IsClean)
    {request : ArenaM Nat}
    {size alignment : Nat}
    {contents : Nat → UInt8}
    (fills : FillsPlace request client.arena size alignment contents) :
    client.KeepsClean (client.allocate request size) where
  isClean := by
    rw [arena_allocate]
    exact clean.run_request fills
  zeroOnRestore_eq := by
    rw [arena_allocate]
    obtain ⟨start, -, ran⟩ | ⟨error, ran⟩ := fills.run_cases
    · rw [ran]
      rfl
    · rw [ran]

theorem keepsClean_rewind
    (clean : client.arena.IsClean)
    (orderly : client.IsOrderly)
    (mark : Nat) :
    client.KeepsClean (client.rewind (client.arena.restore mark)) where
  isClean := clean.restore orderly.used_le_peak mark
  zeroOnRestore_eq := zeroOnRestore_restore _ _

theorem keepsClean_perform
    (clean : client.arena.IsClean)
    (orderly : client.IsOrderly)
    (action : Action) :
    client.KeepsClean (client.perform action) := by
  cases action with
  | bytes size alignment => exact keepsClean_allocate clean (fillsPlace_allocBytes _ _ _)
  | items item alignment count =>
      exact keepsClean_allocate clean (fillsPlace_allocItems orderly.capacity_lt _ _ _)
  | write number contents =>
      change client.KeepsClean (client.write number contents)
      unfold Client.write
      split
      next piece held =>
        have inside := orderly.stop_le_used piece (List.mem_of_getElem? held)
        exact ⟨clean.overwrite orderly.used_le_peak inside contents, rfl⟩
      next => exact ⟨clean, rfl⟩
  | checkpoint => exact ⟨clean, rfl⟩
  | restore mark => exact keepsClean_rewind clean orderly mark
  | reset => exact keepsClean_rewind clean orderly 0
  | openScope => exact ⟨clean, rfl⟩
  | closeScope =>
      change client.KeepsClean client.closeScope
      unfold Client.closeScope
      cases client.scopes with
      | nil => exact ⟨clean, rfl⟩
      | cons mark scopes =>
          obtain ⟨isClean, zeroOnRestore_eq⟩ := keepsClean_rewind clean orderly mark
          exact ⟨isClean, zeroOnRestore_eq⟩

theorem keepsClean_run
    (clean : client.arena.IsClean)
    (orderly : client.IsOrderly)
    (actions : List Action) :
    (client.run actions).IsOrderly ∧ client.KeepsClean (client.run actions) := by
  induction actions generalizing client with
  | nil => exact ⟨orderly, clean, rfl⟩
  | cons action rest inductionHypothesis =>
      have step := keepsClean_perform clean orderly action
      obtain ⟨orderlyAfter, cleanAfter, zeroOnRestore_eq⟩ :=
        inductionHypothesis step.isClean (orderly.perform action).isOrderly
      exact ⟨orderlyAfter, cleanAfter, zeroOnRestore_eq.trans step.zeroOnRestore_eq⟩

theorem isOrderly_start
    {capacity : Nat}
    {zeroOnRestore : Bool}
    {arena : Arena}
    (made : make capacity zeroOnRestore = .ok arena) :
    (start arena).IsOrderly := by
  obtain ⟨used_eq, peak_eq, -, capacity_lt⟩ := of_make_eq_ok made
  refine ⟨?_, ?_, capacity_lt, List.Pairwise.nil, nofun⟩
  · exact (used_eq.trans peak_eq.symm).le
  · exact peak_eq.trans_le (Nat.zero_le _)

/-- What was written to an arena is not found again: its unused bytes are zero, a new piece holds
what was asked for and takes nothing from the pieces before it, and the wipe at the end clears the
whole region. -/
structure LeavesNoResidue (arena : Arena) : Prop extends arena.IsClean where
  read_allocBytes : ∀ size alignment start after,
    (allocBytes size alignment).run.run arena = (.ok start, after) →
      after.read start size = List.replicate size 0
  read_allocItems : ∀ item alignment count start after,
    (allocItems item alignment count).run.run arena = (.ok start, after) →
      after.read start (item.length * count) = (List.replicate count item).flatten
  memory_allocBytes : ∀ size alignment, ∀ offset < arena.used,
    ((allocBytes size alignment).run.run arena).2.memory offset = arena.memory offset
  memory_allocItems : ∀ item alignment count, ∀ offset < arena.used,
    ((allocItems item alignment count).run.run arena).2.memory offset = arena.memory offset
  memory_wipe : ∀ offset < arena.capacity, arena.wipe.memory offset = 0

theorem IsOrderly.leavesNoResidue
    (orderly : client.IsOrderly)
    (clean : client.arena.IsClean) :
    LeavesNoResidue client.arena where
  toIsClean := clean
  read_allocBytes size alignment start after run := by
    rw [(fillsPlace_allocBytes _ size alignment).read_eq run, List.map_const', List.length_range]
  read_allocItems item alignment count start after run := by
    rw [(fillsPlace_allocItems orderly.capacity_lt item alignment count).read_eq run,
      map_getD_mod_range]
  memory_allocBytes size alignment _ below :=
    (fillsPlace_allocBytes _ size alignment).memory_eq_of_lt below
  memory_allocItems item alignment count _ below :=
    (fillsPlace_allocItems orderly.capacity_lt item alignment count).memory_eq_of_lt below
  memory_wipe offset _ := clean.memory_wipe offset

/-- Whatever a client does with a new arena, at every moment nothing of it can be found again. -/
theorem leavesNoResidue_run
    {capacity : Nat}
    {zeroOnRestore : Bool}
    {arena : Arena}
    (made : make capacity zeroOnRestore = .ok arena)
    (actions : List Action) :
    ((start arena).run actions).arena.zeroOnRestore = zeroOnRestore ∧
      LeavesNoResidue ((start arena).run actions).arena := by
  obtain ⟨initiallyClean, clears⟩ := IsClean.of_make_eq_ok made
  obtain ⟨orderly, clean, same⟩ :=
    keepsClean_run initiallyClean (isOrderly_start made) actions
  exact ⟨same.trans clears, orderly.leavesNoResidue clean⟩

/-- Without clearing, a byte that was written is still in the region after a reset. It is below the
peak, and an allocation does not show it. -/
theorem leavesNoResidue_run_reset :
    ∃ arena, make 100 false = .ok arena ∧
      ((start arena).run [.bytes 3 1, .write 0 fun _ => 0xab, .reset]).arena.memory 2 = 0xab ∧
      ((start arena).run [.bytes 3 1, .write 0 fun _ => 0xab, .reset]).arena.zeroOnRestore =
        false ∧
      LeavesNoResidue
        ((start arena).run [.bytes 3 1, .write 0 fun _ => 0xab, .reset]).arena :=
  have made : make 100 false = .ok ⟨4096, 0, 0, false, fun _ => 0⟩ := rfl
  ⟨_, made, by decide, leavesNoResidue_run made _⟩

end Client
end Arena
end Groth16
