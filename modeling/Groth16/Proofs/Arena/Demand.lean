import Groth16.Proofs.Arena.Room

/-!
# What computations take from an arena

The number of bytes that a computation takes is known exactly. So in an unused arena it gives
its value if and only if the capacity is not below this number, and otherwise the arena is
exhausted.
-/

namespace Groth16

namespace Arena

/-- Both arenas are the same stretch of memory, cleared in the same way. -/
structure SameRegion (arena after : Arena) : Prop where
  capacity_eq : after.capacity = arena.capacity
  zeroOnRestore_eq : after.zeroOnRestore = arena.zeroOnRestore

namespace SameRegion

theorem refl (arena : Arena) : arena.SameRegion arena := ⟨rfl, rfl⟩

theorem trans
    {arena between after : Arena}
    (first : arena.SameRegion between)
    (second : between.SameRegion after) :
    arena.SameRegion after :=
  ⟨second.capacity_eq.trans first.capacity_eq,
    second.zeroOnRestore_eq.trans first.zeroOnRestore_eq⟩

end SameRegion

theorem sameRegion_reserve (arena : Arena) (size alignment : Nat) :
    arena.SameRegion ((reserve size alignment).run.run arena).2 := by
  cases placed : arena.place size alignment with
  | ok start =>
      rw [reserve_of_place placed]
      exact ⟨rfl, rfl⟩
  | error error =>
      rw [reserve_of_place_error placed]
      exact .refl arena

/-- A successful request begins at the next word and ends within the region. -/
theorem claim_of_reserveItems_eq_ok
    {arena after : Arena}
    {itemSize count start : Nat}
    (run : (reserveItems itemSize 8 count).run.run arena = (.ok start, after)) :
    after = arena.claim (roundUp arena.used 8) (itemSize * count) ∧
      roundUp arena.used 8 + itemSize * count ≤ arena.capacity := by
  rw [reserveItems_run, reserve_eight] at run
  by_cases small : itemSize * count < 2 ^ 64
  · rw [if_pos small] at run
    by_cases fits : roundUp arena.used 8 + itemSize * count ≤ arena.capacity
    · rw [if_pos fits] at run
      cases run
      exact ⟨rfl, fits⟩
    · rw [if_neg fits] at run
      cases run
  · rw [if_neg small] at run
    cases run

/-- A successful request moves the offset by its size, within the region. -/
theorem of_reserveItems_eq_ok
    {arena after : Arena}
    {itemSize count start : Nat}
    (run : (reserveItems itemSize 8 count).run.run arena = (.ok start, after)) :
    arena.used + itemSize * count ≤ after.used ∧ after.used ≤ after.capacity := by
  obtain ⟨rfl, fits⟩ := claim_of_reserveItems_eq_ok run
  have up : arena.used ≤ roundUp arena.used 8 := by
    unfold roundUp
    omega
  exact ⟨Nat.add_le_add_right up _, fits⟩

theorem sameRegion_reserveItems (arena : Arena) (itemSize count : Nat) :
    arena.SameRegion ((reserveItems itemSize 8 count).run.run arena).2 := by
  rw [reserveItems_run]
  split
  · exact sameRegion_reserve arena _ 8
  · exact .refl arena

end Arena

namespace ArenaM

variable {Value Result : Type}

/-- The computation gives the value when there is room for the given number of bytes, and
whenever it succeeds it has taken at least as many from the region. -/
structure Takes
    (computation : ArenaM Value)
    (bytes : Nat)
    (value : Value) : Prop extends Gives computation bytes value where
  sameRegion : ∀ arena : Arena, arena.SameRegion (computation.run.run arena).2
  used_add_le : ∀ arena after : Arena, computation.run.run arena = (.ok value, after) →
    arena.used + bytes ≤ after.used
  used_le_capacity : ∀ arena after : Arena, computation.run.run arena = (.ok value, after) →
    arena.used ≤ arena.capacity → after.used ≤ after.capacity

namespace Takes

theorem pure (value : Value) : Takes (Pure.pure value) 0 value where
  toGives := .pure value
  sameRegion arena := .refl arena
  used_add_le arena after run := by
    obtain ⟨-, rfl⟩ := Checks.run_pure_eq_ok.mp run
    exact Nat.le_refl _
  used_le_capacity arena after run within := by
    obtain ⟨-, rfl⟩ := Checks.run_pure_eq_ok.mp run
    exact within

/-- What two computations in sequence take adds up. -/
theorem bind
    {first : ArenaM Value}
    {next : Value → ArenaM Result}
    {bytes moreBytes : Nat}
    {value : Value}
    {result : Result}
    (takesFirst : Takes first bytes value)
    (takesNext : Takes (next value) moreBytes result) :
    Takes (first >>= next) (bytes + moreBytes) result where
  toGives := takesFirst.toGives.bind takesNext.toGives
  sameRegion arena := by
    have same := takesFirst.sameRegion arena
    rw [Checks.run_bind]
    rcases run : first.run.run arena with ⟨error | other, between⟩
    · rwa [run] at same
    · cases takesFirst.toGives.eq_of_run_eq_ok run
      rw [run] at same
      exact same.trans (takesNext.sameRegion between)
  used_add_le arena after run := by
    obtain ⟨other, between, run, runNext⟩ := Checks.run_bind_eq_ok.mp run
    cases takesFirst.toGives.eq_of_run_eq_ok run
    have moved := takesFirst.used_add_le _ _ run
    have movedNext := takesNext.used_add_le _ _ runNext
    omega
  used_le_capacity arena after run within := by
    obtain ⟨other, between, run, runNext⟩ := Checks.run_bind_eq_ok.mp run
    cases takesFirst.toGives.eq_of_run_eq_ok run
    exact takesNext.used_le_capacity _ _ runNext (takesFirst.used_le_capacity _ _ run within)

/-- A result computed without the arena takes nothing more. -/
theorem bind_pure
    {first : ArenaM Value}
    {bytes : Nat}
    {value : Value}
    (takes : Takes first bytes value)
    (compute : Value → Result) :
    Takes (first >>= fun value => Pure.pure (compute value)) bytes (compute value) := by
  rw [← Nat.add_zero bytes]
  exact takes.bind (pure (compute value))

/-- Room for items is taken before the rest of a computation. -/
theorem reserveItems
    {next : Nat → ArenaM Result}
    {itemSize count bytes : Nat}
    {result : Result}
    (divides : 8 ∣ itemSize)
    (takesNext : ∀ start, Takes (next start) bytes result) :
    Takes (Arena.reserveItems itemSize 8 count >>= next) (itemSize * count + bytes) result where
  toGives := .reserveItems divides fun start => (takesNext start).toGives
  sameRegion arena := by
    have same := Arena.sameRegion_reserveItems arena itemSize count
    rw [Checks.run_bind]
    rcases run : (Arena.reserveItems itemSize 8 count).run.run arena with ⟨error | start, between⟩
    · rwa [run] at same
    · rw [run] at same
      exact same.trans ((takesNext start).sameRegion between)
  used_add_le arena after run := by
    obtain ⟨start, between, run, runNext⟩ := Checks.run_bind_eq_ok.mp run
    have moved := (Arena.of_reserveItems_eq_ok run).1
    have movedNext := (takesNext start).used_add_le _ _ runNext
    omega
  used_le_capacity arena after run _ := by
    obtain ⟨start, between, run, runNext⟩ := Checks.run_bind_eq_ok.mp run
    exact (takesNext start).used_le_capacity _ _ runNext (Arena.of_reserveItems_eq_ok run).2

/-- What a computation takes for each element of a list adds up. -/
theorem mapM
    {compute : Value → ArenaM Result}
    {bytes : Value → Nat}
    {result : Value → Result}
    {values : List Value}
    (each : ∀ value ∈ values, Takes (compute value) (bytes value) (result value)) :
    Takes (values.mapM compute) (values.map bytes).sum (values.map result) := by
  induction values with
  | nil => exact pure []
  | cons value rest inductionHypothesis =>
      rw [List.mapM_cons, List.map_cons, List.map_cons, List.sum_cons]
      have takesRest := inductionHypothesis fun other member =>
        each other (List.mem_cons_of_mem _ member)
      exact (each value List.mem_cons_self).bind (takesRest.bind_pure _)

/-- In an unused arena the computation gives its value if the capacity allows. -/
theorem run_eq_ok
    {computation : ArenaM Value}
    {bytes : Nat}
    {value : Value}
    (takes : Takes computation bytes value)
    {arena : Arena}
    (unused : arena.used = 0)
    (capacity_lt : arena.capacity < 2 ^ 64)
    (fits : bytes ≤ arena.capacity) :
    (computation.run.run arena).1 = .ok value := by
  have room : arena.HasRoom (bytes + 0) := by
    refine ⟨capacity_lt, ?_⟩
    rw [unused, show Arena.roundUp 0 8 = 0 from rfl]
    omega
  obtain ⟨after, run, -⟩ := takes.run_of_hasRoom arena 0 room
  rw [run]

/-- In an unused arena that is too small the computation stops for want of room. -/
theorem run_eq_exhausted
    {computation : ArenaM Value}
    {bytes : Nat}
    {value : Value}
    (takes : Takes computation bytes value)
    {arena : Arena}
    (unused : arena.used = 0)
    (small : arena.capacity < bytes) :
    ∃ requested available,
      (computation.run.run arena).1 = .error (.exhausted requested available) := by
  rcases takes.run_cases arena with ⟨after, run⟩ | ⟨requested, available, after, run⟩
  · have moved := takes.used_add_le _ _ run
    have within := takes.used_le_capacity _ _ run (by omega)
    have same : after.capacity = arena.capacity := by
      rw [← (takes.sameRegion arena).capacity_eq, run]
    omega
  · exact ⟨requested, available, congrArg Prod.fst run⟩

end Takes
end ArenaM
end Groth16
