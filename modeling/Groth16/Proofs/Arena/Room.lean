import Groth16.Arena.Basic
import Groth16.Proofs.Checks
import Mathlib.Algebra.BigOperators.Group.List.Basic
import Mathlib.Algebra.GroupWithZero.Nat

/-!
# Computations with room in an arena

The values of a computation do not depend on the arena: either there is room for what it
allocates and it gives its value, or it stops for want of room. The room that it needs adds
up along the computation, because all sizes are multiples of the alignment.
-/

namespace Groth16

namespace Arena

/-- There is room for the given number of bytes in pieces of whole words. -/
structure HasRoom (arena : Arena) (bytes : Nat) : Prop where
  capacity_lt : arena.capacity < 2 ^ 64
  le_capacity : roundUp arena.used 8 + bytes ≤ arena.capacity

theorem roundUp_eight_add
    {used size : Nat}
    (divides : 8 ∣ size) :
    roundUp (roundUp used 8 + size) 8 = roundUp used 8 + size := by
  unfold roundUp
  omega

theorem place_eight (arena : Arena) (size : Nat) :
    arena.place size 8 =
      if roundUp arena.used 8 + size ≤ arena.capacity then .ok (roundUp arena.used 8)
      else .error (.exhausted size arena.remaining) :=
  if_pos (by decide)

theorem reserve_of_place
    {arena : Arena}
    {size alignment start : Nat}
    (placed : arena.place size alignment = .ok start) :
    (reserve size alignment).run.run arena = (.ok start, arena.claim start size) := by
  change reserve size alignment arena = _
  rw [reserve, placed]

theorem reserve_of_place_error
    {arena : Arena}
    {size alignment : Nat}
    {error : ArenaError}
    (refused : arena.place size alignment = .error error) :
    (reserve size alignment).run.run arena = (.error error, arena) := by
  change reserve size alignment arena = _
  rw [reserve, refused]

theorem reserve_eight (arena : Arena) (size : Nat) :
    (reserve size 8).run.run arena =
      if roundUp arena.used 8 + size ≤ arena.capacity
      then (.ok (roundUp arena.used 8), arena.claim (roundUp arena.used 8) size)
      else (.error (.exhausted size arena.remaining), arena) := by
  have placed := place_eight arena size
  by_cases fits : roundUp arena.used 8 + size ≤ arena.capacity
  · rw [if_pos fits] at placed ⊢
    exact reserve_of_place placed
  · rw [if_neg fits] at placed ⊢
    exact reserve_of_place_error placed

theorem reserveItems_run (arena : Arena) (itemSize count : Nat) :
    (reserveItems itemSize 8 count).run.run arena =
      if itemSize * count < 2 ^ 64 then (reserve (itemSize * count) 8).run.run arena
      else (.error (.exhausted (2 ^ 64 - 1) arena.remaining), arena) := by
  have checked : (checkSize itemSize count).run.run arena =
      if itemSize * count < 2 ^ 64 then (.ok (), arena)
      else (.error (.exhausted (2 ^ 64 - 1) arena.remaining), arena) := rfl
  unfold reserveItems
  rw [Checks.run_bind, checked]
  by_cases small : itemSize * count < 2 ^ 64
  · rw [if_pos small, if_pos small]
  · rw [if_neg small, if_neg small]

/-- The items take a number of bytes that is a machine word, and they fit behind what the arena
holds. -/
structure HasRoomForItems (arena : Arena) (itemSize count : Nat) : Prop where
  size_lt : itemSize * count < 2 ^ 64
  le_capacity : roundUp arena.used 8 + itemSize * count ≤ arena.capacity

theorem reserveItems_of_room
    {arena : Arena}
    {itemSize count : Nat}
    (room : arena.HasRoomForItems itemSize count) :
    (reserveItems itemSize 8 count).run.run arena =
      (.ok (roundUp arena.used 8), arena.claim (roundUp arena.used 8) (itemSize * count)) := by
  rw [reserveItems_run, if_pos room.size_lt, reserve_eight, if_pos room.le_capacity]

theorem reserveItems_of_no_room
    {arena : Arena}
    {itemSize count : Nat}
    (noRoom : ¬arena.HasRoomForItems itemSize count) :
    (reserveItems itemSize 8 count).run.run arena =
      (.error (.exhausted (min (itemSize * count) (2 ^ 64 - 1)) arena.remaining), arena) := by
  rw [reserveItems_run]
  by_cases small : itemSize * count < 2 ^ 64
  · have tooLarge : ¬roundUp arena.used 8 + itemSize * count ≤ arena.capacity :=
      fun fits => noRoom ⟨small, fits⟩
    rw [if_pos small, reserve_eight, if_neg tooLarge, Nat.min_eq_left (by omega)]
  · rw [if_neg small, Nat.min_eq_right (by omega)]

/-- Room for a piece leaves room for the rest. -/
theorem HasRoom.claim
    {arena : Arena}
    {size more : Nat}
    (room : arena.HasRoom (size + more))
    (divides : 8 ∣ size) :
    (arena.claim (roundUp arena.used 8) size).HasRoom more where
  capacity_lt := room.capacity_lt
  le_capacity := by
    have enough := room.le_capacity
    rw [← Nat.add_assoc, ← roundUp_eight_add divides] at enough
    exact enough

end Arena

namespace SliceM

variable {Value Result : Type}

theorem run_ofArena
    (computation : ArenaM Result)
    (arena : Arena)
    (slice : List Value) :
    (ofArena computation).run.run (arena, slice) =
      ((computation.run.run arena).1, (computation.run.run arena).2, slice) := rfl

/-- The slice is given back when the computation succeeds. -/
theorem run_output
    {computation : SliceM Value Unit}
    {slice written : List Value}
    {arena after : Arena}
    {result : Except ArenaError Unit}
    (run : computation.run.run (arena, slice) = (result, after, written)) :
    (computation.output slice).run.run arena = (result.map fun _ => written, after) := by
  change ((computation.run.run (arena, slice)).1.map fun _ =>
      (computation.run.run (arena, slice)).2.2, (computation.run.run (arena, slice)).2.1) = _
  rw [run]

end SliceM

namespace ArenaM

variable {Value Result : Type}

theorem ext_run
    {first second : ArenaM Value}
    (equal : ∀ arena : Arena, first.run.run arena = second.run.run arena) :
    first = second :=
  funext equal

/-- The computation gives the value when there is room for the given number of bytes, and it
never does anything but give this value or stop for want of room. -/
structure Gives
    (computation : ArenaM Value)
    (bytes : Nat)
    (value : Value) : Prop where
  run_of_hasRoom : ∀ (arena : Arena) (more : Nat), arena.HasRoom (bytes + more) →
    ∃ after, computation.run.run arena = (.ok value, after) ∧ after.HasRoom more
  run_cases : ∀ arena : Arena,
    (∃ after, computation.run.run arena = (.ok value, after)) ∨
      ∃ requested available after,
        computation.run.run arena = (.error (.exhausted requested available), after)

namespace Gives

/-- Whatever the room, a result is the value. -/
theorem eq_of_run_eq_ok
    {computation : ArenaM Value}
    {bytes : Nat}
    {value result : Value}
    (gives : Gives computation bytes value)
    {arena after : Arena}
    (run : computation.run.run arena = (.ok result, after)) :
    value = result := by
  rcases gives.run_cases arena with ⟨other, given⟩ | ⟨requested, available, other, refused⟩
  · rw [given] at run
    cases run
    rfl
  · rw [refused] at run
    cases run

theorem pure (value : Value) : Gives (Pure.pure value) 0 value where
  run_of_hasRoom arena more room := ⟨arena, rfl, by rwa [Nat.zero_add] at room⟩
  run_cases arena := Or.inl ⟨arena, rfl⟩

/-- The room for two computations in sequence adds up. -/
theorem bind
    {first : ArenaM Value}
    {next : Value → ArenaM Result}
    {bytes moreBytes : Nat}
    {value : Value}
    {result : Result}
    (givesFirst : Gives first bytes value)
    (givesNext : Gives (next value) moreBytes result) :
    Gives (first >>= next) (bytes + moreBytes) result where
  run_of_hasRoom arena more room := by
    rw [Nat.add_assoc] at room
    obtain ⟨between, run, roomBetween⟩ := givesFirst.run_of_hasRoom arena _ room
    rw [Checks.run_bind, run]
    exact givesNext.run_of_hasRoom between more roomBetween
  run_cases arena := by
    rw [Checks.run_bind]
    rcases givesFirst.run_cases arena with ⟨between, run⟩ | ⟨requested, available, after, run⟩
    · rw [run]
      exact givesNext.run_cases between
    · rw [run]
      exact Or.inr ⟨requested, available, after, rfl⟩

/-- Room for items is reserved before the rest of a computation. -/
theorem reserveItems
    {next : Nat → ArenaM Result}
    {itemSize count bytes : Nat}
    {result : Result}
    (divides : 8 ∣ itemSize)
    (givesNext : ∀ start, Gives (next start) bytes result) :
    Gives (Arena.reserveItems itemSize 8 count >>= next) (itemSize * count + bytes) result := by
  constructor
  · intro arena more room
    rw [Nat.add_assoc] at room
    have fits : itemSize * count < 2 ^ 64 := by
      have capacity := room.capacity_lt
      have enough := room.le_capacity
      omega
    rw [Checks.run_bind, Arena.reserveItems_run, if_pos fits, Arena.reserve_eight,
      if_pos (Nat.le_trans (by omega) room.le_capacity)]
    exact (givesNext _).run_of_hasRoom _ more (room.claim (divides.mul_right count))
  · intro arena
    rw [Checks.run_bind, Arena.reserveItems_run, Arena.reserve_eight]
    by_cases fits : itemSize * count < 2 ^ 64
    · rw [if_pos fits]
      by_cases enough : Arena.roundUp arena.used 8 + itemSize * count ≤ arena.capacity
      · rw [if_pos enough]
        exact (givesNext _).run_cases _
      · rw [if_neg enough]
        exact Or.inr ⟨_, _, _, rfl⟩
    · rw [if_neg fits]
      exact Or.inr ⟨_, _, _, rfl⟩

end Gives
end ArenaM
end Groth16
