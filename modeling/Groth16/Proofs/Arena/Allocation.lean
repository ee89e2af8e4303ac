import Groth16.Proofs.Arena.Room
import Mathlib.Order.Bounds.Basic

/-!
# Operations of an arena

A new arena is empty. An allocation takes the least offset of its alignment that is free. It
fails only when the alignment is not supported or no such offset leaves enough room, and then
changes nothing. Rewinding lowers the offset to the mark, if it is higher.
-/

namespace Groth16
namespace Arena

/-- The alignments that are supported: powers of two of at most a page. -/
def IsPageAlignment (alignment : Nat) : Prop :=
  ∃ exponent, alignment = 2 ^ exponent ∧ alignment ≤ 4096

theorem isAlignment_iff (alignment : Nat) :
    isAlignment alignment = true ↔ IsPageAlignment alignment := by
  simp only [isAlignment, List.any_eq_true, List.mem_range, beq_iff_eq, IsPageAlignment]
  constructor
  · rintro ⟨exponent, small, rfl⟩
    have bound : 2 ^ exponent ≤ 2 ^ 12 :=
      Nat.pow_le_pow_right Nat.two_pos (Nat.lt_succ_iff.mp small)
    exact ⟨exponent, rfl, bound⟩
  · rintro ⟨exponent, rfl, bound⟩
    refine ⟨exponent, ?_, rfl⟩
    by_contra large
    have high : 2 ^ 13 ≤ 2 ^ exponent := Nat.pow_le_pow_right Nat.two_pos (Nat.le_of_not_lt large)
    omega

theorem IsPageAlignment.pos {alignment : Nat} (supported : IsPageAlignment alignment) :
    0 < alignment := by
  obtain ⟨exponent, rfl, -⟩ := supported
  exact Nat.two_pow_pos exponent

/-- The multiples of the alignment that are not below the offset. -/
def freeOffsets (arena : Arena) (alignment : Nat) : Set Nat :=
  {offset | alignment ∣ offset ∧ arena.used ≤ offset}

theorem roundUp_isLeast
    (arena : Arena)
    {alignment : Nat}
    (positive : 0 < alignment) :
    IsLeast (arena.freeOffsets alignment) (roundUp arena.used alignment) := by
  have whole := Nat.div_add_mod' (arena.used + alignment - 1) alignment
  have rest := Nat.mod_lt (arena.used + alignment - 1) positive
  refine ⟨⟨Nat.dvd_mul_left _ _, ?_⟩, ?_⟩
  · unfold roundUp
    omega
  · rintro _ ⟨⟨factor, rfl⟩, le⟩
    rw [roundUp, Nat.mul_comm alignment]
    apply Nat.mul_le_mul_right
    rw [Nat.div_le_iff_le_mul_add_pred positive]
    omega

/-- An allocation gets the least free offset of the alignment, if there is room. -/
theorem place_eq_ok_iff
    {arena : Arena}
    {size alignment start : Nat} :
    arena.place size alignment = .ok start ↔
      IsPageAlignment alignment ∧ IsLeast (arena.freeOffsets alignment) start ∧
        start + size ≤ arena.capacity := by
  unfold place
  by_cases supported : IsPageAlignment alignment
  · have least := arena.roundUp_isLeast supported.pos
    rw [if_pos ((isAlignment_iff alignment).mpr supported)]
    by_cases fits : roundUp arena.used alignment + size ≤ arena.capacity
    · rw [if_pos fits, Except.ok.injEq]
      constructor
      · rintro rfl
        exact ⟨supported, least, fits⟩
      · rintro ⟨-, leastStart, -⟩
        exact least.unique leastStart
    · rw [if_neg fits]
      refine iff_of_false nofun ?_
      rintro ⟨-, leastStart, fitsStart⟩
      rw [leastStart.unique least] at fitsStart
      exact fits fitsStart
  · rw [if_neg (mt (isAlignment_iff alignment).mp supported)]
    exact iff_of_false nofun fun placed => supported placed.1

/-- The request takes `size` bytes at the least free offset of the alignment, or it fails for
want of a supported alignment or of room and changes nothing. -/
structure IsAllocation
    (request : ArenaM Nat)
    (arena : Arena)
    (size alignment : Nat) : Prop where
  of_run_eq_ok : ∀ start after, request.run.run arena = (.ok start, after) →
    IsLeast (arena.freeOffsets alignment) start ∧ start + size ≤ arena.capacity ∧
      after.capacity = arena.capacity ∧ after.used = start + size ∧
      after.peak = max arena.peak after.used
  of_run_eq_error : ∀ error after, request.run.run arena = (.error error, after) → after = arena
  run_eq_error_iff : (∃ error after, request.run.run arena = (.error error, after)) ↔
    ¬ IsPageAlignment alignment ∨
      ∀ start ∈ arena.freeOffsets alignment, arena.capacity < start + size

/-- The request hands out the piece that `place` finds and fills it; where `place` finds none it
fails, and then changes nothing. -/
structure FillsPlace
    (request : ArenaM Nat)
    (arena : Arena)
    (size alignment : Nat)
    (contents : Nat → UInt8) : Prop where
  of_place_eq_ok : ∀ start, arena.place size alignment = .ok start →
    request.run.run arena = (.ok start, (arena.claim start size).overwrite start size contents)
  of_place_eq_error : ∀ error, arena.place size alignment = .error error →
    ∃ error, request.run.run arena = (.error error, arena)

theorem fillsPlace_allocBytes
    (arena : Arena)
    (size alignment : Nat) :
    FillsPlace (allocBytes size alignment) arena size alignment fun _ => 0 := by
  constructor
  · intro start placed
    rw [allocBytes, Checks.run_bind, reserve_of_place placed]
    rfl
  · intro error refused
    rw [allocBytes, Checks.run_bind, reserve_of_place_error refused]
    exact ⟨error, rfl⟩

/-- A count of items whose size is no machine word does not fit either. -/
theorem fillsPlace_allocItems
    {arena : Arena}
    (capacity_lt : arena.capacity < 2 ^ 64)
    (item : List UInt8)
    (alignment count : Nat) :
    FillsPlace (allocItems item alignment count) arena (item.length * count) alignment
      fun index => item.getD (index % item.length) 0 := by
  have run_checkSize : (checkSize item.length count).run.run arena =
    if item.length * count < 2 ^ 64 then (.ok (), arena)
    else (.error (.exhausted (2 ^ 64 - 1) arena.remaining), arena) := rfl
  constructor
  · intro start placed
    have fits := (place_eq_ok_iff.mp placed).2.2
    rw [allocItems, reserveItems, Checks.run_bind, Checks.run_bind, run_checkSize,
      if_pos (by omega)]
    dsimp only
    rw [reserve_of_place placed]
    rfl
  · intro error refused
    rw [allocItems, reserveItems, Checks.run_bind, Checks.run_bind, run_checkSize]
    by_cases small : item.length * count < 2 ^ 64
    · rw [if_pos small]
      dsimp only
      rw [reserve_of_place_error refused]
      exact ⟨error, rfl⟩
    · rw [if_neg small]
      exact ⟨_, rfl⟩

/-- What follows `place` is an allocation. -/
theorem FillsPlace.isAllocation
    {request : ArenaM Nat}
    {arena : Arena}
    {size alignment : Nat}
    {contents : Nat → UInt8}
    (fills : FillsPlace request arena size alignment contents) :
    IsAllocation request arena size alignment := by
  cases placed : arena.place size alignment with
  | ok start =>
      have run := fills.of_place_eq_ok start placed
      obtain ⟨supported, least, fits⟩ := place_eq_ok_iff.mp placed
      refine ⟨?_, ?_, iff_of_false ?_ ?_⟩
      · intro other after ran
        cases run.symm.trans ran
        exact ⟨least, fits, rfl, rfl, rfl⟩
      · intro error after ran
        cases run.symm.trans ran
      · rintro ⟨error, after, ran⟩
        cases run.symm.trans ran
      · rintro (unsupported | full)
        · exact unsupported supported
        · exact Nat.not_lt_of_le fits (full start least.1)
  | error error =>
      obtain ⟨given, run⟩ := fills.of_place_eq_error error placed
      refine ⟨?_, ?_, iff_of_true ⟨given, arena, run⟩ ?_⟩
      · intro start after ran
        cases run.symm.trans ran
      · intro other after ran
        cases run.symm.trans ran
        rfl
      · by_contra! possible
        obtain ⟨supported, start, free, fits⟩ := possible
        have least := arena.roundUp_isLeast supported.pos
        have placedThere := place_eq_ok_iff.mpr
          ⟨supported, least, (Nat.add_le_add_right (least.2 free) size).trans fits⟩
        cases placed.symm.trans placedThere

theorem isAllocation_allocBytes
    (arena : Arena)
    (size alignment : Nat) :
    IsAllocation (allocBytes size alignment) arena size alignment :=
  (fillsPlace_allocBytes arena size alignment).isAllocation

theorem isAllocation_allocItems
    {arena : Arena}
    (capacity_lt : arena.capacity < 2 ^ 64)
    (item : List UInt8)
    (alignment count : Nat) :
    IsAllocation (allocItems item alignment count) arena (item.length * count) alignment :=
  (fillsPlace_allocItems capacity_lt item alignment count).isAllocation

/-- A new arena is empty and consists of whole pages. -/
theorem of_make_eq_ok
    {capacity : Nat}
    {zeroOnRestore : Bool}
    {arena : Arena}
    (made : make capacity zeroOnRestore = .ok arena) :
    arena.used = 0 ∧ arena.peak = 0 ∧ 4096 ∣ arena.capacity ∧ arena.capacity < 2 ^ 64 := by
  dsimp only [make] at made
  split_ifs at made with invalid tooLarge unaddressable
  cases made
  have bound : roundUp capacity pageSize < 2 ^ 64 := by omega
  exact ⟨rfl, rfl, Nat.dvd_mul_left _ _, bound⟩

theorem used_restore
    (arena : Arena)
    (mark : Nat) :
    (arena.restore mark).used = min arena.used mark := by
  unfold restore
  by_cases beyond : arena.used < mark
  · rw [if_pos beyond, Nat.min_eq_left beyond.le]
  · rw [if_neg beyond, Nat.min_eq_right (Nat.le_of_not_lt beyond)]

theorem peak_restore
    (arena : Arena)
    (mark : Nat) :
    (arena.restore mark).peak = arena.peak := by
  unfold restore
  split_ifs <;> rfl

theorem capacity_restore
    (arena : Arena)
    (mark : Nat) :
    (arena.restore mark).capacity = arena.capacity := by
  unfold restore
  split_ifs <;> rfl

end Arena
end Groth16
