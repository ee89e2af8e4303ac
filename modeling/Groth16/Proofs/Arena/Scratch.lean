import Groth16.Arena.Scratch
import Groth16.Error
import Groth16.Proofs.Arena.Allocation
import Groth16.Proofs.Arena.Demand

/-!
# Scratch space between uses

Between uses the kept arena is empty, whatever was done in it. So what scratch space gives
depends on what it was used for only through the capacity of the kept arena.
-/

namespace Groth16

namespace Arena

/-- The region consists of whole pages and can be addressed. -/
structure IsRegion (arena : Arena) : Prop where
  pages : pageSize ∣ arena.capacity
  capacity_lt : arena.capacity < addressSpace

theorem IsRegion.capacity_lt_word {arena : Arena} (region : arena.IsRegion) :
    arena.capacity < 2 ^ 64 := by
  have addressable := region.capacity_lt
  unfold addressSpace at addressable
  omega

theorem IsRegion.of_sameRegion
    {arena after : Arena}
    (region : arena.IsRegion)
    (same : arena.SameRegion after) :
    after.IsRegion := by
  constructor
  · rw [same.capacity_eq]
    exact region.pages
  · rw [same.capacity_eq]
    exact region.capacity_lt

/-- An arena that waits for its next use. -/
structure IsRested (arena : Arena) : Prop where
  region : arena.IsRegion
  used_eq : arena.used = 0

theorem IsRegion.isRested_restore
    {arena : Arena}
    (region : arena.IsRegion) :
    (arena.restore 0).IsRested where
  region := by
    constructor
    · rw [capacity_restore]
      exact region.pages
    · rw [capacity_restore]
      exact region.capacity_lt
  used_eq := by rw [used_restore, Nat.min_zero]

theorem of_make_eq_ok_rested
    {capacity : Nat}
    {zeroOnRestore : Bool}
    {arena : Arena}
    (made : make capacity zeroOnRestore = .ok arena) :
    arena.IsRested ∧ arena.capacity = roundUp capacity pageSize ∧
      arena.zeroOnRestore = zeroOnRestore := by
  dsimp only [make] at made
  split_ifs at made with invalid tooLarge unaddressable
  cases made
  exact ⟨⟨⟨Nat.dvd_mul_left _ _, Nat.lt_of_not_le unaddressable⟩, rfl⟩, rfl, rfl⟩

theorem le_roundUp_pageSize (capacity : Nat) : capacity ≤ roundUp capacity pageSize := by
  unfold roundUp pageSize
  omega

end Arena

namespace Scratch

/-- Scratch space that is not in use and whose kept arena waits for its next use. -/
def IsRested : Scratch → Prop
  | .inUse => False
  | .idle kept => ∀ arena ∈ kept, arena.IsRested

theorem isRested_empty : empty.IsRested := nofun

theorem IsRested.exists_eq_idle
    {space : Scratch}
    (rested : space.IsRested) :
    ∃ kept, space = .idle kept ∧ ∀ arena ∈ kept, arena.IsRested := by
  cases space with
  | inUse => exact rested.elim
  | idle kept => exact ⟨kept, rfl, rested⟩

theorem IsRested.release
    {space : Scratch}
    (rested : space.IsRested) :
    space.release.IsRested := by
  obtain ⟨kept, rfl, -⟩ := rested.exists_eq_idle
  exact isRested_empty

/-- The arena is the kept one, if that is large enough and clears released bytes as wished, and
otherwise a new one. -/
inductive IsArenaFor
    (kept : Option Arena)
    (minCapacity : Nat)
    (zeroOnRestore : Bool)
    (arena : Arena) : Prop where
  | kept
    (member : arena ∈ kept)
    (served : serves arena minCapacity zeroOnRestore = true)
  | new
    (unserved : ∀ old ∈ kept, serves old minCapacity zeroOnRestore = false)
    (made : Arena.make (max minCapacity defaultCapacity) zeroOnRestore = .ok arena)

section Kept

variable {kept : Option Arena} {minCapacity : Nat} {zeroOnRestore : Bool} {arena : Arena}

/-- A new arena can be made where the kept one is large enough. -/
theorem exists_make
    (region : arena.IsRegion)
    (large : minCapacity ≤ arena.capacity) :
    ∃ other, Arena.make (max minCapacity defaultCapacity) zeroOnRestore = .ok other := by
  have addressable : Arena.roundUp (max minCapacity defaultCapacity) Arena.pageSize <
      Arena.addressSpace := by
    have bound := region.capacity_lt
    obtain ⟨pages, capacityEq⟩ := region.pages
    rw [capacityEq] at large bound
    unfold Arena.roundUp Arena.pageSize Arena.addressSpace defaultCapacity at *
    omega
  have small : Arena.addressSpace ≤ Arena.maxCapacity ∧ Arena.maxCapacity < 2 ^ 64 := by decide
  have pos : 0 < defaultCapacity := by decide
  dsimp only [Arena.make]
  rw [if_neg (by omega), if_neg (by omega), if_neg (Nat.not_le_of_lt addressable)]
  exact ⟨_, rfl⟩

theorem arenaFor_eq_ok_iff :
    arenaFor kept minCapacity zeroOnRestore = .ok arena ↔
      IsArenaFor kept minCapacity zeroOnRestore arena := by
  cases kept with
  | none =>
      constructor
      · exact .new nofun
      · rintro (⟨member, -⟩ | ⟨-, made⟩)
        · cases member
        · exact made
  | some old =>
      unfold arenaFor
      dsimp only
      split_ifs with serving
      · constructor
        · rintro ⟨⟩
          exact .kept rfl serving
        · rintro (⟨member, -⟩ | ⟨unserved, -⟩)
          · cases member
            rfl
          · cases serving.symm.trans (unserved old rfl)
      · constructor
        · intro made
          refine .new (fun other member => ?_) made
          cases member
          exact Bool.eq_false_iff.mpr serving
        · rintro (⟨member, served⟩ | ⟨-, made⟩)
          · cases member
            exact absurd served serving
          · exact made

/-- A use is refused where the kept arena does not serve and no new one can be made. -/
theorem of_arenaFor_eq_error
    {error : ArenaError}
    (refused : arenaFor kept minCapacity zeroOnRestore = .error error) :
    (∀ old ∈ kept, serves old minCapacity zeroOnRestore = false) ∧
      Arena.make (max minCapacity defaultCapacity) zeroOnRestore = .error error := by
  cases kept with
  | none => exact ⟨nofun, refused⟩
  | some old =>
      unfold arenaFor at refused
      dsimp only at refused
      split_ifs at refused with serving
      refine ⟨fun other member => ?_, refused⟩
      cases member
      exact Bool.eq_false_iff.mpr serving

/-- Where the kept arena is empty, the arena for a use is empty and of the wished kind. -/
theorem IsArenaFor.wished
    (isArenaFor : IsArenaFor kept minCapacity zeroOnRestore arena)
    (empty : ∀ old ∈ kept, old.used = 0) :
    arena.used = 0 ∧ minCapacity ≤ arena.capacity ∧ arena.zeroOnRestore = zeroOnRestore := by
  cases isArenaFor with
  | kept member served =>
      rw [serves, Bool.and_eq_true, decide_eq_true_iff, beq_iff_eq] at served
      exact ⟨empty arena member, served⟩
  | new unserved made =>
      obtain ⟨rested, capacityEq, clears⟩ := Arena.of_make_eq_ok_rested made
      refine ⟨rested.used_eq, ?_, clears⟩
      rw [capacityEq]
      exact (Nat.le_max_left _ _).trans (Arena.le_roundUp_pageSize _)

/-- The arena for a use is empty, of real pages, and of the wished capacity at least. -/
theorem isRested_arenaFor
    (rested : ∀ arena ∈ kept, arena.IsRested)
    (served : arenaFor kept minCapacity zeroOnRestore = .ok arena) :
    arena.IsRested ∧ minCapacity ≤ arena.capacity := by
  have isArenaFor := arenaFor_eq_ok_iff.mp served
  refine ⟨?_, (isArenaFor.wished fun old member => (rested old member).used_eq).2.1⟩
  cases isArenaFor with
  | kept member served => exact rested arena member
  | new unserved made => exact (Arena.of_make_eq_ok_rested made).1

/-- Whether there is an arena for a use does not depend on the kept one. -/
theorem arenaFor_eq_error_iff
    (rested : ∀ arena ∈ kept, arena.IsRested)
    {error : ArenaError} :
    arenaFor kept minCapacity zeroOnRestore = .error error ↔
      Arena.make (max minCapacity defaultCapacity) zeroOnRestore = .error error := by
  unfold arenaFor
  cases kept with
  | none => exact Iff.rfl
  | some old =>
      by_cases serves : serves old minCapacity zeroOnRestore = true
      · dsimp only
        rw [if_pos serves]
        rw [Scratch.serves, Bool.and_eq_true, decide_eq_true_iff] at serves
        obtain ⟨other, made⟩ := exists_make (rested old rfl).region serves.1
        rw [made]
        exact iff_of_false nofun nofun
      · dsimp only
        rw [if_neg serves]

theorem make_ne_exhausted
    {capacity requested available : Nat} :
    Arena.make capacity zeroOnRestore ≠ .error (.exhausted requested available) := by
  dsimp only [Arena.make]
  split_ifs <;> exact nofun

/-- A use clears the kept arena behind it. -/
theorem use_idle
    {Value : Type}
    (body : StateT Arena (StateM Scratch) Value) :
    use minCapacity zeroOnRestore body (.idle kept) =
      match arenaFor kept minCapacity zeroOnRestore with
      | .error error => (.error error, .idle kept)
      | .ok arena =>
        (.ok (body arena .inUse).1.1,
          .idle (some ((body arena .inUse).1.2.restore arena.used))) := by
  rfl

/-- A use of an arena only gives what its body gives in the arena for the use. -/
theorem useArena_fst
    {Value : Type}
    (body : StateM Arena Value) :
    (useArena minCapacity zeroOnRestore body (.idle kept)).1 =
      (arenaFor kept minCapacity zeroOnRestore).map fun arena => (body.run arena).1 := by
  rw [useArena, use_idle]
  cases arenaFor kept minCapacity zeroOnRestore <;> rfl

end Kept

section Use

variable {Value : Type} {space : Scratch} {minCapacity : Nat} {zeroOnRestore : Bool}

/-- Whatever is done in scratch space, it waits for its next use when a use is over. -/
theorem IsRested.use
    (rested : space.IsRested)
    {body : StateT Arena (StateM Scratch) Value}
    (keeps : ∀ arena, arena.IsRegion → (body arena .inUse).1.2.IsRegion) :
    (use minCapacity zeroOnRestore body space).2.IsRested := by
  obtain ⟨kept, rfl, keptRested⟩ := rested.exists_eq_idle
  rw [use_idle]
  cases served : arenaFor kept minCapacity zeroOnRestore with
  | error error => exact keptRested
  | ok arena =>
      have arenaRested := (isRested_arenaFor keptRested served).1
      intro after member
      cases Option.mem_some_iff.mp member
      rw [arenaRested.used_eq]
      exact (keeps arena arenaRested.region).isRested_restore

theorem IsRested.useArena
    (rested : space.IsRested)
    {body : StateM Arena Value}
    (keeps : ∀ arena : Arena, arena.SameRegion (body.run arena).2) :
    (useArena minCapacity zeroOnRestore body space).2.IsRested :=
  rested.use fun arena region => region.of_sameRegion (keeps arena)

/-- A computation that only allocates gives in scratch space what it gives in some arena. -/
theorem exists_of_useArena_eq_ok
    {body : StateM Arena Value}
    {value : Value}
    (used : (useArena minCapacity zeroOnRestore body space).1 = .ok value) :
    ∃ arena, (body.run arena).1 = value := by
  cases space with
  | inUse => cases used
  | idle kept =>
      rw [useArena_fst] at used
      cases served : arenaFor kept minCapacity zeroOnRestore with
      | error error =>
          rw [served] at used
          cases used
      | ok arena =>
          rw [served] at used
          exact ⟨arena, Except.ok.inj used⟩

/-- The capacity of the arena for a use. -/
def capacityFor
    (space : Scratch)
    (minCapacity : Nat)
    (zeroOnRestore : Bool) : Except ArenaError Nat :=
  match space with
  | .inUse => .error .scratchBusy
  | .idle kept => (arenaFor kept minCapacity zeroOnRestore).map Arena.capacity

/-- Before the first use the arena is a new one. -/
theorem capacityFor_empty :
    empty.capacityFor minCapacity zeroOnRestore =
      (Arena.make (max minCapacity defaultCapacity) zeroOnRestore).map Arena.capacity := rfl

/-- A kept arena that serves is the arena for the use. -/
theorem capacityFor_of_serves
    {arena : Arena}
    (served : serves arena minCapacity zeroOnRestore = true) :
    (idle (some arena)).capacityFor minCapacity zeroOnRestore = .ok arena.capacity := by
  change (arenaFor (some arena) minCapacity zeroOnRestore).map Arena.capacity = _
  rw [arenaFor, if_pos served]
  rfl

/-- Whether there is an arena for a use is decided before the first use. -/
theorem IsRested.capacityFor_eq_error_iff
    (rested : space.IsRested)
    {error : ArenaError} :
    space.capacityFor minCapacity zeroOnRestore = .error error ↔
      Arena.make (max minCapacity defaultCapacity) zeroOnRestore = .error error := by
  obtain ⟨kept, rfl, keptRested⟩ := rested.exists_eq_idle
  rw [← arenaFor_eq_error_iff keptRested]
  change (arenaFor kept minCapacity zeroOnRestore).map Arena.capacity = _ ↔ _
  cases arenaFor kept minCapacity zeroOnRestore with
  | error other => simp only [Except.map, Except.error.injEq]
  | ok arena => exact iff_of_false nofun nofun

theorem IsRested.exists_capacityFor
    (rested : space.IsRested)
    {arena : Arena}
    (made : Arena.make (max minCapacity defaultCapacity) zeroOnRestore = .ok arena) :
    ∃ capacity, space.capacityFor minCapacity zeroOnRestore = .ok capacity := by
  cases served : space.capacityFor minCapacity zeroOnRestore with
  | error error =>
      rw [rested.capacityFor_eq_error_iff.mp served] at made
      cases made
  | ok capacity => exact ⟨capacity, rfl⟩

theorem exists_capacityFor_empty_iff {small : Nat → Prop} :
    (∃ capacity, empty.capacityFor minCapacity zeroOnRestore = .ok capacity ∧ small capacity) ↔
      ∃ arena, Arena.make (max minCapacity defaultCapacity) zeroOnRestore = .ok arena ∧
        small arena.capacity := by
  rw [capacityFor_empty]
  cases Arena.make (max minCapacity defaultCapacity) zeroOnRestore with
  | error error => exact iff_of_false (fun ⟨_, failed, _⟩ => nomatch failed) nofun
  | ok arena =>
      constructor
      · rintro ⟨capacity, equal, isSmall⟩
        cases equal
        exact ⟨arena, rfl, isSmall⟩
      · rintro ⟨other, equal, isSmall⟩
        cases equal
        exact ⟨_, rfl, isSmall⟩

/-- The arena for a use, by its capacity. -/
theorem IsRested.exists_arenaFor
    (rested : space.IsRested)
    {capacity : Nat}
    (served : space.capacityFor minCapacity zeroOnRestore = .ok capacity) :
    ∃ kept arena, space = .idle kept ∧ arenaFor kept minCapacity zeroOnRestore = .ok arena ∧
      arena.IsRested ∧ arena.capacity = capacity := by
  obtain ⟨kept, rfl, keptRested⟩ := rested.exists_eq_idle
  change (arenaFor kept minCapacity zeroOnRestore).map Arena.capacity = .ok capacity at served
  cases found : arenaFor kept minCapacity zeroOnRestore with
  | error error =>
      rw [found] at served
      cases served
  | ok arena =>
      rw [found] at served
      cases served
      exact ⟨kept, arena, rfl, found, (isRested_arenaFor keptRested found).1, rfl⟩

theorem IsRested.le_capacityFor
    (rested : space.IsRested)
    {capacity : Nat}
    (served : space.capacityFor minCapacity zeroOnRestore = .ok capacity) :
    minCapacity ≤ capacity := by
  obtain ⟨kept, arena, rfl, found, -, rfl⟩ := rested.exists_arenaFor served
  exact (isRested_arenaFor rested found).2

end Use

/-! ## Calls that need room -/

section Calls

variable {Result : Type} {wish : Nat} {zeroOnRestore : Bool} {bytes : Nat}

/-- A call was refused because its arena is exhausted. -/
def IsExhausted (answer : Except VerifyError Result) : Prop :=
  ∃ requested available, answer = .error (.allocationFailed (.exhausted requested available))

/-- A call asks for an arena of the wished capacity and needs the given number of bytes. With them
it gives the value; it is refused for want of room exactly where the arena is smaller; and beside
this its answer does not depend on the scratch space. -/
structure NeedsRoom
    (answer : Scratch → Except VerifyError Result)
    (wish : Nat)
    (zeroOnRestore : Bool)
    (bytes : Nat)
    (value : Except VerifyError Result) : Prop where
  eq_value : ∀ (space : Scratch) (capacity : Nat), space.IsRested →
    space.capacityFor wish zeroOnRestore = .ok capacity → bytes ≤ capacity → answer space = value
  isExhausted_iff : ∀ space : Scratch, space.IsRested →
    (IsExhausted (answer space) ↔
      ∃ capacity, space.capacityFor wish zeroOnRestore = .ok capacity ∧ capacity < bytes)
  eq_of_not_isExhausted : ∀ space other : Scratch, space.IsRested → other.IsRested →
    ¬IsExhausted (answer space) → ¬IsExhausted (answer other) → answer space = answer other

namespace NeedsRoom

/-- A call that does not turn to scratch space needs no room. -/
theorem of_const
    {answer : Except VerifyError Result}
    (possible : ¬IsExhausted answer) :
    NeedsRoom (fun _ => answer) wish zeroOnRestore 0 answer where
  eq_value _ _ _ _ _ := rfl
  isExhausted_iff _ _ :=
    iff_of_false possible fun ⟨capacity, _, impossible⟩ => Nat.not_lt_zero capacity impossible
  eq_of_not_isExhausted _ _ _ _ _ _ := rfl

/-- What is done with the result of a call needs no further room. -/
theorem map
    {answer : Scratch → Except VerifyError Result}
    {value : Except VerifyError Result}
    (needs : NeedsRoom answer wish zeroOnRestore bytes value)
    {Final : Type}
    (finish : Result → Final) :
    NeedsRoom (fun space => (answer space).map finish) wish zeroOnRestore bytes
      (value.map finish) := by
  have same (answer : Except VerifyError Result) :
      IsExhausted (answer.map finish) ↔ IsExhausted answer := by
    cases answer with
    | error error =>
        simp only [IsExhausted, Except.map, Except.error.injEq]
    | ok result => exact iff_of_false nofun nofun
  constructor
  · intro space capacity rested served enough
    rw [needs.eq_value space capacity rested served enough]
  · intro space rested
    rw [same]
    exact needs.isExhausted_iff space rested
  · intro space other rested otherRested possible otherPossible
    rw [same] at possible otherPossible
    rw [needs.eq_of_not_isExhausted space other rested otherRested possible otherPossible]

/-- A call whose answer the capacity of the arena for it decides. -/
theorem of_capacityFor
    {answer : Scratch → Except VerifyError Result}
    {value : Except VerifyError Result}
    (possible : ¬IsExhausted value)
    (fails : ∀ (space : Scratch) (error : ArenaError), space.IsRested →
      space.capacityFor wish zeroOnRestore = .error error →
      answer space = .error (.allocationFailed error))
    (fits : ∀ (space : Scratch) (capacity : Nat), space.IsRested →
      space.capacityFor wish zeroOnRestore = .ok capacity → bytes ≤ capacity →
      answer space = value)
    (exhausts : ∀ (space : Scratch) (capacity : Nat), space.IsRested →
      space.capacityFor wish zeroOnRestore = .ok capacity → capacity < bytes →
      IsExhausted (answer space)) :
    NeedsRoom answer wish zeroOnRestore bytes value where
  eq_value := fits
  isExhausted_iff space rested := by
    cases served : space.capacityFor wish zeroOnRestore with
    | error error =>
        rw [fails space error rested served]
        refine iff_of_false ?_ fun ⟨capacity, impossible, _⟩ => nomatch impossible
        rintro ⟨requested, available, equal⟩
        cases equal
        exact make_ne_exhausted (rested.capacityFor_eq_error_iff.mp served)
    | ok capacity =>
        constructor
        · intro exhausted
          refine ⟨capacity, rfl, Nat.lt_of_not_le fun enough => possible ?_⟩
          rwa [← fits space capacity rested served enough]
        · rintro ⟨other, equal, small⟩
          cases equal
          exact exhausts space capacity rested served small
  eq_of_not_isExhausted space other rested otherRested answered otherAnswered := by
    cases served : space.capacityFor wish zeroOnRestore with
    | error error =>
        have otherServed := otherRested.capacityFor_eq_error_iff.mpr
          (rested.capacityFor_eq_error_iff.mp served)
        rw [fails space error rested served, fails other error otherRested otherServed]
    | ok capacity =>
        cases otherServed : other.capacityFor wish zeroOnRestore with
        | error error =>
            rw [rested.capacityFor_eq_error_iff.mpr
              (otherRested.capacityFor_eq_error_iff.mp otherServed)] at served
            cases served
        | ok otherCapacity =>
            have enough : bytes ≤ capacity := Nat.le_of_not_lt fun small =>
              answered (exhausts space capacity rested served small)
            have otherEnough : bytes ≤ otherCapacity := Nat.le_of_not_lt fun small =>
              otherAnswered (exhausts other otherCapacity otherRested otherServed small)
            rw [fits space capacity rested served enough,
              fits other otherCapacity otherRested otherServed otherEnough]

/-- A computation in an arena that is only ever exhausted where the arena is too small. -/
theorem of_useArena
    {body : StateM Arena (Except VerifyError Result)}
    {value : Except VerifyError Result}
    (possible : ¬IsExhausted value)
    (fits : ∀ arena : Arena, arena.IsRested → bytes ≤ arena.capacity → (body.run arena).1 = value)
    (exhausts : ∀ arena : Arena, arena.IsRested → arena.capacity < bytes →
      IsExhausted (body.run arena).1) :
    NeedsRoom
      (fun space =>
        ((useArena wish zeroOnRestore body space).1.mapError .allocationFailed).bind id)
      wish zeroOnRestore bytes value := by
  refine .of_capacityFor possible (fun space error rested served => ?_)
    (fun space capacity rested served enough => ?_) fun space capacity rested served small => ?_
  · obtain ⟨kept, rfl, keptRested⟩ := rested.exists_eq_idle
    have failed := (arenaFor_eq_error_iff keptRested).mpr
      (rested.capacityFor_eq_error_iff.mp served)
    rw [useArena_fst, failed]
    rfl
  · obtain ⟨kept, arena, rfl, found, arenaRested, rfl⟩ := rested.exists_arenaFor served
    rw [useArena_fst, found]
    exact fits arena arenaRested enough
  · obtain ⟨kept, arena, rfl, found, arenaRested, rfl⟩ := rested.exists_arenaFor served
    rw [useArena_fst, found]
    exact exhausts arena arenaRested small

variable {answer : Scratch → Except VerifyError Result} {value : Except VerifyError Result}

/-- A call that needs no more than it wishes for is never refused for want of room. -/
theorem not_isExhausted
    (needs : NeedsRoom answer wish zeroOnRestore bytes value)
    (modest : bytes ≤ wish)
    {space : Scratch}
    (rested : space.IsRested) :
    ¬IsExhausted (answer space) := by
  rw [needs.isExhausted_iff space rested]
  rintro ⟨capacity, served, small⟩
  have enough := rested.le_capacityFor served
  omega

/-- A call that needs no more than it wishes for answers the same in any scratch space. -/
theorem eq_of_le
    (needs : NeedsRoom answer wish zeroOnRestore bytes value)
    (modest : bytes ≤ wish)
    {space other : Scratch}
    (rested : space.IsRested)
    (otherRested : other.IsRested) :
    answer space = answer other :=
  needs.eq_of_not_isExhausted space other rested otherRested
    (needs.not_isExhausted modest rested) (needs.not_isExhausted modest otherRested)

end NeedsRoom

/-- A call in the scratch space and the same call before the first use of scratch space answer the
same, unless one of them is refused for want of room, and that is decided by the capacity. -/
structure AgreesUpToRoom
    (space : Scratch)
    (wish : Nat)
    (zeroOnRestore : Bool)
    (bytes : Nat)
    (answer fresh : Except VerifyError Result) : Prop where
  isExhausted_iff : IsExhausted answer ↔
    ∃ capacity, space.capacityFor wish zeroOnRestore = .ok capacity ∧ capacity < bytes
  isExhausted_fresh_iff : IsExhausted fresh ↔
    ∃ arena, Arena.make (max wish defaultCapacity) zeroOnRestore = .ok arena ∧
      arena.capacity < bytes
  eq_of_not_isExhausted : ¬IsExhausted answer → ¬IsExhausted fresh → answer = fresh

theorem NeedsRoom.agreesUpToRoom
    {answer : Scratch → Except VerifyError Result}
    {value : Except VerifyError Result}
    (needs : NeedsRoom answer wish zeroOnRestore bytes value)
    {space : Scratch}
    (rested : space.IsRested) :
    AgreesUpToRoom space wish zeroOnRestore bytes (answer space) (answer .empty) where
  isExhausted_iff := needs.isExhausted_iff space rested
  isExhausted_fresh_iff :=
    (needs.isExhausted_iff .empty isRested_empty).trans exists_capacityFor_empty_iff
  eq_of_not_isExhausted := needs.eq_of_not_isExhausted space .empty rested isRested_empty

end Calls
end Scratch
end Groth16
