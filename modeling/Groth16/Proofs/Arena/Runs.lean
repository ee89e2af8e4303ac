import Groth16.Proofs.Arena.Allocation
import Mathlib.Data.List.Induction

/-!
# Runs of an arena

Whatever its client does, the offset of an arena stays below the peak and the peak below the
capacity, and the pieces that were handed out and not released lie apart from each other below
the offset.
-/

namespace Groth16
namespace Arena

/-- A stretch of the region that was handed out. -/
structure Piece where
  start : Nat
  size : Nat

/-- The first offset after the piece. -/
def Piece.stop (piece : Piece) : Nat := piece.start + piece.size

def Piece.Covers (piece : Piece) (offset : Nat) : Prop :=
  piece.start ≤ offset ∧ offset < piece.stop

/-- What a client does with an arena. -/
inductive Action where
  | bytes (size alignment : Nat)
  | items (item : List UInt8) (alignment count : Nat)
  /-- Fills the piece of the given number. -/
  | write (number : Nat) (contents : Nat → UInt8)
  /-- Takes a mark, which leaves the arena as it is. -/
  | checkpoint
  /-- Rewinds to any mark, an earlier one or one beyond the offset. -/
  | restore (mark : Nat)
  | reset
  | openScope
  | closeScope

/-- Whether an action may release pieces. -/
def Action.rewinds : Action → Bool
  | restore _ | reset | closeScope => true
  | _ => false

/-- An arena in use. -/
structure Client where
  arena : Arena
  /-- The marks of the open scopes, innermost first. -/
  scopes : List Nat
  /-- The pieces that were handed out and not released, oldest first. -/
  pieces : List Piece

namespace Client

/-- The client of an arena that it has not used. -/
def start (arena : Arena) : Client := ⟨arena, [], []⟩

/-- Makes a request, and keeps the piece that it gets. -/
def allocate (client : Client) (request : ArenaM Nat) (size : Nat) : Client :=
  match request.run.run client.arena with
  | (.ok start, arena) => { client with arena, pieces := client.pieces ++ [⟨start, size⟩] }
  | (.error _, arena) => { client with arena }

/-- Gives up the pieces that reach beyond the offset of a rewound arena. -/
def rewind (client : Client) (arena : Arena) : Client :=
  { client with arena, pieces := client.pieces.filter (·.stop ≤ arena.used) }

/-- Fills the piece of the given number, if it is held. -/
def write (client : Client) (number : Nat) (contents : Nat → UInt8) : Client :=
  match client.pieces[number]? with
  | some piece => { client with arena := client.arena.overwrite piece.start piece.size contents }
  | none => client

def openScope (client : Client) : Client :=
  { client with scopes := client.arena.checkpoint :: client.scopes }

/-- Rewinds to where the innermost scope was opened. -/
def closeScope (client : Client) : Client :=
  match client.scopes with
  | mark :: scopes => { client.rewind (client.arena.restore mark) with scopes }
  | [] => client

def perform (client : Client) : Action → Client
  | .bytes size alignment => client.allocate (allocBytes size alignment) size
  | .items item alignment count =>
    client.allocate (allocItems item alignment count) (item.length * count)
  | .write number contents => client.write number contents
  | .checkpoint => client
  | .restore mark => client.rewind (client.arena.restore mark)
  | .reset => client.rewind client.arena.reset
  | .openScope => client.openScope
  | .closeScope => client.closeScope

def run (client : Client) (actions : List Action) : Client := actions.foldl perform client

/-- The offsets of an arena along a run of a client. -/
def offsets (initial : Arena) (actions : List Action) : Set Nat :=
  {used | ∃ earlier, earlier <+: actions ∧ ((start initial).run earlier).arena.used = used}

theorem run_append
    (client : Client)
    (before after : List Action) :
    client.run (before ++ after) = (client.run before).run after :=
  List.foldl_append

/-- A body that closes what it opens runs as in `scope`. -/
theorem arena_run_scope
    (client : Client)
    (body : List Action)
    (balanced : (client.openScope.run body).scopes = client.openScope.scopes) :
    (client.run (.openScope :: (body ++ [.closeScope]))).arena =
      ((scope (m := Id) fun arena => ((), ({ client.openScope with arena }.run body).arena))
        client.arena).2 := by
  change (client.openScope.run (body ++ [.closeScope])).arena = _
  rw [run_append]
  change (client.openScope.run body).closeScope.arena = _
  rw [closeScope, balanced]
  rfl

/-- What every action keeps: the pieces lie in order below the offset. -/
structure IsOrderly (client : Client) : Prop where
  used_le_peak : client.arena.used ≤ client.arena.peak
  peak_le_capacity : client.arena.peak ≤ client.arena.capacity
  capacity_lt : client.arena.capacity < 2 ^ 64
  pairwise_stop_le_start : client.pieces.Pairwise fun first second => first.stop ≤ second.start
  stop_le_used : ∀ piece ∈ client.pieces, piece.stop ≤ client.arena.used

/-- One step moves the offset within the region and records where it was. -/
structure Follows (client after : Client) : Prop where
  isOrderly : after.IsOrderly
  capacity_eq : after.arena.capacity = client.arena.capacity
  peak_eq : after.arena.peak = max client.arena.peak after.arena.used

namespace IsOrderly

variable {client : Client}

/-- Actions that leave the sizes and the pieces alone change nothing of note. -/
theorem follows_of_eq
    (orderly : client.IsOrderly)
    {after : Client}
    (capacity_eq : after.arena.capacity = client.arena.capacity)
    (used_eq : after.arena.used = client.arena.used)
    (peak_eq : after.arena.peak = client.arena.peak)
    (pieces_eq : after.pieces = client.pieces) :
    client.Follows after where
  isOrderly := by
    obtain ⟨usedLe, peakLe, capacityLt, apart, below⟩ := orderly
    constructor
    · rwa [used_eq, peak_eq]
    · rwa [peak_eq, capacity_eq]
    · rwa [capacity_eq]
    · rwa [pieces_eq]
    · rwa [pieces_eq, used_eq]
  capacity_eq := capacity_eq
  peak_eq := by rw [used_eq, peak_eq, Nat.max_eq_left orderly.used_le_peak]

theorem allocate
    (orderly : client.IsOrderly)
    {request : ArenaM Nat}
    {size alignment : Nat}
    (allocation : IsAllocation request client.arena size alignment) :
    client.Follows (client.allocate request size) := by
  unfold Client.allocate
  match run : request.run.run client.arena with
  | (.error error, after) =>
    cases allocation.of_run_eq_error error after run
    exact orderly.follows_of_eq rfl rfl rfl rfl
  | (.ok start, after) =>
    obtain ⟨⟨⟨-, free⟩, -⟩, fits, capacity_eq, used_eq, peak_eq⟩ :=
      allocation.of_run_eq_ok start after run
    have usedLe := orderly.used_le_peak
    have peakLe := orderly.peak_le_capacity
    refine ⟨⟨?_, ?_, ?_, ?_, ?_⟩, capacity_eq, peak_eq⟩
    · change after.used ≤ after.peak
      omega
    · change after.peak ≤ after.capacity
      omega
    · exact capacity_eq ▸ orderly.capacity_lt
    · refine List.pairwise_append.mpr
        ⟨orderly.pairwise_stop_le_start, List.pairwise_singleton _ _, ?_⟩
      intro piece held _ new
      cases List.mem_singleton.mp new
      exact (orderly.stop_le_used piece held).trans free
    · intro piece held
      change piece.stop ≤ after.used
      rcases List.mem_append.mp held with old | new
      · have below := orderly.stop_le_used piece old
        omega
      · cases List.mem_singleton.mp new
        exact used_eq.ge

theorem rewind
    (orderly : client.IsOrderly)
    (mark : Nat) :
    client.Follows (client.rewind (client.arena.restore mark)) where
  isOrderly := by
    constructor
    · change (client.arena.restore mark).used ≤ (client.arena.restore mark).peak
      rw [used_restore, peak_restore]
      exact (Nat.min_le_left _ _).trans orderly.used_le_peak
    · change (client.arena.restore mark).peak ≤ (client.arena.restore mark).capacity
      rw [peak_restore, capacity_restore]
      exact orderly.peak_le_capacity
    · change (client.arena.restore mark).capacity < 2 ^ 64
      rw [capacity_restore]
      exact orderly.capacity_lt
    · exact orderly.pairwise_stop_le_start.filter _
    · intro piece held
      exact of_decide_eq_true (List.mem_filter.mp held).2
  capacity_eq := capacity_restore _ _
  peak_eq := by
    change (client.arena.restore mark).peak = max _ (client.arena.restore mark).used
    rw [peak_restore, used_restore, Nat.max_eq_left]
    exact (Nat.min_le_left _ _).trans orderly.used_le_peak

theorem perform
    (orderly : client.IsOrderly)
    (action : Action) :
    client.Follows (client.perform action) := by
  cases action with
  | bytes size alignment => exact orderly.allocate (isAllocation_allocBytes _ size alignment)
  | items item alignment count =>
      exact orderly.allocate (isAllocation_allocItems orderly.capacity_lt item alignment count)
  | write number contents =>
      change client.Follows (client.write number contents)
      unfold Client.write
      cases client.pieces[number]? with
      | none => exact orderly.follows_of_eq rfl rfl rfl rfl
      | some piece => exact orderly.follows_of_eq rfl rfl rfl rfl
  | checkpoint => exact orderly.follows_of_eq rfl rfl rfl rfl
  | restore mark => exact orderly.rewind mark
  | reset => exact orderly.rewind 0
  | openScope => exact orderly.follows_of_eq rfl rfl rfl rfl
  | closeScope =>
      change client.Follows client.closeScope
      unfold Client.closeScope
      cases client.scopes with
      | nil => exact orderly.follows_of_eq rfl rfl rfl rfl
      | cons mark scopes =>
          obtain ⟨⟨usedLe, peakLe, capacityLt, apart, below⟩, capacity_eq, peak_eq⟩ :=
            orderly.rewind mark
          exact ⟨⟨usedLe, peakLe, capacityLt, apart, below⟩, capacity_eq, peak_eq⟩

end IsOrderly

theorem prefix_pieces_allocate
    (client : Client)
    (request : ArenaM Nat)
    (size : Nat) :
    client.pieces <+: (client.allocate request size).pieces := by
  unfold allocate
  split
  · exact List.prefix_append _ _
  · exact List.prefix_rfl

/-- Between rewinds no piece is given up. -/
theorem prefix_pieces_run
    (client : Client)
    {actions : List Action}
    (forward : ∀ action ∈ actions, action.rewinds = false) :
    client.pieces <+: (client.run actions).pieces := by
  induction actions generalizing client with
  | nil => exact List.prefix_rfl
  | cons action rest inductionHypothesis =>
      have kept : client.pieces <+: (client.perform action).pieces := by
        cases action with
        | bytes size alignment => exact client.prefix_pieces_allocate _ _
        | items item alignment count => exact client.prefix_pieces_allocate _ _
        | write number contents =>
            change _ <+: (client.write number contents).pieces
            unfold write
            split <;> exact List.prefix_rfl
        | checkpoint => exact List.prefix_rfl
        | openScope => exact List.prefix_rfl
        | restore mark => cases forward _ List.mem_cons_self
        | reset => cases forward _ List.mem_cons_self
        | closeScope => cases forward _ List.mem_cons_self
      exact kept.trans (inductionHypothesis (client.perform action)
        fun other member => forward other (List.mem_cons_of_mem action member))

/-- The state of an arena after a run: the offset and the peak lie within the whole pages of the
region, the pieces that are held lie apart within the offset, and whatever comes next takes the
least free offset or fails without effect. -/
structure IsBounded (initial : Arena) (actions : List Action) (client : Client) : Prop where
  page_dvd_capacity : 4096 ∣ client.arena.capacity
  capacity_eq : client.arena.capacity = initial.capacity
  used_le_peak : client.arena.used ≤ client.arena.peak
  peak_le_capacity : client.arena.peak ≤ client.arena.capacity
  isGreatest_peak : IsGreatest (offsets initial actions) client.arena.peak
  pairwise_disjoint : client.pieces.Pairwise fun first second =>
    ∀ offset, ¬(first.Covers offset ∧ second.Covers offset)
  stop_le_used : ∀ piece ∈ client.pieces, piece.stop ≤ client.arena.used
  prefix_pieces : ∀ before since, actions = before ++ since →
    (∀ action ∈ since, action.rewinds = false) →
    ((start initial).run before).pieces <+: client.pieces
  allocBytes : ∀ size alignment,
    IsAllocation (allocBytes size alignment) client.arena size alignment
  allocItems : ∀ item alignment count,
    IsAllocation (allocItems item alignment count) client.arena (item.length * count) alignment
  used_restore : ∀ mark, (client.arena.restore mark).used = min client.arena.used mark
  used_reset : client.arena.reset.used = 0
  used_scope : ∀ {Value : Type} (body : StateM Arena Value),
    ((scope body).run client.arena).2.used =
      min (body.run client.arena).2.used client.arena.used

/-- Along a run of an orderly client the peak is the largest offset so far. -/
theorem isOrderly_run
    {initial : Arena}
    (orderly : (start initial).IsOrderly)
    (peak_eq : initial.peak = initial.used)
    (actions : List Action) :
    ((start initial).run actions).IsOrderly ∧
      ((start initial).run actions).arena.capacity = initial.capacity ∧
      IsGreatest (offsets initial actions) ((start initial).run actions).arena.peak := by
  -- The induction is on the last action, whose offset is the only one that can be a new peak.
  induction actions using List.reverseRecOn with
  | nil =>
      refine ⟨orderly, rfl, ⟨[], List.prefix_rfl, peak_eq.symm⟩, ?_⟩
      rintro _ ⟨earlier, isPrefix, rfl⟩
      cases List.prefix_nil.mp isPrefix
      exact orderly.used_le_peak
  | append_singleton before action inductionHypothesis =>
      obtain ⟨orderlyBefore, capacityBefore, ⟨first, firstPrefix, used_first⟩, largest⟩ :=
        inductionHypothesis
      obtain ⟨orderlyAfter, capacityAfter, peakAfter⟩ := orderlyBefore.perform action
      have run_eq : (start initial).run (before ++ [action]) =
          ((start initial).run before).perform action := run_append _ _ _
      rw [run_eq]
      refine ⟨orderlyAfter, capacityAfter.trans capacityBefore, ?_, ?_⟩
      · rw [peakAfter]
        rcases Nat.le_total (((start initial).run before).perform action).arena.used
          ((start initial).run before).arena.peak with low | high
        · rw [Nat.max_eq_left low]
          exact ⟨first, firstPrefix.trans (List.prefix_append _ _), used_first⟩
        · rw [Nat.max_eq_right high]
          exact ⟨before ++ [action], List.prefix_rfl, congrArg (·.arena.used) run_eq⟩
      · rintro _ ⟨earlier, isPrefix, rfl⟩
        rcases List.prefix_concat_iff.mp isPrefix with rfl | isPrefixBefore
        · rw [run_eq]
          exact orderlyAfter.used_le_peak
        · rw [peakAfter]
          exact (largest ⟨earlier, isPrefixBefore, rfl⟩).trans (Nat.le_max_left _ _)

/-- Every run of a new arena is bounded, at every moment. -/
theorem isBounded_run
    {capacity : Nat}
    {zeroOnRestore : Bool}
    {arena : Arena}
    (made : make capacity zeroOnRestore = .ok arena)
    (actions : List Action) :
    IsBounded arena actions ((start arena).run actions) := by
  obtain ⟨used_eq, peak_eq, whole, capacity_lt⟩ := of_make_eq_ok made
  have initially : (start arena).IsOrderly := by
    refine ⟨?_, ?_, capacity_lt, List.Pairwise.nil, nofun⟩
    · exact (used_eq.trans peak_eq.symm).le
    · exact peak_eq.trans_le (Nat.zero_le _)
  obtain ⟨orderly, capacity_eq, greatest⟩ :=
    isOrderly_run initially (peak_eq.trans used_eq.symm) actions
  exact {
    page_dvd_capacity := capacity_eq ▸ whole
    capacity_eq
    used_le_peak := orderly.used_le_peak
    peak_le_capacity := orderly.peak_le_capacity
    isGreatest_peak := greatest
    pairwise_disjoint := by
      apply orderly.pairwise_stop_le_start.imp
      rintro first second apart offset ⟨inFirst, inSecond⟩
      exact Nat.not_lt_of_le (apart.trans inSecond.1) inFirst.2
    stop_le_used := orderly.stop_le_used
    prefix_pieces := by
      rintro before since rfl forward
      rw [run_append]
      exact prefix_pieces_run _ forward
    allocBytes := isAllocation_allocBytes _
    allocItems := isAllocation_allocItems orderly.capacity_lt
    used_restore := Arena.used_restore _
    used_reset := by rw [reset, Arena.used_restore, Nat.min_zero]
    used_scope := fun body => Arena.used_restore _ _ }

/-- A run over one page with a nested scope, a mark beyond the offset and a request that does
not fit. -/
theorem isBounded_run_page :
    ∃ arena, make 100 true = .ok arena ∧
      IsBounded arena
        [.bytes 3 1, .openScope, .items [1, 2] 8 4, .openScope, .bytes 0 4096, .closeScope,
          .closeScope, .restore 9000, .bytes 4090 8]
        ((start arena).run
          [.bytes 3 1, .openScope, .items [1, 2] 8 4, .openScope, .bytes 0 4096, .closeScope,
            .closeScope, .restore 9000, .bytes 4090 8]) :=
  have made : make 100 true = .ok ⟨4096, 0, 0, true, fun _ => 0⟩ := rfl
  ⟨_, made, isBounded_run made _⟩

end Client
end Arena
end Groth16
