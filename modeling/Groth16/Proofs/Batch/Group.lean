import Groth16.Batch.Aggregate
import Mathlib.Data.List.Dedup
import Mathlib.Data.List.SplitBy

/-!
# Groups of one key object

Entries sorted by the address of their key object are cut where the address changes. As long
as no two key objects share an address, this gives one group for each key object, which
holds exactly its entries.
-/

namespace Groth16

/-- Entries sorted by a number. -/
theorem pairwise_mergeSort_le
    {Entry : Type}
    (number : Entry → Nat)
    (entries : List Entry) :
    (entries.mergeSort fun a b => number a ≤ number b).Pairwise
      fun a b => number a ≤ number b := by
  let le (a b : Entry) : Bool := number a ≤ number b
  have le_trans (a b c : Entry) (first : le a b) (second : le b c) : le a c :=
    decide_eq_true ((of_decide_eq_true first).trans (of_decide_eq_true second))
  have le_total (a b : Entry) : (le a b || le b a) = true := by
    rw [Bool.or_eq_true, decide_eq_true_iff, decide_eq_true_iff]
    exact Nat.le_total _ _
  exact (List.pairwise_mergeSort le_trans le_total entries).imp of_decide_eq_true

namespace SharedKey

/-- No two of the key objects have the same address. -/
def HaveOwnAddresses (keys : List SharedKey) : Prop :=
  ∀ key ∈ keys, ∀ key' ∈ keys, key.address = key'.address → key = key'

/-- The list names each of the used key objects once, in the order of the addresses. -/
structure Enumerates (keys used : List SharedKey) : Prop where
  ascending : keys.Pairwise fun key key' => key.address < key'.address
  mem_iff : ∀ key, key ∈ keys ↔ key ∈ used

/-- Key objects with addresses of their own can be enumerated. -/
theorem exists_enumerates
    {used : List SharedKey}
    (own : HaveOwnAddresses used) :
    ∃ keys, Enumerates keys used := by
  let keys := used.dedup.mergeSort fun key key' => key.address ≤ key'.address
  have perm : keys.Perm used.dedup := List.mergeSort_perm _ _
  have mem_iff (key : SharedKey) : key ∈ keys ↔ key ∈ used := by
    rw [perm.mem_iff, List.mem_dedup]
  have sorted := pairwise_mergeSort_le SharedKey.address used.dedup
  have distinct : keys.Nodup := perm.nodup_iff.mpr (List.nodup_dedup used)
  refine ⟨keys, ?_, mem_iff⟩
  refine (sorted.and distinct).imp_of_mem fun {key key'} member member' order => ?_
  refine Nat.lt_of_le_of_ne order.1 fun equal => order.2 ?_
  exact own key ((mem_iff key).mp member) key' ((mem_iff key').mp member') equal

theorem Enumerates.nodup {keys used : List SharedKey} (enumerates : Enumerates keys used) :
    keys.Nodup :=
  enumerates.ascending.imp fun less equal =>
    Nat.ne_of_lt less (congrArg SharedKey.address equal)

end SharedKey

namespace Batch

variable {Entry : Type} {shared : Entry → SharedKey} {entries : List Entry}
variable {keys : List SharedKey}

/-- Sorted entries begin with those of the least key object. -/
theorem eq_filter_append_filter
    {key : SharedKey}
    (sorted : entries.Pairwise fun a b => (shared a).address ≤ (shared b).address)
    (above : ∀ entry ∈ entries, shared entry ≠ key → key.address < (shared entry).address) :
    entries = (entries.filter fun entry => shared entry = key) ++
      entries.filter fun entry => shared entry ≠ key := by
  induction entries with
  | nil => rfl
  | cons first rest inductionHypothesis =>
      obtain ⟨below, sortedRest⟩ := List.pairwise_cons.mp sorted
      by_cases equal : shared first = key
      · rw [List.filter_cons_of_pos (by simpa using equal),
          List.filter_cons_of_neg (by simpa using equal), List.cons_append,
          ← inductionHypothesis sortedRest fun entry member =>
            above entry (List.mem_cons_of_mem first member)]
      · have differs (entry : Entry) (member : entry ∈ first :: rest) : shared entry ≠ key := by
          rintro rfl
          have := above first List.mem_cons_self equal
          rcases List.mem_cons.mp member with rfl | memberRest
          · exact equal rfl
          · have := below entry memberRest
            omega
        rw [List.filter_eq_nil_iff.mpr (by simpa using differs),
          List.filter_eq_self.mpr (by simpa using differs), List.nil_append]

/-- What a key object holds does not change when the entries of another one are removed. -/
theorem flatMap_filter_filter
    {key : SharedKey}
    (fresh : key ∉ keys)
    (entries : List Entry) :
    (keys.flatMap fun other => (entries.filter fun entry => shared entry ≠ key).filter fun entry =>
        shared entry = other) =
      keys.flatMap fun other => entries.filter fun entry => shared entry = other := by
  apply List.flatMap_congr
  intro other member
  have differs : other ≠ key := fun equal => fresh (equal ▸ member)
  rw [List.filter_filter]
  apply List.filter_congr
  intro entry _
  rw [Bool.and_eq_left_iff_imp, decide_eq_true_iff, decide_eq_true_iff]
  rintro rfl
  exact differs

/-- The entries of the remaining key objects. -/
theorem mem_of_mem_filter_ne
    {key : SharedKey}
    (covered : ∀ entry ∈ entries, shared entry ∈ key :: keys) :
    ∀ entry ∈ entries.filter (fun entry => shared entry ≠ key), shared entry ∈ keys := by
  intro entry member
  obtain ⟨memberAll, differs⟩ := List.mem_filter.mp member
  exact (List.mem_cons.mp (covered entry memberAll)).resolve_left (of_decide_eq_true differs)

theorem eq_nil_of_covered (covered : ∀ entry ∈ entries, shared entry ∈ ([] : List SharedKey)) :
    entries = [] :=
  List.eq_nil_iff_forall_not_mem.mpr fun entry member => List.not_mem_nil (covered entry member)

/-- The groups of different key objects hold every entry once. -/
theorem flatMap_filter_perm
    (shared : Entry → SharedKey)
    (distinct : keys.Nodup)
    (covered : ∀ entry ∈ entries, shared entry ∈ keys) :
    (keys.flatMap fun key => entries.filter fun entry => shared entry = key).Perm entries := by
  induction keys generalizing entries with
  | nil =>
      rw [eq_nil_of_covered covered]
      exact List.Perm.refl _
  | cons key keys inductionHypothesis =>
      obtain ⟨fresh, distinctRest⟩ := List.nodup_cons.mp distinct
      have others := inductionHypothesis distinctRest (mem_of_mem_filter_ne covered)
      rw [flatMap_filter_filter fresh] at others
      rw [List.flatMap_cons]
      refine (others.append_left _).trans ?_
      simpa using List.filter_append_perm (fun entry => decide (shared entry = key)) entries

/-- The groups of ascending key objects, put together, are the sorted entries. -/
theorem flatMap_filter_eq
    (ascending : keys.Pairwise fun key key' => key.address < key'.address)
    (sorted : entries.Pairwise fun a b => (shared a).address ≤ (shared b).address)
    (covered : ∀ entry ∈ entries, shared entry ∈ keys) :
    (keys.flatMap fun key => entries.filter fun entry => shared entry = key) = entries := by
  induction keys generalizing entries with
  | nil => exact (eq_nil_of_covered covered).symm
  | cons key keys inductionHypothesis =>
      obtain ⟨below, ascendingRest⟩ := List.pairwise_cons.mp ascending
      have fresh : key ∉ keys := fun member => Nat.lt_irrefl _ (below key member)
      have others := inductionHypothesis ascendingRest (sorted.filter _)
        (mem_of_mem_filter_ne covered)
      rw [flatMap_filter_filter fresh] at others
      rw [List.flatMap_cons, others]
      refine (eq_filter_append_filter sorted fun entry member differs => ?_).symm
      exact below _ ((List.mem_cons.mp (covered entry member)).resolve_left differs)

/-- Sorted entries are cut into the groups of the key objects. -/
theorem splitBy_eq
    (enumerates : SharedKey.Enumerates keys (entries.map shared))
    (sorted : entries.Pairwise fun a b => (shared a).address ≤ (shared b).address) :
    entries.splitBy (fun a b => (shared a).address == (shared b).address) =
      keys.map fun key => entries.filter fun entry => shared entry = key := by
  have used (key : SharedKey) (member : key ∈ keys) :
      (entries.filter fun entry => shared entry = key) ≠ [] := by
    obtain ⟨entry, entryMember, rfl⟩ := List.mem_map.mp ((enumerates.mem_iff key).mp member)
    exact List.ne_nil_of_mem (List.mem_filter.mpr ⟨entryMember, decide_eq_true rfl⟩)
  have holds {key : SharedKey} {entry : Entry}
      (member : entry ∈ entries.filter fun entry => shared entry = key) : shared entry = key :=
    of_decide_eq_true (List.mem_filter.mp member).2
  rw [List.splitBy_eq_iff]
  refine ⟨?_, ?_, ?_, ?_⟩
  · rw [← List.flatMap_def, flatMap_filter_eq enumerates.ascending sorted]
    exact fun entry member => (enumerates.mem_iff _).mpr (List.mem_map_of_mem member)
  · intro member
    obtain ⟨key, keyMember, empty⟩ := List.mem_map.mp member
    exact used key keyMember empty
  · intro group member
    obtain ⟨key, -, rfl⟩ := List.mem_map.mp member
    apply List.Pairwise.isChain
    apply List.pairwise_of_forall_mem_list
    intro a memberA b memberB
    rw [holds memberA, holds memberB, beq_self_eq_true]
  · apply List.Pairwise.isChain
    rw [List.pairwise_map]
    refine enumerates.ascending.imp_of_mem fun {key key'} member member' less => ?_
    refine ⟨used key member, used key' member', ?_⟩
    rw [holds (List.getLast_mem _), holds (List.head_mem _), beq_eq_false_iff_ne]
    exact Nat.ne_of_lt less

/-- The groups are, for each key object, the weighted items that hold it. The sorting may only
have changed their order. -/
theorem groupByKey_eq
    {entries : List Weighted}
    (enumerates : SharedKey.Enumerates keys (entries.map fun entry => entry.item.shared)) :
    ∃ sorted : List Weighted, sorted.Perm entries ∧
      groupByKey entries =
        keys.map fun key => sorted.filter fun entry => entry.item.shared = key := by
  let address (entry : Weighted) := entry.item.shared.address
  let sorted := entries.mergeSort fun a b => address a ≤ address b
  have perm : sorted.Perm entries := List.mergeSort_perm entries _
  refine ⟨sorted, perm, splitBy_eq ⟨enumerates.ascending, ?_⟩
    (pairwise_mergeSort_le address entries)⟩
  intro key
  rw [enumerates.mem_iff, (perm.map fun entry => entry.item.shared).mem_iff]

end Batch
end Groth16
