import Groth16.Host.Tree
import Groth16.Proofs.Checks
import Groth16.Text.Hex
import Mathlib.Tactic.SplitIfs

/-!
# Files that were written

A computation on files runs one step after the other. After a file was written, its path leads to
what was written: the new file makes no directory into a file and takes no directory away.
-/

namespace Groth16

namespace HostM

/-- A computation that goes on with another one leaves the files to it. -/
@[simp] theorem run_bind
    {α β : Type}
    (body : HostM α)
    (next : α → HostM β)
    (tree : FileTree) :
    (body >>= next).run tree = (next (body.run tree).1).run (body.run tree).2 := by
  change (body.andThen next).run tree = _
  induction body generalizing tree with
  | done value => rfl
  | read path answer ih => exact ih (tree.content path) tree
  | write path content answer ih =>
      simp only [andThen, run]
      cases tree.insert path content with
      | ok after => exact ih (.ok ()) after
      | error reason => exact ih (.error reason) tree
  | clock answer ih => exact ih 0 tree

@[simp] theorem run_readBytes (path : String) (tree : FileTree) :
    (readBytes path).run tree = (tree.content path, tree) := rfl

@[simp] theorem run_readText (path : String) (tree : FileTree) :
    (readText path).run tree = ((tree.content path).bind decodeText, tree) := rfl

@[simp] theorem run_nanoseconds (tree : FileTree) : nanoseconds.run tree = (0, tree) := rfl

theorem run_writeBytes (path : String) (content : List UInt8) (tree : FileTree) :
    (writeBytes path content).run tree =
      match tree.insert path content with
      | .ok after => (.ok (), after)
      | .error reason => (.error reason, tree) := by
  cases written : tree.insert path content with
  | ok after => simp only [writeBytes, run, written]
  | error reason => simp only [writeBytes, run, written]

/-- Bytes are read as the text that they encode. -/
theorem decodeText_eq_ok_iff {content : List UInt8} {text : String} :
    decodeText content = .ok text ↔ content = Hex.encodedBytes text.toList := by
  have encoded : text.toByteArray.data = (Hex.encodedBytes text.toList).toArray := by
    rw [← String.utf8Encode_toList]
    exact List.data_toByteArray
  unfold decodeText String.fromUTF8?
  constructor
  · intro decoded
    split_ifs at decoded with valid
    cases decoded
    exact congrArg Array.toList encoded
  · rintro rfl
    have same : (⟨(Hex.encodedBytes text.toList).toArray⟩ : ByteArray) = text.toByteArray :=
      ByteArray.ext encoded.symm
    rw [same, dif_pos text.isValidUTF8]
    rfl

end HostM

namespace FileTree

variable {tree after : FileTree} {path : String} {place : List String} {content : List UInt8}

/-- The tree with a file at a place. -/
def put (tree : FileTree) (place : List String) (content : List UInt8) : FileTree :=
  { tree with files := (place, content) :: tree.files.filter (·.1 != place) }

theorem entry?_put_self :
    FileTree.entry? (tree.put place content) place = some (.file content) := by
  simp [FileTree.entry?, put]

theorem entry?_eq_directory_iff :
    tree.entry? place = some .directory ↔
      tree.files.lookup place = none ∧
        (place.isPrefixOf tree.workingDirectory ∨
          tree.files.any fun (parts, _) => place.isPrefixOf parts) := by
  unfold entry?
  cases tree.files.lookup place with
  | some content => exact iff_of_false nofun fun absent => nomatch absent.1
  | none =>
      dsimp only
      split_ifs with below
      · exact iff_of_true rfl ⟨rfl, below⟩
      · exact iff_of_false nofun fun directory => below directory.2

/-- A directory stays one: a file is not put in its place, and a file that gives way to the new
one was below the same directories. -/
theorem entry?_put_of_directory
    {other : List String}
    (vacant : tree.entry? place ≠ some .directory)
    (directory : tree.entry? other = some .directory) :
    FileTree.entry? (tree.put place content) other = some .directory := by
  have distinct : other ≠ place := by
    rintro rfl
    exact vacant directory
  obtain ⟨absent, below⟩ := entry?_eq_directory_iff.mp directory
  refine entry?_eq_directory_iff.mpr ⟨?_, below.imp_right fun below => ?_⟩
  · rw [put, List.lookup_cons, beq_eq_false_iff_ne.mpr distinct]
    simp only [List.lookup_eq_none_iff] at absent ⊢
    exact fun file kept => absent file (List.mem_filter.mp kept).1
  · obtain ⟨file, present, above⟩ := List.any_eq_true.mp below
    rw [put, List.any_cons, Bool.or_eq_true]
    by_cases replaced : file.1 = place
    · exact .inl (replaced ▸ above)
    · exact .inr (List.any_eq_true.mpr
        ⟨file, List.mem_filter.mpr ⟨present, bne_iff_ne.mpr replaced⟩, above⟩)

theorem follow_put
    {parts : List (List Char)}
    {start found : List String}
    (vacant : tree.entry? place ≠ some .directory)
    (reached : tree.follow start parts = .ok found) :
    (tree.put place content).follow start parts = .ok found := by
  induction parts generalizing start with
  | nil => exact reached
  | cons part rest ih =>
      unfold follow at reached ⊢
      cases occupied : tree.entry? start with
      | none => rw [occupied] at reached; cases reached
      | some entry =>
          rw [occupied] at reached
          cases entry with
          | file content => cases reached
          | directory =>
              rw [entry?_put_of_directory vacant occupied]
              dsimp only at reached ⊢
              split_ifs at reached ⊢
              · exact ih reached
              · exact ih reached
              · exact ih reached

/-- Paths lead to the same places after a file was put where no directory is. -/
theorem place_put
    {other : List String}
    (vacant : tree.entry? place ≠ some .directory)
    (reached : tree.place path = .ok other) :
    (tree.put place content).place path = .ok other := by
  unfold FileTree.place at reached ⊢
  split_ifs at reached ⊢
  all_goals exact follow_put vacant reached

theorem content_of_entry
    (reached : tree.place path = .ok place)
    (found : tree.entry? place = some (.file content)) :
    tree.content path = .ok content := by
  rw [FileTree.content, reached, Checks.ok_bind, found]
  rfl

theorem exists_of_insert (written : tree.insert path content = .ok after) :
    ∃ place, tree.place path = .ok place ∧ tree.entry? place ≠ some .directory ∧
      after = tree.put place content := by
  obtain ⟨place, reached, written⟩ := Checks.bind_eq_ok.mp written
  obtain ⟨trimmed, written⟩ := Checks.guard_eq_ok.mp written
  rw [not_ne_iff.mp trimmed] at reached
  refine ⟨place, reached, ?_⟩
  split at written
  · cases written
  · next vacant =>
      cases written
      exact ⟨vacant, rfl⟩

/-- A file that was written holds what was written. -/
theorem content_of_insert (written : tree.insert path content = .ok after) :
    after.content path = .ok content := by
  obtain ⟨place, reached, vacant, rfl⟩ := exists_of_insert written
  exact content_of_entry (place_put vacant reached) entry?_put_self

end FileTree
end Groth16
