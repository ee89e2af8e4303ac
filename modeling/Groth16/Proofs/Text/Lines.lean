import Groth16.Text.Blank
import Mathlib.Data.List.Basic

/-!
# Lines and words

A text is cut into lines at every line feed, and a line into words at white space. Lines that were
put one after the other, each with a line feed, are found again, and so are words with a space
between them.
-/

namespace Groth16
namespace Text

/-- The lines of a text, of which there is one more than there are line feeds. -/
def lines (text : List Char) : List (List Char) := text.splitOn '\n'

theorem lines_append (left right : List Char) :
    lines (left ++ '\n' :: right) = lines left ++ lines right :=
  List.splitOn_append_cons_self left right

theorem lines_of_not_mem
    {text : List Char}
    (unbroken : '\n' ∉ text) :
    lines text = [text] :=
  List.splitOn_eq_singleton unbroken

/-- A text without line feeds goes in front of the first line. -/
theorem lines_append_of_not_mem
    {left : List Char}
    (unbroken : '\n' ∉ left)
    (right : List Char) :
    lines (left ++ right) = (lines right).modifyHead (left ++ ·) := by
  induction left with
  | nil => exact (congrFun List.modifyHead_id (lines right)).symm
  | cons c left inductionHypothesis =>
      obtain ⟨other, unbroken⟩ := List.ne_and_not_mem_of_not_mem_cons unbroken
      rw [List.cons_append, lines, List.splitOn_cons_eq_if_modifyHead,
        if_neg (by simpa using other.symm), ← lines, inductionHypothesis unbroken,
        List.modifyHead_modifyHead]
      rfl

/-- Lines without line feeds are found again. -/
theorem lines_flatMap
    {texts : List (List Char)}
    (unbroken : ∀ text ∈ texts, '\n' ∉ text) :
    lines (texts.flatMap (· ++ ['\n'])) = texts ++ [[]] := by
  induction texts with
  | nil => rfl
  | cons text rest inductionHypothesis =>
      obtain ⟨unbrokenFirst, unbrokenRest⟩ := List.forall_mem_cons.mp unbroken
      rw [List.flatMap_cons, List.append_assoc, List.singleton_append, lines_append,
        lines_of_not_mem unbrokenFirst, inductionHypothesis unbrokenRest]
      rfl

/-- The words of a line. -/
def words (line : List Char) : List (List Char) :=
  (line.splitOnP isBlank).filter fun word => !word.isEmpty

theorem words_append
    {c : Char}
    (blank : isBlank c = true)
    (left right : List Char) :
    words (left ++ c :: right) = words left ++ words right := by
  rw [words, List.splitOnP_append_cons left right blank, List.filter_append]
  rfl

theorem words_cons
    {c : Char}
    (blank : isBlank c = true)
    (line : List Char) :
    words (c :: line) = words line :=
  words_append blank [] line

/-- The text is a single word. -/
structure IsWord (word : List Char) : Prop where
  ne_nil : word ≠ []
  visible : ∀ c ∈ word, isBlank c = false

theorem IsWord.words_eq
    {word : List Char}
    (isWord : IsWord word) :
    words word = [word] := by
  rw [words, List.splitOnP_eq_singleton isWord.visible, List.filter_singleton,
    List.isEmpty_eq_false_iff.mpr isWord.ne_nil]
  rfl

/-- Words with a space between them are found again. -/
theorem words_intercalate
    {texts : List (List Char)}
    (areWords : ∀ word ∈ texts, IsWord word) :
    words ([' '].intercalate texts) = texts := by
  induction texts with
  | nil => rfl
  | cons word rest inductionHypothesis =>
      obtain ⟨isWord, areRest⟩ := List.forall_mem_cons.mp areWords
      cases rest with
      | nil => rw [List.intercalate_singleton, isWord.words_eq]
      | cons next rest =>
          rw [List.intercalate_cons_cons, List.append_assoc, List.singleton_append,
            words_append (by decide), isWord.words_eq, inductionHypothesis areRest]
          rfl

end Text
end Groth16
