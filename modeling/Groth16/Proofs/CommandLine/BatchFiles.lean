import Groth16.CommandLine.BatchVerification
import Groth16.Proofs.Batch.Queue
import Groth16.Proofs.Batch.SingleKey

/-!
# Files that are verified together

Files are verified some at a time. Those that were loaded take their places in the queue one after
the other, and the outcomes of the queue are handed back in the same order, so that each file has
its own outcome, whichever files of its batch could not be loaded.
-/

namespace Groth16

/-- The content of a pair of files, or why it could not be loaded. -/
abbrev LoadedFile := Except ArtifactError LoadedProof

/-- What is submitted for the content of a pair of files. -/
def Submission.ofLoaded (loaded : LoadedProof) : Submission :=
  ⟨loaded.1, loaded.2.map (·.val)⟩

/-- The result of single verification of a submission. -/
def Submission.verify (key : VerifyingKey) (submission : Submission) : Except VerifyError Bool :=
  key.verifyBytes submission.proof submission.inputs

/-- What is submitted for the files that were loaded, in order. -/
def submissions (files : List LoadedFile) : List Submission :=
  (files.filterMap Except.toOption).map .ofLoaded

section Submissions

variable (files : List LoadedFile)

theorem submissions_ok_cons (loaded : LoadedProof) :
    submissions (.ok loaded :: files) = .ofLoaded loaded :: submissions files := rfl

theorem length_submissions_le : (submissions files).length ≤ files.length := by
  rw [submissions, List.length_map]
  exact List.length_filterMap_le _ _

end Submissions

theorem ofLoaded_mem_submissions
    {files : List LoadedFile}
    {loaded : LoadedProof}
    (member : .ok loaded ∈ files) :
    .ofLoaded loaded ∈ submissions files :=
  List.mem_map_of_mem (List.mem_filterMap.mpr ⟨_, member, rfl⟩)

namespace FileOutcome

/-- The outcome of a file, given the outcomes of submissions. -/
def ofFile (result : Submission → Batch.Outcome) : LoadedFile → FileOutcome
  | .error reason => .unreadable reason
  | .ok loaded => .verified (result (.ofLoaded loaded))

/-- The outcome of a file that is verified by itself. -/
def alone (key : VerifyingKey) : LoadedFile → FileOutcome :=
  ofFile fun submission => .ofResult (submission.verify key)

/-- The outcome fits the file: it is why the file could not be loaded, or it agrees with single
verification. -/
inductive Describes (key : VerifyingKey) : LoadedFile → FileOutcome → Prop
  | unreadable (reason : ArtifactError) : Describes key (.error reason) (.unreadable reason)
  | verified
    {loaded : LoadedProof}
    {outcome : Batch.Outcome}
    (agrees : Batch.Outcome.Agrees ((Submission.ofLoaded loaded).verify key) outcome) :
    Describes key (.ok loaded) (.verified outcome)

/-- The outcomes of the files are those of the submissions, each at the place of its file. All of
the latter are used, in order. -/
inductive Merges : List LoadedFile → List Batch.Outcome → List FileOutcome → Prop
  | nil : Merges [] [] []
  | unreadable
    (reason : ArtifactError)
    {files : List LoadedFile}
    {reported : List Batch.Outcome}
    {outcomes : List FileOutcome}
    (rest : Merges files reported outcomes) :
    Merges (.error reason :: files) reported (.unreadable reason :: outcomes)
  | verified
    (loaded : LoadedProof)
    (outcome : Batch.Outcome)
    {files : List LoadedFile}
    {reported : List Batch.Outcome}
    {outcomes : List FileOutcome}
    (rest : Merges files reported outcomes) :
    Merges (.ok loaded :: files) (outcome :: reported) (.verified outcome :: outcomes)

theorem merges_ofFile (result : Submission → Batch.Outcome) (files : List LoadedFile) :
    Merges files ((submissions files).map result) (files.map (ofFile result)) := by
  induction files with
  | nil => exact .nil
  | cons file files inductionHypothesis =>
      cases file with
      | error reason => exact .unreadable reason inductionHypothesis
      | ok loaded => exact .verified loaded _ inductionHypothesis

/-- Outcomes are assigned to the files by merging, and the outcome for want of another one is not
used. -/
theorem assign_of_merges
    {files : List LoadedFile}
    {reported : List Batch.Outcome}
    {outcomes : List FileOutcome}
    (merges : Merges files reported outcomes) :
    BatchQueue.assign files reported = outcomes := by
  induction merges with
  | nil => rfl
  | unreadable reason rest inductionHypothesis =>
      rw [BatchQueue.assign, inductionHypothesis]
  | verified loaded outcome rest inductionHypothesis =>
      rw [BatchQueue.assign, inductionHypothesis]

/-- The proof was loaded and does not hold. -/
def isRejected : FileOutcome → Bool
  | verified outcome => outcome.isRejected
  | unreadable _ => false

theorem countP_isRejected_ofFile (result : Submission → Batch.Outcome) (files : List LoadedFile) :
    ((submissions files).map result).countP Batch.Outcome.isRejected =
      (files.map (ofFile result)).countP isRejected := by
  induction files with
  | nil => rfl
  | cons file files inductionHypothesis =>
      cases file with
      | error reason => exact inductionHypothesis
      | ok loaded =>
          rw [submissions_ok_cons, List.map_cons, List.map_cons, List.countP_cons,
            List.countP_cons, inductionHypothesis]
          rfl

theorem describes_ofFile
    {key : VerifyingKey}
    {result : Submission → Batch.Outcome}
    (agrees : ∀ submission, Batch.Outcome.Agrees (submission.verify key) (result submission))
    (files : List LoadedFile) :
    List.Forall₂ (Describes key) files (files.map (ofFile result)) := by
  rw [List.forall₂_map_right_iff, List.forall₂_same]
  intro file _
  cases file with
  | error reason => exact .unreadable reason
  | ok loaded => exact .verified (agrees _)

/-- Exactly the files that could not be loaded have the reason for their outcome. -/
theorem unreadable_iff_of_describes
    {key : VerifyingKey}
    {files : List LoadedFile}
    {outcomes : List FileOutcome}
    (describes : List.Forall₂ (Describes key) files outcomes)
    {i : Nat}
    {reason : ArtifactError} :
    outcomes[i]? = some (.unreadable reason) ↔ files[i]? = some (.error reason) := by
  induction describes generalizing i with
  | nil => exact iff_of_false nofun nofun
  | cons first rest inductionHypothesis =>
      cases i with
      | succ i => exact inductionHypothesis
      | zero =>
          cases first with
          | unreadable other => simp
          | verified agrees => exact iff_of_false nofun nofun

theorem map_ofFile_congr
    {result result' : Submission → Batch.Outcome}
    {files : List LoadedFile}
    (equal : ∀ submission ∈ submissions files, result submission = result' submission) :
    files.map (ofFile result) = files.map (ofFile result') := by
  apply List.map_congr_left
  intro file member
  cases file with
  | error reason => rfl
  | ok loaded => exact congrArg verified (equal _ (ofLoaded_mem_submissions member))

end FileOutcome

namespace BatchQueue

variable {shared : SharedKey} {config : EngineConfig} {capacity : Nat}
variable {pending : List Submission} {weights : Nat → Weight}

/-- A queue with enough room takes all that was loaded. -/
theorem addLoaded_holding
    {files : List LoadedFile}
    (room : pending.length + (submissions files).length ≤ capacity) :
    (holding shared config capacity pending).addLoaded files =
      holding shared config capacity (pending ++ submissions files) := by
  induction files generalizing pending with
  | nil => exact congrArg (holding shared config capacity) (List.append_nil _).symm
  | cons file files inductionHypothesis =>
      cases file with
      | error reason => exact inductionHypothesis room
      | ok loaded =>
          rw [submissions_ok_cons, List.length_cons] at room
          have added : ((add loaded.1 (loaded.2.map (·.val))).run
              (holding shared config capacity pending)).2 =
              holding shared config capacity (pending ++ [.ofLoaded loaded]) :=
            congrArg Prod.snd (add_of_room (by omega) (.ofLoaded loaded))
          change (((add loaded.1 (loaded.2.map (·.val))).run
              (holding shared config capacity pending)).2).addLoaded files = _
          rw [added, inductionHypothesis, submissions_ok_cons, List.append_assoc]
          · rfl
          · rw [List.length_append, List.length_singleton]
            omega

/-- After a reset, the queue holds what was loaded from at most as many files as it takes. -/
theorem reset_addLoaded
    (queue : BatchQueue)
    {files : List LoadedFile}
    (fits : files.length ≤ queue.capacity) :
    queue.reset.addLoaded files =
      holding queue.shared queue.config queue.capacity (submissions files) := by
  change (holding queue.shared queue.config queue.capacity []).addLoaded files = _
  rw [addLoaded_holding, List.nil_append]
  rw [List.length_nil, Nat.zero_add]
  exact (length_submissions_le files).trans fits

/-- The combined check of the entries of a queue, if it is made, accepts none that verification
rejects. -/
def AcceptsSoundly (queue : BatchQueue) (weights : Nat → Weight) : Prop :=
  queue.config.minBatchSize ≤ queue.entries.items.length →
    Batch.Accepts queue.entries.items weights →
      ∀ item ∈ queue.entries.items, item.verify = .ok true

/-- The outcomes of a queue agree with single verification of what it holds, and are those of
single verification if the combined check is sound. -/
theorem exists_result_of_verify
    {engine after : Engine}
    {reported : List Batch.Outcome}
    (nonempty : shared.key.ic ≠ [])
    (run : ((holding shared config capacity pending).verify weights).run.run engine =
      (.ok reported, after)) :
    ∃ result : Submission → Batch.Outcome, reported = pending.map result ∧
      (∀ submission, Batch.Outcome.Agrees (submission.verify shared.key) (result submission)) ∧
      ((holding shared config capacity pending).AcceptsSoundly weights →
        ∀ submission ∈ pending, result submission = .ofResult (submission.verify shared.key)) := by
  have verifyEq (submission : Submission) :
      submission.verify shared.key = (submission.decode shared).map Batch.Item.holds :=
    Batch.Item.verifyBytes_eq_map nonempty submission.proof submission.inputs
  have itemsNonempty (item : Batch.Item)
      (member : item ∈ (holding shared config capacity pending).entries.items) :
      item.key.ic ≠ [] := by
    obtain ⟨submission, -, decoded⟩ := List.mem_map.mp (Batch.Entries.mem_items_ofList.mp member)
    exact Batch.Item.ic_ne_nil_of_ofBytes? nonempty decoded
  -- Either each entry was verified by itself, or all that were decoded were accepted together.
  rcases Engine.verifyEntries_accepts_cases itemsNonempty run with singly | ⟨accepted, combined⟩
  · refine ⟨fun submission => .ofResult (submission.verify shared.key), ?_, ?_, ?_⟩
    · rw [singly, holding, Batch.Entries.outcomes_ofList, List.map_map]
      exact List.map_congr_left fun submission _ =>
        congrArg Batch.Outcome.ofResult (verifyEq submission).symm
    · exact fun submission => Batch.Outcome.agrees_ofResult _
    · exact fun _ _ _ => rfl
  · refine ⟨fun submission => .ofResult ((submission.decode shared).map fun _ => true), ?_, ?_, ?_⟩
    · rw [combined, holding, Batch.Entries.outcomes_ofList, List.map_map]
      rfl
    · intro submission
      rw [verifyEq]
      exact Batch.Outcome.agrees_accepted _ _
    · intro sound submission member
      dsimp only
      rw [verifyEq]
      cases decoded : submission.decode shared with
      | error reason => rfl
      | ok item =>
          have itemMember : item ∈ (holding shared config capacity pending).entries.items :=
            Batch.Entries.mem_items_ofList.mpr (List.mem_map.mpr ⟨submission, member, decoded⟩)
          have holds : item.holds = true := by
            rw [Batch.Item.holds, sound accepted.1 accepted.2 item itemMember]
          exact congrArg (fun verdict => Batch.Outcome.ofResult (.ok verdict)) holds.symm

/-- What a queue reports on the files: nothing if none of them was loaded, and otherwise what it
verifies after a reset. -/
inductive Reported
    (queue : BatchQueue)
    (weights : Nat → Weight)
    (files : List LoadedFile) : List Batch.Outcome → Prop
  | skipped (none : submissions files = []) : Reported queue weights files []
  | verified
    {reported : List Batch.Outcome}
    {engine after : Engine}
    (some : submissions files ≠ [])
    (run : ((queue.reset.addLoaded files).verify weights).run.run engine =
      (.ok reported, after)) :
    Reported queue weights files reported

/-- The outcomes of files that are verified together: what the queue reports, in the places of the
files that were loaded. -/
structure VerifiesTogether
    (queue : BatchQueue)
    (weights : Nat → Weight)
    (files : List LoadedFile)
    (outcomes : List FileOutcome) : Prop where
  /-- The queue is never full when the content of a file is added. -/
  neverFull
    {before later : List LoadedFile}
    {loaded : LoadedProof}
    (split : files = before ++ .ok loaded :: later) :
    ∀ capacity, ((add loaded.1 (loaded.2.map (·.val))).run (queue.reset.addLoaded before)).1 ≠
      .error (.batch (.full capacity))
  reported :
    ∃ reported, queue.Reported weights files reported ∧
      FileOutcome.Merges files reported outcomes
  describes : List.Forall₂ (FileOutcome.Describes queue.shared.key) files outcomes
  alone
    (sound : (queue.reset.addLoaded files).AcceptsSoundly weights) :
    outcomes = files.map (.alone queue.shared.key)

theorem neverFull_of_fits
    (queue : BatchQueue)
    {files before later : List LoadedFile}
    {loaded : LoadedProof}
    (fits : files.length ≤ queue.capacity)
    (split : files = before ++ .ok loaded :: later)
    (capacity : Nat) :
    ((add loaded.1 (loaded.2.map (·.val))).run (queue.reset.addLoaded before)).1 ≠
      .error (.batch (.full capacity)) := by
  rw [split, List.length_append, List.length_cons] at fits
  have room : (submissions before).length < queue.capacity :=
    (length_submissions_le before).trans_lt (by omega)
  have added : ((add loaded.1 (loaded.2.map (·.val))).run
      (holding queue.shared queue.config queue.capacity (submissions before))).1 =
      ((Submission.ofLoaded loaded).decode queue.shared).map fun _ => (submissions before).length :=
    congrArg Prod.fst (add_of_room room (.ofLoaded loaded))
  rw [queue.reset_addLoaded (by omega), added]
  intro full
  have taken := @isFull_added_decode queue.shared (.ofLoaded loaded) (submissions before).length
  rw [full] at taken
  cases taken

theorem isEmpty_holding :
    (holding shared config capacity pending).entries.isEmpty = true ↔ pending = [] := by
  rw [Batch.Entries.isEmpty, List.isEmpty_iff, ← List.length_eq_zero_iff, ← List.length_eq_zero_iff,
    ← length_holding shared config capacity pending]
  rfl

/-- The outcomes of files come from a result of each submission. The results agree with single
verification, and are those of single verification if the combined check is sound. -/
theorem exists_result_of_verifyFiles
    {queue : BatchQueue}
    (nonempty : queue.shared.key.ic ≠ [])
    {files : List LoadedFile}
    {outcomes : List FileOutcome}
    {engine after : Engine}
    (fits : files.length ≤ queue.capacity)
    (run : (queue.verifyFiles files weights).run.run engine = (.ok outcomes, after)) :
    ∃ result : Submission → Batch.Outcome,
      queue.Reported weights files ((submissions files).map result) ∧
      outcomes = files.map (FileOutcome.ofFile result) ∧
      (∀ submission,
        Batch.Outcome.Agrees (submission.verify queue.shared.key) (result submission)) ∧
      ((queue.reset.addLoaded files).AcceptsSoundly weights → ∀ submission ∈ submissions files,
        result submission = .ofResult (submission.verify queue.shared.key)) := by
  have held := queue.reset_addLoaded fits
  have assigned (result : Submission → Batch.Outcome) :
      assign files ((submissions files).map result) = files.map (FileOutcome.ofFile result) :=
    FileOutcome.assign_of_merges (FileOutcome.merges_ofFile result files)
  unfold verifyFiles at run
  dsimp only at run
  by_cases none : submissions files = []
  · rw [if_pos (by rw [held]; exact isEmpty_holding.mpr none)] at run
    obtain ⟨rfl, -⟩ := Checks.run_pure_eq_ok.mp run
    -- No submission has an outcome, so that any result of the submissions will do.
    refine ⟨fun submission => .ofResult (submission.verify queue.shared.key), ?_, ?_,
      fun submission => Batch.Outcome.agrees_ofResult _, fun _ _ _ => rfl⟩
    · rw [none]
      exact .skipped none
    · rw [← assigned, none, List.map_nil]
  · rw [if_neg (by rw [held]; exact fun empty => none (isEmpty_holding.mp empty))] at run
    obtain ⟨reported, between, verified, run⟩ := Checks.run_bind_eq_ok.mp run
    obtain ⟨rfl, -⟩ := Checks.run_pure_eq_ok.mp run
    have isReported : queue.Reported weights files reported := .verified none verified
    rw [held] at verified ⊢
    obtain ⟨result, rfl, agrees, sound⟩ := exists_result_of_verify nonempty verified
    exact ⟨result, isReported, assigned result, agrees, sound⟩

theorem verifiesTogether_of_verifyFiles
    {queue : BatchQueue}
    (nonempty : queue.shared.key.ic ≠ [])
    {files : List LoadedFile}
    {outcomes : List FileOutcome}
    {engine after : Engine}
    (fits : files.length ≤ queue.capacity)
    (run : (queue.verifyFiles files weights).run.run engine = (.ok outcomes, after)) :
    queue.VerifiesTogether weights files outcomes := by
  obtain ⟨result, isReported, rfl, agrees, sound⟩ :=
    exists_result_of_verifyFiles nonempty fits run
  exact {
    neverFull := queue.neverFull_of_fits fits
    reported := ⟨_, isReported, FileOutcome.merges_ofFile result files⟩
    describes := FileOutcome.describes_ofFile agrees files
    alone := fun accepts => FileOutcome.map_ofFile_congr (sound accepts) }

theorem verifiesTogether_nil (queue : BatchQueue) : queue.VerifiesTogether weights [] [] where
  neverFull split := absurd split (by simp)
  reported := ⟨[], .skipped rfl, .nil⟩
  describes := .nil
  alone _ := rfl

/-- The part of a list that belongs to the batch of the given number. -/
def batchAt {α : Type} (capacity number : Nat) (list : List α) : List α :=
  (list.drop (number * capacity)).take capacity

/-- The weights for the batch of the given number. -/
def weightsAt (weights : Nat → Weight) (number : Nat) : Nat → Weight :=
  fun i => weights (i + number * Batch.maxSize)

theorem weightsAt_zero (weights : Nat → Weight) : weightsAt weights 0 = weights := by
  funext i
  rw [weightsAt, Nat.zero_mul, Nat.add_zero]

theorem weightsAt_succ (weights : Nat → Weight) (number : Nat) :
    weightsAt weights (number + 1) = weightsAt (fun i => weights (i + Batch.maxSize)) number := by
  funext i
  rw [weightsAt, weightsAt, Nat.succ_mul, Nat.add_assoc]

section Batches

variable {α : Type} {capacity : Nat}

theorem batchAt_zero (list : List α) : batchAt capacity 0 list = list.take capacity := by
  rw [batchAt, Nat.zero_mul, List.drop_zero]

theorem batchAt_succ (number : Nat) (list : List α) :
    batchAt capacity (number + 1) list = batchAt capacity number (list.drop capacity) := by
  rw [batchAt, batchAt, List.drop_drop, Nat.succ_mul, Nat.add_comm]

theorem getElem?_batchAt (positive : 0 < capacity) (list : List α) (i : Nat) :
    (batchAt capacity (i / capacity) list)[i % capacity]? = list[i]? := by
  rw [batchAt, List.getElem?_take_of_lt (Nat.mod_lt _ positive), List.getElem?_drop,
    Nat.div_add_mod']

/-- Lists with the same batches are equal. -/
theorem eq_of_batchAt_eq
    (positive : 0 < capacity)
    {list other : List α}
    (equal : ∀ number, batchAt capacity number list = batchAt capacity number other) :
    list = other := by
  apply List.ext_getElem?
  intro i
  rw [← getElem?_batchAt positive list, equal, getElem?_batchAt positive]

theorem map_batchAt {β : Type} (f : α → β) (number : Nat) (list : List α) :
    batchAt capacity number (list.map f) = (batchAt capacity number list).map f := by
  rw [batchAt, batchAt, ← List.map_drop, ← List.map_take]

/-- The first batch and the others are found again in their concatenation. -/
theorem take_drop_append
    {count : Nat}
    {first others : List α}
    (lengthFirst : first.length = min capacity count)
    (lengthOthers : others.length = count - capacity) :
    (first ++ others).take capacity = first ∧ (first ++ others).drop capacity = others := by
  rcases Nat.le_total capacity count with fills | short
  · have full : first.length = capacity := by omega
    exact ⟨List.take_left' full, List.drop_left' full⟩
  · have none : others = [] := List.eq_nil_of_length_eq_zero (by omega)
    rw [none, List.append_nil]
    exact ⟨List.take_of_length_le (by omega), List.drop_eq_nil_of_le (by omega)⟩

end Batches

theorem verifiesTogether_batchAt_nil
    (queue : BatchQueue)
    (weights : Nat → Weight)
    (number : Nat) :
    queue.VerifiesTogether weights (batchAt queue.capacity number [])
      (batchAt queue.capacity number []) := by
  rw [batchAt, batchAt, List.drop_nil, List.drop_nil, List.take_nil, List.take_nil]
  exact queue.verifiesTogether_nil

/-- The batches of all files are the first batch, followed by those of the files after it. -/
theorem verifiesTogether_batchAt_append
    {queue : BatchQueue}
    {files : List LoadedFile}
    {shown others : List FileOutcome}
    (first : queue.VerifiesTogether weights (files.take queue.capacity) shown)
    (describes : List.Forall₂ (FileOutcome.Describes queue.shared.key)
      (files.drop queue.capacity) others)
    (together : ∀ number, queue.VerifiesTogether
      (weightsAt (fun i => weights (i + Batch.maxSize)) number)
      (batchAt queue.capacity number (files.drop queue.capacity))
      (batchAt queue.capacity number others))
    (number : Nat) :
    queue.VerifiesTogether (weightsAt weights number) (batchAt queue.capacity number files)
      (batchAt queue.capacity number (shown ++ others)) := by
  obtain ⟨taken, dropped⟩ := take_drop_append
    (first.describes.length_eq.symm.trans List.length_take)
    (describes.length_eq.symm.trans List.length_drop)
  cases number with
  | zero =>
      rw [batchAt_zero, batchAt_zero, taken, weightsAt_zero]
      exact first
  | succ number =>
      rw [batchAt_succ, batchAt_succ, dropped, weightsAt_succ]
      exact together number

/-- Each batch is verified together, and what it gives stands in the places of its files. -/
theorem verifiesTogether_of_verifyAll
    {queue : BatchQueue}
    (nonempty : queue.shared.key.ic ≠ [])
    (positive : 0 < queue.capacity)
    {limit : Nat}
    {files : List LoadedFile}
    {outcomes : List FileOutcome}
    {engine after : Engine}
    (enough : files.length ≤ limit)
    (run : (queue.verifyAll weights limit files).run.run engine = (.ok outcomes, after)) :
    List.Forall₂ (FileOutcome.Describes queue.shared.key) files outcomes ∧
      ∀ number, queue.VerifiesTogether (weightsAt weights number)
        (batchAt queue.capacity number files) (batchAt queue.capacity number outcomes) := by
  -- Each batch takes at least one file, so that there are enough of them.
  induction limit generalizing weights files outcomes engine after with
  | zero =>
      rw [List.eq_nil_of_length_eq_zero (Nat.le_zero.mp enough)]
      obtain ⟨rfl, -⟩ := Checks.run_pure_eq_ok.mp run
      exact ⟨.nil, fun number => queue.verifiesTogether_batchAt_nil _ number⟩
  | succ limit inductionHypothesis =>
      cases files with
      | nil =>
          obtain ⟨rfl, -⟩ := Checks.run_pure_eq_ok.mp run
          exact ⟨.nil, fun number => queue.verifiesTogether_batchAt_nil _ number⟩
      | cons file files =>
          unfold verifyAll at run
          obtain ⟨shown, between, verified, run⟩ := Checks.run_bind_eq_ok.mp run
          obtain ⟨others, final, verifiedOthers, run⟩ := Checks.run_bind_eq_ok.mp run
          obtain ⟨rfl, -⟩ := Checks.run_pure_eq_ok.mp run
          have first := verifiesTogether_of_verifyFiles nonempty (List.length_take_le _ _) verified
          have fewer : ((file :: files).drop queue.capacity).length ≤ limit := by
            rw [List.length_drop]
            omega
          obtain ⟨describes, together⟩ := inductionHypothesis fewer verifiedOthers
          refine ⟨?_, verifiesTogether_batchAt_append first describes together⟩
          rw [← List.take_append_drop queue.capacity (file :: files)]
          exact List.rel_append first.describes describes

/-- The outcomes of files that are verified batch by batch, each under the number of its file. -/
structure VerifiesInTurn
    (queue : BatchQueue)
    (weights : Nat → Weight)
    (files : List LoadedFile)
    (outcomes : List FileOutcome) : Prop where
  length_eq : outcomes.length = files.length
  unreadable_iff {i : Nat} {reason : ArtifactError} :
    outcomes[i]? = some (.unreadable reason) ↔ files[i]? = some (.error reason)
  describes : List.Forall₂ (FileOutcome.Describes queue.shared.key) files outcomes
  together (number : Nat) :
    queue.VerifiesTogether (weightsAt weights number) (batchAt queue.capacity number files)
      (batchAt queue.capacity number outcomes)
  alone
    (sound : ∀ number, (queue.reset.addLoaded
      (batchAt queue.capacity number files)).AcceptsSoundly (weightsAt weights number)) :
    outcomes = files.map (.alone queue.shared.key)

theorem verifiesInTurn_of_verifyAll
    {queue : BatchQueue}
    (nonempty : queue.shared.key.ic ≠ [])
    (positive : 0 < queue.capacity)
    {limit : Nat}
    {files : List LoadedFile}
    {outcomes : List FileOutcome}
    {engine after : Engine}
    (enough : files.length ≤ limit)
    (run : (queue.verifyAll weights limit files).run.run engine = (.ok outcomes, after)) :
    queue.VerifiesInTurn weights files outcomes := by
  obtain ⟨describes, together⟩ := verifiesTogether_of_verifyAll nonempty positive enough run
  exact {
    length_eq := describes.length_eq.symm
    unreadable_iff := FileOutcome.unreadable_iff_of_describes describes
    describes := describes
    together := together
    alone := fun sound => eq_of_batchAt_eq positive fun number => by
      rw [map_batchAt, (together number).alone (sound number)] }

/-! ## Batches with at most one rejected proof -/

/-- Single verification of the held submissions is that of a batch of them. -/
theorem singleOutcomes_submissions (shared : SharedKey) (pending : List Submission) :
    Batch.singleOutcomes shared (pending.map (·.proof)) (pending.map (·.inputs)) =
      pending.map fun submission => .ofResult (submission.verify shared.key) := by
  rw [Batch.singleOutcomes, List.zipWith_map, List.zipWith_self, List.map_map]
  rfl

/-- Files that fit into a queue and of which at most one is rejected have the outcomes of single
verification. -/
theorem exists_verifyFiles_run
    {queue : BatchQueue}
    (valid : queue.shared.key.IsValid)
    {files : List LoadedFile}
    (fits : files.length ≤ queue.capacity)
    (few : (files.map (FileOutcome.alone queue.shared.key)).countP FileOutcome.isRejected ≤ 1)
    (hasArena : queue.config.HasArenaFor queue.capacity)
    (weights : Nat → Weight)
    {engine : Engine}
    (rested : engine.scratch.IsRested) :
    ∃ after : Engine, (queue.verifyFiles files weights).run.run engine =
        (.ok (files.map (.alone queue.shared.key)), after) ∧
      after.scratch.IsRested := by
  have held := queue.reset_addLoaded fits
  have assigned := FileOutcome.assign_of_merges (FileOutcome.merges_ofFile
    (fun submission => .ofResult (submission.verify queue.shared.key)) files)
  unfold verifyFiles
  dsimp only
  by_cases none : submissions files = []
  · rw [if_pos (by rw [held]; exact isEmpty_holding.mpr none)]
    rw [none, List.map_nil] at assigned
    exact ⟨engine, congrArg (fun outcomes => (Except.ok outcomes, engine)) assigned, rested⟩
  · rw [if_neg (by rw [held]; exact fun empty => none (isEmpty_holding.mp empty)), held,
      verify_holding]
    have fewRejected : (Batch.singleOutcomes queue.shared ((submissions files).map (·.proof))
        ((submissions files).map (·.inputs))).countP Batch.Outcome.isRejected ≤ 1 := by
      rw [singleOutcomes_submissions, FileOutcome.countP_isRejected_ofFile]
      exact few
    have bounded : ((submissions files).map (·.proof)).length ≤ queue.capacity := by
      rw [List.length_map]
      exact (length_submissions_le files).trans fits
    obtain ⟨after, run, restedAfter⟩ := Engine.exists_verifyBatch_run valid
      (by rw [List.length_map, List.length_map]) fewRejected bounded hasArena weights rested
    rw [singleOutcomes_submissions] at run
    exact ⟨after, Checks.run_bind_eq_ok.mpr ⟨_, after, run,
      congrArg (fun outcomes => (Except.ok outcomes, after)) assigned⟩, restedAfter⟩

/-- Files of which at most one in each batch is rejected have the outcomes of single
verification. -/
theorem exists_verifyAll_run
    {queue : BatchQueue}
    (valid : queue.shared.key.IsValid)
    (positive : 0 < queue.capacity)
    {limit : Nat}
    {files : List LoadedFile}
    (enough : files.length ≤ limit)
    (few : ∀ number, ((batchAt queue.capacity number files).map
      (FileOutcome.alone queue.shared.key)).countP FileOutcome.isRejected ≤ 1)
    (hasArena : queue.config.HasArenaFor queue.capacity)
    (weights : Nat → Weight)
    {engine : Engine}
    (rested : engine.scratch.IsRested) :
    ∃ after : Engine, (queue.verifyAll weights limit files).run.run engine =
        (.ok (files.map (.alone queue.shared.key)), after) ∧
      after.scratch.IsRested := by
  -- Each batch takes at least one file, so that there are enough of them.
  induction limit generalizing weights files engine with
  | zero =>
      rw [List.eq_nil_of_length_eq_zero (Nat.le_zero.mp enough)]
      exact ⟨engine, rfl, rested⟩
  | succ limit inductionHypothesis =>
      cases files with
      | nil => exact ⟨engine, rfl, rested⟩
      | cons file files =>
          have fewFirst := few 0
          rw [batchAt_zero] at fewFirst
          obtain ⟨between, verified, restedBetween⟩ := exists_verifyFiles_run valid
            (List.length_take_le _ _) fewFirst hasArena weights rested
          have fewer : ((file :: files).drop queue.capacity).length ≤ limit := by
            rw [List.length_drop]
            omega
          have fewOthers (number : Nat) := few (number + 1)
          simp only [batchAt_succ] at fewOthers
          obtain ⟨after, verifiedOthers, restedAfter⟩ := inductionHypothesis fewer fewOthers
            (fun i => weights (i + Batch.maxSize)) restedBetween
          refine ⟨after, ?_, restedAfter⟩
          unfold verifyAll
          refine Checks.run_bind_eq_ok.mpr ⟨_, between, verified,
            Checks.run_bind_eq_ok.mpr ⟨_, after, verifiedOthers, ?_⟩⟩
          rw [← List.map_append, List.take_append_drop]
          rfl

end BatchQueue
end Groth16
