import Groth16.Proofs.Artifact.Load
import Groth16.Proofs.CommandLine.BatchFiles
import Groth16.Proofs.CommandLine.Runs

/-!
# Outcomes under the numbers of files

The command loads all pairs of files, verifies them batch by batch, and reports the outcomes it was
given for them. Each pair has its outcome under its own number, whatever the size of a batch is.
-/

namespace Groth16

/-- The file with the key of the session is loaded and decoded. -/
def Session.HasKey (session : Session) (tree : FileTree) (key : VerifyingKey) : Prop :=
  ∃ path bytes, session.keyPath = some path ∧
    (Artifact.loadKey path).run.run tree = (.ok bytes, tree) ∧
    VerifyingKey.ofBytes? bytes = .ok key

namespace Session.HasKey

variable {session : Session} {tree : FileTree} {key : VerifyingKey}

theorem runOn_loadKey (hasKey : session.HasKey tree key) (printed : String) :
    session.loadKey.runOn printed tree = (.ok key, printed, tree) := by
  obtain ⟨path, bytes, keyPath, loaded, decoded⟩ := hasKey
  unfold loadKey load
  rw [keyPath]
  dsimp only
  rw [CommandM.runOn_bind, CommandM.runOn_host_bind, loaded, CommandM.runOn_during]
  dsimp only [Except.mapError]
  rw [CommandM.runOn_during, decoded]
  rfl

theorem isValid (hasKey : session.HasKey tree key) : key.IsValid := by
  obtain ⟨path, bytes, keyPath, loaded, decoded⟩ := hasKey
  exact (VerifyingKey.isValid_of_ofBytes? decoded).1

theorem ic_ne_nil (hasKey : session.HasKey tree key) : key.ic ≠ [] := hasKey.isValid.ic_ne_nil

end Session.HasKey

namespace BatchOptions

variable {options : BatchOptions} {session : Session} {tree : FileTree} {key : VerifyingKey}

/-- What is loaded from each pair of files. -/
def files (options : BatchOptions) (tree : FileTree) : List LoadedFile :=
  (options.proofs.zip options.inputs).map fun pair =>
    ((loadPair pair.1 pair.2).run.run tree).1

theorem run_loadPair_snd (proofPath inputsPath : String) (tree : FileTree) :
    ((loadPair proofPath inputsPath).run.run tree).2 = tree := by
  have leaves (kind : DocumentKind) (path : String) : ((kind.load path).run.run tree).2 = tree := by
    rw [DocumentKind.load_eq]
    exact Artifact.run_loadWith_snd
  exact Artifact.run_bind_snd (leaves .proof proofPath) fun proof =>
    Artifact.run_bind_snd (leaves .inputs inputsPath) fun inputs => rfl

theorem run_loadPairs (pairs : List (String × String)) (tree : FileTree) :
    (loadPairs pairs).run tree =
      (pairs.map fun pair => ((loadPair pair.1 pair.2).run.run tree).1, tree) := by
  induction pairs with
  | nil => rfl
  | cons pair pairs inductionHypothesis =>
      unfold loadPairs
      rw [HostM.run_bind, run_loadPair_snd, HostM.run_bind, inductionHypothesis]
      rfl

/-- The queue of the command. -/
def queue (options : BatchOptions) (session : Session) (key : VerifyingKey) : BatchQueue :=
  ⟨⟨0, key⟩, session.engine, options.batchSize, .empty⟩

/-- What the command does with the outcomes of the files. -/
def finish
    (options : BatchOptions)
    (session : Session)
    (start : Nat)
    (outcomes : List FileOutcome) : CommandM Unit := do
  let stop ← CommandM.host HostM.nanoseconds
  if session.json then printRecord options outcomes (stop - start)
  else if !session.quiet then printLines options outcomes (stop - start)
  let failed := (failedIndices outcomes).length
  if failed ≠ 0 then
    throw { headline := s!"{failed} of {options.proofs.length} proofs failed verification" }

/-- What the command does once it has the key. -/
def verifyWith
    (options : BatchOptions)
    (session : Session)
    (key : VerifyingKey) : CommandM Unit := do
  let queue ← CommandM.ofExcept (BatchQueue.make? ⟨0, key⟩ options.batchSize session.engine)
  let start ← CommandM.host HostM.nanoseconds
  let files ← CommandM.host (loadPairs (options.proofs.zip options.inputs))
  let outcomes ← Session.runEngine
    (queue.verifyAll session.surroundings.weights options.proofs.length files)
  options.finish session start outcomes

theorem one_le_batchSize (options : BatchOptions) : 1 ≤ options.batchSize := by
  unfold batchSize Batch.maxSize
  omega

theorem batchSize_le (options : BatchOptions) : options.batchSize ≤ 1024 := by
  unfold batchSize Batch.maxSize
  omega

theorem make?_eq (options : BatchOptions) (session : Session) (key : VerifyingKey) :
    BatchQueue.make? ⟨0, key⟩ options.batchSize session.engine =
      .ok (options.queue session key) := by
  have positive := options.one_le_batchSize
  have bounded := options.batchSize_le
  exact if_neg (by unfold Batch.maxSize; omega)

/-- The verification of all files by a fresh engine. -/
def verified
    (options : BatchOptions)
    (session : Session)
    (key : VerifyingKey)
    (tree : FileTree) : Except VerifyError (List FileOutcome) :=
  (((options.queue session key).verifyAll session.surroundings.weights options.proofs.length
    (options.files tree)).run .initial).1

theorem runOn_verifyWith
    (options : BatchOptions)
    (session : Session)
    (key : VerifyingKey)
    (printed : String)
    (tree : FileTree) :
    (options.verifyWith session key).runOn printed tree =
      match options.verified session key tree with
      | .ok outcomes => (options.finish session 0 outcomes).runOn printed tree
      | .error reason => (.error (.ofReason reason), printed, tree) := by
  unfold verifyWith
  rw [make?_eq, CommandM.runOn_bind, CommandM.runOn_ofExcept]
  dsimp only [Except.mapError]
  rw [CommandM.runOn_host_bind, CommandM.runOn_host_bind, HostM.run_nanoseconds, run_loadPairs,
    CommandM.runOn_bind, Session.runEngine, CommandM.runOn_ofExcept, ← files, ← verified]
  cases options.verified session key tree <;> rfl

/-- The command finishes with the outcomes of the files, or fails for the reason for which a batch
could not be verified. -/
theorem exists_runOn_run
    (lengths : options.proofs.length = options.inputs.length)
    (hasKey : session.HasKey tree key)
    (printed : String) :
    ∃ heading, (options.run session).runOn printed tree =
      match options.verified session key tree with
      | .ok outcomes => (options.finish session 0 outcomes).runOn heading tree
      | .error reason => (.error (.ofReason reason), heading, tree) := by
  unfold run
  dsimp only
  rw [if_neg (not_not_intro lengths), CommandM.runOn_bind, hasKey.runOn_loadKey]
  dsimp only
  by_cases chatty : session.isChatty = true
  · rw [if_pos chatty, CommandM.printLine, CommandM.runOn_bind, CommandM.runOn_print]
    exact ⟨_, options.runOn_verifyWith session key _ tree⟩
  · rw [if_neg chatty]
    exact ⟨printed, options.runOn_verifyWith session key printed tree⟩

/-- The numbers that are listed as failed are those of the outcomes other than that of a proof that
holds. -/
theorem mem_failedIndices_iff {outcomes : List FileOutcome} {i : Nat} :
    i ∈ failedIndices outcomes ↔
      ∃ outcome, outcomes[i]? = some outcome ∧ outcome ≠ .verified .valid := by
  have invalid (outcome : FileOutcome) :
      (!outcome.isValid) = true ↔ outcome ≠ .verified .valid := by
    cases outcome with
    | unreadable reason => exact iff_of_true rfl nofun
    | verified outcome => cases outcome <;> simp [FileOutcome.isValid, Batch.Outcome.isValid]
  simp only [failedIndices, List.mem_map, List.mem_filter, Prod.exists, exists_eq_right,
    List.mk_mem_zipIdx_iff_getElem?, invalid]

/-- No combined check that is made accepts a batch with a proof that does not hold. -/
def ChecksSoundly
    (options : BatchOptions)
    (session : Session)
    (key : VerifyingKey)
    (tree : FileTree) : Prop :=
  ∀ number, ((options.queue session key).reset.addLoaded
    (BatchQueue.batchAt options.batchSize number (options.files tree))).AcceptsSoundly
      (BatchQueue.weightsAt session.surroundings.weights number)

/-- The command reports an outcome for each pair of files under the number of the pair. -/
structure ReportsInOrder
    (options : BatchOptions)
    (session : Session)
    (key : VerifyingKey)
    (tree : FileTree) : Prop where
  length_files : (options.files tree).length = options.proofs.length
  batchSize_eq : options.batchSize = min (max options.chunkSize 1) 1024
  make?_eq :
    BatchQueue.make? ⟨0, key⟩ options.batchSize session.engine = .ok (options.queue session key)
  /-- Past verification, what the command does depends on the outcomes alone. -/
  run_eq (printed : String) :
    ∃ heading, (options.run session).runOn printed tree =
      match options.verified session key tree with
      | .ok outcomes => (options.finish session 0 outcomes).runOn heading tree
      | .error reason => (.error (.ofReason reason), heading, tree)
  verifiesInTurn
    {outcomes : List FileOutcome}
    (verified : options.verified session key tree = .ok outcomes) :
    (options.queue session key).VerifiesInTurn session.surroundings.weights (options.files tree)
      outcomes
  /-- The numbers by which the command fails are those of the pairs without a proof that holds. -/
  mem_failedIndices_iff {outcomes : List FileOutcome} {i : Nat} :
    i ∈ failedIndices outcomes ↔
      ∃ outcome, outcomes[i]? = some outcome ∧ outcome ≠ .verified .valid
  /-- The size of the batches does not matter where the combined checks are sound. -/
  independent
    {chunkSize : Nat}
    {outcomes outcomes' : List FileOutcome}
    (verified : options.verified session key tree = .ok outcomes)
    (verified' : { options with chunkSize }.verified session key tree = .ok outcomes')
    (sound : options.ChecksSoundly session key tree)
    (sound' : { options with chunkSize }.ChecksSoundly session key tree) :
    outcomes' = outcomes

theorem length_files
    (lengths : options.proofs.length = options.inputs.length)
    (tree : FileTree) :
    (options.files tree).length = options.proofs.length := by
  rw [files, List.length_map, List.length_zip, ← lengths, Nat.min_self]

theorem verifiesInTurn_of_verified
    (lengths : options.proofs.length = options.inputs.length)
    (nonempty : key.ic ≠ [])
    {outcomes : List FileOutcome}
    (verified : options.verified session key tree = .ok outcomes) :
    (options.queue session key).VerifiesInTurn session.surroundings.weights (options.files tree)
      outcomes := by
  have positive : 0 < (options.queue session key).capacity := options.one_le_batchSize
  exact BatchQueue.verifiesInTurn_of_verifyAll nonempty positive (length_files lengths tree).le
    (Prod.ext verified rfl)

/-- Where each batch has at most one rejected proof, the outcomes are those of single
verification. -/
theorem verified_eq_map_alone
    (lengths : options.proofs.length = options.inputs.length)
    (valid : key.IsValid)
    (few : ∀ number, ((BatchQueue.batchAt options.batchSize number (options.files tree)).map
      (FileOutcome.alone key)).countP FileOutcome.isRejected ≤ 1)
    (hasArena : session.engine.HasArenaFor options.batchSize) :
    options.verified session key tree = .ok ((options.files tree).map (.alone key)) := by
  obtain ⟨after, run, -⟩ := @BatchQueue.exists_verifyAll_run (options.queue session key) valid
    options.one_le_batchSize _ _ (length_files lengths tree).le few hasArena
    session.surroundings.weights .initial Scratch.isRested_empty
  exact congrArg Prod.fst run

/-- For as many proofs as inputs and a key that is loaded, each pair of files has its outcome under
its own number. -/
theorem reportsInOrder
    (lengths : options.proofs.length = options.inputs.length)
    (hasKey : session.HasKey tree key) :
    options.ReportsInOrder session key tree where
  length_files := length_files lengths tree
  batchSize_eq := rfl
  make?_eq := options.make?_eq session key
  run_eq := exists_runOn_run lengths hasKey
  verifiesInTurn := verifiesInTurn_of_verified lengths hasKey.ic_ne_nil
  mem_failedIndices_iff := mem_failedIndices_iff
  independent := by
    intro chunkSize outcomes outcomes' verified verified' sound sound'
    have inTurn := verifiesInTurn_of_verified lengths hasKey.ic_ne_nil verified
    have inTurn' := @verifiesInTurn_of_verified { options with chunkSize } session tree key lengths
      hasKey.ic_ne_nil outcomes' verified'
    exact (inTurn'.alone sound').trans (inTurn.alone sound).symm

/-- Seven pairs of files: the first lacks its proof, the proof of the third does not hold, and the
fourth has an input too many. All but the last are verified together. -/
def mixedPairs : BatchOptions where
  proofs := ["missing.bin", "first.bin", "second.bin", "first.bin", "third.bin", "fourth.bin",
    "first.bin"]
  inputs := ["one.bin", "one.bin", "one.bin", "two.bin", "one.bin", "one.bin", "one.bin"]
  chunkSize := 6

/-- A key with one input, inputs, and proofs. -/
def treeOfPairs : FileTree where
  workingDirectory := []
  files := [
    (["vk.bin"], VerifyingKey.oneInput.toBytes),
    (["one.bin"], [Scalar.ofNat 6].flatMap (·.val)),
    (["two.bin"], [Scalar.ofNat 6, Scalar.ofNat 7].flatMap (·.val)),
    (["first.bin"], Proof.multipleBytes 2 97 9),
    (["second.bin"], Proof.multipleBytes 2 98 9),
    (["third.bin"], Proof.multipleBytes 97 2 9),
    (["fourth.bin"], Proof.multipleBytes 194 1 9)]

/-- The outcomes of the pairs. -/
def outcomesOfPairs : List FileOutcome :=
  [.unreadable (.unreadable "missing.bin" .missing), .verified .valid, .verified .rejected,
    .verified (.malformed (.badInputs 1 2)), .verified .valid, .verified .valid, .verified .valid]

theorem hasKey_treeOfPairs : (Session.plain (some "vk.bin")).HasKey treeOfPairs .oneInput := by
  have format : ArtifactFormat.ofPath "vk.bin" = .binary := by decide +kernel
  have place : treeOfPairs.place "vk.bin" = .ok ["vk.bin"] := by decide +kernel
  have loaded := @DocumentKind.run_load_of_binary .key _ _ _ format
    (FileTree.content_of_entry place rfl)
  rw [DocumentKind.ofBytes, Artifact.checkKey_eq VerifyingKey.ofBytes?_oneInput] at loaded
  exact ⟨"vk.bin", _, rfl, loaded, VerifyingKey.ofBytes?_oneInput⟩

theorem run_loadPair_treeOfPairs
    {proofPath inputsPath : String}
    {a b c : Nat}
    {inputs : List Scalar}
    (proofFormat : ArtifactFormat.ofPath proofPath = .binary)
    (proofContent : treeOfPairs.content proofPath = .ok (Proof.multipleBytes a b c))
    (inputsFormat : ArtifactFormat.ofPath inputsPath = .binary)
    (inputsContent : treeOfPairs.content inputsPath = .ok (inputs.flatMap (·.val)))
    (areScalars : Artifact.inputsOfBytes (inputs.flatMap (·.val)) = .ok inputs) :
    ((loadPair proofPath inputsPath).run.run treeOfPairs).1 =
      .ok (Proof.multipleBytes a b c, inputs) := by
  have loadedProof := @DocumentKind.run_load_of_binary .proof _ _ _ proofFormat proofContent
  have loadedInputs := @DocumentKind.run_load_of_binary .inputs _ _ _ inputsFormat inputsContent
  have size : (Proof.multipleBytes a b c).length = 256 := Proof.length_toBytes _
  rw [DocumentKind.ofBytes_proof size] at loadedProof
  rw [DocumentKind.ofBytes, areScalars] at loadedInputs
  change ((DocumentKind.proof.load proofPath >>= fun proof =>
    DocumentKind.inputs.load inputsPath >>= fun inputs => pure (proof, inputs)).run.run
      treeOfPairs).1 = _
  rw [Artifact.run_bind, loadedProof]
  dsimp only
  rw [Artifact.run_bind, loadedInputs]
  rfl

theorem files_mixedPairs :
    mixedPairs.files treeOfPairs =
      [.error (.unreadable "missing.bin" .missing),
        .ok (Proof.multipleBytes 2 97 9, [Scalar.ofNat 6]),
        .ok (Proof.multipleBytes 2 98 9, [Scalar.ofNat 6]),
        .ok (Proof.multipleBytes 2 97 9, [Scalar.ofNat 6, Scalar.ofNat 7]),
        .ok (Proof.multipleBytes 97 2 9, [Scalar.ofNat 6]),
        .ok (Proof.multipleBytes 194 1 9, [Scalar.ofNat 6]),
        .ok (Proof.multipleBytes 2 97 9, [Scalar.ofNat 6])] := by
  have missing : ((loadPair "missing.bin" "one.bin").run.run treeOfPairs).1 =
      .error (.unreadable "missing.bin" .missing) := by
    decide +kernel
  have content {path : String} {bytes : List UInt8}
      (place : treeOfPairs.place path = .ok [path])
      (entry : treeOfPairs.entry? [path] = some (.file bytes)) :
      treeOfPairs.content path = .ok bytes :=
    FileTree.content_of_entry place entry
  have one := content (show treeOfPairs.place "one.bin" = _ by decide +kernel) rfl
  have two := content (show treeOfPairs.place "two.bin" = _ by decide +kernel) rfl
  have first := content (show treeOfPairs.place "first.bin" = _ by decide +kernel) rfl
  have second := content (show treeOfPairs.place "second.bin" = _ by decide +kernel) rfl
  have third := content (show treeOfPairs.place "third.bin" = _ by decide +kernel) rfl
  have fourth := content (show treeOfPairs.place "fourth.bin" = _ by decide +kernel) rfl
  have withOne {path : String} {a b c : Nat}
      (format : ArtifactFormat.ofPath path = .binary)
      (held : treeOfPairs.content path = .ok (Proof.multipleBytes a b c)) :
      ((loadPair path "one.bin").run.run treeOfPairs).1 =
        .ok (Proof.multipleBytes a b c, [Scalar.ofNat 6]) :=
    run_loadPair_treeOfPairs format held (by decide +kernel) one (by decide +kernel)
  have excess : ((loadPair "first.bin" "two.bin").run.run treeOfPairs).1 =
      .ok (Proof.multipleBytes 2 97 9, [Scalar.ofNat 6, Scalar.ofNat 7]) :=
    run_loadPair_treeOfPairs (by decide +kernel) first (by decide +kernel) two (by decide +kernel)
  -- The loader is kept apart from the pairs, so that no file is read in unfolding the list of them.
  have load (loader : String → String → LoadedFile) :
      (mixedPairs.proofs.zip mixedPairs.inputs).map (fun pair => loader pair.1 pair.2) =
        [loader "missing.bin" "one.bin", loader "first.bin" "one.bin",
          loader "second.bin" "one.bin", loader "first.bin" "two.bin",
          loader "third.bin" "one.bin", loader "fourth.bin" "one.bin",
          loader "first.bin" "one.bin"] := rfl
  rw [files, load fun proofPath inputsPath =>
      ((loadPair proofPath inputsPath).run.run treeOfPairs).1, missing, excess,
    withOne (by decide +kernel) first, withOne (by decide +kernel) second,
    withOne (by decide +kernel) third, withOne (by decide +kernel) fourth]

theorem map_alone_mixedPairs :
    (mixedPairs.files treeOfPairs).map (.alone .oneInput) = outcomesOfPairs := by
  have input : (Scalar.ofNat 6).val = FieldElement.toBytes ((6 : Nat) : Fr) := by decide +kernel
  have verified {a b : Nat} (a_ne_zero : (a : Fr) ≠ 0) (b_ne_zero : (b : Fr) ≠ 0) :
      FileOutcome.alone .oneInput (.ok (Proof.multipleBytes a b 9, [Scalar.ofNat 6])) =
        .verified (.ofResult (.ok
          ((a : Fr) * b = 2 * 3 + (1 + (((6 : Nat) : Fr) * 4 + 0)) * 5 + (9 : Nat) * 7))) := by
    rw [FileOutcome.alone, FileOutcome.ofFile, Submission.verify, Submission.ofLoaded,
      List.map_singleton, input,
      VerifyingKey.verifyBytes_oneInput a_ne_zero b_ne_zero (by decide +kernel)]
  have excess : FileOutcome.alone .oneInput
      (.ok (Proof.multipleBytes 2 97 9, [Scalar.ofNat 6, Scalar.ofNat 7])) =
        .verified (.malformed (.badInputs 1 2)) := rfl
  rw [files_mixedPairs]
  simp only [List.map_cons, List.map_nil]
  rw [excess, verified (by decide +kernel) (by decide +kernel),
    verified (by decide +kernel) (by decide +kernel),
    verified (by decide +kernel) (by decide +kernel),
    verified (by decide +kernel) (by decide +kernel)]
  decide +kernel

theorem verified_mixedPairs :
    mixedPairs.verified (.plain (some "vk.bin")) .oneInput treeOfPairs = .ok outcomesOfPairs := by
  have few (number : Nat) : ((BatchQueue.batchAt mixedPairs.batchSize number
      (mixedPairs.files treeOfPairs)).map (FileOutcome.alone .oneInput)).countP
        FileOutcome.isRejected ≤ 1 := by
    have rejected : outcomesOfPairs.countP FileOutcome.isRejected = 1 := by decide
    rw [← BatchQueue.map_batchAt, map_alone_mixedPairs, ← rejected]
    exact ((List.take_sublist _ _).trans (List.drop_sublist _ _)).countP_le
  rw [← map_alone_mixedPairs]
  exact verified_eq_map_alone rfl hasKey_treeOfPairs.isValid few
    (EngineConfig.hasArenaFor_standard (by decide))

/-- Four of the loaded proofs of the first batch are decoded and checked together. -/
theorem reportsInOrder_mixedPairs :
    let key := VerifyingKey.oneInput
    let session : Session := .plain (some "vk.bin")
    (mixedPairs.proofs.length = mixedPairs.inputs.length ∧ session.HasKey treeOfPairs key) ∧
      mixedPairs.ReportsInOrder session key treeOfPairs ∧
      mixedPairs.verified session key treeOfPairs = .ok outcomesOfPairs ∧
      (mixedPairs.queue session key).VerifiesInTurn session.surroundings.weights
        (mixedPairs.files treeOfPairs) outcomesOfPairs := by
  intro key session
  have lengths : mixedPairs.proofs.length = mixedPairs.inputs.length := rfl
  have reports := reportsInOrder lengths hasKey_treeOfPairs
  exact ⟨⟨lengths, hasKey_treeOfPairs⟩, reports, verified_mixedPairs,
    reports.verifiesInTurn verified_mixedPairs⟩

end BatchOptions
end Groth16
