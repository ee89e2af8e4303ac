import Groth16.Proofs.Artifact.Load
import Groth16.Proofs.CommandLine.Runs

/-!
# Loading what was converted

The conversion of a document to a file succeeds exactly if the kind of the document is known, its
text denotes a value of the kind, and the file can be written. The loader of the kind then gives
for the file what it gives for the document, and still does so after a hexadecimal file was
respelled.
-/

namespace Groth16

/-- The file holds the text. -/
def FileTree.HoldsText (tree : FileTree) (path text : String) : Prop :=
  tree.content path = .ok (Hex.encodedBytes text.toList)

/-- A file holds one text only. -/
theorem FileTree.HoldsText.unique
    {tree : FileTree}
    {path text other : String}
    (holds : tree.HoldsText path text)
    (holdsOther : tree.HoldsText path other) :
    text = other := by
  have same : Hex.encodedBytes text.toList = Hex.encodedBytes other.toList :=
    Except.ok.inj (holds.symm.trans holdsOther)
  exact Except.ok.inj ((HostM.decodeText_eq_ok_iff.mpr rfl).symm.trans
    (HostM.decodeText_eq_ok_iff.mpr same))

namespace DocumentKind

variable {kind : DocumentKind} {value : kind.Loaded} {text path : String} {tree : FileTree}

/-- The loader of the kind gives the value for the file and leaves all files as they are. -/
def LoadsAs (kind : DocumentKind) (tree : FileTree) (path : String) (value : kind.Loaded) : Prop :=
  (kind.load path).run.run tree = (.ok value, tree)

theorem loadsAs_of_json
    (denoted : kind.ofJson text = .ok value)
    (named : ArtifactFormat.HasExtension path ['j', 's', 'o', 'n'])
    (holds : tree.HoldsText path text) :
    kind.LoadsAs tree path value := by
  rw [LoadsAs, load_eq,
    Artifact.run_loadWith_of_json (ArtifactFormat.ofPath_eq_json_iff.mpr named) holds, denoted]

theorem loadsAs_of_respells
    (denoted : kind.ofJson text = .ok value)
    {respelled : String}
    (respells : Hex.Respells (Bytes.hexDigits (kind.toBytes value) ++ ['\n']) respelled.toList)
    (named : ArtifactFormat.HasExtension path ['h', 'e', 'x'])
    (holds : tree.HoldsText path respelled) :
    kind.LoadsAs tree path value := by
  rw [LoadsAs, load_eq,
    Artifact.run_loadWith_of_hex (ArtifactFormat.ofPath_eq_hex_iff.mpr named) holds
      (Hex.decodeText_of_respells respells),
    ofBytes_toBytes denoted]

theorem loadsAs_of_bytes
    (denoted : kind.ofJson text = .ok value)
    (notJson : ¬ArtifactFormat.HasExtension path ['j', 's', 'o', 'n'])
    (notHex : ¬ArtifactFormat.HasExtension path ['h', 'e', 'x'])
    (holds : tree.content path = .ok (kind.toBytes value)) :
    kind.LoadsAs tree path value := by
  rw [LoadsAs, load_eq,
    Artifact.run_loadWith_of_binary (ArtifactFormat.ofPath_eq_binary_iff.mpr ⟨notJson, notHex⟩)
      holds,
    ofBytes_toBytes denoted]

end DocumentKind

namespace ConvertOptions

variable {options : ConvertOptions} {session : Session} {kind : DocumentKind} {text path : String}
  {tree after : FileTree}

/-- The kind that a document is taken for, if there is one. -/
def kindOf? (options : ConvertOptions) (text : String) : Option DocumentKind :=
  options.kind.or ((JsonValue.parseModest? text).bind DocumentKind.detect?)

/-- The command goes on with the kind of the document, if it is known. -/
theorem runOn_documentKind_bind_eq_ok
    {Result : Type}
    {next : DocumentKind → CommandM Result}
    {result : Result}
    {printed output : String} :
    (options.documentKind text >>= next).runOn printed tree = (.ok result, output, after) ↔
      ∃ kind, options.kindOf? text = some kind ∧
        (next kind).runOn printed tree = (.ok result, output, after) := by
  -- Why the kind is not known does not matter here.
  have found : ∃ failure, options.documentKind text =
      (options.kindOf? text).elim (throw failure) pure := by
    unfold documentKind kindOf?
    cases options.kind with
    | some kind => exact ⟨⟨"", []⟩, rfl⟩
    | none =>
        cases JsonValue.parseModest? text with
        | none => exact ⟨_, rfl⟩
        | some value =>
            rw [Option.none_or, Option.bind_some]
            dsimp only
            cases DocumentKind.detect? value with
            | none => exact ⟨_, rfl⟩
            | some kind => exact ⟨⟨"", []⟩, rfl⟩
  obtain ⟨failure, equal⟩ := found
  rw [equal, CommandM.runOn_bind]
  cases options.kindOf? text with
  | none =>
      refine iff_of_false nofun ?_
      rintro ⟨_, impossible, _⟩
      cases impossible
  | some kind =>
      simp only [Option.elim_some, CommandM.runOn_pure, Option.some.injEq, exists_eq_left']

/-- Writing succeeds if the file can be written, whatever is printed then. -/
theorem exists_runOn_writeTo_iff
    {bytes : List UInt8}
    {name printed : String} :
    (∃ output, (options.writeTo session kind bytes name).runOn printed tree =
        (.ok (), output, after)) ↔
      tree.insert (Path.expandHome session.surroundings.home name)
        (options.encoding.encode bytes) = .ok after := by
  unfold writeTo
  dsimp only
  rw [CommandM.runOn_host_bind, HostM.run_writeBytes]
  cases tree.insert (Path.expandHome session.surroundings.home name)
      (options.encoding.encode bytes) with
  | error reason => exact iff_of_false (fun ⟨_, impossible⟩ => nomatch impossible) nofun
  | ok changed =>
      -- What is printed depends on the session; the files are left as they are.
      have printing (note : String) :
          (∃ output, (CommandM.print note).runOn printed changed = (.ok (), output, after)) ↔
            Except.ok (ε := FileError) changed = .ok after := by
        simp only [CommandM.runOn_print, Prod.mk.injEq, true_and, exists_eq_left', Except.ok.injEq]
      simp only [CommandM.runOn_during_bind_eq_ok, exists_const, true_and]
      split_ifs
      · exact printing _
      · exact printing _
      · simp only [CommandM.runOn_pure, Prod.mk.injEq, true_and, exists_eq_left', Except.ok.injEq]

/-- The text of the input is a document of the kind that denotes the value, and the file with its
bytes was written. -/
structure Converts
    (options : ConvertOptions)
    (tree : FileTree)
    (path : String)
    (kind : DocumentKind)
    (text : String)
    (value : kind.Loaded)
    (after : FileTree) : Prop where
  input : tree.HoldsText options.input text
  kindOf? : options.kindOf? text = some kind
  denoted : kind.ofJson text = .ok value
  written : tree.insert path (options.encoding.encode (kind.toBytes value)) = .ok after

/-- The command succeeds if a document is converted and its file is written. -/
theorem run_succeeds_iff
    {name printed : String}
    (named : options.output = some name) :
    (∃ output, (options.run session).runOn printed tree = (.ok (), output, after)) ↔
      ∃ kind text value, options.Converts tree
        (Path.expandHome session.surroundings.home name) kind text value after := by
  unfold run
  simp only [named, CommandM.runOn_host_bind, HostM.run_readText,
    CommandM.runOn_during_bind_eq_ok, runOn_documentKind_bind_eq_ok,
    CommandM.runOn_ofExcept_bind_eq_ok]
  constructor
  · rintro ⟨output, text, read, kind, found, bytes, converted, run⟩
    obtain ⟨content, held, decoded⟩ := Checks.bind_eq_ok.mp read
    rw [HostM.decodeText_eq_ok_iff.mp decoded] at held
    rw [DocumentKind.convert_eq] at converted
    obtain ⟨value, denoted, rfl⟩ := Checks.map_eq_ok.mp converted
    exact ⟨kind, text, value, held, found, denoted,
      exists_runOn_writeTo_iff.mp ⟨output, run⟩⟩
  · rintro ⟨kind, text, value, converts⟩
    obtain ⟨output, run⟩ := exists_runOn_writeTo_iff.mpr converts.written
    refine ⟨output, text, ?_, kind, converts.kindOf?, kind.toBytes value, ?_, run⟩
    · exact Checks.bind_eq_ok.mpr ⟨_, converts.input, HostM.decodeText_eq_ok_iff.mpr rfl⟩
    · rw [DocumentKind.convert_eq, converts.denoted]
      rfl

/-- The loader of the kind gives the value for each JSON file with the text, for the file that was
written if its name fits the encoding, and for each respelled hexadecimal file. -/
structure LoadsAlike
    (encoding : ByteEncoding)
    (kind : DocumentKind)
    (text : String)
    (value : kind.Loaded)
    (after : FileTree)
    (path : String) : Prop where
  ofJson
    {tree : FileTree}
    {document : String}
    (named : ArtifactFormat.HasExtension document ['j', 's', 'o', 'n'])
    (holds : tree.HoldsText document text) :
    kind.LoadsAs tree document value
  ofHex
    (hex : encoding = .hex)
    (named : ArtifactFormat.HasExtension path ['h', 'e', 'x']) :
    kind.LoadsAs after path value
  ofBinary
    (binary : encoding = .binary)
    (notJson : ¬ArtifactFormat.HasExtension path ['j', 's', 'o', 'n'])
    (notHex : ¬ArtifactFormat.HasExtension path ['h', 'e', 'x']) :
    kind.LoadsAs after path value
  ofRespelled
    {original respelled copy : String}
    {tree : FileTree}
    (hex : encoding = .hex)
    (written : after.HoldsText path original)
    (respells : Hex.Respells original.toList respelled.toList)
    (named : ArtifactFormat.HasExtension copy ['h', 'e', 'x'])
    (holds : tree.HoldsText copy respelled) :
    kind.LoadsAs tree copy value

theorem Converts.loadsAlike
    {value : kind.Loaded}
    (converts : options.Converts tree path kind text value after) :
    LoadsAlike options.encoding kind text value after path := by
  have content := FileTree.content_of_insert converts.written
  obtain ⟨spelled, toList_spelled⟩ : ∃ spelled : String,
      spelled.toList = Bytes.hexDigits (kind.toBytes value) ++ ['\n'] :=
    ⟨_, String.toList_ofList⟩
  have holds (hex : options.encoding = .hex) : after.HoldsText path spelled := by
    rw [FileTree.HoldsText, content, hex, toList_spelled]
    rfl
  constructor
  case ofJson => exact DocumentKind.loadsAs_of_json converts.denoted
  case ofHex =>
    intro hex named
    exact DocumentKind.loadsAs_of_respells converts.denoted (toList_spelled ▸ .refl _) named
      (holds hex)
  case ofBinary =>
    intro binary notJson notHex
    refine DocumentKind.loadsAs_of_bytes converts.denoted notJson notHex ?_
    rw [content, binary]
    rfl
  case ofRespelled =>
    intro original respelled copy other hex written respells
    rw [written.unique (holds hex), toList_spelled] at respells
    exact DocumentKind.loadsAs_of_respells converts.denoted respells

/-- The command that converts a document to a file succeeds if the text of its input denotes a value
of the kind it is taken for and the file can be written. The file is then loaded as the value that
every JSON file with the text is loaded as. -/
theorem converted_loads_alike
    {name printed : String}
    (named : options.output = some name) :
    ((∃ output, (options.run session).runOn printed tree = (.ok (), output, after)) ↔
      ∃ kind text value, options.Converts tree
        (Path.expandHome session.surroundings.home name) kind text value after) ∧
    ∀ kind text value, options.Converts tree
        (Path.expandHome session.surroundings.home name) kind text value after →
      LoadsAlike options.encoding kind text value after
        (Path.expandHome session.surroundings.home name) :=
  ⟨run_succeeds_iff named, fun _ _ _ converts => converts.loadsAlike⟩

/-- The conversion of a list of one public input to hexadecimal. -/
def ofInputs : ConvertOptions := ⟨"public.json", none, .hex, some "public.hex"⟩

/-- A tree with a list of one public input. -/
def treeOfInputs : FileTree := ⟨[], [(["public.json"], Hex.encodedBytes "[\"7\"]".toList)]⟩

theorem converted_loads_alike_inputs :
    ofInputs.output = some "public.hex" ∧
      ∃ output after,
        (ofInputs.run (.plain none)).runOn "" treeOfInputs = (.ok (), output, after) ∧
          DocumentKind.inputs.LoadsAs after "public.hex" [Scalar.ofNat 7] := by
  have named : ofInputs.output = some "public.hex" := rfl
  have path : Path.expandHome (Session.plain none).surroundings.home "public.hex" = "public.hex" :=
    by decide +kernel
  obtain ⟨after, written⟩ := Checks.isOk_iff.mp (show
    (treeOfInputs.insert "public.hex" (ByteEncoding.hex.encode
      (DocumentKind.inputs.toBytes [Scalar.ofNat 7]))).isOk = true by decide +kernel)
  have denoted : inputsOfJson "[\"7\"]" = .ok [Scalar.ofNat 7] := by decide +kernel
  have converts : ofInputs.Converts treeOfInputs "public.hex" .inputs "[\"7\"]"
      [Scalar.ofNat 7] after :=
    { input := show treeOfInputs.content "public.json" = _ by decide +kernel
      kindOf? := by decide +kernel
      denoted := denoted
      written := written }
  have alike := @converted_loads_alike ofInputs (.plain none) treeOfInputs after "public.hex" ""
    named
  rw [path] at alike
  obtain ⟨output, run⟩ := alike.1.mpr ⟨_, _, _, converts⟩
  exact ⟨named, output, after, run, (alike.2 _ _ _ converts).ofHex rfl rfl⟩

end ConvertOptions
end Groth16
