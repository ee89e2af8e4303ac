import Groth16.CommandLine.KeyListing
import Groth16.Proofs.Artifact.Document
import Groth16.Proofs.Text.Lines

/-!
# What the source file of a key declares

The source file of a key mentions the file it was made from in a comment. Without its comments it
declares the number of public inputs and the bytes of the key, and they can be read from it. If a
file name goes over several lines, only the first of them is part of the comment; the others are
stray lines in front of the declarations, which are the same for every name.
-/

namespace Groth16

namespace KeyListing

/-! ## Reading a source file -/

/-- Whether a line of a source file is a comment. -/
def isComment (line : List Char) : Bool := ['/', '/'].isPrefixOf (Text.trimStart line)

/-- The lines of a source file without its comments. -/
def codeLines (text : List Char) : List (List Char) := (Text.lines text).filter (!isComment ·)

/-- What a source file declares. -/
@[ext]
structure Declared where
  constant : String
  publicInputs : Nat
  /-- The declared length of the array. -/
  size : Nat
  bytes : List UInt8
  deriving DecidableEq, Repr

/-- The word is a byte in an array. -/
inductive IsByte : List Char → UInt8 → Prop
  | intro
    {high low : Char}
    {byte : UInt8}
    (isNumber : Hex.value? [high, low] = some byte.toNat) :
    IsByte ['0', 'x', high, low, ','] byte

/-- The words that declare the number of public inputs. -/
def countWords (constant count : String) : List (List Char) :=
  ["pub", "const", constant ++ "_NUM_PUBLIC_INPUTS:", "usize", "=", count ++ ";"].map
    String.toList

/-- The words in front of the bytes of an array. -/
def arrayWords (constant size : String) : List (List Char) :=
  ["pub", "const", constant ++ ":", "[u8;", size ++ "]", "=", "["].map String.toList

/-- The words declare a number of public inputs and an array of bytes. -/
def Declares (words : List (List Char)) (declared : Declared) : Prop :=
  ∃ count size items,
    words = countWords declared.constant count ++ arrayWords declared.constant size ++ items ++
        ["];".toList] ∧
      Numeral.IsDecimal count declared.publicInputs ∧ Numeral.IsDecimal size declared.size ∧
      List.Forall₂ IsByte items declared.bytes

theorem IsByte.unique
    {word : List Char}
    {byte other : UInt8}
    (isByte : IsByte word byte)
    (isOther : IsByte word other) :
    byte = other := by
  obtain ⟨isNumber⟩ := isByte
  obtain ⟨isOther⟩ := isOther
  exact UInt8.toNat_inj.mp (Option.some_inj.mp (isNumber.symm.trans isOther))

theorem countWords_inj
    {constant count constant' count' : String}
    (equal : countWords constant count = countWords constant' count') :
    constant = constant' ∧ count = count' := by
  simpa only [countWords, List.map_cons, List.cons.injEq, String.toList_append,
    List.append_cancel_right_eq, String.toList_inj, true_and, and_true] using equal

theorem arrayWords_inj
    {constant size constant' size' : String}
    (equal : arrayWords constant size = arrayWords constant' size') :
    constant = constant' ∧ size = size' := by
  simpa only [arrayWords, List.map_cons, List.cons.injEq, String.toList_append,
    List.append_cancel_right_eq, String.toList_inj, true_and, and_true] using equal

/-- Words declare one thing only. -/
theorem Declares.unique
    {words : List (List Char)}
    {declared other : Declared}
    (declares : Declares words declared)
    (declaresOther : Declares words other) :
    declared = other := by
  obtain ⟨count, size, items, equal, isCount, isSize, areBytes⟩ := declares
  obtain ⟨count', size', items', equal', isCount', isSize', areBytes'⟩ := declaresOther
  -- The words in front of the bytes and the bracket after them have fixed numbers.
  obtain ⟨inner, -⟩ := List.append_inj' (equal.symm.trans equal') rfl
  obtain ⟨front, rfl⟩ := List.append_inj inner rfl
  obtain ⟨counts, arrays⟩ := List.append_inj front rfl
  obtain ⟨constant, rfl⟩ := countWords_inj counts
  obtain ⟨-, rfl⟩ := arrayWords_inj arrays
  have functional : Relator.RightUnique IsByte := fun _ _ _ => IsByte.unique
  exact Declared.ext constant (isCount.value_eq.symm.trans isCount'.value_eq)
    (isSize.value_eq.symm.trans isSize'.value_eq) (functional.forall₂ areBytes areBytes')

/-! ## Lines of code -/

/-- The line is code of these words. -/
structure IsCode (line : List Char) (words : List (List Char)) : Prop where
  unbroken : '\n' ∉ line
  not_isComment : isComment line = false
  words_eq : Text.words line = words

theorem isComment_of_not_mem
    {line : List Char}
    (absent : '/' ∉ line) :
    isComment line = false := by
  rw [isComment, Bool.eq_false_iff]
  intro isComment
  have starts := List.isPrefixOf_iff_prefix.mp isComment
  have member : '/' ∈ Text.trimStart line := starts.subset List.mem_cons_self
  exact absent ((List.dropWhile_sublist _).subset member)

/-- A character of a line of words is one of a word, or a space. -/
theorem mem_intercalate
    {words : List (List Char)}
    {c : Char}
    (member : c ∈ [' '].intercalate words) :
    c = ' ' ∨ ∃ word ∈ words, c ∈ word := by
  induction words with
  | nil => cases member
  | cons word rest inductionHypothesis =>
      cases rest with
      | nil =>
          rw [List.intercalate_singleton] at member
          exact .inr ⟨word, List.mem_cons_self, member⟩
      | cons next rest =>
          rw [List.intercalate_cons_cons, List.append_assoc, List.mem_append,
            List.singleton_append, List.mem_cons] at member
          rcases member with member | member | member
          · exact .inr ⟨word, List.mem_cons_self, member⟩
          · exact .inl member
          · obtain space | ⟨word, isWord, member⟩ := inductionHypothesis member
            · exact .inl space
            · exact .inr ⟨word, List.mem_cons_of_mem _ isWord, member⟩

/-- The word cannot be part of a comment. -/
structure IsPlain (word : List Char) : Prop extends Text.IsWord word where
  not_mem : '/' ∉ word

theorem isCode_intercalate
    {words : List (List Char)}
    (plain : ∀ word ∈ words, IsPlain word) :
    IsCode ([' '].intercalate words) words where
  unbroken member := by
    obtain impossible | ⟨word, isWord, member⟩ := mem_intercalate member
    · cases impossible
    · exact nomatch (plain word isWord).visible '\n' member
  not_isComment := by
    refine isComment_of_not_mem fun member => ?_
    obtain impossible | ⟨word, isWord, member⟩ := mem_intercalate member
    · cases impossible
    · exact (plain word isWord).not_mem member
  words_eq := Text.words_intercalate fun word isWord => (plain word isWord).toIsWord

theorem IsCode.indent
    {line : List Char}
    {words : List (List Char)}
    (isCode : IsCode line words) :
    IsCode (' ' :: line) words where
  unbroken member := isCode.unbroken (List.mem_of_ne_of_mem (by decide) member)
  not_isComment := isCode.not_isComment
  words_eq := (Text.words_cons (by decide) line).trans isCode.words_eq

/-- The lines carry these words outside of their comments. -/
inductive Carry : List (List Char) → List (List Char) → Prop
  | nil : Carry [] []
  | comment
    {line : List Char}
    {lines words : List (List Char)}
    (unbroken : '\n' ∉ line)
    (comment : isComment line = true)
    (rest : Carry lines words) :
    Carry (line :: lines) words
  | code
    {line : List Char}
    {lineWords lines words : List (List Char)}
    (isCode : IsCode line lineWords)
    (rest : Carry lines words) :
    Carry (line :: lines) (lineWords ++ words)

namespace Carry

variable {lines words : List (List Char)}

theorem unbroken
    (carry : Carry lines words) :
    ∀ line ∈ lines, '\n' ∉ line := by
  induction carry with
  | nil => exact nofun
  | comment unbroken _ _ inductionHypothesis =>
      exact List.forall_mem_cons.mpr ⟨unbroken, inductionHypothesis⟩
  | code isCode _ inductionHypothesis =>
      exact List.forall_mem_cons.mpr ⟨isCode.unbroken, inductionHypothesis⟩

theorem blank (carry : Carry lines words) : Carry ("".toList :: lines) words :=
  have isCode : IsCode "".toList [] := ⟨by decide, by decide, by decide⟩
  .code isCode carry

theorem append
    {moreLines moreWords : List (List Char)}
    (carry : Carry lines words)
    (more : Carry moreLines moreWords) :
    Carry (lines ++ moreLines) (words ++ moreWords) := by
  induction carry with
  | nil => exact more
  | comment unbroken comment _ inductionHypothesis =>
      exact .comment unbroken comment inductionHypothesis
  | code isCode _ inductionHypothesis =>
      rw [List.append_assoc]
      exact .code isCode inductionHypothesis

theorem flatMap_words_filter
    (carry : Carry lines words) :
    (lines.filter (!isComment ·)).flatMap Text.words = words := by
  induction carry with
  | nil => rfl
  | comment _ comment _ inductionHypothesis =>
      rw [List.filter_cons_of_neg (by rw [comment]; decide), inductionHypothesis]
  | code isCode _ inductionHypothesis =>
      rw [List.filter_cons_of_pos (by rw [isCode.not_isComment]; rfl), List.flatMap_cons,
        isCode.words_eq, inductionHypothesis]

/-- The words are read from the text of the lines. -/
theorem flatMap_words_codeLines
    (carry : Carry lines words) :
    (codeLines (lines.flatMap (· ++ ['\n']))).flatMap Text.words = words := by
  rw [codeLines, Text.lines_flatMap carry.unbroken, List.filter_append, List.flatMap_append,
    carry.flatMap_words_filter]
  exact List.append_nil words

end Carry

theorem isPlain_iff
    {word : List Char} :
    IsPlain word ↔ word ≠ [] ∧ word.all (fun c => !Text.isBlank c && c != '/') = true := by
  simp only [List.all_eq_true, Bool.and_eq_true, Bool.not_eq_true', bne_iff_ne]
  constructor
  · intro plain
    exact ⟨plain.ne_nil, fun c member => ⟨plain.visible c member,
      fun equal => plain.not_mem (equal ▸ member)⟩⟩
  · rintro ⟨ne_nil, all⟩
    exact ⟨⟨ne_nil, fun c member => (all c member).1⟩, fun member => (all '/' member).2 rfl⟩

-- Through a test of the list: the statement itself would be decided for every character there is.
instance (word : List Char) : Decidable (IsPlain word) := decidable_of_iff' _ isPlain_iff

theorem IsPlain.append
    {left right : List Char}
    (plainLeft : IsPlain left)
    (plainRight : IsPlain right) :
    IsPlain (left ++ right) where
  ne_nil empty := plainLeft.ne_nil (List.append_eq_nil_iff.mp empty).1
  visible := List.forall_mem_append.mpr ⟨plainLeft.visible, plainRight.visible⟩
  not_mem member := (List.mem_append.mp member).elim plainLeft.not_mem plainRight.not_mem

/-- A word of digits, capital letters and underscores is plain. -/
theorem isPlain_of_forall
    {word : List Char}
    (ne_nil : word ≠ [])
    (all : ∀ c ∈ word, c.isUpper ∨ c.isDigit ∨ c = '_') :
    IsPlain word := by
  have bounds : ∀ c ∈ word, 0x2f < c.toNat ∧ c.toNat < 0x80 := by
    intro c member
    rcases all c member with upper | digit | rfl
    · have bounds : 65 ≤ c.toNat ∧ c.toNat ≤ 90 := of_decide_eq_true upper
      omega
    · have bounds : 48 ≤ c.toNat ∧ c.toNat ≤ 57 := Char.isDigit_iff_toNat.mp digit
      omega
    · decide
  refine ⟨⟨ne_nil, fun c member => ?_⟩, fun member => ?_⟩
  · obtain ⟨low, high⟩ := bounds c member
    exact Text.isBlank_of_bounds (by omega) (by omega)
  · exact absurd (bounds '/' member).1 (by decide)

theorem isPlain_of_isConstantName
    {constant : String}
    (named : isConstantName constant = true) :
    IsPlain constant.toList := by
  unfold isConstantName at named
  cases equal : constant.toList with
  | nil =>
      rw [equal] at named
      cases named
  | cons first rest =>
      rw [equal] at named
      refine isPlain_of_forall nofun ?_
      simp only [Bool.and_eq_true, Bool.or_eq_true, List.all_eq_true, beq_iff_eq] at named
      refine List.forall_mem_cons.mpr ⟨named.1.imp_right .inr, fun c member => ?_⟩
      exact or_assoc.mp (named.2 c member)

theorem isPlain_toString (n : Nat) : IsPlain (toString n).toList := by
  have decimal := Numeral.isDecimal_toString n
  exact isPlain_of_forall decimal.ne_nil fun c member => .inr (.inl (decimal.digits c member))

theorem IsByte.isPlain
    {word : List Char}
    {byte : UInt8}
    (isByte : IsByte word byte) :
    IsPlain word := by
  obtain @⟨high, low, _, isNumber⟩ := isByte
  have visible : ∀ c ∈ [high, low], Text.isBlank c = false := by
    intro c member
    obtain ⟨digit, isDigit⟩ := Hex.exists_digitValue?_of_value? isNumber c member
    exact (Hex.digitValue?_eq_some_iff.mp isDigit).2.visible
  have absent : '/' ∉ [high, low] := Hex.not_mem_of_value? isNumber (by decide)
  have front : IsPlain ['0', 'x'] := by decide
  have middle : IsPlain [high, low] := ⟨⟨nofun, visible⟩, absent⟩
  have back : IsPlain [','] := by decide
  exact (front.append middle).append back

theorem isByte_byteText (byte : UInt8) : IsByte (byteText byte).toList byte := by
  have bound : byte.toNat < 256 := byte.toNat_lt
  have spelled : Hex.Spells [byte] (Bytes.hexDigits [byte]) :=
    .cons (Hex.isDigit_of_sameLetter (by omega) (.inl rfl))
      (Hex.isDigit_of_sameLetter (by omega) (.inl rfl)) .nil
  have isNumber := spelled.value?_eq
  rw [Bytes.toNat, List.length_nil, Nat.pow_zero, Nat.mul_one] at isNumber
  simp only [byteText, Bytes.toHex, String.toList_append, String.toList_ofList]
  exact .intro isNumber

/-- The lines of the array hold all the bytes in their order. -/
theorem flatten_byteLines (bytes : List UInt8) : (byteLines bytes).flatten = bytes := by
  have joined := List.take_append_drop (bytes.length / lineWidth * lineWidth) bytes
  rw [byteLines, List.flatten_append, Bytes.flatten_chunks_eq_take]
  split
  · next empty =>
      rw [List.isEmpty_iff.mp empty] at joined
      exact joined
  · rw [List.flatten_singleton, joined]

/-! ## The lines of a key -/

theorem toList_countLine
    (constant : String)
    (n : Nat) :
    s!"pub const {constant}_NUM_PUBLIC_INPUTS: usize = {n};".toList =
      [' '].intercalate (countWords constant (toString n)) := by
  change
    ("pub const " ++ constant ++ "_NUM_PUBLIC_INPUTS: usize = " ++ toString n ++ ";").toList = _
  simp [countWords]

theorem toList_arrayLine
    (constant : String)
    (n : Nat) :
    s!"pub const {constant}: [u8; {n}] = [".toList =
      [' '].intercalate (arrayWords constant (toString n)) := by
  change ("pub const " ++ constant ++ ": [u8; " ++ toString n ++ "] = [").toList = _
  simp [arrayWords]

theorem toList_byteLine (line : List UInt8) :
    ("    " ++ String.intercalate " " (line.map byteText)).toList =
      "    ".toList ++ [' '].intercalate (line.map fun byte => (byteText byte).toList) := by
  rw [String.toList_append, String.toList_intercalate, List.map_map]
  rfl

theorem isPlain_countWords
    {constant : String}
    (named : isConstantName constant = true)
    (n : Nat) :
    ∀ word ∈ countWords constant (toString n), IsPlain word := by
  have plainConstant := (isPlain_of_isConstantName named).append
    (show IsPlain "_NUM_PUBLIC_INPUTS:".toList by decide)
  have plainCount := (isPlain_toString n).append (show IsPlain ";".toList by decide)
  rw [← String.toList_append] at plainConstant plainCount
  simp only [countWords, List.map_cons, List.map_nil, List.forall_mem_cons]
  exact ⟨by decide, by decide, plainConstant, by decide, by decide, plainCount, nofun⟩

theorem isPlain_arrayWords
    {constant : String}
    (named : isConstantName constant = true)
    (n : Nat) :
    ∀ word ∈ arrayWords constant (toString n), IsPlain word := by
  have plainConstant := (isPlain_of_isConstantName named).append
    (show IsPlain ":".toList by decide)
  have plainSize := (isPlain_toString n).append (show IsPlain "]".toList by decide)
  rw [← String.toList_append] at plainConstant plainSize
  simp only [arrayWords, List.map_cons, List.map_nil, List.forall_mem_cons]
  exact ⟨by decide, by decide, plainConstant, by decide, plainSize, by decide, by decide, nofun⟩

theorem carry_byteLines (rows : List (List UInt8)) :
    Carry
      (rows.map fun row => ("    " ++ String.intercalate " " (row.map byteText)).toList)
      (rows.flatten.map fun byte => (byteText byte).toList) := by
  induction rows with
  | nil => exact .nil
  | cons row rest inductionHypothesis =>
      rw [List.map_cons, List.flatten_cons, List.map_append, toList_byteLine]
      refine .code ?_ inductionHypothesis
      -- Four spaces are in front of the bytes.
      refine .indent (.indent (.indent (.indent (isCode_intercalate ?_))))
      exact List.forall_mem_map.mpr fun byte _ => (isByte_byteText byte).isPlain

/-- The words of the lines of a key. -/
theorem carry_body
    {constant : String}
    (named : isConstantName constant = true)
    (bytes : List UInt8)
    (publicInputs : Nat) :
    Carry ((body bytes publicInputs constant).map String.toList)
      (countWords constant (toString publicInputs) ++
        arrayWords constant (toString bytes.length) ++
        bytes.map (fun byte => (byteText byte).toList) ++ ["];".toList]) := by
  have count := isCode_intercalate (isPlain_countWords named publicInputs)
  have array := isCode_intercalate (isPlain_arrayWords named bytes.length)
  have closing : IsCode "];".toList ["];".toList] := ⟨by decide, by decide, by decide⟩
  rw [← toList_countLine] at count
  rw [← toList_arrayLine] at array
  have ending := Carry.code array .nil
  have rows := carry_byteLines (byteLines bytes)
  rw [List.append_nil] at ending
  rw [flatten_byteLines] at rows
  rw [body, List.map_append, List.map_append, List.map_map]
  refine .append (.append (.blank ?_) rows) (.code closing .nil)
  refine .comment (by decide) (by decide) (.code count (.blank ?_))
  exact .comment (by decide) (by decide) ending

/-! ## The name of the file a key was made from -/

/-- The lines that a file name leaves outside of the comment it is mentioned in. -/
def strayLines (source : String) : List (List Char) :=
  (Text.lines (source.toList ++ ". Do not edit.".toList)).tail.filter (!isComment ·)

theorem strayLines_of_not_mem
    {source : String}
    (unbroken : '\n' ∉ source.toList) :
    strayLines source = [] := by
  have absent : '\n' ∉ source.toList ++ ". Do not edit.".toList := by
    rw [List.mem_append, not_or]
    exact ⟨unbroken, by decide⟩
  rw [strayLines, Text.lines_of_not_mem absent]
  rfl

theorem codeLines_header (source : String) :
    codeLines (header source).toList = strayLines source := by
  have mark : (header source).toList =
      "// Generated by vk-codegen from ".toList ++
        (source.toList ++ ". Do not edit.".toList) := by
    change ("// Generated by vk-codegen from " ++ source ++ ". Do not edit.").toList = _
    rw [String.toList_append, String.toList_append, List.append_assoc]
  rw [mark, codeLines, Text.lines_append_of_not_mem (by decide), strayLines]
  obtain ⟨first, others, equal⟩ := List.exists_cons_of_ne_nil
    (List.splitOn_ne_nil '\n' (source.toList ++ ". Do not edit.".toList))
  have comment : isComment ("// Generated by vk-codegen from ".toList ++ first) = true := rfl
  rw [Text.lines, equal, List.modifyHead_cons, List.tail_cons]
  exact List.filter_cons_of_neg (by rw [comment]; decide)

/-- The text of a source file after its first line. -/
def bodyText
    (bytes : List UInt8)
    (publicInputs : Nat)
    (constant : String) : List Char :=
  ((body bytes publicInputs constant).map String.toList).flatMap (· ++ ['\n'])

/-- Without its comments, the source file of a key has the stray lines of the file name and then
lines that do not depend on it. -/
theorem codeLines_render
    (bytes : List UInt8)
    (publicInputs : Nat)
    (constant source : String) :
    codeLines (render bytes publicInputs constant source).toList =
      strayLines source ++ codeLines (bodyText bytes publicInputs constant) := by
  have text : (render bytes publicInputs constant source).toList =
      (header source).toList ++ '\n' :: bodyText bytes publicInputs constant := by
    rw [render, bodyText, String.toList_join, List.map_cons, List.flatMap_cons,
      String.toList_append, List.append_assoc, List.flatMap_map, List.flatMap_map]
    simp only [String.toList_append]
    rfl
  rw [text, ← codeLines_header, codeLines, Text.lines_append, List.filter_append]
  rfl

theorem declares_body_iff
    {constant : String}
    (named : isConstantName constant = true)
    (bytes : List UInt8)
    (publicInputs : Nat)
    (declared : Declared) :
    Declares ((codeLines (bodyText bytes publicInputs constant)).flatMap Text.words) declared ↔
      declared = ⟨constant, publicInputs, bytes.length, bytes⟩ := by
  have areBytes : List.Forall₂ IsByte (bytes.map fun byte => (byteText byte).toList) bytes :=
    List.forall₂_map_left_iff.mpr (List.forall₂_same.mpr fun byte _ => isByte_byteText byte)
  have declares : Declares _ ⟨constant, publicInputs, bytes.length, bytes⟩ :=
    ⟨_, _, _, (carry_body named bytes publicInputs).flatMap_words_codeLines,
      Numeral.isDecimal_toString _, Numeral.isDecimal_toString _, areBytes⟩
  constructor
  · exact fun other => other.unique declares
  · rintro rfl
    exact declares

/-- The source files of a key under two file names differ, outside of their comments, exactly in the
stray lines of the names. Without such lines, as with every name on one line, exactly the bytes of
the key and its number of public inputs are read from the file. -/
theorem render_declares
    {constant : String}
    (named : isConstantName constant = true)
    (key : VerifyingKey)
    (bytes : List UInt8) :
    (∀ source other,
        codeLines (render bytes key.publicInputs constant source).toList =
            codeLines (render bytes key.publicInputs constant other).toList ↔
          strayLines source = strayLines other) ∧
      (∀ source, strayLines source = [] → ∀ declared,
        Declares ((codeLines (render bytes key.publicInputs constant source).toList).flatMap
            Text.words) declared ↔
          declared = ⟨constant, key.publicInputs, bytes.length, bytes⟩) ∧
      ∀ source, '\n' ∉ source.toList → strayLines source = [] := by
  refine ⟨fun source other => ?_, fun source unbroken declared => ?_,
    fun source => strayLines_of_not_mem⟩
  · rw [codeLines_render, codeLines_render, List.append_left_inj]
  · rw [codeLines_render, unbroken, List.nil_append, declares_body_iff named]

theorem render_declares_ignoringInput :
    isConstantName "VK_BYTES" = true ∧
      Declares
        ((codeLines (render VerifyingKey.ignoringInput.toBytes
          VerifyingKey.ignoringInput.publicInputs "VK_BYTES" "key.json").toList).flatMap Text.words)
        ⟨"VK_BYTES", VerifyingKey.ignoringInput.publicInputs,
          VerifyingKey.ignoringInput.toBytes.length, VerifyingKey.ignoringInput.toBytes⟩ := by
  have named : isConstantName "VK_BYTES" = true := by decide
  have declares := render_declares named VerifyingKey.ignoringInput
    VerifyingKey.ignoringInput.toBytes
  exact ⟨named, (declares.2.1 _ (declares.2.2 _ (by decide)) _).mpr rfl⟩

/-- The second line of a file name is not part of a comment. -/
theorem codeLines_render_ne :
    isConstantName "VK_BYTES" = true ∧
      strayLines "a\nb.json" = ["b.json. Do not edit.".toList] ∧
      codeLines (render VerifyingKey.ignoringInput.toBytes
          VerifyingKey.ignoringInput.publicInputs "VK_BYTES" "a\nb.json").toList ≠
        codeLines (render VerifyingKey.ignoringInput.toBytes
          VerifyingKey.ignoringInput.publicInputs "VK_BYTES" "b.json").toList := by
  refine ⟨by decide, by decide, fun equal => ?_⟩
  rw [codeLines_render, codeLines_render, List.append_left_inj] at equal
  exact absurd equal (by decide)

end KeyListing

end Groth16
