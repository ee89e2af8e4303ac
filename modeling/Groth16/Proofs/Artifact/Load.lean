import Groth16.CommandLine.Conversion
import Groth16.Proofs.Artifact.Document
import Groth16.Proofs.Host.Tree
import Groth16.Proofs.Text.Hex

/-!
# Loaded documents

What the loader of a kind of document gives for a file: a JSON text is converted, and other bytes
are checked, for a key in full, for a proof by their number, for public inputs by the range of each.
The bytes that a JSON text is converted to pass this check, and stand for the same value.
-/

namespace Groth16

namespace ArtifactFormat

variable {path : String}

/-- The path has the extension, in any letter case. -/
def HasExtension (path : String) (letters : List Char) : Prop :=
  (Path.extension? path.toList).map (fun extension => extension.map Char.toLower) = some letters

theorem ofPath_eq_json_iff : ofPath path = .json ↔ HasExtension path ['j', 's', 'o', 'n'] := by
  unfold ofPath HasExtension
  split
  · next found => exact iff_of_true rfl found
  · next found => exact iff_of_false nofun fun other => nomatch found.symm.trans other
  · next other _ => exact iff_of_false nofun other

theorem ofPath_eq_hex_iff : ofPath path = .hex ↔ HasExtension path ['h', 'e', 'x'] := by
  unfold ofPath HasExtension
  split
  · next found => exact iff_of_false nofun fun other => nomatch found.symm.trans other
  · next found => exact iff_of_true rfl found
  · next other => exact iff_of_false nofun other

theorem ofPath_eq_binary_iff :
    ofPath path = .binary ↔
      ¬HasExtension path ['j', 's', 'o', 'n'] ∧ ¬HasExtension path ['h', 'e', 'x'] := by
  rw [← ofPath_eq_json_iff, ← ofPath_eq_hex_iff]
  cases ofPath path <;> decide

end ArtifactFormat

namespace Artifact

variable {path text : String} {tree : FileTree} {content : List UInt8}

theorem run_bind
    {α β : Type}
    (first : ArtifactM α)
    (next : α → ArtifactM β)
    (tree : FileTree) :
    (first >>= next).run.run tree =
      match first.run.run tree with
      | (.ok value, after) => (next value).run.run after
      | (.error reason, after) => (.error reason, after) := by
  rcases computed : first.run.run tree with ⟨outcome, after⟩
  rw [ExceptT.run_bind, HostM.run_bind, computed]
  cases outcome <;> rfl

/-- A sequence of two computations that leave the files as they are leaves them so. -/
theorem run_bind_snd
    {α β : Type}
    {first : ArtifactM α}
    {next : α → ArtifactM β}
    (leaves : (first.run.run tree).2 = tree)
    (leavesNext : ∀ value, ((next value).run.run tree).2 = tree) :
    ((first >>= next).run.run tree).2 = tree := by
  rw [run_bind]
  rcases computed : first.run.run tree with ⟨reason | value, after⟩
  · rw [computed] at leaves
    exact leaves
  · rw [computed] at leaves
    cases leaves
    exact leavesNext value

theorem run_readBytes (written : tree.content path = .ok content) :
    (readBytes path).run.run tree = (.ok content, tree) := by
  change ((tree.content path).mapError (ArtifactError.unreadable path), tree) = _
  rw [written]
  rfl

theorem run_readText (written : tree.content path = .ok (Hex.encodedBytes text.toList)) :
    (readText path).run.run tree = (.ok text, tree) := by
  change (((tree.content path).bind HostM.decodeText).mapError
    (ArtifactError.unreadable path), tree) = _
  rw [written, Except.bind, HostM.decodeText_eq_ok_iff.mpr rfl]
  rfl

theorem run_readHex
    (written : tree.content path = .ok (Hex.encodedBytes text.toList))
    (decoded : Hex.decodeText text.toList = .ok content) :
    (readHex path).run.run tree = (.ok content, tree) := by
  rw [readHex, run_bind, run_readText written]
  change ((Hex.decodeText text.toList).mapError ArtifactError.hex, tree) = _
  rw [decoded]
  rfl

section Loading

variable {Value : Type} {ofJson : String → Except ArtifactError Value}
  {ofBytes : List UInt8 → Except ArtifactError Value}

/-- The loader that converts a JSON text and reads a value from the bytes of other files. -/
def loadWith
    (ofJson : String → Except ArtifactError Value)
    (ofBytes : List UInt8 → Except ArtifactError Value)
    (path : String) : ArtifactM Value :=
  match ArtifactFormat.ofPath path with
  | .json => do
    let text ← readText path
    ofJson text
  | .hex => do
    let bytes ← readHex path
    ofBytes bytes
  | .binary => do
    let bytes ← readBytes path
    ofBytes bytes

theorem run_loadWith_of_json
    (format : ArtifactFormat.ofPath path = .json)
    (written : tree.content path = .ok (Hex.encodedBytes text.toList)) :
    (loadWith ofJson ofBytes path).run.run tree = (ofJson text, tree) := by
  unfold loadWith
  rw [format]
  dsimp only
  rw [run_bind, run_readText written]
  rfl

theorem run_loadWith_of_hex
    (format : ArtifactFormat.ofPath path = .hex)
    (written : tree.content path = .ok (Hex.encodedBytes text.toList))
    (decoded : Hex.decodeText text.toList = .ok content) :
    (loadWith ofJson ofBytes path).run.run tree = (ofBytes content, tree) := by
  unfold loadWith
  rw [format]
  dsimp only
  rw [run_bind, run_readHex written decoded]
  rfl

theorem run_loadWith_of_binary
    (format : ArtifactFormat.ofPath path = .binary)
    (written : tree.content path = .ok content) :
    (loadWith ofJson ofBytes path).run.run tree = (ofBytes content, tree) := by
  unfold loadWith
  rw [format]
  dsimp only
  rw [run_bind, run_readBytes written]
  rfl

/-- Loading leaves the files as they are. -/
theorem run_loadWith_snd : ((loadWith ofJson ofBytes path).run.run tree).2 = tree := by
  unfold loadWith
  cases ArtifactFormat.ofPath path with
  | json => exact run_bind_snd rfl fun _ => rfl
  | hex => exact run_bind_snd (run_bind_snd rfl fun _ => rfl) fun _ => rfl
  | binary => exact run_bind_snd rfl fun _ => rfl

end Loading

theorem checkKey_eq
    {bytes : List UInt8}
    {key : VerifyingKey}
    (decoded : VerifyingKey.ofBytes? bytes = .ok key) :
    checkKey bytes = .ok bytes := by
  rw [checkKey, decoded]

theorem checkProofSize_eq {bytes : List UInt8} (size : bytes.length = 256) :
    checkProofSize bytes = .ok ⟨bytes, size⟩ := by
  rw [checkProofSize, Bytes.Fixed.ofList?, dif_pos size]

/-- Whether a number is a scalar does not depend on how it was written. -/
theorem checkScalar_eq_ok_iff {value : String} {scalar : Scalar} :
    Numeral.checkScalar value scalar = .ok () ↔
      ∃ x : Fr, (FieldElement.ofBytes? scalar.val : Except FieldError Fr) = .ok x := by
  unfold Numeral.checkScalar
  split
  · next x accepted => exact iff_of_true rfl ⟨x, accepted⟩
  · next refused =>
      exact iff_of_false nofun fun ⟨_, accepted⟩ => nomatch refused.symm.trans accepted

/-- A scalar that a numeral denotes is read from its bytes. -/
theorem scalarOfChunk_eq
    {value : String}
    {scalar : Scalar}
    (denoted : scalarOfNumeral value = .ok scalar) :
    scalarOfChunk scalar.val = .ok scalar := by
  obtain ⟨scalar, -, checked⟩ := Checks.bind_eq_ok.mp denoted
  obtain ⟨⟨⟩, accepted, equal⟩ := Checks.bind_eq_ok.mp checked
  cases equal
  have again : Scalar.ofNat (Bytes.toNat scalar.val) = scalar := by
    obtain ⟨bytes, size⟩ := scalar
    apply Subtype.ext
    change Bytes.ofNat 32 (Bytes.toNat bytes) = bytes
    rw [← size, Bytes.ofNat_toNat]
  unfold scalarOfChunk
  rw [again]
  exact Checks.bind_eq_ok.mpr
    ⟨(), checkScalar_eq_ok_iff.mpr (checkScalar_eq_ok_iff.mp accepted), rfl⟩

/-- Scalars are read from their concatenated bytes. -/
theorem inputsOfBytes_eq
    {scalars : List Scalar}
    (each : ∀ scalar ∈ scalars, scalarOfChunk scalar.val = .ok scalar) :
    inputsOfBytes (scalars.flatMap (·.val)) = .ok scalars := by
  have size : (scalars.flatMap (·.val)).length = scalars.length * 32 :=
    Bytes.length_flatMap_of_size (fun scalar : Scalar => scalar.property) scalars
  have read : (scalars.map (·.val)).mapM scalarOfChunk = .ok scalars :=
    Checks.mapM_eq_ok_iff.mpr (List.forall₂_map_left_iff.mpr (List.forall₂_same.mpr each))
  rw [inputsOfBytes, size, Nat.mul_mod_left, Nat.mul_div_cancel _ (by decide),
    if_neg (not_not_intro rfl),
    Bytes.chunks_flatMap (fun scalar : Scalar => scalar.property)]
  exact read

end Artifact

namespace DocumentKind

/-- What is loaded from a file of the kind. -/
def Loaded : DocumentKind → Type
  | key | proof => List UInt8
  | inputs => List Scalar

/-- The loader of the kind. -/
def load : (kind : DocumentKind) → (path : String) → ArtifactM kind.Loaded
  | key => Artifact.loadKey
  | proof => Artifact.loadProof
  | inputs => Artifact.loadInputs

/-- The value that a JSON text denotes. -/
def ofJson : (kind : DocumentKind) → (text : String) → Except ArtifactError kind.Loaded
  | key => keyBytesOfJson
  | proof => proofBytesOfJson
  | inputs => inputsOfJson

/-- The bytes that stand for a value. -/
def toBytes : (kind : DocumentKind) → kind.Loaded → List UInt8
  | key, bytes | proof, bytes => bytes
  | inputs, scalars => scalars.flatMap (·.val)

/-- The value for which bytes stand. -/
def ofBytes : (kind : DocumentKind) → List UInt8 → Except ArtifactError kind.Loaded
  | key => Artifact.checkKey
  | proof => fun bytes => (Artifact.checkProofSize bytes).map (·.val)
  | inputs => Artifact.inputsOfBytes

theorem load_eq (kind : DocumentKind) (path : String) :
    kind.load path = Artifact.loadWith kind.ofJson kind.ofBytes path := by
  cases kind with
  | key => rfl
  | proof =>
      have checked (bytes : List UInt8) :
          (do return (← Artifact.checkProofSize bytes).val : ArtifactM (List UInt8)) =
            liftM ((Artifact.checkProofSize bytes).map (·.val)) := by
        cases Artifact.checkProofSize bytes <;> rfl
      change Artifact.loadProof path = _
      unfold Artifact.loadProof Artifact.loadWith
      simp only [checked]
      rfl
  | inputs => rfl

/-- A file that is neither JSON nor hexadecimal is loaded as the bytes that it holds. -/
theorem run_load_of_binary
    {kind : DocumentKind}
    {path : String}
    {tree : FileTree}
    {content : List UInt8}
    (format : ArtifactFormat.ofPath path = .binary)
    (written : tree.content path = .ok content) :
    (kind.load path).run.run tree = (kind.ofBytes content, tree) := by
  rw [load_eq, Artifact.run_loadWith_of_binary format written]

theorem ofBytes_proof {bytes : List UInt8} (size : bytes.length = 256) :
    proof.ofBytes bytes = .ok bytes := by
  change (Artifact.checkProofSize bytes).map (·.val) = _
  rw [Artifact.checkProofSize_eq size]
  rfl

/-- A document is converted to the bytes of what it denotes. -/
theorem convert_eq (kind : DocumentKind) (text : String) :
    kind.convert text = (kind.ofJson text).map kind.toBytes := by
  cases kind with
  | key => exact (congrFun Except.map_id (keyBytesOfJson text)).symm
  | proof => exact (congrFun Except.map_id (proofBytesOfJson text)).symm
  | inputs => rfl

/-- The bytes that a JSON text is converted to stand for what it denotes. -/
theorem ofBytes_toBytes
    {kind : DocumentKind}
    {text : String}
    {value : kind.Loaded}
    (denoted : kind.ofJson text = .ok value) :
    kind.ofBytes (kind.toBytes value) = .ok value := by
  cases kind with
  | key =>
      obtain ⟨document, -, written⟩ := Checks.bind_eq_ok.mp denoted
      obtain ⟨-, key, decoded, -⟩ := document.exists_of_toBytes written
      exact Artifact.checkKey_eq decoded
  | proof =>
      obtain ⟨document, -, written⟩ := Checks.bind_eq_ok.mp denoted
      obtain ⟨proof, decoded⟩ := document.exists_of_toBytes written
      have size : value.length = 256 := (Proof.ofBytes?_eq_ok_iff.mp decoded).length_eq
      exact ofBytes_proof size
  | inputs =>
      change inputsOfJson text = _ at denoted
      unfold inputsOfJson at denoted
      split at denoted
      · next numerals parsed =>
          refine Artifact.inputsOfBytes_eq fun scalar member => ?_
          obtain ⟨numeral, -, read⟩ :=
            Checks.exists_of_forall₂ (Checks.mapM_eq_ok_iff.mp denoted) member
          exact Artifact.scalarOfChunk_eq read
      · cases denoted

end DocumentKind
end Groth16
