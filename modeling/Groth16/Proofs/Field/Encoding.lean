import Groth16.Proofs.Bytes
import Groth16.Proofs.Field.Moduli

/-!
# Byte form of field elements

Four words and 32 bytes are two forms of the same numbers. Thirty-two bytes are accepted when
their number is below the modulus, and they encode the element of that number. Every element is
the one that its bytes encode.
-/

namespace Groth16

namespace Limbs

/-- The words of 32 bytes, written again, are the four pieces that the bytes consist of. -/
theorem toBytes_ofBytes
    {bytes : List UInt8}
    (length : bytes.length = 32) :
    (ofBytes bytes).toBytes = bytes := by
  have piece (start : Nat) (fits : start + 8 ≤ 32) :
      Word.toBytes (Word.ofBytes (Bytes.slice bytes start 8)) = Bytes.slice bytes start 8 :=
    Word.toBytes_ofBytes (Bytes.length_slice (fits.trans_eq length.symm))
  calc (ofBytes bytes).toBytes
    _ = Bytes.slice bytes 0 8 ++ Bytes.slice bytes 8 8 ++ Bytes.slice bytes 16 8 ++
          Bytes.slice bytes 24 8 := by
        rw [← piece 0 (by decide), ← piece 8 (by decide), ← piece 16 (by decide),
          ← piece 24 (by decide)]
        rfl
    _ = Bytes.slice bytes 0 32 := by
        rw [Bytes.slice_append_slice, Bytes.slice_append_slice, Bytes.slice_append_slice]
    _ = bytes := by rw [Bytes.slice_zero, List.take_of_length_le length.le]

theorem toNat_toBytes (x : Limbs) : Bytes.toNat x.toBytes = x.toNat := by
  simp only [toBytes, toNat, Bytes.toNat_append, Word.toNat_toBytes, Word.length_toBytes]
  ring

theorem toNat_ofBytes
    {bytes : List UInt8}
    (length : bytes.length = 32) :
    (ofBytes bytes).toNat = Bytes.toNat bytes := by
  rw [← toNat_toBytes, toBytes_ofBytes length]

theorem ofBytes_toBytes (x : Limbs) : ofBytes x.toBytes = x := by
  apply toNat_inj.mp
  rw [toNat_ofBytes (length_toBytes x), toNat_toBytes]

end Limbs

namespace FieldElement

variable {F : FieldParameters}

/-- The number of the element of a number is its residue. -/
@[simp] theorem toNat_canonical_natCast (n : Nat) :
    (n : FieldElement F).canonical.toNat = n % F.modulus.toNat := by
  rw [← val_toZMod, toZMod_natCast, ZMod.val_natCast]

/-- Every element is the one of its number. -/
@[simp] theorem natCast_toNat_canonical (x : FieldElement F) :
    (x.canonical.toNat : FieldElement F) = x := by
  have : NeZero F.modulus.toNat := ⟨F.modulus_pos.ne'⟩
  apply toZMod_injective
  rw [toZMod_natCast, ← val_toZMod]
  exact ZMod.natCast_zmod_val _

theorem toNat_canonical_eq_zero_iff (x : FieldElement F) : x.canonical.toNat = 0 ↔ x = 0 := by
  constructor
  · intro zero
    rw [← natCast_toNat_canonical x, zero, Nat.cast_zero]
  · rintro rfl
    rw [← Nat.cast_zero, toNat_canonical_natCast, Nat.zero_mod]

theorem ofCanonical?_eq (n : Limbs) :
    (ofCanonical? n : Except FieldError (FieldElement F)) =
      if n.toNat < F.modulus.toNat then .ok (n.toNat : FieldElement F)
      else .error .notCanonical := by
  rw [ofCanonical?, ofLimbs_eq]
  exact if_congr (Limbs.isBelow_iff _ _) rfl rfl

/-- Bytes are accepted by their length and by their number. -/
theorem ofBytes?_eq (bytes : List UInt8) :
    (ofBytes? bytes : Except FieldError (FieldElement F)) =
      if bytes.length = 32 then
        if Bytes.toNat bytes < F.modulus.toNat then .ok (Bytes.toNat bytes : FieldElement F)
        else .error .notCanonical
      else .error (.invalidLength 32 bytes.length) := by
  rw [ofBytes?]
  split
  next length => rw [ofCanonical?_eq, Limbs.toNat_ofBytes length]
  next => rfl

theorem ofBytesReduced_eq
    (bytes : Bytes.Fixed 32) :
    (ofBytesReduced bytes.val : FieldElement F) = (Bytes.toNat bytes.val : FieldElement F) := by
  rw [ofBytesReduced, ofLimbs_eq, Limbs.toNat_ofBytes bytes.property]

theorem ofBytes?_fixed
    (bytes : Bytes.Fixed 32) :
    (ofBytes? bytes.val : Except FieldError (FieldElement F)) =
      if Bytes.toNat bytes.val < F.modulus.toNat
      then .ok (Bytes.toNat bytes.val : FieldElement F)
      else .error .notCanonical := by
  rw [ofBytes?_eq, if_pos bytes.property]

@[simp] theorem length_toBytes (x : FieldElement F) : x.toBytes.length = 32 :=
  Limbs.length_toBytes _

@[simp] theorem toNat_toBytes (x : FieldElement F) :
    Bytes.toNat x.toBytes = x.canonical.toNat :=
  Limbs.toNat_toBytes _

/-- Every element is the one that its bytes encode. -/
theorem ofBytes?_toBytes (x : FieldElement F) : ofBytes? x.toBytes = .ok x := by
  rw [ofBytes?_eq, if_pos (length_toBytes x), toNat_toBytes, if_pos (canonical_lt x),
    natCast_toNat_canonical]

theorem toBytes_injective : Function.Injective (toBytes : FieldElement F → List UInt8) := by
  intro x y bytes
  have read := ofBytes?_toBytes x
  rw [bytes, ofBytes?_toBytes y] at read
  exact (Except.ok.inj read).symm

theorem toBytes_zero : (0 : FieldElement F).toBytes = List.replicate 32 0 := by
  apply Bytes.eq_of_toNat_eq
  · rw [length_toBytes, List.length_replicate]
  · rw [toNat_toBytes, (toNat_canonical_eq_zero_iff 0).mpr rfl,
      Bytes.toNat_eq_zero_of_areZero (Bytes.areZero_replicate 32)]

/-- Bytes that are read as an element are its byte form. -/
theorem toBytes_of_ofBytes?
    {bytes : List UInt8}
    {x : FieldElement F}
    (read : ofBytes? bytes = .ok x) :
    x.toBytes = bytes := by
  rw [ofBytes?_eq] at read
  split at read
  next length =>
    split at read
    next below =>
      cases read
      apply Bytes.eq_of_toNat_eq
      · rw [length_toBytes, length]
      · rw [toNat_toBytes, toNat_canonical_natCast, Nat.mod_eq_of_lt below]
    next => cases read
  next => cases read

/-- Bytes of any number are read as the element of that number modulo the modulus. -/
theorem toNat_canonical_ofBytesReduced
    (bytes : Bytes.Fixed 32) :
    (ofBytesReduced bytes.val : FieldElement F).canonical.toNat =
      Bytes.toNat bytes.val % F.modulus.toNat := by
  rw [ofBytesReduced_eq, toNat_canonical_natCast]

end FieldElement

namespace FieldParameters

/-- The bytes of the elements are the strings of 32 bytes whose number, most significant byte
first, is below the modulus: these are read as the element of their number, which writes them
again, and all others are refused or reduced. -/
structure HasByteForm (F : FieldParameters) : Prop where
  exists_ofBytes?_iff : ∀ bytes : Bytes.Fixed 32,
    (∃ x : FieldElement F, FieldElement.ofBytes? bytes.val = .ok x) ↔
      Bytes.toNat bytes.val < F.modulus.toNat
  ofBytes?_of_le : ∀ bytes : Bytes.Fixed 32, F.modulus.toNat ≤ Bytes.toNat bytes.val →
    (FieldElement.ofBytes? bytes.val : Except FieldError (FieldElement F)) = .error .notCanonical
  canonical_of_ofBytes? : ∀ (bytes : Bytes.Fixed 32) (x : FieldElement F),
    FieldElement.ofBytes? bytes.val = .ok x →
      x.canonical.toNat = Bytes.toNat bytes.val ∧ x.toBytes = bytes.val
  canonical_ofBytesReduced : ∀ bytes : Bytes.Fixed 32,
    (FieldElement.ofBytesReduced bytes.val : FieldElement F).canonical.toNat =
      Bytes.toNat bytes.val % F.modulus.toNat
  ofBytes?_toBytes : ∀ x : FieldElement F, FieldElement.ofBytes? x.toBytes = .ok x

theorem hasByteForm (F : FieldParameters) : F.HasByteForm where
  exists_ofBytes?_iff bytes := by
    rw [FieldElement.ofBytes?_fixed]
    split
    next below => exact iff_of_true ⟨_, rfl⟩ below
    next notBelow => exact iff_of_false (fun ⟨_, read⟩ => nomatch read) notBelow
  ofBytes?_of_le bytes le := by rw [FieldElement.ofBytes?_fixed, if_neg (Nat.not_lt.mpr le)]
  canonical_of_ofBytes? bytes x read := by
    have written := FieldElement.toBytes_of_ofBytes? read
    rw [← written, FieldElement.toNat_toBytes]
    exact ⟨rfl, rfl⟩
  canonical_ofBytesReduced := FieldElement.toNat_canonical_ofBytesReduced
  ofBytes?_toBytes := FieldElement.ofBytes?_toBytes

/-- Words and bytes are forms of the same numbers, each of which gives the other one, and the
elements of both fields have their byte form. -/
theorem hasByteForm_scalar_and_base :
    (∀ words : Limbs, words.toBytes.length = 32 ∧ Limbs.ofBytes words.toBytes = words) ∧
      (∀ bytes : Bytes.Fixed 32, (Limbs.ofBytes bytes.val).toBytes = bytes.val ∧
        (Limbs.ofBytes bytes.val).toNat = Bytes.toNat bytes.val) ∧
      scalar.HasByteForm ∧ base.HasByteForm := by
  refine ⟨fun words => ?_, fun bytes => ?_, hasByteForm scalar, hasByteForm base⟩
  · exact ⟨Limbs.length_toBytes words, Limbs.ofBytes_toBytes words⟩
  · exact ⟨Limbs.toBytes_ofBytes bytes.property, Limbs.toNat_ofBytes bytes.property⟩

/-- The bytes of a modulus itself are refused, and reduced they are zero. -/
theorem hasByteForm_modulus :
    let inScalars : Bytes.Fixed 32 := ⟨scalar.modulus.toBytes, Limbs.length_toBytes _⟩
    let inBase : Bytes.Fixed 32 := ⟨base.modulus.toBytes, Limbs.length_toBytes _⟩
    ((FieldElement.ofBytes? inScalars.val : Except FieldError Fr) = .error .notCanonical ∧
        (FieldElement.ofBytesReduced inScalars.val : Fr).canonical.toNat = 0) ∧
      (FieldElement.ofBytes? inBase.val : Except FieldError Fq) = .error .notCanonical ∧
        (FieldElement.ofBytesReduced inBase.val : Fq).canonical.toNat = 0 := by
  obtain ⟨-, -, inScalars, inBase⟩ := hasByteForm_scalar_and_base
  refine ⟨⟨inScalars.ofBytes?_of_le _ ?_, ?_⟩, inBase.ofBytes?_of_le _ ?_, ?_⟩
  · exact (Limbs.toNat_toBytes _).ge
  · rw [inScalars.canonical_ofBytesReduced, Limbs.toNat_toBytes, Nat.mod_self]
  · exact (Limbs.toNat_toBytes _).ge
  · rw [inBase.canonical_ofBytesReduced, Limbs.toNat_toBytes, Nat.mod_self]

end FieldParameters
end Groth16
