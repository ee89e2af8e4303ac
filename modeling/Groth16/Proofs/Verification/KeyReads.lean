import Groth16.Key
import Groth16.Proofs.Bytes
import Groth16.Proofs.Checks

/-!
# Reads of an encoded key stay in bounds

Where the pieces of a key lie depends on a count that the bytes themselves declare. Decoding is
run here once more with ranges that are a fault when they reach beyond the bytes. Whatever the
bytes are, no range is a fault, and the result is that of decoding.
-/

namespace Groth16

/-- A computation that may refuse its input, and in which a range out of bounds is the fault
`none`. -/
abbrev Ranged (Error Value : Type) := ExceptT Error Option Value

namespace Ranged

variable {Error Error' Value Result : Type}

/-- A computation without faults. -/
def total (computation : Except Error Value) : Ranged Error Value := .mk (some computation)

theorem bind_eq_total
    {first : Ranged Error Value}
    {next : Value → Ranged Error Result}
    {pureFirst : Except Error Value}
    {pureNext : Value → Except Error Result}
    (firstAgrees : first = total pureFirst)
    (nextAgrees : ∀ value, next value = total (pureNext value)) :
    first >>= next = total (pureFirst >>= pureNext) := by
  rw [firstAgrees, funext nextAgrees]
  cases pureFirst <;> rfl

/-- A check in front of a computation without faults. -/
theorem total_guard
    {failed : Prop}
    [Decidable failed]
    {error : Error}
    {next : Unit → Ranged Error Result}
    {pure : Unit → Except Error Result}
    (agrees : ¬failed → next () = total (pure ())) :
    (if failed then throw error >>= next else next ()) =
      total (if failed then throw error >>= pure else pure ()) := by
  by_cases fails : failed
  · rw [if_pos fails, if_pos fails]
    rfl
  · rw [if_neg fails, if_neg fails, agrees fails]

theorem total_adapt
    (computation : Except Error Value)
    (change : Error → Error') :
    ExceptT.adapt change (total computation) = total (computation.mapError change) := rfl

theorem mapM_eq_total
    {next : Value → Ranged Error Result}
    {compute : Value → Except Error Result}
    {values : List Value}
    (each : ∀ value ∈ values, next value = total (compute value)) :
    values.mapM next = total (values.mapM compute) := by
  induction values with
  | nil => rfl
  | cons value rest inductionHypothesis =>
      rw [List.mapM_cons, List.mapM_cons, each value List.mem_cons_self,
        inductionHypothesis fun other member => each other (List.mem_cons_of_mem _ member)]
      exact bind_eq_total rfl fun result => bind_eq_total rfl fun others => rfl

end Ranged

namespace Bytes

/-- The `count` bytes from `start` on; a range that reaches beyond the bytes is a fault. -/
def range? (bytes : List UInt8) (start count : Nat) : Option (List UInt8) :=
  if start + count ≤ bytes.length then some (slice bytes start count) else none

theorem range?_of_le
    {bytes : List UInt8}
    {start count : Nat}
    (bounded : start + count ≤ bytes.length) :
    range? bytes start count = some (slice bytes start count) :=
  if_pos bounded

/-- A range in bounds goes on with its bytes. -/
theorem range?_bind
    {Error Result : Type}
    {bytes : List UInt8}
    {start count : Nat}
    {next : List UInt8 → Ranged Error Result}
    {result : Ranged Error Result}
    (bounded : start + count ≤ bytes.length)
    (agrees : next (slice bytes start count) = result) :
    liftM (range? bytes start count) >>= next = result := by
  rw [range?_of_le bounded, ← agrees]
  rfl

end Bytes

/-- Coordinates that can be read by ranges. -/
class RangedCoordinate
    (F : Type)
    [Coordinate F] where
  ofRanges? : List UInt8 → Option (Option F)
  ofRanges?_eq : ∀ bytes, ofRanges? bytes = some (Coordinate.ofBytes? bytes)

/-- An element of a prime field is read whole. -/
instance {F : FieldParameters} : RangedCoordinate (FieldElement F) where
  ofRanges? bytes := some (Coordinate.ofBytes? bytes)
  ofRanges?_eq _ := rfl

/-- The element that 64 bytes encode, its two halves taken as ranges. -/
def Fq2.ofRanges? (bytes : List UInt8) : Option (Option Fq2) :=
  if bytes.length = 64 then do
    let first ← Bytes.range? bytes 0 32
    let second ← Bytes.range? bytes 32 32
    return do
      let c1 ← Coordinate.ofBytes? first
      let c0 ← Coordinate.ofBytes? second
      return ⟨c0, c1⟩
  else some none

instance : RangedCoordinate Fq2 where
  ofRanges? := Fq2.ofRanges?
  ofRanges?_eq bytes := by
    change Fq2.ofRanges? bytes = some (Fq2.ofBytes? bytes)
    unfold Fq2.ofRanges? Fq2.ofBytes?
    by_cases length : bytes.length = 64
    · rw [if_pos length, if_pos length, Bytes.range?_of_le (by omega),
        Bytes.range?_of_le (by omega), Bytes.slice_zero, Bytes.slice_of_add_eq (by omega)]
      rfl
    · rw [if_neg length, if_neg length]

namespace AffinePoint

variable {F : Type} [Coordinate F] [RangedCoordinate F] {C : Curve F}

/-- The point whose coordinates the bytes encode, each taken as a range. -/
def ofRangesUnchecked (bytes : List UInt8) : Ranged PointError (AffinePoint C) :=
  if bytes.length ≠ encodedSize C then
    throw (.invalidLength (encodedSize C) bytes.length)
  else if Bytes.areZero bytes then pure identity
  else do
    let first ← Bytes.range? bytes 0 (Coordinate.size F)
    let second ← Bytes.range? bytes (Coordinate.size F) (Coordinate.size F)
    match ← RangedCoordinate.ofRanges? first, ← RangedCoordinate.ofRanges? second with
    | some x, some y => return finite x y
    | _, _ => throw .coordinateOutOfRange

/-- The point that the bytes encode, its coordinates taken as ranges. -/
def ofRanges?
    [Zero F] [One F] [Add F] [Mul F] [DecidableEq F] [SubgroupTest C]
    (bytes : List UInt8) : Ranged PointError (AffinePoint C) := do
  let P ← ofRangesUnchecked bytes
  if !P.isOnCurve then throw .notOnCurve
  if !P.isInSubgroup then throw .notInSubgroup
  return P

theorem ofRangesUnchecked_eq (bytes : List UInt8) :
    (ofRangesUnchecked bytes : Ranged PointError (AffinePoint C)) =
      .total (ofBytesUnchecked bytes) := by
  unfold ofRangesUnchecked ofBytesUnchecked
  by_cases length : bytes.length = encodedSize C
  · have fits : Coordinate.size F + Coordinate.size F = bytes.length := by
      rw [length, encodedSize, Nat.two_mul]
    rw [if_neg (not_not_intro length), if_neg (not_not_intro length)]
    by_cases zero : Bytes.areZero bytes = true
    · rw [if_pos zero, if_pos zero]
      rfl
    · rw [if_neg zero, if_neg zero]
      refine Bytes.range?_bind (by omega) (Bytes.range?_bind (by omega) ?_)
      rw [Bytes.slice_zero, Bytes.slice_of_add_eq fits, RangedCoordinate.ofRanges?_eq,
        RangedCoordinate.ofRanges?_eq]
      cases (Coordinate.ofBytes? (bytes.take (Coordinate.size F)) : Option F) <;>
        cases (Coordinate.ofBytes? (bytes.drop (Coordinate.size F)) : Option F) <;> rfl
  · rw [if_pos length, if_pos length]
    rfl

/-- Reading a point takes no range out of bounds. -/
theorem ofRanges?_eq
    [Zero F] [One F] [Add F] [Mul F] [DecidableEq F] [SubgroupTest C]
    (bytes : List UInt8) :
    (ofRanges? bytes : Ranged PointError (AffinePoint C)) = .total (ofBytes? bytes) := by
  unfold ofRanges? ofBytes?
  exact Ranged.bind_eq_total (ofRangesUnchecked_eq bytes) fun P =>
    Ranged.total_guard fun _ => Ranged.total_guard fun _ => rfl

end AffinePoint

namespace VerifyingKey

/-- The point of `G1` for the field of the given name, read by ranges. -/
def readRangesG1 (field : String) (bytes : List UInt8) : Ranged KeyError G1.Affine :=
  (AffinePoint.ofRanges? bytes).adapt (.invalidPoint field)

/-- The point of `G1`, which must not be the identity, read by ranges. -/
def readRangesFiniteG1 (field : String) (bytes : List UInt8) : Ranged KeyError G1.Affine := do
  let P ← readRangesG1 field bytes
  if P.isIdentity then throw (.invalidPoint field .identity)
  return P

/-- The point of `G2`, which must not be the identity, read by ranges. -/
def readRangesFiniteG2 (field : String) (bytes : List UInt8) : Ranged KeyError G2.Affine := do
  let P ← (AffinePoint.ofRanges? bytes).adapt (.invalidPoint field)
  if P.isIdentity then throw (.invalidPoint field .identity)
  return P

/-- The key that the bytes encode, every piece of it taken as a range of the bytes, and the
input points as ranges of what follows the header. -/
def ofRanges? (bytes : List UInt8) : Ranged KeyError VerifyingKey := do
  if bytes.length < headerSize then throw (.tooShort headerSize bytes.length)
  let count := Bytes.toNat (← Bytes.range? bytes 448 4)
  if count = 0 then throw .emptyIc
  if maxPublicInputs + 1 < count then throw (.tooManyPublicInputs count (maxPublicInputs + 1))
  if bytes.length ≠ encodedSize count then
    throw (.invalidSize (encodedSize count) bytes.length)
  let alpha ← readRangesFiniteG1 "alpha" (← Bytes.range? bytes 0 64)
  let beta ← readRangesFiniteG2 "beta" (← Bytes.range? bytes 64 128)
  let gamma ← readRangesFiniteG2 "gamma" (← Bytes.range? bytes 192 128)
  let delta ← readRangesFiniteG2 "delta" (← Bytes.range? bytes 320 128)
  let points ← Bytes.range? bytes headerSize (bytes.length - headerSize)
  let ic ← (List.range count).mapM fun number => do
    readRangesG1 "ic" (← Bytes.range? points (number * 64) 64)
  return ⟨alpha, beta, gamma, delta, ic⟩

theorem readRangesG1_eq (field : String) (bytes : List UInt8) :
    readRangesG1 field bytes = .total (readG1 field bytes) := by
  rw [readRangesG1, AffinePoint.ofRanges?_eq, Ranged.total_adapt, readG1]

theorem readRangesFiniteG1_eq (field : String) (bytes : List UInt8) :
    readRangesFiniteG1 field bytes = .total (readFiniteG1 field bytes) := by
  unfold readRangesFiniteG1 readFiniteG1
  exact Ranged.bind_eq_total (readRangesG1_eq field bytes) fun P =>
    Ranged.total_guard fun _ => rfl

theorem readRangesFiniteG2_eq (field : String) (bytes : List UInt8) :
    readRangesFiniteG2 field bytes = .total (readFiniteG2 field bytes) := by
  unfold readRangesFiniteG2 readFiniteG2
  rw [AffinePoint.ofRanges?_eq]
  exact Ranged.bind_eq_total (Ranged.total_adapt _ _) fun P => Ranged.total_guard fun _ => rfl

/-- No byte string makes decoding take a range out of bounds. -/
theorem ofRanges?_eq (bytes : List UInt8) : ofRanges? bytes = .total (ofBytes? bytes) := by
  unfold ofRanges? ofBytes?
  refine Ranged.total_guard fun header => ?_
  refine Bytes.range?_bind (by unfold headerSize at header; omega) ?_
  refine Ranged.total_guard fun _ => Ranged.total_guard fun _ => Ranged.total_guard fun size => ?_
  have length : 452 + Bytes.toNat (Bytes.slice bytes 448 4) * 64 = bytes.length :=
    (not_not.mp size).symm
  have rest : headerSize + (bytes.length - headerSize) = bytes.length := by
    unfold headerSize
    omega
  refine Bytes.range?_bind (by omega) ?_
  refine Ranged.bind_eq_total (readRangesFiniteG1_eq _ _) fun alpha => ?_
  refine Bytes.range?_bind (by omega) ?_
  refine Ranged.bind_eq_total (readRangesFiniteG2_eq _ _) fun beta => ?_
  refine Bytes.range?_bind (by omega) ?_
  refine Ranged.bind_eq_total (readRangesFiniteG2_eq _ _) fun gamma => ?_
  refine Bytes.range?_bind (by omega) ?_
  refine Ranged.bind_eq_total (readRangesFiniteG2_eq _ _) fun delta => ?_
  refine Bytes.range?_bind (Nat.le_of_eq rest) ?_
  rw [Bytes.slice_of_add_eq rest, Bytes.chunks_eq_map_slice, List.mapM_map]
  refine Ranged.bind_eq_total (Ranged.mapM_eq_total fun number member => ?_) fun ic => rfl
  have bounded : number * 64 + 64 ≤ (bytes.drop headerSize).length := by
    have below := List.mem_range.mp member
    rw [List.length_drop]
    unfold headerSize
    omega
  exact Bytes.range?_bind bounded (readRangesG1_eq _ _)

end VerifyingKey
end Groth16
