import Groth16.Bytes
import Mathlib.Data.Nat.Bitwise

/-!
# Byte strings

Byte strings as numbers, ranges of bytes, and byte strings as rows of pieces of one size.
-/

namespace Groth16
namespace Bytes

/-- Byte strings of one length that denote one number are equal. -/
theorem eq_of_toNat_eq
    {left right : List UInt8}
    (length : left.length = right.length)
    (number : toNat left = toNat right) :
    left = right := by
  rw [← ofNat_toNat left, ← ofNat_toNat right, length, number]

/-- A bit of a number lies in one of its bytes, counted from the last one. -/
theorem testBit_toNat
    {bytes : List UInt8}
    {number : Nat}
    (inside : number / 8 < bytes.length) :
    (toNat bytes).testBit number =
      (bytes.getD (bytes.length - 1 - number / 8) 0).toNat.testBit (number % 8) := by
  induction bytes with
  | nil => cases inside
  | cons byte rest inductionHypothesis =>
      have power : 256 ^ rest.length = 2 ^ (8 * rest.length) := Nat.pow_mul 2 8 rest.length ▸ rfl
      have rest_lt : toNat rest < 2 ^ (8 * rest.length) := power ▸ toNat_lt rest
      rw [toNat, power, Nat.mul_comm, Nat.testBit_two_pow_mul_add _ rest_lt]
      rw [List.length_cons] at inside ⊢
      by_cases low : number < 8 * rest.length
      · have inRest : number / 8 < rest.length := by omega
        rw [if_pos low, inductionHypothesis inRest,
          show rest.length + 1 - 1 - number / 8 = rest.length - 1 - number / 8 + 1 by omega,
          List.getD_cons_succ]
      · rw [if_neg low, show rest.length + 1 - 1 - number / 8 = 0 by omega, List.getD_cons_zero,
          show number - 8 * rest.length = number % 8 by omega]

theorem areZero_append (left right : List UInt8) :
    areZero (left ++ right) = (areZero left && areZero right) :=
  List.all_append

theorem areZero_replicate (length : Nat) : areZero (List.replicate length 0) = true := by
  simp [areZero]

theorem eq_replicate_of_areZero
    {bytes : List UInt8}
    (zero : areZero bytes = true) :
    bytes = List.replicate bytes.length 0 := by
  refine List.eq_replicate_iff.mpr ⟨rfl, ?_⟩
  simpa [areZero] using zero

theorem areZero_slice
    {bytes : List UInt8}
    (zero : areZero bytes = true)
    (start count : Nat) :
    areZero (slice bytes start count) = true := by
  rw [areZero, List.all_eq_true] at zero ⊢
  intro byte member
  exact zero byte (List.mem_of_mem_drop (List.mem_of_mem_take member))

theorem toNat_eq_zero_of_areZero
    {bytes : List UInt8}
    (zero : areZero bytes = true) :
    toNat bytes = 0 := by
  induction bytes with
  | nil => rfl
  | cons byte rest inductionHypothesis =>
      simp only [areZero, List.all_cons, Bool.and_eq_true, beq_iff_eq] at zero
      rw [toNat, zero.1, inductionHypothesis zero.2]
      simp

theorem slice_zero (bytes : List UInt8) (count : Nat) : slice bytes 0 count = bytes.take count :=
  rfl

/-- A range that ends with the bytes is what is left of them. -/
theorem slice_of_add_eq
    {bytes : List UInt8}
    {start count : Nat}
    (fits : start + count = bytes.length) :
    slice bytes start count = bytes.drop start :=
  List.take_of_length_le (by rw [List.length_drop]; omega)

theorem slice_drop (bytes : List UInt8) (skipped start count : Nat) :
    slice (bytes.drop skipped) start count = slice bytes (skipped + start) count := by
  rw [slice, slice, List.drop_drop]

/-- The piece in the middle of a byte string. -/
theorem slice_append
    {start count : Nat}
    {left middle right : List UInt8}
    (startEq : left.length = start)
    (countEq : middle.length = count) :
    slice (left ++ (middle ++ right)) start count = middle := by
  rw [slice, List.drop_left' startEq, List.take_left' countEq]

theorem slice_append_slice (bytes : List UInt8) (start count more : Nat) :
    slice bytes start count ++ slice bytes (start + count) more =
      slice bytes start (count + more) := by
  rw [slice, slice, slice, List.take_add, List.drop_drop]

theorem length_slice
    {bytes : List UInt8}
    {start count : Nat}
    (fits : start + count ≤ bytes.length) :
    (slice bytes start count).length = count := by
  rw [slice, List.length_take, List.length_drop]
  omega

theorem toNat_slice_lt (bytes : List UInt8) (start count : Nat) :
    toNat (slice bytes start count) < 256 ^ count :=
  (toNat_lt _).trans_le (Nat.pow_le_pow_right (by decide) (List.length_take_le _ _))

/-- The number of a range of bytes, written with as many bytes, is the range. -/
theorem ofNat_toNat_slice
    {bytes : List UInt8}
    {start count : Nat}
    (fits : start + count ≤ bytes.length) :
    ofNat count (toNat (slice bytes start count)) = slice bytes start count := by
  nth_rewrite 1 [← length_slice fits]
  exact ofNat_toNat _

theorem length_chunks
    (size count : Nat)
    (bytes : List UInt8) :
    (chunks size count bytes).length = count := by
  induction count generalizing bytes with
  | zero => rfl
  | succ count inductionHypothesis =>
      rw [chunks, List.length_cons, inductionHypothesis]

theorem length_flatMap_of_size
    {Piece : Type}
    {size : Nat}
    {encode : Piece → List UInt8}
    (sizeEq : ∀ piece, (encode piece).length = size)
    (pieces : List Piece) :
    (pieces.flatMap encode).length = pieces.length * size := by
  induction pieces with
  | nil => exact (Nat.zero_mul size).symm
  | cons piece rest inductionHypothesis =>
      rw [List.flatMap_cons, List.length_append, sizeEq, inductionHypothesis, List.length_cons,
        Nat.succ_mul, Nat.add_comm]

/-- Pieces of equal size are found again in their concatenation. -/
theorem chunks_flatMap
    {Piece : Type}
    {size : Nat}
    {encode : Piece → List UInt8}
    (sizeEq : ∀ piece, (encode piece).length = size)
    (pieces : List Piece) :
    chunks size pieces.length (pieces.flatMap encode) = pieces.map encode := by
  induction pieces with
  | nil => rfl
  | cons piece rest inductionHypothesis =>
      rw [List.length_cons, chunks, List.flatMap_cons, List.take_left' (sizeEq piece),
        List.drop_left' (sizeEq piece), inductionHypothesis, List.map_cons]

/-- The pieces of equal size, each taken as a range. -/
theorem chunks_eq_map_slice (size count : Nat) (bytes : List UInt8) :
    chunks size count bytes =
      (List.range count).map fun number => slice bytes (number * size) size := by
  induction count generalizing bytes with
  | zero => rfl
  | succ count inductionHypothesis =>
      rw [chunks, inductionHypothesis, List.range_succ_eq_map, List.map_cons, List.map_map,
        Nat.zero_mul, slice_zero]
      congr 1
      apply List.map_congr_left
      intro number _
      rw [Function.comp_apply, slice_drop, Nat.succ_mul, Nat.add_comm]

/-- The pieces make up as many of the bytes as they hold. -/
theorem flatten_chunks_eq_take
    (size count : Nat)
    (bytes : List UInt8) :
    (chunks size count bytes).flatten = bytes.take (count * size) := by
  induction count generalizing bytes with
  | zero => rw [Nat.zero_mul, List.take_zero, chunks, List.flatten_nil]
  | succ count inductionHypothesis =>
      rw [chunks, List.flatten_cons, inductionHypothesis, Nat.succ_mul, Nat.add_comm,
        List.take_add]

/-- The pieces of equal size make up the bytes. -/
theorem flatten_chunks
    {size count : Nat}
    {bytes : List UInt8}
    (length : bytes.length = count * size) :
    (chunks size count bytes).flatten = bytes := by
  rw [flatten_chunks_eq_take, List.take_of_length_le length.le]

end Bytes
end Groth16
