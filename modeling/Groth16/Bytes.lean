import Groth16.Power

/-!
# Big-endian bytes

Numbers as byte strings of a fixed length, most significant byte first, and the
lower-case hexadecimal spelling of byte strings.
-/

namespace Groth16
namespace Bytes

/-- The number that a byte string denotes, most significant byte first. -/
def toNat : List UInt8 → Nat
  | [] => 0
  | byte :: rest => byte.toNat * 256 ^ rest.length + toNat rest

/-- The last `length` bytes of a number, most significant first. -/
def ofNat : (length : Nat) → Nat → List UInt8
  | 0, _ => []
  | length + 1, n => UInt8.ofNat (n / 256 ^ length) :: ofNat length n

@[simp]
theorem length_ofNat (length n : Nat) : (ofNat length n).length = length := by
  induction length with
  | zero => rfl
  | succ length ih => simp [ofNat, ih]

theorem toNat_lt (bytes : List UInt8) : toNat bytes < 256 ^ bytes.length := by
  induction bytes with
  | nil => simp [toNat]
  | cons byte rest ih =>
    have head_le : byte.toNat * 256 ^ rest.length ≤ 255 * 256 ^ rest.length :=
      Nat.mul_le_mul_right _ (by have := byte.toNat_lt; omega)
    simp only [toNat, List.length_cons, Nat.pow_succ]
    omega

theorem toNat_append (left right : List UInt8) :
    toNat (left ++ right) = toNat left * 256 ^ right.length + toNat right := by
  induction left with
  | nil => simp [toNat]
  | cons byte rest ih =>
    rw [List.cons_append, toNat, toNat, ih, List.length_append, Nat.pow_add, Nat.add_mul,
      Nat.mul_assoc, Nat.add_assoc]

theorem toNat_ofNat (length n : Nat) : toNat (ofNat length n) = n % 256 ^ length := by
  induction length with
  | zero => simp [ofNat, toNat, Nat.mod_one]
  | succ length ih =>
    simp only [ofNat, toNat, length_ofNat, ih, UInt8.toNat_ofNat']
    rw [show 256 ^ (length + 1) = 256 ^ length * 256 from Nat.pow_succ 256 length,
      Nat.mod_mul, Nat.add_comm,
      Nat.mul_comm]

theorem ofNat_add_mul (length n k : Nat) :
    ofNat length (n + k * 256 ^ length) = ofNat length n := by
  induction length generalizing k with
  | zero => rfl
  | succ length ih =>
    have shifted : n + k * 256 ^ (length + 1) = n + k * 256 * 256 ^ length := by
      rw [Nat.pow_succ]
      grind
    simp only [ofNat, shifted, ih]
    congr 1
    rw [Nat.add_mul_div_right _ _ (Nat.pow_pos (by decide))]
    apply UInt8.toNat_inj.mp
    simp only [UInt8.toNat_ofNat']
    omega

theorem ofNat_toNat (bytes : List UInt8) : ofNat bytes.length (toNat bytes) = bytes := by
  induction bytes with
  | nil => rfl
  | cons byte rest ih =>
    have low := toNat_lt rest
    have hbyte := byte.toNat_lt
    simp only [List.length_cons, ofNat, toNat]
    congr 1
    · rw [Nat.add_comm, Nat.add_mul_div_right _ _ (Nat.pow_pos (by decide)),
        Nat.div_eq_of_lt low, Nat.zero_add, UInt8.ofNat_toNat]
    · rw [Nat.add_comm, ofNat_add_mul, ih]

/-- The `count` bytes from `start` on. -/
def slice (bytes : List UInt8) (start count : Nat) : List UInt8 := (bytes.drop start).take count

/-- The first `count` pieces of `size` bytes each. -/
def chunks (size : Nat) : (count : Nat) → List UInt8 → List (List UInt8)
  | 0, _ => []
  | count + 1, bytes => bytes.take size :: chunks size count (bytes.drop size)

/-- Whether every byte is zero. -/
def areZero (bytes : List UInt8) : Bool := bytes.all (· == 0)

/-- The lower-case hexadecimal digit of a number below sixteen. -/
def hexDigit (n : Nat) : Char := Char.ofNat (if n < 10 then 48 + n else 87 + n)

/-- Two lower-case digits for each byte. -/
def hexDigits (bytes : List UInt8) : List Char :=
  bytes.flatMap fun byte => [hexDigit (byte.toNat / 16), hexDigit (byte.toNat % 16)]

/-- The lower-case hexadecimal spelling of a byte string. -/
def toHex (bytes : List UInt8) : String := String.ofList (hexDigits bytes)

/-- A byte string of the given length. -/
abbrev Fixed (length : Nat) := { bytes : List UInt8 // bytes.length = length }

namespace Fixed

/-- The byte string, if it has the right length. -/
def ofList? {length : Nat} (bytes : List UInt8) : Option (Fixed length) :=
  if fits : bytes.length = length then some ⟨bytes, fits⟩ else none

/-- Zero bytes. -/
def zero (length : Nat) : Fixed length := ⟨List.replicate length 0, List.length_replicate⟩

/-- The bytes from `start` on, where there are enough of them. -/
def slice
    (bytes : List UInt8)
    (start length : Nat)
    (enough : start + length ≤ bytes.length) : Fixed length :=
  ⟨Bytes.slice bytes start length, by
    simp only [Bytes.slice, List.length_take, List.length_drop]; omega⟩

end Fixed

end Bytes
end Groth16
