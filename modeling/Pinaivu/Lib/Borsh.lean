import Pinaivu.Lib.ByteReader
import Mathlib.Algebra.Order.Ring.Nat

/-!
Borsh of the fixed-size types: integers are little-endian, arrays are their bytes,
and a struct is its fields one after the other.
-/

namespace Borsh

open ByteReader

def littleEndian : Nat → Nat → List UInt8
  | 0, _ => []
  | width + 1, number => UInt8.ofNat number :: littleEndian width (number / 256)

def value : List UInt8 → Nat
  | [] => 0
  | low :: rest => low.toNat + 256 * value rest

@[simp] theorem length_littleEndian (width number : Nat) :
    (littleEndian width number).length = width := by
  induction width generalizing number with
  | zero => rfl
  | succ width ih => simp [littleEndian, ih]

theorem value_littleEndian_mod (width number : Nat) : value (littleEndian width number) = number % 256 ^ width := by
  induction width generalizing number with
  | zero => simp [littleEndian, value, Nat.mod_one]
  | succ width ih =>
      rw [pow_succ' 256 width, Nat.mod_mul, littleEndian, value, ih, UInt8.toNat_ofNat']

theorem value_littleEndian {width number : Nat} (small : number < 256 ^ width) :
    value (littleEndian width number) = number := by
  rw [value_littleEndian_mod, Nat.mod_eq_of_lt small]

theorem littleEndian_add (low high number : Nat) :
    littleEndian (low + high) number = littleEndian low number ++ littleEndian high (number / 256 ^ low) := by
  induction low generalizing number with
  | zero => simp [littleEndian]
  | succ low ih =>
      rw [Nat.succ_add, littleEndian, littleEndian, ih, Nat.div_div_eq_div_mul, pow_succ']
      rfl

def number (width : Nat) : Reader Nat := do
  let digits ← bytes width
  pure (value digits)

def u32 : Reader UInt32 := do
  let read ← number 4
  pure (UInt32.ofNat read)

def u64 : Reader UInt64 := do
  let read ← number 8
  pure (UInt64.ofNat read)

/-- Two's complement. -/
def i64 : Reader Int64 := do
  let read ← u64
  pure read.toInt64

def u32Bytes (number : UInt32) : List UInt8 := littleEndian 4 number.toNat

def u64Bytes (number : UInt64) : List UInt8 := littleEndian 8 number.toNat

def i64Bytes (number : Int64) : List UInt8 := u64Bytes number.toUInt64

theorem reads_number {width read : Nat} (small : read < 256 ^ width) :
    Reads (number width) (littleEndian width read) read := by
  have digits := reads_bytes (littleEndian width read)
  rw [length_littleEndian] at digits
  have valued := digits.map value
  rwa [value_littleEndian small] at valued

theorem reads_u32 (number : UInt32) : Reads u32 (u32Bytes number) number := by
  have small : number.toNat < 256 ^ 4 := number.toNat_lt
  have read := (reads_number small).map UInt32.ofNat
  rwa [UInt32.ofNat_toNat] at read

theorem reads_u64 (number : UInt64) : Reads u64 (u64Bytes number) number := by
  have small : number.toNat < 256 ^ 8 := number.toNat_lt
  have read := (reads_number small).map UInt64.ofNat
  rwa [UInt64.ofNat_toNat] at read

theorem reads_i64 (number : Int64) : Reads i64 (i64Bytes number) number := by
  have read := (reads_u64 number.toUInt64).map UInt64.toInt64
  rwa [Int64.toInt64_toUInt64] at read

end Borsh
