import Pinaivu.Lib.Borsh

/-!
Integers that JavaScript reads from a byte buffer, and the rounding of what it computes from them.
-/

namespace NodeBuffer

open Borsh (littleEndian value)
open ByteReader (TextAt)

/-- The nearest double of an integer, with an even significand when two are as near. -/
def double (exact : Int) : Int :=
  let unit := 2 ^ (exact.natAbs.log2 - 52)
  let kept := exact.natAbs / unit
  let rest := exact.natAbs % unit
  let significand := if unit < 2 * rest ∨ 2 * rest = unit ∧ kept % 2 = 1 then kept + 1 else kept
  exact.sign * (significand * unit : Nat)

/-- A read past the end throws. -/
def readUIntLE (width : Nat) (buffer : List UInt8) (offset : Nat) : Option Nat :=
  if offset + width ≤ buffer.length then some (value ((buffer.drop offset).take width)) else none

def readUInt16LE : List UInt8 → Nat → Option Nat := readUIntLE 2

def readUInt32LE : List UInt8 → Nat → Option Nat := readUIntLE 4

def readInt32LE (buffer : List UInt8) (offset : Nat) : Option Int := do
  let unsigned ← readUInt32LE buffer offset
  return if unsigned < 2147483648 then unsigned else unsigned - 4294967296

theorem double_exact {exact : Int} (small : exact.natAbs ≤ 9007199254740992) : double exact = exact := by
  have signed : exact.sign * (exact.natAbs : Int) = exact := Int.sign_mul_natAbs exact
  by_cases last : exact.natAbs = 9007199254740992
  · have logarithm : Nat.log2 9007199254740992 = 53 := by decide +kernel
    rw [last] at signed
    simpa [double, last, logarithm] using signed
  · have below : exact.natAbs.log2 ≤ 52 := by
      by_cases zero : exact.natAbs = 0
      · simp [zero]
      · have bound := (Nat.log2_lt zero).mpr (show exact.natAbs < 2 ^ 53 by omega)
        omega
    have unit : exact.natAbs.log2 - 52 = 0 := by omega
    simpa [double, unit, Nat.mod_one] using signed

def fieldOffset : List Nat → Nat → Nat
  | width :: rest, index + 1 => width + fieldOffset rest index
  | _, _ => 0

theorem textAt_field {fields : List (List UInt8)} {index : Nat} {field : List UInt8}
    (found : fields[index]? = some field) :
    TextAt fields.flatten (fieldOffset (fields.map List.length) index) field := by
  induction fields generalizing index with
  | nil => simp at found
  | cons first rest ih =>
      cases index with
      | zero =>
          have same : first = field := by simpa using found
          exact ⟨[], rest.flatten, by simp [same], by simp [fieldOffset]⟩
      | succ index =>
          obtain ⟨before, after, buffer, length⟩ := ih (by simpa using found)
          refine ⟨first ++ before, after, ?_, ?_⟩
          · simp [buffer]
          · simp [fieldOffset, length]

theorem readUIntLE_within {buffer : List UInt8} {offset width : Nat} (room : offset + width ≤ buffer.length) :
    ∃ number, readUIntLE width buffer offset = some number := ⟨_, if_pos room⟩

theorem readUIntLE_littleEndian {buffer : List UInt8} {offset width number : Nat}
    (found : TextAt buffer offset (littleEndian width number)) :
    readUIntLE width buffer offset = some (number % 256 ^ width) := by
  have text := found.take_drop
  rw [Borsh.length_littleEndian] at text
  have room : offset + width ≤ buffer.length := by
    obtain ⟨before, after, rfl, rfl⟩ := found
    simp
  rw [readUIntLE, if_pos room, text, Borsh.value_littleEndian_mod]

theorem readUIntLE_small {buffer : List UInt8} {offset width number : Nat}
    (found : TextAt buffer offset (littleEndian width number)) (small : number < 256 ^ width) :
    readUIntLE width buffer offset = some number := by
  rw [readUIntLE_littleEndian found, Nat.mod_eq_of_lt small]

theorem readInt32LE_littleEndian {buffer : List UInt8} {offset number : Nat}
    (found : TextAt buffer offset (littleEndian 4 number)) :
    readInt32LE buffer offset = some ((number : Int).bmod 4294967296) := by
  have unsigned : readUInt32LE buffer offset = some (number % 4294967296) := readUIntLE_littleEndian found
  rw [readInt32LE, unsigned]
  apply congrArg some
  rw [Int.bmod_def]
  split <;> omega

end NodeBuffer
