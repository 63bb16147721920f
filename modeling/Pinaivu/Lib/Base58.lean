import Mathlib.Data.Nat.Digits.Lemmas
import Pinaivu.Lib.BigEndian

/-!
Base58 text of byte strings, without a checksum: a `1` for each leading zero byte, and
the digits of the rest as a number.
-/

namespace Base58

def digit (value : Nat) : Char :=
  if value < 9 then Char.ofNat (49 + value)
  else if value < 17 then Char.ofNat (56 + value)
  else if value < 22 then Char.ofNat (57 + value)
  else if value < 33 then Char.ofNat (58 + value)
  else if value < 44 then Char.ofNat (64 + value)
  else Char.ofNat (65 + value)

/-- The alphabet leaves out `0`, `O`, `I` and `l`. -/
def digitValue (char : Char) : Option Nat :=
  if '1' ≤ char ∧ char ≤ '9' then some (char.toNat - 49)
  else if 'A' ≤ char ∧ char ≤ 'H' then some (char.toNat - 56)
  else if 'J' ≤ char ∧ char ≤ 'N' then some (char.toNat - 57)
  else if 'P' ≤ char ∧ char ≤ 'Z' then some (char.toNat - 58)
  else if 'a' ≤ char ∧ char ≤ 'k' then some (char.toNat - 64)
  else if 'm' ≤ char ∧ char ≤ 'z' then some (char.toNat - 65)
  else none

theorem digitValue_digit : ∀ value < 58, digitValue (digit value) = some value := by
  decide

def leadingZeros (bytes : List UInt8) : Nat := (bytes.takeWhile (· == 0)).length

def values (bytes : List UInt8) : List Nat :=
  List.replicate (leadingZeros bytes) 0 ++ (Nat.digits 58 (BigEndian.value bytes)).reverse

def encode (bytes : List UInt8) : List Char := (values bytes).map digit

def decode (text : List Char) : Option (List UInt8) := do
  let values ← text.mapM digitValue
  return List.replicate (values.takeWhile (· == 0)).length 0 ++
    BigEndian.minimal (Nat.ofDigits 58 values.reverse)

theorem replicate_append_trim (bytes : List UInt8) :
    List.replicate (leadingZeros bytes) 0 ++ BigEndian.trim bytes = bytes := by
  induction bytes with
  | nil => rfl
  | cons byte rest ih =>
      by_cases zero : byte = 0
      · simpa [leadingZeros, BigEndian.trim, zero, List.replicate_succ] using ih
      · simp [leadingZeros, BigEndian.trim, zero]

theorem values_lt {bytes : List UInt8} {value : Nat} (member : value ∈ values bytes) : value < 58 := by
  rcases List.mem_append.mp member with zero | digit
  · rw [List.eq_of_mem_replicate zero]
    decide
  · exact Nat.digits_lt_base (by decide) (List.mem_reverse.mp digit)

theorem mapM_digitValue {values : List Nat} (small : ∀ value ∈ values, value < 58) :
    (values.map digit).mapM digitValue = some values := by
  induction values with
  | nil => rfl
  | cons first rest ih =>
      have head := digitValue_digit first (small first List.mem_cons_self)
      have tail := ih fun value member => small value (List.mem_cons_of_mem first member)
      simp [head, tail]

theorem takeWhile_digits (number : Nat) :
    (Nat.digits 58 number).reverse.takeWhile (· == 0) = [] := by
  by_cases zero : number = 0
  · simp [zero]
  · have last := Nat.getLast_digit_ne_zero 58 zero
    have nonempty : Nat.digits 58 number ≠ [] := Nat.digits_ne_nil_iff_ne_zero.mpr zero
    rw [← List.dropLast_append_getLast nonempty, List.reverse_append, List.reverse_singleton,
      List.singleton_append, List.takeWhile_cons_of_neg (by simpa using last)]

theorem takeWhile_values (bytes : List UInt8) :
    ((values bytes).takeWhile (· == 0)).length = leadingZeros bytes := by
  rw [values, List.takeWhile_append_of_pos (by simp), takeWhile_digits, List.append_nil,
    List.length_replicate]

theorem ofDigits_values (bytes : List UInt8) :
    Nat.ofDigits 58 (values bytes).reverse = BigEndian.value bytes := by
  rw [values, List.reverse_append, List.reverse_reverse, List.reverse_replicate,
    Nat.ofDigits_append_replicate_zero, Nat.ofDigits_digits]

theorem decode_encode (bytes : List UInt8) : decode (encode bytes) = some bytes := by
  have read : (encode bytes).mapM digitValue = some (values bytes) :=
    mapM_digitValue fun _ member => values_lt member
  have rest : BigEndian.minimal (BigEndian.value bytes) = BigEndian.trim bytes := by
    apply BigEndian.minimal_injective (BigEndian.minimal_minimal _) (BigEndian.trim_minimal _)
    rw [BigEndian.value_minimal, BigEndian.value_trim]
  simp only [decode, read, Option.bind_eq_bind, Option.bind_some, Option.pure_def, takeWhile_values,
    ofDigits_values, rest, replicate_append_trim]

end Base58
