import Mathlib.Algebra.Order.Ring.Nat
import Mathlib.Tactic.NormNum
import Mathlib.Tactic.Ring

/-!
Big-endian byte strings of natural numbers: a fixed width, and the shortest one.
-/

namespace BigEndian

def value : List UInt8 → Nat
  | [] => 0
  | byte :: rest => byte.toNat * 256 ^ rest.length + value rest

def bytes : Nat → Nat → List UInt8
  | 0, _ => []
  | width + 1, number => UInt8.ofNat (number / 256 ^ width) :: bytes width number

def trim : List UInt8 → List UInt8
  | [] => []
  | byte :: rest => if byte = 0 then trim rest else byte :: rest

/-- No leading zero byte; zero is the empty string. -/
def Minimal (digits : List UInt8) : Prop := digits.head? ≠ some 0

@[simp] theorem length_bytes (width number : Nat) : (bytes width number).length = width := by
  induction width with
  | zero => rfl
  | succ width ih => simp [bytes, ih]

theorem value_bytes (width number : Nat) : value (bytes width number) = number % 256 ^ width := by
  induction width with
  | zero => simp [bytes, value, Nat.mod_one]
  | succ width ih =>
      rw [bytes, value, ih, length_bytes, pow_succ, Nat.mod_mul, UInt8.toNat_ofNat']
      ring

theorem value_lt (digits : List UInt8) : value digits < 256 ^ digits.length := by
  induction digits with
  | nil => simp [value]
  | cons byte rest ih =>
      have bound := byte.toNat_lt
      have scaled : byte.toNat * 256 ^ rest.length ≤ 255 * 256 ^ rest.length :=
        Nat.mul_le_mul_right _ (by omega)
      rw [value, List.length_cons, pow_succ]
      omega

theorem value_injective {first second : List UInt8} (sameLength : first.length = second.length)
    (same : value first = value second) : first = second := by
  induction first generalizing second with
  | nil => exact (List.length_eq_zero_iff.mp sameLength.symm).symm
  | cons byte rest ih =>
      cases second with
      | nil => simp at sameLength
      | cons other tail =>
          have lengths : rest.length = tail.length := by simpa using sameLength
          have low := value_lt rest
          have high := value_lt tail
          rw [value, value, ← lengths] at same
          rw [← lengths] at high
          have heads : byte.toNat = other.toNat := by
            have divided := congrArg (· / 256 ^ rest.length) same
            simpa [Nat.add_comm, Nat.add_mul_div_right, Nat.div_eq_of_lt, low, high] using divided
          rw [heads] at same
          rw [UInt8.toNat_inj.mp heads, ih lengths (by omega)]

theorem value_trim (digits : List UInt8) : value (trim digits) = value digits := by
  induction digits with
  | nil => rfl
  | cons byte rest ih =>
      by_cases zero : byte = 0
      · simp [trim, value, zero, ih]
      · simp [trim, zero]

theorem trim_minimal (digits : List UInt8) : Minimal (trim digits) := by
  induction digits with
  | nil => simp [Minimal, trim]
  | cons byte rest ih =>
      by_cases zero : byte = 0
      · simpa [trim, zero] using ih
      · simp [Minimal, trim, zero]

theorem length_trim_le (digits : List UInt8) : (trim digits).length ≤ digits.length := by
  induction digits with
  | nil => simp [trim]
  | cons byte rest ih =>
      by_cases zero : byte = 0
      · simp only [trim, zero, if_true, List.length_cons]
        omega
      · simp [trim, zero]

theorem drop_zeros (digits : List UInt8) :
    digits.drop (digits.takeWhile (· == 0)).length = trim digits := by
  induction digits with
  | nil => rfl
  | cons byte rest ih =>
      by_cases zero : byte = 0
      · simpa [trim, zero] using ih
      · simp [trim, zero]

theorem le_value {byte : UInt8} {rest : List UInt8} (minimal : Minimal (byte :: rest)) :
    256 ^ rest.length ≤ value (byte :: rest) := by
  have nonzero : byte ≠ 0 := by simpa [Minimal] using minimal
  have positive : 0 < byte.toNat := by
    rw [Nat.pos_iff_ne_zero]
    intro zero
    exact nonzero (UInt8.toNat_inj.mp zero)
  have scaled := Nat.mul_le_mul_right (256 ^ rest.length) positive
  rw [value]
  omega

theorem length_le_of_minimal {digits : List UInt8} {bound : Nat} (minimal : Minimal digits)
    (small : value digits < 256 ^ bound) : digits.length ≤ bound := by
  cases digits with
  | nil => simp
  | cons byte rest =>
      have low := le_value minimal
      exact (Nat.pow_lt_pow_iff_right (by norm_num)).mp (lt_of_le_of_lt low small)

theorem minimal_injective {first second : List UInt8} (firstMinimal : Minimal first)
    (secondMinimal : Minimal second) (same : value first = value second) : first = second := by
  apply value_injective _ same
  apply Nat.le_antisymm
  · exact length_le_of_minimal firstMinimal (same ▸ value_lt second)
  · exact length_le_of_minimal secondMinimal (same ▸ value_lt first)

def minimal (number : Nat) : List UInt8 :=
  if number = 0 then [] else minimal (number / 256) ++ [UInt8.ofNat number]

theorem value_append (first second : List UInt8) :
    value (first ++ second) = value first * 256 ^ second.length + value second := by
  induction first with
  | nil => simp [value]
  | cons byte rest ih =>
      rw [List.cons_append, value, value, ih, List.length_append, pow_add]
      ring

theorem value_zeros (count : Nat) : value (List.replicate count 0) = 0 := by
  induction count with
  | zero => rfl
  | succ count ih => simp [List.replicate_succ, value, ih]

theorem value_minimal (number : Nat) : value (minimal number) = number := by
  induction number using minimal.induct with
  | case1 => simp [minimal, value]
  | case2 number nonzero ih =>
      rw [minimal, if_neg nonzero, value_append, ih]
      simp only [value, List.length_singleton, List.length_nil, UInt8.toNat_ofNat']
      omega

theorem minimal_minimal (number : Nat) : Minimal (minimal number) := by
  induction number using minimal.induct with
  | case1 => simp [minimal, Minimal]
  | case2 number nonzero ih =>
      rw [minimal, if_neg nonzero]
      cases found : minimal (number / 256) with
      | nil =>
          have small : number / 256 = 0 := by rw [← value_minimal (number / 256), found, value]
          have byte : (UInt8.ofNat number).toNat = number := by
            rw [UInt8.toNat_ofNat']
            omega
          have kept : UInt8.ofNat number ≠ 0 := by
            intro zero
            rw [zero] at byte
            exact nonzero byte.symm
          simpa [Minimal] using kept
      | cons byte rest =>
          rw [found] at ih
          simpa [Minimal] using ih

@[simp] theorem minimal_zero : minimal 0 = [] := by
  rw [minimal, if_pos rfl]

theorem length_minimal_le {number width : Nat} (small : number < 256 ^ width) :
    (minimal number).length ≤ width := by
  apply length_le_of_minimal (minimal_minimal number)
  rwa [value_minimal]

theorem trim_bytes {width number : Nat} (small : number < 256 ^ width) :
    trim (bytes width number) = minimal number := by
  apply minimal_injective (trim_minimal _) (minimal_minimal _)
  rw [value_trim, value_bytes, value_minimal, Nat.mod_eq_of_lt small]

end BigEndian
