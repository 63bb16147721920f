import Mathlib.Data.Nat.Basic

/-!
Base64 text of byte strings in the standard alphabet, padded; only canonical text is read.
-/

namespace Base64

def digit (value : Nat) : Char :=
  if value < 26 then Char.ofNat (65 + value)
  else if value < 52 then Char.ofNat (71 + value)
  else if value < 62 then Char.ofNat (value - 4)
  else if value = 62 then '+'
  else '/'

def digitValue (char : Char) : Option Nat :=
  if 'A' ≤ char ∧ char ≤ 'Z' then some (char.toNat - 65)
  else if 'a' ≤ char ∧ char ≤ 'z' then some (char.toNat - 71)
  else if '0' ≤ char ∧ char ≤ '9' then some (char.toNat + 4)
  else if char = '+' then some 62
  else if char = '/' then some 63
  else none

def encode : List UInt8 → List Char
  | [] => []
  | [first] => [digit (first.toNat / 4), digit (first.toNat % 4 * 16), '=', '=']
  | [first, second] =>
      [digit (first.toNat / 4), digit (first.toNat % 4 * 16 + second.toNat / 16),
        digit (second.toNat % 16 * 4), '=']
  | first :: second :: third :: rest =>
      digit (first.toNat / 4) :: digit (first.toNat % 4 * 16 + second.toNat / 16) ::
        digit (second.toNat % 16 * 4 + third.toNat / 64) :: digit (third.toNat % 64) :: encode rest

/-- The bytes of a last quadruple that is padded; the bits that no byte takes are zero. -/
def decodePadded (first second third fourth : Char) : Option (List UInt8) := do
  let one ← digitValue first
  let two ← digitValue second
  if fourth ≠ '=' then none
  else if third = '=' then
    if two % 16 = 0 then some [UInt8.ofNat (one * 4 + two / 16)] else none
  else
    let three ← digitValue third
    if three % 4 = 0 then
      some [UInt8.ofNat (one * 4 + two / 16), UInt8.ofNat (two % 16 * 16 + three / 4)]
    else none

def decodeWhole (first second third fourth : Char) : Option (List UInt8) := do
  let one ← digitValue first
  let two ← digitValue second
  let three ← digitValue third
  let four ← digitValue fourth
  return [UInt8.ofNat (one * 4 + two / 16), UInt8.ofNat (two % 16 * 16 + three / 4),
    UInt8.ofNat (three % 4 * 64 + four)]

def decode : List Char → Option (List UInt8)
  | [] => some []
  | [first, second, third, '='] => decodePadded first second third '='
  | first :: second :: third :: fourth :: rest => do
      let head ← decodeWhole first second third fourth
      let tail ← decode rest
      return head ++ tail
  | _ => none

theorem digitValue_digit : ∀ value < 64, digitValue (digit value) = some value := by
  decide

theorem digit_ne_pad : ∀ value < 64, digit value ≠ '=' := by
  decide

theorem decodeWhole_digits {first second third : UInt8} :
    decodeWhole (digit (first.toNat / 4)) (digit (first.toNat % 4 * 16 + second.toNat / 16))
      (digit (second.toNat % 16 * 4 + third.toNat / 64)) (digit (third.toNat % 64)) =
      some [first, second, third] := by
  have firstBound := first.toNat_lt
  have secondBound := second.toNat_lt
  have thirdBound := third.toNat_lt
  have one : first.toNat / 4 * 4 + (first.toNat % 4 * 16 + second.toNat / 16) / 16 = first.toNat := by omega
  have two : (first.toNat % 4 * 16 + second.toNat / 16) % 16 * 16 +
      (second.toNat % 16 * 4 + third.toNat / 64) / 4 = second.toNat := by omega
  have three : (second.toNat % 16 * 4 + third.toNat / 64) % 4 * 64 + third.toNat % 64 = third.toNat := by omega
  rw [decodeWhole, digitValue_digit _ (by omega), digitValue_digit _ (by omega), digitValue_digit _ (by omega),
    digitValue_digit _ (by omega)]
  simp only [Option.bind_eq_bind, Option.bind_some, Option.pure_def, one, two, three, UInt8.ofNat_toNat]

theorem decodePadded_one (first : UInt8) :
    decodePadded (digit (first.toNat / 4)) (digit (first.toNat % 4 * 16)) '=' '=' = some [first] := by
  have bound := first.toNat_lt
  have whole : first.toNat / 4 * 4 + first.toNat % 4 * 16 / 16 = first.toNat := by omega
  have zeros : first.toNat % 4 * 16 % 16 = 0 := by omega
  rw [decodePadded, digitValue_digit _ (by omega), digitValue_digit _ (by omega)]
  simp only [Option.bind_eq_bind, Option.bind_some, ne_eq, not_true_eq_false, if_false, if_true, zeros, whole,
    UInt8.ofNat_toNat]

theorem decodePadded_two (first second : UInt8) :
    decodePadded (digit (first.toNat / 4)) (digit (first.toNat % 4 * 16 + second.toNat / 16))
      (digit (second.toNat % 16 * 4)) '=' = some [first, second] := by
  have firstBound := first.toNat_lt
  have secondBound := second.toNat_lt
  have one : first.toNat / 4 * 4 + (first.toNat % 4 * 16 + second.toNat / 16) / 16 = first.toNat := by omega
  have two : (first.toNat % 4 * 16 + second.toNat / 16) % 16 * 16 + second.toNat % 16 * 4 / 4 = second.toNat := by
    omega
  have zeros : second.toNat % 16 * 4 % 4 = 0 := by omega
  have noPad : digit (second.toNat % 16 * 4) ≠ '=' := digit_ne_pad _ (by omega)
  rw [decodePadded, digitValue_digit _ (by omega), digitValue_digit _ (by omega), digitValue_digit _ (by omega)]
  simp only [Option.bind_eq_bind, Option.bind_some, ne_eq, not_true_eq_false, if_false, if_true, noPad, zeros, one,
    two, UInt8.ofNat_toNat]

theorem decode_encode (bytes : List UInt8) : decode (encode bytes) = some bytes := by
  induction bytes using encode.induct with
  | case1 => rfl
  | case2 first => exact decodePadded_one first
  | case3 first second => exact decodePadded_two first second
  | case4 first second third rest ih =>
      have bound := third.toNat_lt
      have noPad : digit (third.toNat % 64) ≠ '=' := digit_ne_pad _ (by omega)
      rw [encode, decode]
      · rw [decodeWhole_digits, ih]
        rfl
      · rintro pad -
        exact noPad pad

end Base64
