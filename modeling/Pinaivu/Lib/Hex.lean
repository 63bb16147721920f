import Mathlib.Data.Nat.Digits.Lemmas
import Mathlib.Logic.Function.Basic

/-!
Hexadecimal text of byte strings: lower-case output, and input in either case.
-/

namespace Hex

def digit (value : Nat) : Char :=
  if value < 10 then Char.ofNat (48 + value) else Char.ofNat (87 + value)

def digitValue (char : Char) : Option Nat :=
  if '0' ≤ char ∧ char ≤ '9' then some (char.toNat - 48)
  else if 'a' ≤ char ∧ char ≤ 'f' then some (char.toNat - 87)
  else if 'A' ≤ char ∧ char ≤ 'F' then some (char.toNat - 55)
  else none

theorem digitValue_digit : ∀ value < 16, digitValue (digit value) = some value := by
  decide

def encode : List UInt8 → List Char
  | [] => []
  | byte :: rest => digit (byte.toNat / 16) :: digit (byte.toNat % 16) :: encode rest

/-- `none` for an odd number of characters or a character that is no digit. -/
def decode : List Char → Option (List UInt8)
  | [] => some []
  | [_] => none
  | high :: low :: rest => do
      let upper ← digitValue high
      let lower ← digitValue low
      let bytes ← decode rest
      return UInt8.ofNat (16 * upper + lower) :: bytes

theorem decode_encode (bytes : List UInt8) : decode (encode bytes) = some bytes := by
  induction bytes with
  | nil => rfl
  | cons byte rest ih =>
      have bound := byte.toNat_lt
      have upper := digitValue_digit (byte.toNat / 16) (by omega)
      have lower := digitValue_digit (byte.toNat % 16) (by omega)
      have whole : UInt8.ofNat (16 * (byte.toNat / 16) + byte.toNat % 16) = byte := by
        rw [Nat.div_add_mod, UInt8.ofNat_toNat]
      simp only [encode, decode, upper, lower, ih, whole, Option.bind_eq_bind, Option.bind_some,
        Option.pure_def]

theorem encode_injective : Function.Injective encode := by
  intro first second same
  have decoded := congrArg decode same
  simpa only [decode_encode, Option.some.injEq] using decoded

theorem length_encode (bytes : List UInt8) : (encode bytes).length = 2 * bytes.length := by
  induction bytes with
  | nil => rfl
  | cons byte rest ih =>
      simp only [encode, List.length_cons, ih]
      omega

theorem take_encode (bytes : List UInt8) (count : Nat) :
    (encode bytes).take (2 * count) = encode (bytes.take count) := by
  induction count generalizing bytes with
  | zero => simp [encode]
  | succ count ih =>
      cases bytes with
      | nil => rfl
      | cons byte rest => simp [encode, Nat.mul_succ, ih]

theorem mem_encode {bytes : List UInt8} {char : Char} (member : char ∈ encode bytes) :
    ∃ value < 16, char = digit value := by
  induction bytes with
  | nil => simp [encode] at member
  | cons byte rest ih =>
      have bound := byte.toNat_lt
      simp only [encode, List.mem_cons] at member
      rcases member with rfl | rfl | later
      · exact ⟨_, by omega, rfl⟩
      · exact ⟨_, by omega, rfl⟩
      · exact ih later

def number (digits : List Char) : Option Nat :=
  (digits.mapM digitValue).map fun values => Nat.ofDigits 16 values.reverse

theorem digitValue_lt {char : Char} {value : Nat} (found : digitValue char = some value) : value < 16 := by
  unfold digitValue at found
  split_ifs at found with decimal lower upper
  · have bound : char.toNat ≤ 57 := decimal.2
    simp only [Option.some.injEq] at found
    omega
  · have bound : char.toNat ≤ 102 := lower.2
    simp only [Option.some.injEq] at found
    omega
  · have bound : char.toNat ≤ 70 := upper.2
    simp only [Option.some.injEq] at found
    omega

theorem mapM_digitValue_lt {digits : List Char} {values : List Nat}
    (found : digits.mapM digitValue = some values) :
    values.length = digits.length ∧ ∀ value ∈ values, value < 16 := by
  induction digits generalizing values with
  | nil =>
      obtain rfl : [] = values := by simpa using found
      simp
  | cons char rest ih =>
      simp only [List.mapM_cons, Option.bind_eq_bind, Option.pure_def, Option.bind_eq_some_iff,
        Option.some.injEq] at found
      obtain ⟨first, digit, others, later, rfl⟩ := found
      obtain ⟨length, bounds⟩ := ih later
      refine ⟨by simp [length], ?_⟩
      intro value member
      rcases List.mem_cons.mp member with rfl | member
      · exact digitValue_lt digit
      · exact bounds value member

theorem digit_of_number {digits : List Char} {value : Nat} (found : number digits = some value) :
    ∀ char ∈ digits, (digitValue char).isSome := by
  obtain ⟨values, read, -⟩ := Option.map_eq_some_iff.mp found
  intro char member
  by_contra none
  obtain ⟨before, after, rfl⟩ := List.append_of_mem member
  rw [Option.not_isSome_iff_eq_none] at none
  simp [List.mapM_append, List.mapM_cons, none] at read

theorem utf8Size_digit {char : Char} (digit : (digitValue char).isSome) : char.utf8Size = 1 := by
  have ascii : char.val ≤ 127 := by
    unfold digitValue at digit
    split_ifs at digit with decimal lower upper
    · have bound : char.toNat ≤ 57 := decimal.2
      exact UInt32.le_iff_toNat_le.mpr (bound.trans (by decide))
    · have bound : char.toNat ≤ 102 := lower.2
      exact UInt32.le_iff_toNat_le.mpr (bound.trans (by decide))
    · have bound : char.toNat ≤ 70 := upper.2
      exact UInt32.le_iff_toNat_le.mpr (bound.trans (by decide))
    · contradiction
  exact if_pos ascii

theorem number_append {high low : List Char} {value : Nat} (found : number (high ++ low) = some value) :
    ∃ upper lower, number low = some lower ∧ lower < 16 ^ low.length ∧
      value = lower + 16 ^ low.length * upper := by
  simp only [number, List.mapM_append, Option.bind_eq_bind, Option.pure_def, Option.map_eq_some_iff,
    Option.bind_eq_some_iff, Option.some.injEq] at found
  obtain ⟨_, ⟨highs, _, lows, lowDigits, rfl⟩, rfl⟩ := found
  obtain ⟨length, bounds⟩ := mapM_digitValue_lt lowDigits
  refine ⟨Nat.ofDigits 16 highs.reverse, Nat.ofDigits 16 lows.reverse, ?_, ?_, ?_⟩
  · simp [number, lowDigits]
  · have below := Nat.ofDigits_lt_base_pow_length (b := 16) (l := lows.reverse) (by decide)
      (fun value member => bounds value (List.mem_reverse.mp member))
    rwa [List.length_reverse, length] at below
  · rw [List.reverse_append, Nat.ofDigits_append, List.length_reverse, length]

end Hex
