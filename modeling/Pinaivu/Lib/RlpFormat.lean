import Pinaivu.Lib.BigEndian

/-!
The recursive length prefix format: byte strings and lists of items, with one
encoding for each item. The decoder refuses every other encoding.
-/

namespace Rlp

inductive Item where
  | bytes (data : List UInt8)
  | list (items : List Item)

def lengthPrefix (length offset : Nat) : List UInt8 :=
  if length < 56 then [UInt8.ofNat (offset + length)]
  else
    let digits := BigEndian.minimal length
    UInt8.ofNat (offset + 55 + digits.length) :: digits

/-- A single byte below `0x80` is its own encoding. -/
def selfEncoded : List UInt8 → Bool
  | [byte] => byte < 0x80
  | _ => false

def encodeBytes (data : List UInt8) : List UInt8 :=
  if selfEncoded data then data else lengthPrefix data.length 0x80 ++ data

mutual

def encode : Item → List UInt8
  | .bytes data => encodeBytes data
  | .list items => lengthPrefix (encodeAll items).length 0xc0 ++ encodeAll items

def encodeAll : List Item → List UInt8
  | [] => []
  | item :: rest => encode item ++ encodeAll rest

end

def payloadLength : Item → Nat
  | .bytes data => data.length
  | .list items => (encodeAll items).length

inductive Kind where
  | bytes
  | list
  deriving DecidableEq

def Kind.offset : Kind → Nat
  | .bytes => 0x80
  | .list => 0xc0

def take (count : Nat) (input : List UInt8) : Option (List UInt8 × List UInt8) :=
  if count ≤ input.length then some (input.take count, input.drop count) else none

def takeLength (count : Nat) (input : List UInt8) : Option (Nat × List UInt8) := do
  let (digits, rest) ← take count input
  if digits.head? = some 0 ∨ BigEndian.value digits < 56 then none
  else some (BigEndian.value digits, rest)

def takeShort (kind : Kind) (length : Nat) (input : List UInt8) :
    Option (Kind × List UInt8 × List UInt8) := do
  let (payload, rest) ← take length input
  if kind = .bytes ∧ selfEncoded payload then none else some (kind, payload, rest)

def takeLong (kind : Kind) (count : Nat) (input : List UInt8) :
    Option (Kind × List UInt8 × List UInt8) := do
  let (length, input) ← takeLength count input
  let (payload, rest) ← take length input
  some (kind, payload, rest)

def header : List UInt8 → Option (Kind × List UInt8 × List UInt8)
  | [] => none
  | first :: input =>
      let tag := first.toNat
      if tag < 0x80 then some (.bytes, [first], input)
      else if tag < 0xb8 then takeShort .bytes (tag - 0x80) input
      else if tag < 0xc0 then takeLong .bytes (tag - 0xb7) input
      else if tag < 0xf8 then takeShort .list (tag - 0xc0) input
      else takeLong .list (tag - 0xf7) input

theorem take_lengths {count : Nat} {input payload rest : List UInt8}
    (found : take count input = some (payload, rest)) :
    payload.length + rest.length = input.length := by
  unfold take at found
  split at found
  · rename_i covered
    obtain ⟨rfl, rfl⟩ := Prod.mk.inj (Option.some.inj found)
    rw [List.length_take, List.length_drop]
    omega
  · cases found

theorem takeLength_le {count length : Nat} {input rest : List UInt8}
    (found : takeLength count input = some (length, rest)) : rest.length ≤ input.length := by
  simp only [takeLength, Option.bind_eq_bind, Option.bind_eq_some_iff, Prod.exists] at found
  obtain ⟨digits, tail, split, found⟩ := found
  have lengths := take_lengths split
  split at found
  · cases found
  · obtain ⟨-, rfl⟩ := Prod.mk.inj (Option.some.inj found)
    omega

theorem takeShort_lengths {kind found : Kind} {length : Nat} {input payload rest : List UInt8}
    (split : takeShort kind length input = some (found, payload, rest)) :
    payload.length + rest.length ≤ input.length := by
  simp only [takeShort, Option.bind_eq_bind, Option.bind_eq_some_iff, Prod.exists] at split
  obtain ⟨data, tail, taken, split⟩ := split
  have lengths := take_lengths taken
  split at split
  · cases split
  · obtain ⟨-, rfl, rfl⟩ := Option.some.inj split
    omega

theorem takeLong_lengths {kind found : Kind} {count : Nat} {input payload rest : List UInt8}
    (split : takeLong kind count input = some (found, payload, rest)) :
    payload.length + rest.length ≤ input.length := by
  simp only [takeLong, Option.bind_eq_bind, Option.bind_eq_some_iff, Prod.exists] at split
  obtain ⟨length, middle, counted, data, tail, taken, split⟩ := split
  have shorter := takeLength_le counted
  have lengths := take_lengths taken
  obtain ⟨-, rfl, rfl⟩ := Option.some.inj split
  omega

theorem header_lengths {input payload rest : List UInt8} {kind : Kind}
    (found : header input = some (kind, payload, rest)) :
    rest.length < input.length ∧ (kind = .list → payload.length < input.length) := by
  cases input with
  | nil => cases found
  | cons first input =>
      rw [List.length_cons]
      simp only [header] at found
      split at found
      · obtain ⟨rfl, rfl, rfl⟩ := Option.some.inj found
        simp
      · have lengths : payload.length + rest.length ≤ input.length := by
          split at found
          · exact takeShort_lengths found
          · split at found
            · exact takeLong_lengths found
            · split at found
              · exact takeShort_lengths found
              · exact takeLong_lengths found
        omega

def decodeItems (input : List UInt8) : Option (List Item) :=
  if input = [] then some []
  else
    match _found : header input with
    | none => none
    | some (.bytes, payload, rest) => (decodeItems rest).map (Item.bytes payload :: ·)
    | some (.list, payload, rest) =>
        match decodeItems payload, decodeItems rest with
        | some items, some later => some (Item.list items :: later)
        | _, _ => none
termination_by input.length
decreasing_by
  · exact (header_lengths _found).1
  · exact (header_lengths _found).2 rfl
  · exact (header_lengths _found).1

def decode (input : List UInt8) : Option (Item × List UInt8) :=
  match header input with
  | none => none
  | some (.bytes, payload, rest) => some (.bytes payload, rest)
  | some (.list, payload, rest) => (decodeItems payload).map fun items => (.list items, rest)

theorem take_append (payload rest : List UInt8) :
    take payload.length (payload ++ rest) = some (payload, rest) := by
  simp [take]

theorem takeLength_append {length : Nat} (long : 56 ≤ length) (rest : List UInt8) :
    takeLength (BigEndian.minimal length).length (BigEndian.minimal length ++ rest) =
      some (length, rest) := by
  have minimal := BigEndian.minimal_minimal length
  have value := BigEndian.value_minimal length
  have accepted : ¬((BigEndian.minimal length).head? = some 0 ∨
      BigEndian.value (BigEndian.minimal length) < 56) := by
    rw [value]
    intro refused
    rcases refused with zero | short
    · exact minimal zero
    · omega
  simp only [takeLength, take_append, Option.bind_eq_bind, Option.bind_some]
  rw [if_neg accepted, value]

theorem length_minimal_pos {length : Nat} (long : 56 ≤ length) :
    0 < (BigEndian.minimal length).length := by
  rw [List.length_pos_iff]
  intro empty
  have value := BigEndian.value_minimal length
  rw [empty, BigEndian.value] at value
  omega

theorem takeShort_append {kind : Kind} {payload : List UInt8}
    (prefixed : ¬(kind = .bytes ∧ selfEncoded payload = true)) (rest : List UInt8) :
    takeShort kind payload.length (payload ++ rest) = some (kind, payload, rest) := by
  simp only [takeShort, take_append, Option.bind_eq_bind, Option.bind_some]
  rw [if_neg prefixed]

theorem takeLong_append (kind : Kind) {payload : List UInt8} (long : 56 ≤ payload.length)
    (rest : List UInt8) :
    takeLong kind (BigEndian.minimal payload.length).length
      (BigEndian.minimal payload.length ++ (payload ++ rest)) = some (kind, payload, rest) := by
  simp only [takeLong, takeLength_append long, take_append, Option.bind_eq_bind, Option.bind_some]

theorem Kind.offset_le (kind : Kind) : kind.offset ≤ 0xc0 := by
  cases kind with
  | bytes => decide
  | list => decide

theorem Kind.toNat_tag (kind : Kind) {extra : Nat} (small : extra < 64) :
    (UInt8.ofNat (kind.offset + extra)).toNat = kind.offset + extra := by
  have bound := kind.offset_le
  rw [UInt8.toNat_ofNat']
  omega

theorem header_short (kind : Kind) {length : Nat} (short : length < 56) (input : List UInt8) :
    header (UInt8.ofNat (kind.offset + length) :: input) = takeShort kind length input := by
  have tag := kind.toNat_tag (show length < 64 by omega)
  simp only [header, tag]
  cases kind with
  | bytes =>
      have offset : Kind.bytes.offset = 0x80 := rfl
      rw [if_neg (by omega), if_pos (by omega), offset, Nat.add_sub_cancel_left]
  | list =>
      have offset : Kind.list.offset = 0xc0 := rfl
      rw [if_neg (by omega), if_neg (by omega), if_neg (by omega), if_pos (by omega), offset,
        Nat.add_sub_cancel_left]

theorem header_long (kind : Kind) {count : Nat} (positive : 0 < count) (small : count ≤ 8)
    (input : List UInt8) :
    header (UInt8.ofNat (kind.offset + 55 + count) :: input) = takeLong kind count input := by
  have tag := kind.toNat_tag (show 55 + count < 64 by omega)
  rw [← Nat.add_assoc] at tag
  simp only [header, tag]
  cases kind with
  | bytes =>
      have offset : Kind.bytes.offset = 0x80 := rfl
      rw [if_neg (by omega), if_neg (by omega), if_pos (by omega), offset, Nat.add_sub_cancel_left]
  | list =>
      have offset : Kind.list.offset = 0xc0 := rfl
      rw [if_neg (by omega), if_neg (by omega), if_neg (by omega), if_neg (by omega), offset,
        Nat.add_sub_cancel_left]

theorem header_lengthPrefix (kind : Kind) {payload : List UInt8} (small : payload.length < 2 ^ 64)
    (prefixed : ¬(kind = .bytes ∧ selfEncoded payload = true)) (rest : List UInt8) :
    header (lengthPrefix payload.length kind.offset ++ payload ++ rest) =
      some (kind, payload, rest) := by
  unfold lengthPrefix
  split
  · rename_i short
    rw [List.append_assoc, List.singleton_append, header_short kind short, takeShort_append prefixed]
  · rename_i long
    have long : 56 ≤ payload.length := by omega
    rw [List.append_assoc, List.cons_append,
      header_long kind (length_minimal_pos long) (BigEndian.length_minimal_le small),
      takeLong_append kind long]

theorem length_lengthPrefix_le {length : Nat} (small : length < 2 ^ 64) (offset : Nat) :
    (lengthPrefix length offset).length ≤ 9 := by
  have digits : (BigEndian.minimal length).length ≤ 8 := BigEndian.length_minimal_le small
  unfold lengthPrefix
  split
  · simp
  · rw [List.length_cons]
    omega

theorem length_encode_bytes_le {data : List UInt8} (small : data.length < 2 ^ 64) :
    (encode (.bytes data)).length ≤ data.length + 9 := by
  have bound := length_lengthPrefix_le small 0x80
  rw [encode, encodeBytes]
  split
  · omega
  · rw [List.length_append]
    omega

theorem header_bytes {data : List UInt8} (small : data.length < 2 ^ 64) (rest : List UInt8) :
    header (encodeBytes data ++ rest) = some (.bytes, data, rest) := by
  unfold encodeBytes
  split
  · rename_i single
    cases data with
    | nil => simp [selfEncoded] at single
    | cons byte tail =>
        cases tail with
        | nil =>
            have low : byte.toNat < 0x80 := by
              simpa [selfEncoded, UInt8.lt_iff_toNat_lt] using single
            simp [header, low]
        | cons _ _ => simp [selfEncoded] at single
  · rename_i prefixed
    exact header_lengthPrefix .bytes small (fun both => prefixed both.2) rest

theorem header_list {payload : List UInt8} (small : payload.length < 2 ^ 64) (rest : List UInt8) :
    header (lengthPrefix payload.length 0xc0 ++ payload ++ rest) = some (.list, payload, rest) :=
  header_lengthPrefix .list small (by simp) rest

theorem ne_nil_of_header {input : List UInt8} {split : Kind × List UInt8 × List UInt8}
    (found : header input = some split) : input ≠ [] := by
  rintro rfl
  cases found

theorem decodeItems_of_header_bytes {input payload rest : List UInt8}
    (found : header input = some (.bytes, payload, rest)) :
    decodeItems input = (decodeItems rest).map (Item.bytes payload :: ·) := by
  rw [decodeItems, if_neg (ne_nil_of_header found)]
  split
  · rename_i missing
    rw [found] at missing
    cases missing
  · rename_i other
    rw [found] at other
    obtain ⟨-, rfl, rfl⟩ := Option.some.inj other
    rfl
  · rename_i other
    rw [found] at other
    cases other

theorem decodeItems_of_header_list {input payload rest : List UInt8} {items later : List Item}
    (found : header input = some (.list, payload, rest)) (inner : decodeItems payload = some items)
    (outer : decodeItems rest = some later) :
    decodeItems input = some (.list items :: later) := by
  rw [decodeItems, if_neg (ne_nil_of_header found)]
  split
  · rename_i missing
    rw [found] at missing
    cases missing
  · rename_i other
    rw [found] at other
    cases other
  · rename_i other
    rw [found] at other
    obtain ⟨-, rfl, rfl⟩ := Option.some.inj other
    rw [inner, outer]

theorem payloadLength_le (item : Item) : payloadLength item ≤ (encode item).length := by
  cases item with
  | bytes data =>
      simp only [payloadLength, encode, encodeBytes]
      split
      · exact Nat.le_refl _
      · simp
  | list items => simp [payloadLength, encode]

mutual

theorem decodeItems_encode_append (item : Item) (small : payloadLength item < 2 ^ 64)
    {rest : List UInt8} {later : List Item} (tail : decodeItems rest = some later) :
    decodeItems (encode item ++ rest) = some (item :: later) := by
  cases item with
  | bytes data =>
      rw [encode, decodeItems_of_header_bytes (header_bytes small rest), tail, Option.map_some]
  | list items =>
      rw [encode]
      exact decodeItems_of_header_list (header_list small rest) (decodeItems_encodeAll items small)
        tail

theorem decodeItems_encodeAll (items : List Item) (small : (encodeAll items).length < 2 ^ 64) :
    decodeItems (encodeAll items) = some items := by
  cases items with
  | nil => simp [encodeAll, decodeItems]
  | cons item rest =>
      rw [encodeAll, List.length_append] at small
      have bound := payloadLength_le item
      exact decodeItems_encode_append item (by omega) (decodeItems_encodeAll rest (by omega))

end

theorem decode_encode_append (item : Item) (small : payloadLength item < 2 ^ 64)
    (rest : List UInt8) : decode (encode item ++ rest) = some (item, rest) := by
  cases item with
  | bytes data => simp only [decode, encode, header_bytes small]
  | list items =>
      simp only [decode, encode, header_list small, decodeItems_encodeAll items small,
        Option.map_some]

theorem encode_injective {first second : Item} (firstSmall : payloadLength first < 2 ^ 64)
    (secondSmall : payloadLength second < 2 ^ 64) (same : encode first = encode second) :
    first = second := by
  have decoded := decode_encode_append first firstSmall []
  rw [same, decode_encode_append second secondSmall []] at decoded
  exact (Prod.mk.inj (Option.some.inj decoded)).1.symm

end Rlp
