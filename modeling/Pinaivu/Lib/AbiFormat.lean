import Pinaivu.Lib.BigEndian
import Pinaivu.Lib.ByteReader

/-!
The contract ABI of argument lists: a head of one word for each argument, which for a dynamic one is the
offset of its tail, and then the tails. The decoder refuses padding that is not zero.
-/

namespace AbiFormat

open ByteReader

inductive Kind where
  | uint256
  | address
  | bytes
  deriving DecidableEq, Repr

inductive Value where
  | uint256 (number : BitVec 256)
  | address (address : Vector UInt8 20)
  | bytes (content : List UInt8)
  deriving DecidableEq, Repr

def Value.kind : Value → Kind
  | .uint256 _ => .uint256
  | .address _ => .address
  | .bytes _ => .bytes

def word (number : Nat) : List UInt8 := BigEndian.bytes 32 number

def padding (length : Nat) : List UInt8 := List.replicate ((32 - length % 32) % 32) 0

def head (offset : Nat) : Value → List UInt8
  | .uint256 number => word number.toNat
  | .address address => List.replicate 12 0 ++ address.toList
  | .bytes _ => word offset

def tail : Value → List UInt8
  | .bytes content => word content.length ++ (content ++ padding content.length)
  | _ => []

def heads : Nat → List Value → List UInt8
  | _, [] => []
  | offset, value :: rest => head offset value ++ heads (offset + (tail value).length) rest

def encode (values : List Value) : List UInt8 := heads (32 * values.length) values ++ values.flatMap tail

def number : Reader Nat := do
  let digits ← bytes 32
  pure (BigEndian.value digits)

def expect (text : List UInt8) : Reader Unit := do
  let read ← bytes text.length
  if read = text then pure () else failure

def addressWord : Reader (Vector UInt8 20) := do
  expect (List.replicate 12 0)
  block 20

def content : Reader (List UInt8) := do
  let length ← number
  let read ← bytes length
  expect (padding length)
  pure read

def decodeAt (data : List UInt8) (start : Nat) : Kind → Option Value
  | .uint256 => do
      let read ← readAt number data start
      return .uint256 (.ofNat 256 read)
  | .address => do
      let read ← readAt addressWord data start
      return .address read
  | .bytes => do
      let offset ← readAt number data start
      let read ← readAt content data offset
      return .bytes read

def decodeFrom (data : List UInt8) : Nat → List Kind → Option (List Value)
  | _, [] => some []
  | start, kind :: rest => do
      let value ← decodeAt data start kind
      let values ← decodeFrom data (start + 32) rest
      return value :: values

def decode (kinds : List Kind) (data : List UInt8) : Option (List Value) := decodeFrom data 0 kinds

@[simp] theorem length_word (value : Nat) : (word value).length = 32 := BigEndian.length_bytes 32 value

@[simp] theorem length_head (offset : Nat) (value : Value) : (head offset value).length = 32 := by
  cases value <;> simp [head]

theorem length_tail_mod (value : Value) : (tail value).length % 32 = 0 := by
  cases value with
  | bytes content =>
      simp only [tail, padding, List.length_append, length_word, List.length_replicate]
      omega
  | _ => rfl

@[simp] theorem length_heads (offset : Nat) (values : List Value) :
    (heads offset values).length = 32 * values.length := by
  induction values generalizing offset with
  | nil => rfl
  | cons value rest ih =>
      rw [heads, List.length_append, length_head, ih, List.length_cons]
      omega

theorem length_encode_mod (values : List Value) : (encode values).length % 32 = 0 := by
  have tails : (values.flatMap tail).length % 32 = 0 := by
    induction values with
    | nil => rfl
    | cons value rest ih =>
        have first := length_tail_mod value
        rw [List.flatMap_cons, List.length_append]
        omega
  rw [encode, List.length_append, length_heads]
  omega

theorem reads_number {value : Nat} (small : value < 256 ^ 32) : Reads number (word value) value := by
  have digits := reads_bytes (word value)
  rw [length_word] at digits
  have read := digits.map BigEndian.value
  rwa [word, BigEndian.value_bytes, Nat.mod_eq_of_lt small] at read

theorem reads_expect (text : List UInt8) : Reads (expect text) text () := by
  intro rest
  have taken := reads_bytes text rest
  have same : (if text = text then (pure () : Reader Unit) else failure) rest = some ((), rest) := by
    rw [if_pos rfl]
    rfl
  exact (congrArg (Option.bind · _) taken).trans same

theorem reads_addressWord (address : Vector UInt8 20) :
    Reads addressWord (List.replicate 12 0 ++ address.toList) address :=
  Reads.bind (reads_expect (List.replicate 12 0)) (reads_block address)

theorem reads_content {text : List UInt8} (small : text.length < 256 ^ 32) :
    Reads content (tail (.bytes text)) text := by
  have padded : Reads (do expect (padding text.length); pure text) (padding text.length ++ []) text :=
    Reads.bind (reads_expect (padding text.length)) (Reads.pure text)
  rw [List.append_nil] at padded
  exact Reads.bind (reads_number small) (Reads.bind (reads_bytes text) padded)

/-- A value is read back from its head, with its tail at the offset in the head. -/
theorem decodeAt_value {data : List UInt8} {start offset : Nat} {value : Value}
    (headAt : TextAt data start (head offset value)) (tailAt : TextAt data offset (tail value))
    (small : data.length < 256 ^ 32) : decodeAt data start value.kind = some value := by
  cases value with
  | uint256 stored =>
      have read := headAt.readAt (reads_number stored.isLt)
      rw [Value.kind, decodeAt, read]
      simp
  | address address =>
      have read := headAt.readAt (reads_addressWord address)
      rw [Value.kind, decodeAt, read]
      rfl
  | bytes text =>
      obtain ⟨before, after, joined, starts⟩ := tailAt
      have lengths := congrArg List.length joined
      simp only [tail, List.length_append, length_word] at lengths
      have offsetRead := headAt.readAt (reads_number (show offset < 256 ^ 32 by omega))
      have contentRead := TextAt.readAt ⟨before, after, joined, starts⟩
        (reads_content (show text.length < 256 ^ 32 by omega))
      rw [Value.kind, decodeAt, offsetRead, Option.bind_eq_bind, Option.bind_some, contentRead]
      rfl

theorem decodeFrom_values {data : List UInt8} {start offset : Nat} {values : List Value}
    (headsAt : TextAt data start (heads offset values)) (tailsAt : TextAt data offset (values.flatMap tail))
    (small : data.length < 256 ^ 32) : decodeFrom data start (values.map Value.kind) = some values := by
  induction values generalizing start offset with
  | nil => rfl
  | cons value rest ih =>
      rw [heads] at headsAt
      rw [List.flatMap_cons] at tailsAt
      have first := decodeAt_value headsAt.left tailsAt.left small
      have further := headsAt.right
      rw [length_head] at further
      have others := ih further tailsAt.right
      rw [List.map_cons, decodeFrom, first, others]
      rfl

theorem decode_encode (values : List Value) (small : (encode values).length < 256 ^ 32) :
    decode (values.map Value.kind) (encode values) = some values := by
  have start : TextAt (encode values) 0 (encode values) := ⟨[], [], by simp, rfl⟩
  have tails := start.right
  rw [length_heads, Nat.zero_add] at tails
  exact decodeFrom_values start.left tails small

end AbiFormat
