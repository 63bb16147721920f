import Mathlib.Tactic.Common

/-!
Readers of a byte string from the front, and what it means that a reader takes a
given string off the front of every input.
-/

namespace ByteReader

abbrev Reader (Value : Type) := StateT (List UInt8) Option Value

def byte : Reader UInt8
  | [] => none
  | first :: rest => some (first, rest)

def bytes (count : Nat) : Reader (List UInt8) := fun input =>
  if count ≤ input.length then some (input.take count, input.drop count) else none

def block (size : Nat) : Reader (Vector UInt8 size) := fun input =>
  if covered : size ≤ input.length then
    some (⟨(input.take size).toArray, by simp [covered]⟩, input.drop size)
  else none

def times {Value : Type} (reader : Reader Value) : Nat → Reader (List Value)
  | 0 => pure []
  | count + 1 => do
      let first ← reader
      let rest ← times reader count
      pure (first :: rest)

def readAll {Value : Type} (reader : Reader Value) (input : List UInt8) : Option Value :=
  match reader input with
  | some (value, []) => some value
  | _ => none

def Reads {Value : Type} (reader : Reader Value) (text : List UInt8) (value : Value) : Prop :=
  ∀ rest, reader (text ++ rest) = some (value, rest)

variable {First Second Value : Type}

theorem Reads.pure (value : Value) : Reads (Pure.pure value : Reader Value) [] value :=
  fun _ => rfl

theorem Reads.bind {reader : Reader First} {next : First → Reader Second}
    {text more : List UInt8} {first : First} {second : Second} (head : Reads reader text first)
    (tail : Reads (next first) more second) : Reads (reader >>= next) (text ++ more) second := by
  intro rest
  have found := head (more ++ rest)
  rw [← List.append_assoc] at found
  exact (congrArg (Option.bind · _) found).trans (tail rest)

theorem Reads.map {reader : Reader First} {text : List UInt8} {first : First}
    (head : Reads reader text first) (change : First → Second) :
    Reads (reader >>= fun value => Pure.pure (change value)) text (change first) := by
  intro rest
  exact congrArg (Option.bind · _) (head rest)

theorem reads_byte (value : UInt8) : Reads byte [value] value :=
  fun _ => rfl

theorem reads_bytes (text : List UInt8) : Reads (bytes text.length) text text := by
  intro rest
  simp [bytes]

theorem reads_block {size : Nat} (value : Vector UInt8 size) :
    Reads (block size) value.toList value := by
  intro rest
  have length : value.toList.length = size := value.length_toList
  have covered : size ≤ (value.toList ++ rest).length := by
    rw [List.length_append]
    omega
  simp only [block, dif_pos covered, List.take_left' length, List.drop_left' length,
    Vector.toArray_toList]

theorem Reads.times {reader : Reader Value} {encode : Value → List UInt8} (values : List Value)
    (each : ∀ value ∈ values, Reads reader (encode value) value) :
    Reads (ByteReader.times reader values.length) (values.flatMap encode) values := by
  induction values with
  | nil => exact Reads.pure []
  | cons first rest ih =>
      have head := each first (List.mem_cons_self ..)
      have tail := ih fun value member => each value (List.mem_cons_of_mem _ member)
      exact Reads.bind head (tail.map (first :: ·))

theorem readAll_eq {reader : Reader Value} {text : List UInt8} {value : Value}
    (reads : Reads reader text value) : readAll reader text = some value := by
  have found := reads []
  rw [List.append_nil] at found
  simp only [readAll, found]

def TextAt (buffer : List UInt8) (offset : Nat) (text : List UInt8) : Prop :=
  ∃ before after, buffer = before ++ text ++ after ∧ before.length = offset

theorem TextAt.left {buffer first second : List UInt8} {offset : Nat} (found : TextAt buffer offset (first ++ second)) :
    TextAt buffer offset first := by
  obtain ⟨before, after, rfl, length⟩ := found
  exact ⟨before, second ++ after, by simp, length⟩

theorem TextAt.right {buffer first second : List UInt8} {offset : Nat}
    (found : TextAt buffer offset (first ++ second)) : TextAt buffer (offset + first.length) second := by
  obtain ⟨before, after, rfl, length⟩ := found
  exact ⟨before ++ first, after, by simp, by simp [length]⟩

theorem TextAt.take_drop {buffer text : List UInt8} {offset : Nat} (found : TextAt buffer offset text) :
    (buffer.drop offset).take text.length = text := by
  obtain ⟨before, after, rfl, rfl⟩ := found
  simp

/-- What is read at an offset, whatever follows it. -/
def readAt (reader : Reader Value) (buffer : List UInt8) (offset : Nat) : Option Value :=
  (reader (buffer.drop offset)).map Prod.fst

theorem TextAt.readAt {reader : Reader Value} {buffer text : List UInt8} {offset : Nat} {value : Value}
    (found : TextAt buffer offset text) (reads : Reads reader text value) :
    ByteReader.readAt reader buffer offset = some value := by
  obtain ⟨before, after, rfl, rfl⟩ := found
  rw [ByteReader.readAt, List.append_assoc, List.drop_left, reads after]
  rfl

end ByteReader
