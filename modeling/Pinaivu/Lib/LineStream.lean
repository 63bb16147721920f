import Mathlib.Data.List.Basic

/-!
Lines of text that arrive as bytes in pieces. A decoder turns each piece into the characters that it
completes, and a reader hands over every line that it has seen to its end, until a line stops it.
-/

namespace LineStream

def utf8 (text : List Char) : List UInt8 := text.flatMap String.utf8EncodeChar

theorem toUTF8_ofList (text : List Char) : (String.ofList text).toUTF8.data.toList = utf8 text := by
  have bytes : (String.ofList text).toUTF8 = (utf8 text).toByteArray := rfl
  rw [bytes, List.data_toByteArray, List.toList_toArray]

theorem newline_not_mem_utf8 {text : List Char} (closed : '\n' ∉ text) : (10 : UInt8) ∉ utf8 text := by
  intro member
  obtain ⟨char, inside, byte⟩ := List.mem_flatMap.mp member
  have other : char.val.toNat ≠ 10 := by
    intro same
    have newline : char = '\n' := Char.ext (UInt32.toNat_inj.mp same)
    exact closed (newline ▸ inside)
  have values : ∀ value : Nat, (10 : UInt8) = UInt8.ofNat value → value % 256 = 10 := by
    intro value same
    simpa using (congrArg UInt8.toNat same).symm
  simp only [String.utf8EncodeChar] at byte
  split at byte
  · have value := values _ (List.mem_singleton.mp byte)
    omega
  · split at byte
    · simp only [List.mem_cons, List.not_mem_nil, or_false] at byte
      rcases byte with byte | byte <;> have value := values _ byte <;> omega
    · split at byte
      · simp only [List.mem_cons, List.not_mem_nil, or_false] at byte
        rcases byte with byte | byte | byte <;> have value := values _ byte <;> omega
      · simp only [List.mem_cons, List.not_mem_nil, or_false] at byte
        rcases byte with byte | byte | byte | byte <;> have value := values _ byte <;> omega

section

variable {State : Type} (decode : State → List UInt8 → List Char × State)

def decodeAll : State → List (List UInt8) → List Char
  | _, [] => []
  | state, piece :: rest => (decode state piece).1 ++ decodeAll (decode state piece).2 rest

end

theorem flatten_bytewise (bytes : List UInt8) : (bytes.map ([·])).flatten = bytes := by
  rw [← List.flatMap_def, List.flatMap_singleton']

def byteOrderMark : Char := Char.ofNat 0xFEFF

/-- A streaming decoder gives the text back, however its bytes are divided; a mark in front of the text
may be dropped. -/
structure Decoder where
  State : Type
  start : State
  decode : State → List UInt8 → List Char × State
  decodeAll_utf8 : ∀ (text : List Char) (pieces : List (List UInt8)), text.head? ≠ some byteOrderMark →
    pieces.flatten = utf8 text → decodeAll decode start pieces = text

section

variable {Output : Type} (handle : List Char → List Output × Bool)

/-- The outputs of the lines up to the first that stops, and whether one does. -/
def handleLines : List (List Char) → List Output × Bool
  | [] => ([], false)
  | line :: rest =>
      if (handle line).2 then ((handle line).1, true)
      else ((handle line).1 ++ (handleLines rest).1, (handleLines rest).2)

/-- `buffer` holds the line that has not ended yet. -/
def read (decoder : Decoder) : decoder.State → List Char → List (List UInt8) → List Output × Bool
  | _, _, [] => ([], false)
  | state, buffer, piece :: rest =>
      let lines := (buffer ++ (decoder.decode state piece).1).splitOn '\n'
      let handled := handleLines handle lines.dropLast
      if handled.2 then (handled.1, true)
      else
        let later := read decoder (decoder.decode state piece).2 (lines.getLastD []) rest
        (handled.1 ++ later.1, later.2)

theorem handleLines_append (first rest : List (List Char)) :
    handleLines handle (first ++ rest) =
      if (handleLines handle first).2 then ((handleLines handle first).1, true)
      else ((handleLines handle first).1 ++ (handleLines handle rest).1, (handleLines handle rest).2) := by
  induction first with
  | nil => simp [handleLines]
  | cons line first ih =>
      rw [List.cons_append, handleLines, ih, handleLines]
      by_cases stops : (handle line).2 = true
      · simp [stops]
      · by_cases later : (handleLines handle first).2 = true
        · simp [stops, later]
        · simp [stops, later]

theorem handleLines_passed {lines : List (List Char)} (passed : ∀ line ∈ lines, (handle line).2 = false) :
    handleLines handle lines = (lines.flatMap fun line => (handle line).1, false) := by
  induction lines with
  | nil => rfl
  | cons line lines ih =>
      have later := ih fun next member => passed next (List.mem_cons_of_mem line member)
      simp [handleLines, passed line List.mem_cons_self, later]

theorem handleLines_stopped {lines : List (List Char)} (passed : ∀ line ∈ lines, (handle line).2 = false)
    {last : List Char} (stops : (handle last).2 = true) (rest : List (List Char)) :
    handleLines handle (lines ++ last :: rest) =
      ((lines.flatMap fun line => (handle line).1) ++ (handle last).1, true) := by
  rw [handleLines_append, handleLines_passed handle passed]
  simp [handleLines, stops]

end

theorem splitOn_append (first rest : List Char) (mark : Char) :
    (first ++ rest).splitOn mark =
      (first.splitOn mark).dropLast ++ ((first.splitOn mark).getLastD [] ++ rest).splitOn mark := by
  induction first with
  | nil => simp
  | cons char first ih =>
      rw [List.cons_append, List.splitOn_cons_eq_if_modifyHead, List.splitOn_cons_eq_if_modifyHead, ih]
      cases pieces : first.splitOn mark with
      | nil => exact absurd pieces (List.splitOn_ne_nil mark first)
      | cons piece later =>
          by_cases marked : (char == mark) = true
          · simp [marked]
          · cases later with
            | nil => simp [marked, List.splitOn_cons_eq_if_modifyHead]
            | cons next later => simp [marked]

theorem not_mem_splitOn (text : List Char) (mark : Char) :
    ∀ piece ∈ text.splitOn mark, mark ∉ piece := by
  induction text with
  | nil => simp
  | cons char text ih =>
      rw [List.splitOn_cons_eq_if_modifyHead]
      by_cases marked : (char == mark) = true
      · simpa [marked] using ih
      · cases pieces : text.splitOn mark with
        | nil => simp [marked]
        | cons piece later =>
            rw [pieces] at ih
            have different : mark ≠ char := fun same => marked (by simp [same])
            simp only [marked, List.modifyHead_cons, List.mem_cons, forall_eq_or_imp] at ih ⊢
            simpa [different] using ih

theorem splitOn_lines {lines : List (List Char)} (closed : ∀ line ∈ lines, '\n' ∉ line) :
    (lines.flatMap (· ++ ['\n'])).splitOn '\n' = lines ++ [[]] := by
  induction lines with
  | nil => simp
  | cons line lines ih =>
      rw [List.flatMap_cons, List.append_assoc, List.singleton_append,
        List.splitOn_append_cons_self_of_not_mem (closed line List.mem_cons_self),
        ih fun later member => closed later (List.mem_cons_of_mem line member), List.cons_append]

section

variable {Output : Type} (handle : List Char → List Output × Bool)

/-- However the bytes are divided, the reader handles the lines of the whole text. -/
theorem read_eq (decoder : Decoder) (state : decoder.State) {buffer : List Char} (open' : '\n' ∉ buffer)
    (pieces : List (List UInt8)) :
    read handle decoder state buffer pieces =
      handleLines handle ((buffer ++ decodeAll decoder.decode state pieces).splitOn '\n').dropLast := by
  induction pieces generalizing state buffer with
  | nil => simp [read, decodeAll, List.splitOn_eq_singleton open', handleLines]
  | cons piece rest ih =>
      let lines := (buffer ++ (decoder.decode state piece).1).splitOn '\n'
      have nonempty : lines ≠ [] := List.splitOn_ne_nil _ _
      have last : lines.getLastD [] = lines.getLast nonempty := by
        rw [List.getLastD_eq_getLast?, List.getLast?_eq_some_getLast nonempty, Option.getD_some]
      have next : '\n' ∉ lines.getLastD [] := by
        rw [last]
        exact not_mem_splitOn _ _ _ (List.getLast_mem nonempty)
      have whole := splitOn_append (buffer ++ (decoder.decode state piece).1)
        (decodeAll decoder.decode (decoder.decode state piece).2 rest) '\n'
      rw [decodeAll, ← List.append_assoc, whole, List.dropLast_append_of_ne_nil (List.splitOn_ne_nil _ _),
        handleLines_append, read, ih _ next]

theorem read_lines (decoder : Decoder) {lines : List (List Char)} (closed : ∀ line ∈ lines, '\n' ∉ line)
    (unmarked : (lines.flatMap (· ++ ['\n'])).head? ≠ some byteOrderMark) {pieces : List (List UInt8)}
    (bytes : pieces.flatten = utf8 (lines.flatMap (· ++ ['\n']))) :
    read handle decoder decoder.start [] pieces = handleLines handle lines := by
  have open' : '\n' ∉ ([] : List Char) := List.not_mem_nil
  rw [read_eq handle decoder decoder.start open', List.nil_append, decoder.decodeAll_utf8 _ _ unmarked bytes,
    splitOn_lines closed, List.dropLast_concat]

end

def nextChar (bytes : List UInt8) : Option Char := bytes.toByteArray.utf8DecodeChar? 0

theorem nextChar_encode (char : Char) (rest : List UInt8) :
    nextChar (String.utf8EncodeChar char ++ rest) = some char := by
  rw [nextChar, List.toByteArray_append]
  exact ByteArray.utf8DecodeChar?_utf8EncodeChar_append

theorem utf8Size_le {bytes : List UInt8} {char : Char} (found : nextChar bytes = some char) :
    char.utf8Size ≤ bytes.length := by
  have bound := ByteArray.le_size_of_utf8DecodeChar?_eq_some found
  simpa using bound

theorem nextChar_begun {char : Char} {bytes rest : List UInt8} (begun : String.utf8EncodeChar char = bytes ++ rest)
    (more : rest ≠ []) : nextChar bytes = none := by
  cases found : nextChar bytes with
  | none => rfl
  | some other =>
      have whole := nextChar_encode char []
      rw [List.append_nil, begun, nextChar, List.toByteArray_append,
        ByteArray.utf8DecodeChar?_append_eq_some found, Option.some.injEq] at whole
      have size := utf8Size_le found
      have length := congrArg List.length begun
      rw [String.length_utf8EncodeChar, List.length_append] at length
      have positive := List.length_pos_iff.mpr more
      rw [whole] at size
      omega

/-- The characters that are complete, and the bytes of the one that is not. -/
def takeChars (bytes : List UInt8) : List Char × List UInt8 :=
  match _found : nextChar bytes with
  | none => ([], bytes)
  | some char =>
      let later := takeChars (bytes.drop char.utf8Size)
      (char :: later.1, later.2)
termination_by bytes.length
decreasing_by
  have size := utf8Size_le _found
  have positive := char.utf8Size_pos
  rw [List.length_drop]
  omega

theorem takeChars_encode (char : Char) (rest : List UInt8) :
    takeChars (String.utf8EncodeChar char ++ rest) = (char :: (takeChars rest).1, (takeChars rest).2) := by
  rw [takeChars]
  split
  · next absent => simp [nextChar_encode] at absent
  · next other found =>
      rw [nextChar_encode, Option.some.injEq] at found
      subst found
      rw [List.drop_left' (String.length_utf8EncodeChar char)]

theorem takeChars_none {bytes : List UInt8} (absent : nextChar bytes = none) : takeChars bytes = ([], bytes) := by
  rw [takeChars]
  split
  · rfl
  · next found => simp [absent] at found

/-- Any beginning of a text's bytes gives a beginning of the text, and keeps what goes on with the rest. -/
theorem takeChars_split {text : List Char} {bytes rest : List UInt8} (split : utf8 text = bytes ++ rest) :
    ∃ later, text = (takeChars bytes).1 ++ later ∧ utf8 later = (takeChars bytes).2 ++ rest ∧
      takeChars (takeChars bytes).2 = ([], (takeChars bytes).2) := by
  induction text generalizing bytes with
  | nil =>
      obtain ⟨rfl, rfl⟩ := List.append_eq_nil_iff.mp split.symm
      have nothing : takeChars [] = ([], []) := takeChars_none (by decide)
      exact ⟨[], by simp [nothing], by simp [nothing, utf8], by simp [nothing]⟩
  | cons char text ih =>
      rw [utf8, List.flatMap_cons, List.append_eq_append_iff] at split
      rcases split with ⟨more, whole, split⟩ | ⟨more, begun, whole⟩
      · obtain ⟨later, texts, left, stuck⟩ := ih split
        rw [whole, takeChars_encode]
        exact ⟨later, by rw [List.cons_append, ← texts], left, stuck⟩
      · rcases more with _ | ⟨byte, more⟩
        · rw [List.append_nil] at begun
          rw [List.nil_append] at whole
          have nothing : takeChars [] = ([], []) := takeChars_none (by decide)
          have one := takeChars_encode char []
          rw [List.append_nil, begun, nothing] at one
          exact ⟨text, by simp [one], by simp [one, whole, utf8], by simp [one, nothing]⟩
        · have stuck := takeChars_none (nextChar_begun begun (List.cons_ne_nil byte more))
          refine ⟨char :: text, by simp [stuck], ?_, by simp [stuck]⟩
          rw [stuck, whole, utf8, List.flatMap_cons, begun, List.append_assoc]

theorem decodeAll_takeChars {text : List Char} {pending : List UInt8} {pieces : List (List UInt8)}
    (stuck : takeChars pending = ([], pending)) (bytes : pending ++ pieces.flatten = utf8 text) :
    decodeAll (fun before piece => takeChars (before ++ piece)) pending pieces = text := by
  induction pieces generalizing pending text with
  | nil =>
      rw [List.flatten_nil, List.append_nil] at bytes
      cases text with
      | nil => rfl
      | cons char text =>
          rw [bytes, utf8, List.flatMap_cons, takeChars_encode] at stuck
          cases (Prod.mk.inj stuck).1
  | cons piece rest ih =>
      rw [List.flatten_cons, ← List.append_assoc] at bytes
      obtain ⟨later, texts, left, again⟩ := takeChars_split bytes.symm
      rw [decodeAll, ih again left.symm, ← texts]

/-- A decoder that keeps the bytes of a character that is not complete. -/
def Decoder.incremental : Decoder where
  State := List UInt8
  start := []
  decode := fun pending piece => takeChars (pending ++ piece)
  decodeAll_utf8 := by
    intro text pieces _ bytes
    exact decodeAll_takeChars (takeChars_none (by decide)) (by simpa using bytes)

end LineStream
