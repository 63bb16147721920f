import Pinaivu.Lib.JsonText

/-!
Indented JSON text: a writer that starts every item and member on a line of its own, and a
reader that allows blanks between tokens. It drops them, unless they stand in a string or
part two characters of one token, and reads what is left as compact text.
-/

namespace JsonText

def isBlank (char : Char) : Bool :=
  char = ' ' || char = Char.ofNat 0x0A || char = Char.ofNat 0x0D || char = Char.ofNat 0x09

def isStructural (char : Char) : Bool :=
  char = '[' || char = ']' || char = '{' || char = '}' || char = ',' || char = ':'

/-- The blanks that a writer puts before an item at a depth, and between a name and its value. -/
structure Layout where
  line : Nat → List Char
  gap : List Char
  lineBlank : ∀ depth, ∀ char ∈ line depth, isBlank char = true
  gapBlank : ∀ char ∈ gap, isBlank char = true

def newline (depth : Nat) : List Char := Char.ofNat 0x0A :: List.replicate (2 * depth) ' '

def Layout.indented : Layout where
  line := newline
  gap := [' ']
  lineBlank := by
    intro depth char member
    rcases List.mem_cons.mp member with rfl | blank
    · rfl
    · rw [(List.mem_replicate.mp blank).2]
      rfl
  gapBlank := by
    intro char member
    rw [List.mem_singleton.mp member]
    rfl

def Layout.tight : Layout := ⟨fun _ => [], [], by simp, by simp⟩

section

variable (layout : Layout)

mutual

def spaced : Json → Nat → List Char
  | .null, _ => render .null
  | .bool value, _ => render (.bool value)
  | .number token, _ => render (.number token)
  | .string text, _ => render (.string text)
  | .array [], _ => ['[', ']']
  | .array (first :: rest), depth =>
      '[' :: (layout.line (depth + 1) ++ (spaced first (depth + 1) ++ spacedItems rest depth))
  | .object [], _ => ['{', '}']
  | .object ((key, value) :: rest), depth =>
      '{' :: (layout.line (depth + 1) ++ (renderString key ++
        (':' :: (layout.gap ++ (spaced value (depth + 1) ++ spacedMembers rest depth)))))
termination_by structural value => value

def spacedItems : List Json → Nat → List Char
  | [], depth => layout.line depth ++ [']']
  | item :: rest, depth =>
      ',' :: (layout.line (depth + 1) ++ (spaced item (depth + 1) ++ spacedItems rest depth))
termination_by structural items => items

def spacedMembers : List (String × Json) → Nat → List Char
  | [], depth => layout.line depth ++ ['}']
  | (key, value) :: rest, depth =>
      ',' :: (layout.line (depth + 1) ++ (renderString key ++
        (':' :: (layout.gap ++ (spaced value (depth + 1) ++ spacedMembers rest depth)))))
termination_by structural members => members

end

end

/-- Where the reader stands: between tokens, in a number or a word, after blanks that follow
one, in a string, or after a backslash there. -/
inductive Place where
  | free
  | token
  | held
  | text
  | escape
  deriving DecidableEq

def Place.next (place : Place) (char : Char) : Option (List Char × Place) :=
  match place with
  | .text =>
      if char = quote then some ([char], .free)
      else if char = backslash then some ([char], .escape)
      else some ([char], .text)
  | .escape => some ([char], .text)
  | outside =>
      if isBlank char then some ([], if outside = .free then .free else .held)
      else if char = quote then some ([char], .text)
      else if isStructural char then some ([char], .free)
      else if outside = .held then none
      else some ([char], .token)

/-- The text without the blanks between its tokens. -/
def compact : Place → List Char → Option (List Char)
  | _, [] => some []
  | place, char :: rest =>
      (place.next char).bind fun read => (compact read.2 rest).map (read.1 ++ ·)

def Scans (start : Place) (text kept : List Char) (stop : Place) : Prop :=
  ∀ rest, compact start (text ++ rest) = (compact stop rest).map (kept ++ ·)

theorem Scans.nil (place : Place) : Scans place [] [] place := by
  intro rest
  simp

theorem Scans.append {start middle stop : Place} {first second firstKept secondKept : List Char}
    (head : Scans start first firstKept middle) (tail : Scans middle second secondKept stop) :
    Scans start (first ++ second) (firstKept ++ secondKept) stop := by
  intro rest
  rw [List.append_assoc, head, tail, Option.map_map]
  congr 1
  funext kept
  simp

theorem Scans.step {place middle stop : Place} {char : Char} {kept text textKept : List Char}
    (head : place.next char = some (kept, middle)) (tail : Scans middle text textKept stop) :
    Scans place (char :: text) (kept ++ textKept) stop := by
  intro rest
  rw [List.cons_append, compact, head, Option.bind_some, tail, Option.map_map]
  congr 1
  funext later
  simp

theorem Scans.keep {place middle stop : Place} {char : Char} {text kept : List Char}
    (head : place.next char = some ([char], middle)) (tail : Scans middle text kept stop) :
    Scans place (char :: text) (char :: kept) stop := by
  exact .step head tail

def Place.Closed (place : Place) : Prop := place = .free ∨ place = .token

theorem next_structural {place : Place} {char : Char} (structural : isStructural char = true)
    (outside : place ≠ .text ∧ place ≠ .escape) : place.next char = some ([char], .free) := by
  have plain : isBlank char = false ∧ char ≠ quote := by
    simp only [isStructural, Bool.or_eq_true, decide_eq_true_eq] at structural
    rcases structural with ((((rfl | rfl) | rfl) | rfl) | rfl) | rfl <;> decide
  cases place with
  | text => exact absurd rfl outside.1
  | escape => exact absurd rfl outside.2
  | free => simp [Place.next, plain, structural]
  | token => simp [Place.next, plain, structural]
  | held => simp [Place.next, plain, structural]

theorem scans_blanks {blanks : List Char} (blank : ∀ char ∈ blanks, isBlank char = true) {place : Place}
    (outside : place ≠ .text ∧ place ≠ .escape) :
    ∃ stop : Place, (stop ≠ .text ∧ stop ≠ .escape) ∧ (place = .free → stop = .free) ∧
      Scans place blanks [] stop := by
  induction blanks generalizing place with
  | nil => exact ⟨place, outside, id, .nil place⟩
  | cons char rest ih =>
      rw [List.forall_mem_cons] at blank
      have dropped : place.next char = some ([], if place = .free then .free else .held) := by
        cases place with
        | text => exact absurd rfl outside.1
        | escape => exact absurd rfl outside.2
        | free => simp [Place.next, blank.1]
        | token => simp [Place.next, blank.1]
        | held => simp [Place.next, blank.1]
      have still : (if place = .free then Place.free else .held) ≠ .text ∧
          (if place = .free then Place.free else .held) ≠ .escape := by
        split <;> decide
      obtain ⟨stop, stopOutside, kept, scanned⟩ := ih blank.2 still
      refine ⟨stop, stopOutside, ?_, .step dropped scanned⟩
      rintro rfl
      exact kept rfl

theorem scans_free {blanks : List Char} (blank : ∀ char ∈ blanks, isBlank char = true) :
    Scans .free blanks [] .free := by
  obtain ⟨stop, -, kept, scanned⟩ := @scans_blanks _ blank .free ⟨by decide, by decide⟩
  rwa [kept rfl] at scanned

theorem scans_closing {place : Place} (closed : place.Closed) {char : Char}
    (structural : isStructural char = true) {blanks : List Char}
    (blank : ∀ char ∈ blanks, isBlank char = true) : Scans place (blanks ++ [char]) [char] .free := by
  have outside : place ≠ .text ∧ place ≠ .escape := by
    rcases closed with rfl | rfl <;> decide
  obtain ⟨stop, stopOutside, -, scanned⟩ := scans_blanks blank outside
  exact scanned.append (.keep (next_structural structural stopOutside) (.nil .free))

theorem scans_opening {place : Place} (closed : place.Closed) {char : Char}
    (structural : isStructural char = true) {blanks text kept : List Char} {stop : Place}
    (blank : ∀ char ∈ blanks, isBlank char = true) (rest : Scans .free text kept stop) :
    Scans place (char :: (blanks ++ text)) (char :: kept) stop := by
  have outside : place ≠ .text ∧ place ≠ .escape := by
    rcases closed with rfl | rfl <;> decide
  exact .keep (next_structural structural outside) ((scans_free blank).append rest)

theorem scans_escapeChar (char : Char) : Scans .text (escapeChar char) (escapeChar char) .text := by
  have marked : backslash ≠ quote := by decide
  have mark : Place.next .text backslash = some ([backslash], .escape) := by decide
  have escaped : ∀ letter, Place.next .escape letter = some ([letter], .text) := fun _ => rfl
  have plain : ∀ {other : Char}, other ≠ quote → other ≠ backslash →
      Place.next .text other = some ([other], .text) := by
    intro other unquoted unmarked
    simp [Place.next, unquoted, unmarked]
  unfold escapeChar
  split
  · exact .keep mark (.keep (escaped _) (.nil .text))
  · rename_i unescaped
    split
    · rename_i control
      have digits : ∀ value < 16, Hex.digit value ≠ quote ∧ Hex.digit value ≠ backslash := by decide
      have zero := digits 0 (by decide)
      have upper := digits (char.toNat / 16) (by omega)
      have lower := digits (char.toNat % 16) (by omega)
      have code : Scans .text [Hex.digit (char.toNat / 16), Hex.digit (char.toNat % 16)]
          [Hex.digit (char.toNat / 16), Hex.digit (char.toNat % 16)] .text :=
        .keep (plain upper.1 upper.2) (.keep (plain lower.1 lower.2) (.nil .text))
      exact .keep mark (.keep (escaped 'u') (.keep (plain zero.1 zero.2) (.keep (plain zero.1 zero.2) code)))
    · have unquoted : char ≠ quote := by
        rintro rfl
        simp [shortEscape] at unescaped
      have unmarked : char ≠ backslash := by
        rintro rfl
        simp [shortEscape, marked] at unescaped
      exact .keep (plain unquoted unmarked) (.nil .text)

theorem scans_string (text : String) : Scans .free (renderString text) (renderString text) .free := by
  have letters : ∀ chars : List Char,
      Scans .text (chars.flatMap escapeChar ++ [quote]) (chars.flatMap escapeChar ++ [quote]) .free := by
    intro chars
    induction chars with
    | nil => exact .keep rfl (.nil .free)
    | cons char rest ih =>
        rw [List.flatMap_cons, List.append_assoc]
        exact (scans_escapeChar char).append ih
  exact .keep rfl (letters text.toList)

def isInner (char : Char) : Bool := !isBlank char && char != quote && !isStructural char

theorem scans_inner {chars : List Char} (inner : ∀ char ∈ chars, isInner char = true)
    (nonempty : chars ≠ []) : Scans .free chars chars .token := by
  have next : ∀ {place : Place}, place.Closed → ∀ {char}, isInner char = true →
      place.next char = some ([char], .token) := by
    intro place closed char good
    simp only [isInner, Bool.and_eq_true, Bool.not_eq_true', bne_iff_ne] at good
    rcases closed with rfl | rfl <;> simp [Place.next, good]
  have later : ∀ chars : List Char, (∀ char ∈ chars, isInner char = true) →
      Scans .token chars chars .token := by
    intro chars inner
    induction chars with
    | nil => exact .nil .token
    | cons char rest ih =>
        rw [List.forall_mem_cons] at inner
        exact .step (next (.inr rfl) inner.1) (ih inner.2)
  cases chars with
  | nil => exact absurd rfl nonempty
  | cons char rest =>
      rw [List.forall_mem_cons] at inner
      exact .step (next (.inl rfl) inner.1) (later rest inner.2)

theorem inner_of_numberChar {char : Char} (number : numberChar char = true) : isInner char = true := by
  have apart : ∀ other, numberChar other = false → char ≠ other := by
    rintro other impossible rfl
    simp [number] at impossible
  have blanks := And.intro (apart ' ' rfl) (And.intro (apart (Char.ofNat 0x0A) rfl)
    (And.intro (apart (Char.ofNat 0x0D) rfl) (apart (Char.ofNat 0x09) rfl)))
  have brackets := And.intro (apart '[' rfl) (And.intro (apart ']' rfl)
    (And.intro (apart '{' rfl) (apart '}' rfl)))
  simp only [isInner, isBlank, isStructural, blanks, brackets, apart ',' rfl, apart ':' rfl]
  simp [apart quote rfl]

section

variable (layout : Layout)

def ValueScans (value : Json) : Prop :=
  ∀ depth, ∃ stop : Place, stop.Closed ∧ Scans .free (spaced layout value depth) (render value) stop

def ItemsScan (items : List Json) : Prop :=
  ∀ depth place, Place.Closed place →
    Scans place (spacedItems layout items depth) (renderItems items) .free

def MembersScan (members : List (String × Json)) : Prop :=
  ∀ depth place, Place.Closed place →
    Scans place (spacedMembers layout members depth) (renderMembers members) .free

variable {layout}

theorem itemsScan_cons {item : Json} {rest : List Json} {char : Char} (structural : isStructural char = true)
    (head : ValueScans layout item) (tail : ItemsScan layout rest) (depth : Nat) {place : Place}
    (closed : place.Closed) :
    Scans place
      (char :: (layout.line (depth + 1) ++ (spaced layout item (depth + 1) ++ spacedItems layout rest depth)))
      (char :: (render item ++ renderItems rest)) .free := by
  obtain ⟨stop, stopClosed, scanned⟩ := head (depth + 1)
  exact scans_opening closed structural (layout.lineBlank _) (scanned.append (tail depth stop stopClosed))

theorem membersScan_cons {key : String} {value : Json} {rest : List (String × Json)} {char : Char}
    (structural : isStructural char = true) (head : ValueScans layout value) (tail : MembersScan layout rest)
    (depth : Nat) {place : Place} (closed : place.Closed) :
    Scans place (char :: (layout.line (depth + 1) ++ (renderString key ++
        (':' :: (layout.gap ++ (spaced layout value (depth + 1) ++ spacedMembers layout rest depth))))))
      (char :: (renderString key ++ ':' :: (render value ++ renderMembers rest))) .free := by
  obtain ⟨stop, stopClosed, scanned⟩ := head (depth + 1)
  have member := scans_opening (.inl rfl) (rfl : isStructural ':' = true) layout.gapBlank
    (scanned.append (tail depth stop stopClosed))
  exact scans_opening closed structural (layout.lineBlank _) ((scans_string key).append member)

theorem wordScans {value : Json} (flat : ∀ depth, spaced layout value depth = render value)
    (inner : ∀ char ∈ render value, isInner char = true) (nonempty : render value ≠ []) :
    ValueScans layout value := by
  intro depth
  rw [flat]
  exact ⟨.token, .inr rfl, scans_inner inner nonempty⟩

/-- Of a text in any layout the compact text is left. -/
theorem scans_spaced (value : Json) : ValueScans layout value := by
  have word : ∀ {chars : List Char}, chars.all isInner = true → ∀ char ∈ chars, isInner char = true := by
    intro chars all
    exact List.all_eq_true.mp all
  refine (render.mutual_induct (ValueScans layout) (MembersScan layout) (ItemsScan layout)
    ?_ ?_ ?_ ?_ ?_ ?_ ?_ ?_ ?_ ?_ ?_ ?_ ?_).1 value
  · exact wordScans (fun _ => rfl) (word (by decide)) (by simp [render])
  · exact wordScans (fun _ => rfl) (word (by decide)) (by simp [render])
  · exact wordScans (fun _ => rfl) (word (by decide)) (by simp [render])
  · intro token
    exact wordScans (fun _ => rfl) (fun char member => inner_of_numberChar (token.chars char member)) token.nonempty
  · exact fun text depth => ⟨.free, .inl rfl, scans_string text⟩
  · exact fun depth => ⟨.free, .inl rfl, .keep rfl (.keep rfl (.nil .free))⟩
  · exact fun first rest head tail depth =>
      ⟨.free, .inl rfl, itemsScan_cons rfl head tail depth (.inl rfl)⟩
  · exact fun depth => ⟨.free, .inl rfl, .keep rfl (.keep rfl (.nil .free))⟩
  · exact fun key value rest head tail depth =>
      ⟨.free, .inl rfl, membersScan_cons rfl head tail depth (.inl rfl)⟩
  · exact fun depth place closed => scans_closing closed rfl (layout.lineBlank depth)
  · exact fun item rest head tail depth place closed => itemsScan_cons rfl head tail depth closed
  · exact fun depth place closed => scans_closing closed rfl (layout.lineBlank depth)
  · exact fun key value rest head tail depth place closed => membersScan_cons rfl head tail depth closed

end

theorem spaced_tight (value : Json) (depth : Nat) : spaced .tight value depth = render value := by
  refine (render.mutual_induct (fun value => ∀ depth, spaced .tight value depth = render value)
    (fun members => ∀ depth, spacedMembers .tight members depth = renderMembers members)
    (fun items => ∀ depth, spacedItems .tight items depth = renderItems items)
    ?_ ?_ ?_ ?_ ?_ ?_ ?_ ?_ ?_ ?_ ?_ ?_ ?_).1 value depth
  · exact fun _ => rfl
  · exact fun _ => rfl
  · exact fun _ => rfl
  · exact fun _ _ => rfl
  · exact fun _ _ => rfl
  · exact fun _ => rfl
  · intro first rest head tail depth
    simp [spaced, render, Layout.tight, ← head (depth + 1), ← tail depth]
  · exact fun _ => rfl
  · intro key value rest head tail depth
    simp [spaced, render, Layout.tight, ← head (depth + 1), ← tail depth]
  · exact fun _ => rfl
  · intro item rest head tail depth
    simp [spacedItems, renderItems, Layout.tight, ← head (depth + 1), ← tail depth]
  · exact fun _ => rfl
  · intro key value rest head tail depth
    simp [spacedMembers, renderMembers, Layout.tight, ← head (depth + 1), ← tail depth]

def parseSpaced (text : List Char) : Option Json := (compact .free text).bind parse

theorem parseSpaced_spaced (layout : Layout) (value : Json) :
    parseSpaced (spaced layout value 0) = some value := by
  obtain ⟨stop, -, scanned⟩ := @scans_spaced layout value 0
  have whole := scanned []
  rw [List.append_nil] at whole
  simp [parseSpaced, whole, compact, parse_render]

theorem parseSpaced_render (value : Json) : parseSpaced (render value) = some value := by
  have read := parseSpaced_spaced .tight value
  rwa [spaced_tight] at read

def toBytesPretty (value : Json) : ByteArray := (String.ofList (spaced .indented value 0)).toUTF8

def ofBytesSpaced (data : ByteArray) : Option Json :=
  (String.fromUTF8? data).bind fun text => parseSpaced text.toList

theorem ofBytesSpaced_toBytesPretty (value : Json) : ofBytesSpaced (toBytesPretty value) = some value := by
  rw [ofBytesSpaced, toBytesPretty, fromUTF8?_toUTF8, Option.bind_some, String.toList_ofList,
    parseSpaced_spaced]

theorem ofBytesSpaced_toBytes (value : Json) : ofBytesSpaced (toBytes value) = some value := by
  rw [ofBytesSpaced, toBytes, fromUTF8?_toUTF8, Option.bind_some, String.toList_ofList,
    parseSpaced_render]

end JsonText
