import Mathlib.Data.List.TakeWhile
import Pinaivu.Lib.Hex

/-!
Compact JSON text: values, a writer without blanks, and a reader that recovers the
value from what the writer wrote. Surrogate escapes are not read, as the writer
leaves every character from the blank on as it is, but for the quote and the backslash.
-/

namespace JsonText

def numberChar (char : Char) : Bool :=
  char.isDigit || char = '-' || char = '+' || char = '.' || char = 'e' || char = 'E'

def integerPart : List Char → Option (List Char)
  | [] => none
  | '0' :: rest => some rest
  | char :: rest => if char.isDigit then some (rest.dropWhile Char.isDigit) else none

def digitsPart : List Char → Option (List Char)
  | [] => none
  | char :: rest => if char.isDigit then some (rest.dropWhile Char.isDigit) else none

def fractionPart : List Char → Option (List Char)
  | '.' :: rest => digitsPart rest
  | rest => some rest

def exponentPart : List Char → Option (List Char)
  | [] => some []
  | char :: rest =>
      if char = 'e' ∨ char = 'E' then
        match rest with
        | '+' :: rest | '-' :: rest => digitsPart rest
        | rest => digitsPart rest
      else some (char :: rest)

/-- An integer without leading zeros, then perhaps a fraction and an exponent. -/
def validNumber (text : List Char) : Bool :=
  let unsigned := if text.head? = some '-' then text.tail else text
  ((integerPart unsigned).bind fractionPart).bind exponentPart = some []

structure NumberToken where
  text : List Char
  chars : ∀ char ∈ text, numberChar char = true
  valid : validNumber text = true
  deriving DecidableEq

theorem head_toDigits (value : Nat) (positive : 0 < value) :
    ∃ char rest, Nat.toDigits 10 value = char :: rest ∧ char ≠ '0' := by
  induction value using Nat.strongRecOn with
  | ind value ih =>
      by_cases small : value < 10
      · refine ⟨value.digitChar, [], Nat.toDigits_of_lt_base small, ?_⟩
        rw [ne_eq, Nat.digitChar_eq_zero]
        omega
      · obtain ⟨char, rest, written, different⟩ := ih (value / 10) (by omega) (by omega)
        refine ⟨char, rest ++ [(value % 10).digitChar], ?_, different⟩
        rw [Nat.toDigits_of_base_le (by decide) (by omega), written, List.cons_append]

theorem validNumber_toDigits (value : Nat) : validNumber (Nat.toDigits 10 value) = true := by
  rcases Nat.eq_zero_or_pos value with rfl | positive
  · decide
  · obtain ⟨char, rest, written, different⟩ := head_toDigits value positive
    have digits : ∀ other ∈ Nat.toDigits 10 value, other.isDigit = true := by
      intro other member
      exact Nat.isDigit_of_mem_toDigits (by decide) (by decide) member
    rw [written] at digits ⊢
    have first := digits char (List.mem_cons_self ..)
    have others : rest.dropWhile Char.isDigit = [] := by
      rw [List.dropWhile_eq_nil_iff]
      intro other member
      exact digits other (List.mem_cons_of_mem _ member)
    have unsigned : ¬char = '-' := by
      rintro rfl
      contradiction
    have whole : integerPart (char :: rest) = some [] := by
      rw [integerPart.eq_def]
      split
      · contradiction
      · rename_i found
        exact absurd (List.cons.inj found).1 different
      · rename_i found
        obtain ⟨rfl, rfl⟩ := List.cons.inj found
        rw [if_pos first, others]
    simp [validNumber, unsigned, whole, fractionPart, exponentPart]

def NumberToken.ofNat (value : Nat) : NumberToken where
  text := Nat.toDigits 10 value
  chars := by
    intro char member
    simp [numberChar, Nat.isDigit_of_mem_toDigits (by decide) (by decide) member]
  valid := validNumber_toDigits value

theorem NumberToken.nonempty (token : NumberToken) : token.text ≠ [] := by
  intro empty
  have valid := token.valid
  rw [empty] at valid
  contradiction

theorem NumberToken.ofNat_injective : Function.Injective NumberToken.ofNat := by
  intro first second same
  have digits : Nat.toDigits 10 first = Nat.toDigits 10 second := congrArg NumberToken.text same
  have values := congrArg (Nat.ofDigitChars 10 · 0) digits
  simpa only [Nat.ofDigitChars_ten_toDigits] using values

inductive Json where
  | null
  | bool (value : Bool)
  | number (token : NumberToken)
  | string (text : String)
  | array (items : List Json)
  | object (members : List (String × Json))

def quote : Char := Char.ofNat 0x22

def backslash : Char := Char.ofNat 0x5C

def shortEscape (char : Char) : Option Char :=
  if char = quote then some quote
  else if char = backslash then some backslash
  else if char = Char.ofNat 0x08 then some 'b'
  else if char = Char.ofNat 0x09 then some 't'
  else if char = Char.ofNat 0x0A then some 'n'
  else if char = Char.ofNat 0x0C then some 'f'
  else if char = Char.ofNat 0x0D then some 'r'
  else none

def shortUnescape (letter : Char) : Option Char :=
  if letter = quote then some quote
  else if letter = backslash then some backslash
  else if letter = '/' then some '/'
  else if letter = 'b' then some (Char.ofNat 0x08)
  else if letter = 't' then some (Char.ofNat 0x09)
  else if letter = 'n' then some (Char.ofNat 0x0A)
  else if letter = 'f' then some (Char.ofNat 0x0C)
  else if letter = 'r' then some (Char.ofNat 0x0D)
  else none

def escapeChar (char : Char) : List Char :=
  match shortEscape char with
  | some letter => [backslash, letter]
  | none =>
      if char.toNat < 0x20 then
        [backslash, 'u', '0', '0', Hex.digit (char.toNat / 16), Hex.digit (char.toNat % 16)]
      else [char]

def renderString (text : String) : List Char :=
  quote :: text.toList.flatMap escapeChar ++ [quote]

mutual

def render : Json → List Char
  | .null => ['n', 'u', 'l', 'l']
  | .bool true => ['t', 'r', 'u', 'e']
  | .bool false => ['f', 'a', 'l', 's', 'e']
  | .number token => token.text
  | .string text => renderString text
  | .array [] => ['[', ']']
  | .array (first :: rest) => '[' :: (render first ++ renderItems rest)
  | .object [] => ['{', '}']
  | .object ((key, value) :: rest) =>
      '{' :: (renderString key ++ ':' :: (render value ++ renderMembers rest))
termination_by structural value => value

def renderItems : List Json → List Char
  | [] => [']']
  | item :: rest => ',' :: (render item ++ renderItems rest)
termination_by structural items => items

def renderMembers : List (String × Json) → List Char
  | [] => ['}']
  | (key, value) :: rest => ',' :: (renderString key ++ ':' :: (render value ++ renderMembers rest))
termination_by structural members => members

end

def unicode (first second third fourth : Char) : Option Char := do
  let first ← Hex.digitValue first
  let second ← Hex.digitValue second
  let third ← Hex.digitValue third
  let fourth ← Hex.digitValue fourth
  let code := 16 * (16 * (16 * first + second) + third) + fourth
  if code.isValidChar then some (Char.ofNat code) else none

def parseString : List Char → Option (List Char × List Char)
  | [] => none
  | char :: rest =>
      if char = quote then some ([], rest)
      else if char = backslash then
        match rest with
        | 'u' :: first :: second :: third :: fourth :: rest =>
            (unicode first second third fourth).bind fun char =>
              (parseString rest).map fun (text, rest) => (char :: text, rest)
        | letter :: rest =>
            (shortUnescape letter).bind fun char =>
              (parseString rest).map fun (text, rest) => (char :: text, rest)
        | [] => none
      else if char.toNat < 0x20 then none
      else (parseString rest).map fun (text, rest) => (char :: text, rest)

def parseNumber (text : List Char) : Option (Json × List Char) :=
  let token := text.takeWhile numberChar
  if valid : validNumber token = true then
    some (.number ⟨token, fun _ member => List.mem_takeWhile_imp member, valid⟩,
      text.dropWhile numberChar)
  else none

def literal (word text : List Char) (value : Json) : Option (Json × List Char) :=
  if word.isPrefixOf text then some (value, text.drop word.length) else none

mutual

def parseValue : Nat → List Char → Option (Json × List Char)
  | 0, _ => none
  | _ + 1, [] => none
  | fuel + 1, char :: rest =>
      if char = 'n' then literal ['u', 'l', 'l'] rest .null
      else if char = 't' then literal ['r', 'u', 'e'] rest (.bool true)
      else if char = 'f' then literal ['a', 'l', 's', 'e'] rest (.bool false)
      else if char = quote then
        (parseString rest).map fun (text, rest) => (.string (String.ofList text), rest)
      else if char = '[' then
        if rest.head? = some ']' then some (.array [], rest.tail)
        else do
          let (first, rest) ← parseValue fuel rest
          let (others, rest) ← parseItems fuel rest
          return (.array (first :: others), rest)
      else if char = '{' then
        if rest.head? = some '}' then some (.object [], rest.tail)
        else do
          let (first, rest) ← parseMember fuel rest
          let (others, rest) ← parseMembers fuel rest
          return (.object (first :: others), rest)
      else parseNumber (char :: rest)

def parseItems : Nat → List Char → Option (List Json × List Char)
  | 0, _ => none
  | _ + 1, [] => none
  | fuel + 1, char :: rest =>
      if char = ']' then some ([], rest)
      else if char = ',' then do
        let (first, rest) ← parseValue fuel rest
        let (others, rest) ← parseItems fuel rest
        return (first :: others, rest)
      else none

def parseMember : Nat → List Char → Option ((String × Json) × List Char)
  | 0, _ => none
  | _ + 1, [] => none
  | fuel + 1, char :: rest =>
      if char = quote then do
        let (key, rest) ← parseString rest
        if rest.head? = some ':' then do
          let (value, rest) ← parseValue fuel rest.tail
          return ((String.ofList key, value), rest)
        else none
      else none

def parseMembers : Nat → List Char → Option (List (String × Json) × List Char)
  | 0, _ => none
  | _ + 1, [] => none
  | fuel + 1, char :: rest =>
      if char = '}' then some ([], rest)
      else if char = ',' then do
        let (first, rest) ← parseMember fuel rest
        let (others, rest) ← parseMembers fuel rest
        return (first :: others, rest)
      else none

end

def parse (text : List Char) : Option Json :=
  match parseValue text.length text with
  | some (value, []) => some value
  | _ => none

theorem unescape_escape {char letter : Char} (short : shortEscape char = some letter) :
    shortUnescape letter = some char ∧ letter ≠ 'u' := by
  unfold shortEscape at short
  split_ifs at short <;> simp_all <;> subst_vars <;> decide

theorem unicode_digits {char : Char} (control : char.toNat < 0x20) :
    unicode '0' '0' (Hex.digit (char.toNat / 16)) (Hex.digit (char.toNat % 16)) = some char := by
  have zero : Hex.digitValue '0' = some 0 := by decide
  have upper := Hex.digitValue_digit (char.toNat / 16) (by omega)
  have lower := Hex.digitValue_digit (char.toNat % 16) (by omega)
  have code : 16 * (16 * (16 * 0 + 0) + char.toNat / 16) + char.toNat % 16 = char.toNat := by omega
  have valid : char.toNat.isValidChar := char.valid
  simp only [unicode, zero, upper, lower, Option.bind_eq_bind, Option.bind_some, code, valid, if_true]
  rw [Char.ofNat_toNat]

theorem parseString_escapeChar (char : Char) (rest : List Char) :
    parseString (escapeChar char ++ rest) =
      (parseString rest).map fun (text, rest) => (char :: text, rest) := by
  have marked : backslash ≠ quote := by decide
  unfold escapeChar
  split
  · rename_i letter short
    obtain ⟨unescaped, different⟩ := unescape_escape short
    rw [List.cons_append, List.cons_append, List.nil_append, parseString.eq_def]
    simp only [marked, if_false, if_true]
    split
    · rename_i found
      exact absurd (List.cons.inj found).1 different
    · rename_i found
      obtain ⟨rfl, rfl⟩ := List.cons.inj found
      rw [unescaped, Option.bind_some]
    · contradiction
  · rename_i plain
    by_cases control : char.toNat < 0x20
    · simp only [control, if_true, List.cons_append, List.nil_append]
      rw [parseString]
      simp only [marked, if_false, if_true, unicode_digits control, Option.bind_some]
    · have unquoted : char ≠ quote := by
        rintro rfl
        simp [shortEscape] at plain
      have unmarked : char ≠ backslash := by
        rintro rfl
        simp [shortEscape, marked] at plain
      simp only [control, if_false, List.cons_append, List.nil_append]
      rw [parseString.eq_def]
      simp only [unquoted, unmarked, control, if_false]

theorem parseString_escaped (text rest : List Char) :
    parseString (text.flatMap escapeChar ++ quote :: rest) = some (text, rest) := by
  induction text with
  | nil =>
      rw [List.flatMap_nil, List.nil_append, parseString.eq_def]
      simp only [if_true]
  | cons char text ih =>
      rw [List.flatMap_cons, List.append_assoc, parseString_escapeChar, ih]
      rfl

/-- What may follow a value: nothing, or a character that no number goes on with. -/
def Delimited (rest : List Char) : Prop := ∀ char ∈ rest.head?, numberChar char = false

theorem delimited_cons {char : Char} (rest : List Char) (other : numberChar char = false) :
    Delimited (char :: rest) := by
  intro found member
  obtain rfl : char = found := by simpa using member
  exact other

theorem delimited_items (items : List Json) (rest : List Char) :
    Delimited (renderItems items ++ rest) := by
  cases items <;> exact delimited_cons _ (by decide)

theorem delimited_members (members : List (String × Json)) (rest : List Char) :
    Delimited (renderMembers members ++ rest) := by
  cases members <;> exact delimited_cons _ (by decide)

theorem parseNumber_token (token : NumberToken) {rest : List Char} (delimited : Delimited rest) :
    parseNumber (token.text ++ rest) = some (.number token, rest) := by
  have stop : rest.takeWhile numberChar = [] ∧ rest.dropWhile numberChar = rest := by
    cases rest with
    | nil => exact ⟨rfl, rfl⟩
    | cons char rest => simp [delimited char rfl]
  have taken : (token.text ++ rest).takeWhile numberChar = token.text := by
    rw [List.takeWhile_append_of_pos token.chars, stop.1, List.append_nil]
  have left : (token.text ++ rest).dropWhile numberChar = rest := by
    rw [List.dropWhile_append_of_pos token.chars, stop.2]
  simp only [parseNumber, taken, left, token.valid, dite_true]

theorem head_token (token : NumberToken) :
    ∃ char rest, token.text = char :: rest ∧ numberChar char = true := by
  rcases written : token.text with _ | ⟨char, rest⟩
  · exact absurd written token.nonempty
  · refine ⟨char, rest, rfl, token.chars char ?_⟩
    rw [written]
    exact List.mem_cons_self ..

theorem head_render (value : Json) (rest : List Char) :
    ∃ char text, render value ++ rest = char :: text ∧ char ≠ ']' := by
  cases value with
  | null => exact ⟨_, _, rfl, by decide⟩
  | bool value => cases value <;> exact ⟨_, _, rfl, by decide⟩
  | number token =>
      obtain ⟨char, text, written, possible⟩ := head_token token
      refine ⟨char, text ++ rest, by simp [render, written], ?_⟩
      rintro rfl
      exact absurd possible (by decide)
  | string text => exact ⟨_, _, rfl, by decide⟩
  | array items => cases items <;> exact ⟨_, _, rfl, by decide⟩
  | object members =>
      rcases members with _ | ⟨⟨key, value⟩, members⟩ <;> exact ⟨_, _, rfl, by decide⟩

theorem parseValue_number (fuel : Nat) (token : NumberToken) {rest : List Char}
    (delimited : Delimited rest) :
    parseValue (fuel + 1) (token.text ++ rest) = some (.number token, rest) := by
  obtain ⟨char, text, written, possible⟩ := head_token token
  have other : ∀ different, numberChar different = false → char ≠ different := by
    rintro different impossible rfl
    simp [possible] at impossible
  have parsed := parseNumber_token token delimited
  rw [written, List.cons_append] at parsed ⊢
  simp only [parseValue, other 'n' rfl, other 't' rfl, other 'f' rfl, other quote rfl, other '[' rfl,
    other '{' rfl, if_false, parsed]

theorem parseMember_render (fuel : Nat) (key : String) (value : Json) {rest : List Char}
    (parsed : parseValue fuel (render value ++ rest) = some (value, rest)) :
    parseMember (fuel + 1) (renderString key ++ ':' :: (render value ++ rest)) =
      some ((key, value), rest) := by
  have text := parseString_escaped key.toList (':' :: (render value ++ rest))
  simp only [renderString, List.cons_append, List.append_assoc, List.nil_append, parseMember,
    if_true, text, Option.bind_eq_bind, Option.bind_some, List.head?_cons, List.tail_cons, parsed,
    Option.pure_def, String.ofList_toList]

def ValueParsed (value : Json) : Prop :=
  ∀ fuel rest, (render value).length ≤ fuel → Delimited rest →
    parseValue fuel (render value ++ rest) = some (value, rest)

def ItemsParsed (items : List Json) : Prop :=
  ∀ fuel rest, (renderItems items).length ≤ fuel →
    parseItems fuel (renderItems items ++ rest) = some (items, rest)

def MembersParsed (members : List (String × Json)) : Prop :=
  ∀ fuel rest, (renderMembers members).length ≤ fuel →
    parseMembers fuel (renderMembers members ++ rest) = some (members, rest)

theorem arrayParsed {first : Json} {others : List Json} (head : ValueParsed first)
    (tail : ItemsParsed others) : ValueParsed (.array (first :: others)) := by
  intro fuel rest enough _
  simp only [render, List.length_cons, List.length_append] at enough
  obtain ⟨fuel, rfl⟩ : ∃ less, fuel = less + 1 := ⟨fuel - 1, by omega⟩
  obtain ⟨char, text, starts, different⟩ := head_render first (renderItems others ++ rest)
  have more : (render first ++ (renderItems others ++ rest)).head? ≠ some ']' := by
    rw [starts]
    simpa using different
  have item := head fuel (renderItems others ++ rest) (by omega) (delimited_items others rest)
  have items := tail fuel rest (by omega)
  have unquoted : '[' ≠ quote := by decide
  simp only [render, List.cons_append, List.append_assoc, parseValue, Char.reduceEq, unquoted,
    if_false, if_true, more, item, items, Option.bind_eq_bind, Option.bind_some, Option.pure_def]

theorem objectParsed {key : String} {value : Json} {others : List (String × Json)}
    (head : ValueParsed value) (tail : MembersParsed others) :
    ValueParsed (.object ((key, value) :: others)) := by
  intro fuel rest enough _
  simp only [render, renderString, List.length_cons, List.length_append, List.length_nil] at enough
  obtain ⟨fuel, rfl⟩ : ∃ less, fuel = less + 2 := ⟨fuel - 2, by omega⟩
  have item := parseMember_render fuel key value
    (head fuel (renderMembers others ++ rest) (by omega) (delimited_members others rest))
  have items := tail (fuel + 1) rest (by omega)
  have unquoted : '{' ≠ quote := by decide
  have more : (renderString key ++ ':' :: (render value ++ (renderMembers others ++ rest))).head? ≠
      some '}' := by
    simp [renderString, quote]
  simp only [render, List.cons_append, List.append_assoc, parseValue, Char.reduceEq, unquoted,
    if_false, if_true, more, item, items, Option.bind_eq_bind, Option.bind_some, Option.pure_def]

theorem itemsParsed_cons {first : Json} {others : List Json} (head : ValueParsed first)
    (tail : ItemsParsed others) : ItemsParsed (first :: others) := by
  intro fuel rest enough
  simp only [renderItems, List.length_cons, List.length_append] at enough
  obtain ⟨fuel, rfl⟩ : ∃ less, fuel = less + 1 := ⟨fuel - 1, by omega⟩
  have item := head fuel (renderItems others ++ rest) (by omega) (delimited_items others rest)
  have items := tail fuel rest (by omega)
  simp only [renderItems, List.cons_append, List.append_assoc, parseItems, Char.reduceEq, if_false,
    if_true, item, items, Option.bind_eq_bind, Option.bind_some, Option.pure_def]

theorem membersParsed_cons {key : String} {value : Json} {others : List (String × Json)}
    (head : ValueParsed value) (tail : MembersParsed others) :
    MembersParsed ((key, value) :: others) := by
  intro fuel rest enough
  simp only [renderMembers, renderString, List.length_cons, List.length_append, List.length_nil]
    at enough
  obtain ⟨fuel, rfl⟩ : ∃ less, fuel = less + 2 := ⟨fuel - 2, by omega⟩
  have item := parseMember_render fuel key value
    (head fuel (renderMembers others ++ rest) (by omega) (delimited_members others rest))
  have items := tail (fuel + 1) rest (by omega)
  simp only [renderMembers, List.cons_append, List.append_assoc, parseMembers, Char.reduceEq,
    if_false, if_true, item, items, Option.bind_eq_bind, Option.bind_some, Option.pure_def]

theorem renderedParsed {value : Json} (nonempty : render value ≠ [])
    (parsed : ∀ fuel rest, parseValue (fuel + 1) (render value ++ rest) = some (value, rest)) :
    ValueParsed value := by
  intro fuel rest enough _
  have positive := List.length_pos_iff.mpr nonempty
  obtain ⟨fuel, rfl⟩ : ∃ less, fuel = less + 1 := ⟨fuel - 1, by omega⟩
  exact parsed fuel rest

theorem stringParsed (text : String) : ValueParsed (.string text) := by
  apply renderedParsed (by simp [render, renderString])
  intro fuel rest
  have parsed := parseString_escaped text.toList rest
  have letters : quote ≠ 'n' ∧ quote ≠ 't' ∧ quote ≠ 'f' := by decide
  simp only [render, renderString, List.cons_append, List.append_assoc, List.nil_append, parseValue,
    letters, if_false, if_true, parsed, Option.map_some, String.ofList_toList]

theorem numberParsed (token : NumberToken) : ValueParsed (.number token) := by
  intro fuel rest enough delimited
  have positive := List.length_pos_iff.mpr token.nonempty
  simp only [render] at enough ⊢
  obtain ⟨fuel, rfl⟩ : ∃ less, fuel = less + 1 := ⟨fuel - 1, by omega⟩
  exact parseValue_number fuel token delimited

/-- The reader recovers a value from its text, whatever else follows. -/
theorem parseValue_render (value : Json) : ValueParsed value := by
  refine (render.mutual_induct ValueParsed MembersParsed ItemsParsed ?_ ?_ ?_ numberParsed
    stringParsed ?_ ?_ ?_ ?_ ?_ ?_ ?_ ?_).1 value
  · exact renderedParsed (by simp [render]) fun fuel rest => by simp [render, parseValue, literal]
  · exact renderedParsed (by simp [render]) fun fuel rest => by simp [render, parseValue, literal]
  · exact renderedParsed (by simp [render]) fun fuel rest => by simp [render, parseValue, literal]
  · exact renderedParsed (by simp [render]) fun fuel rest => by simp [render, parseValue, quote]
  · exact fun first others => arrayParsed
  · exact renderedParsed (by simp [render]) fun fuel rest => by simp [render, parseValue, quote]
  · exact fun key value others => objectParsed
  · intro fuel rest enough
    obtain ⟨fuel, rfl⟩ : ∃ less, fuel = less + 1 := ⟨fuel - 1, by simp [renderItems] at enough; omega⟩
    simp [renderItems, parseItems]
  · exact fun first others => itemsParsed_cons
  · intro fuel rest enough
    obtain ⟨fuel, rfl⟩ : ∃ less, fuel = less + 1 := ⟨fuel - 1, by simp [renderMembers] at enough; omega⟩
    simp [renderMembers, parseMembers]
  · exact fun key value others => membersParsed_cons

theorem parse_render (value : Json) : parse (render value) = some value := by
  have delimited : Delimited [] := by
    intro char absent
    contradiction
  have parsed := parseValue_render value (render value).length [] le_rfl delimited
  rw [List.append_nil] at parsed
  simp only [parse, parsed]

theorem render_injective : Function.Injective render := by
  intro first second same
  have parsed := congrArg parse same
  simpa only [parse_render, Option.some.injEq] using parsed

def printable (text : List Char) : Bool := text.all fun char => 0x20 ≤ char.toNat

@[simp]
theorem printable_append (first rest : List Char) : printable (first ++ rest) = (printable first && printable rest) :=
  List.all_append

@[simp]
theorem printable_cons (char : Char) (rest : List Char) :
    printable (char :: rest) = (decide (0x20 ≤ char.toNat) && printable rest) := List.all_cons

theorem printable_escapeChar (char : Char) : printable (escapeChar char) = true := by
  unfold escapeChar
  split
  · next letter short =>
      unfold shortEscape at short
      split_ifs at short
      all_goals
        cases short
        decide
  · split
    · next control =>
        have hex : ∀ value < 16, 0x20 ≤ (Hex.digit value).toNat := by decide
        have upper := hex (char.toNat / 16) (by omega)
        have lower := hex (char.toNat % 16) (by omega)
        simp only [printable_cons, upper, lower, decide_true, Bool.true_and]
        decide
    · next plain =>
        have visible : 0x20 ≤ char.toNat := Nat.not_lt.mp plain
        simp only [printable_cons, visible, decide_true, Bool.true_and]
        decide

theorem printable_renderString (text : String) : printable (renderString text) = true := by
  have escaped : printable (text.toList.flatMap escapeChar) = true := by
    rw [printable, List.all_flatMap, List.all_eq_true]
    intro char _
    exact printable_escapeChar char
  have mark : printable [quote] = true := by decide
  have visible : 0x20 ≤ quote.toNat := by decide
  simp only [renderString, List.cons_append, printable_cons, printable_append, escaped, mark, visible, decide_true,
    Bool.and_self]

theorem printable_token (token : NumberToken) : printable token.text = true := by
  rw [printable, List.all_eq_true]
  intro char member
  have number := token.chars char member
  simp only [numberChar, Bool.or_eq_true, decide_eq_true_eq] at number
  rcases number with ((((digit | rfl) | rfl) | rfl) | rfl) | rfl
  · have bounds : 48 ≤ char.toNat ∧ char.toNat ≤ 57 := by
      simpa [Char.isDigit, ← Char.toNat_val, UInt32.le_iff_toNat_le] using digit
    simp only [decide_eq_true_eq]
    omega
  all_goals decide

mutual

theorem printable_render : ∀ value, printable (render value) = true
  | .null => rfl
  | .bool true => rfl
  | .bool false => rfl
  | .number token => printable_token token
  | .string text => printable_renderString text
  | .array [] => rfl
  | .array (first :: rest) => by
      simp [render, printable_render first, printable_renderItems rest]
  | .object [] => rfl
  | .object ((key, value) :: rest) => by
      simp [render, printable_renderString, printable_render value, printable_renderMembers rest]

theorem printable_renderItems : ∀ items, printable (renderItems items) = true
  | [] => rfl
  | item :: rest => by
      simp [renderItems, printable_render item, printable_renderItems rest]

theorem printable_renderMembers : ∀ members, printable (renderMembers members) = true
  | [] => rfl
  | (key, value) :: rest => by
      simp [renderMembers, printable_renderString, printable_render value, printable_renderMembers rest]

end

theorem newline_not_mem_render (value : Json) : '\n' ∉ render value := by
  intro member
  have visible := List.all_eq_true.mp (printable_render value) _ member
  contradiction

theorem getLast?_renderMembers (members : List (String × Json)) : (renderMembers members).getLast? = some '}' := by
  induction members with
  | nil => rfl
  | cons member rest ih =>
      obtain ⟨key, value⟩ := member
      have nonempty : renderMembers rest ≠ [] := by
        intro empty
        simp [empty] at ih
      simp [renderMembers, List.getLast?_append, List.getLast?_cons, ih]

theorem ends_render_object (members : List (String × Json)) :
    (render (.object members)).head? = some '{' ∧ (render (.object members)).getLast? = some '}' := by
  rcases members with _ | ⟨⟨key, value⟩, rest⟩
  · exact ⟨rfl, rfl⟩
  · refine ⟨by simp [render], ?_⟩
    simp [render, List.getLast?_append, List.getLast?_cons, getLast?_renderMembers]

def toBytes (value : Json) : ByteArray := (String.ofList (render value)).toUTF8

theorem toBytes_injective : Function.Injective toBytes := by
  intro first second same
  have texts : String.ofList (render first) = String.ofList (render second) := by
    exact String.toByteArray_inj.mp same
  exact render_injective (String.ofList_injective texts)

theorem fromUTF8?_toUTF8 (text : String) : String.fromUTF8? text.toUTF8 = some text := by
  have valid : text.toUTF8.IsValidUTF8 := text.isValidUTF8
  rw [String.fromUTF8?, dif_pos valid]
  rfl

end JsonText
