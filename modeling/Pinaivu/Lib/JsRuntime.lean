import Mathlib.Data.List.DropRight
import Pinaivu.Lib.JsonPretty

/-!
What a JavaScript runtime makes of JSON text: values with rounded numbers, property access, truth, and the
trimming of strings.
-/

namespace Js

open JsonText

def isWhitespace (char : Char) : Bool :=
  let code := char.toNat
  (9 ≤ code && code ≤ 13) || code = 0x20 || code = 0xA0 || code = 0x1680 || (0x2000 ≤ code && code ≤ 0x200A) ||
    code = 0x2028 || code = 0x2029 || code = 0x202F || code = 0x205F || code = 0x3000 || code = 0xFEFF

def trim (text : List Char) : List Char := (text.dropWhile isWhitespace).rdropWhile isWhitespace

theorem trim_visible {text : List Char} {first last : Char} (starts : text.head? = some first)
    (ends : text.getLast? = some last) (visible : isWhitespace first = false ∧ isWhitespace last = false) :
    trim text = text := by
  obtain ⟨rest, rfl⟩ := List.head?_eq_some_iff.mp starts
  have kept : (first :: rest).dropWhile isWhitespace = first :: rest :=
    List.dropWhile_cons_of_neg (by simp [visible.1])
  rw [trim, kept, List.rdropWhile_eq_self_iff]
  intro nonempty
  have final : (first :: rest).getLast nonempty = last :=
    Option.some.inj ((List.getLast?_eq_some_getLast nonempty).symm.trans ends)
  simp [final, visible.2]

theorem trim_space (text : List Char) : trim (' ' :: text) = trim text := by
  rw [trim, List.dropWhile_cons_of_pos (by decide), trim]

theorem trim_object (members : List (String × Json)) :
    trim (render (.object members)) = render (.object members) := by
  obtain ⟨starts, ends⟩ := ends_render_object members
  exact trim_visible starts ends (by decide)

theorem trim_object_ne_nil (members : List (String × Json)) : trim (render (.object members)) ≠ [] := by
  rw [trim_object]
  intro empty
  have first := (ends_render_object members).1
  rw [empty] at first
  contradiction

mutual

/-- No object names a member twice or by an index, which JavaScript would drop or move. -/
def plain : Json → Bool
  | .array items => plainItems items
  | .object members =>
      (members.map Prod.fst).Nodup && members.all (fun member => !(member.1.toList.head?.any Char.isDigit)) &&
        plainMembers members
  | _ => true
termination_by structural value => value

def plainItems : List Json → Bool
  | [] => true
  | item :: rest => plain item && plainItems rest
termination_by structural items => items

def plainMembers : List (String × Json) → Bool
  | [] => true
  | (_, value) :: rest => plain value && plainMembers rest
termination_by structural members => members

end

mutual

def rounded (number : NumberToken → NumberToken) : Json → Json
  | .number token => .number (number token)
  | .array items => .array (roundedItems number items)
  | .object members => .object (roundedMembers number members)
  | value => value
termination_by structural value => value

def roundedItems (number : NumberToken → NumberToken) : List Json → List Json
  | [] => []
  | item :: rest => rounded number item :: roundedItems number rest
termination_by structural items => items

def roundedMembers (number : NumberToken → NumberToken) : List (String × Json) → List (String × Json)
  | [] => []
  | (key, value) :: rest => (key, rounded number value) :: roundedMembers number rest
termination_by structural members => members

end

/-- `JSON.parse`: numbers become doubles, which are exact up to `2 ^ 53`. -/
structure Runtime where
  number : NumberToken → NumberToken
  parse : List Char → Option Json
  number_exact : ∀ value < 9007199254740992, number (.ofNat value) = .ofNat value
  parse_render : ∀ value, plain value = true → parse (render value) = some (rounded number value)

mutual

theorem rounded_id : ∀ value, rounded id value = value
  | .null => rfl
  | .bool _ => rfl
  | .number _ => rfl
  | .string _ => rfl
  | .array items => congrArg Json.array (roundedItems_id items)
  | .object members => congrArg Json.object (roundedMembers_id members)

theorem roundedItems_id : ∀ items, roundedItems id items = items
  | [] => rfl
  | item :: rest => by rw [roundedItems, rounded_id item, roundedItems_id rest]

theorem roundedMembers_id : ∀ members, roundedMembers id members = members
  | [] => rfl
  | (key, value) :: rest => by rw [roundedMembers, rounded_id value, roundedMembers_id rest]

end

def Runtime.exact : Runtime where
  number := id
  parse := parseSpaced
  number_exact := fun _ _ => rfl
  parse_render := by
    intro value _
    rw [parseSpaced_render, rounded_id]

/-- A property; `none` is `undefined`. -/
def get (name : String) : Json → Option Json
  | .object members => (members.reverse.find? fun member => member.1 = name).map Prod.snd
  | _ => none

def item (index : Nat) : Json → Option Json
  | .array items => items[index]?
  | .object members => get (toString index) (.object members)
  | _ => none

def truthy : Json → Bool
  | .null => false
  | .bool value => value
  | .number token => (token.text.takeWhile fun char => char.toLower ≠ 'e').any fun char => char.isDigit && char ≠ '0'
  | .string text => text ≠ ""
  | _ => true

def present (name : String) (value : Json) : Option Json := (get name value).filter truthy

theorem roundedItems_eq_map (number : NumberToken → NumberToken) (items : List Json) :
    roundedItems number items = items.map (rounded number) := by
  induction items with
  | nil => rfl
  | cons item items ih => rw [roundedItems, ih, List.map_cons]

theorem roundedMembers_eq_map (number : NumberToken → NumberToken) (members : List (String × Json)) :
    roundedMembers number members = members.map (Prod.map id (rounded number)) := by
  induction members with
  | nil => rfl
  | cons member members ih => rw [roundedMembers, ih, List.map_cons, Prod.map, id]

theorem get_rounded (number : NumberToken → NumberToken) (name : String) (value : Json) :
    get name (rounded number value) = (get name value).map (rounded number) := by
  cases value with
  | object members =>
      have names : (fun member : String × Json => decide (member.1 = name)) ∘ Prod.map id (rounded number) =
          fun member => decide (member.1 = name) := rfl
      rw [rounded, get, get, roundedMembers_eq_map, ← List.map_reverse, List.find?_map, names, Option.map_map,
        Option.map_map]
      rfl
  | null => rfl
  | bool value => rfl
  | number token => rfl
  | string text => rfl
  | array items => rfl

theorem item_rounded (number : NumberToken → NumberToken) (index : Nat) (value : Json) :
    item index (rounded number value) = (item index value).map (rounded number) := by
  cases value with
  | array items => rw [rounded, item, item, roundedItems_eq_map, List.getElem?_map]
  | object members => exact get_rounded number (toString index) (.object members)
  | null => rfl
  | bool value => rfl
  | number token => rfl
  | string text => rfl

end Js
