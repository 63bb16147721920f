import Mathlib.Data.List.Nodup
import Pinaivu.Lib.JsonText

/-!
Typed reading of JSON values, as derived decoders do it: a struct is read from an
object, whose unknown members are ignored and whose known ones occur once, or from an
array of its fields in order; an optional field may be missing or null.
-/

namespace JsonText

def decodeString : Json → Option String
  | .string text => some text
  | _ => none

def decodeBool : Json → Option Bool
  | .bool value => some value
  | _ => none

def decodeNumber : Json → Option NumberToken
  | .number token => some token
  | _ => none

/-- The value of a number without sign, fraction and exponent. -/
def NumberToken.toNat? (token : NumberToken) : Option Nat :=
  if token.text.all Char.isDigit then some (Nat.ofDigitChars 10 token.text 0) else none

def decodeUnsigned (bound : Nat) (value : Json) : Option Nat := do
  let token ← decodeNumber value
  let number ← token.toNat?
  if number < bound then some number else none

def decodeList {Item : Type} (decode : Json → Option Item) : Json → Option (List Item)
  | .array items => items.mapM decode
  | _ => none

def decodeOption {Item : Type} (decode : Json → Option Item) : Json → Option (Option Item)
  | .null => some none
  | value => (decode value).map some

def decodeEntries {Item : Type} (decode : Json → Option Item) : Json → Option (List (String × Item))
  | .object members => members.mapM fun member => (decode member.2).map (member.1, ·)
  | _ => none

/-- The fields of a struct by name; the last `defaults` of `names` may be missing from
an array. -/
def structFields (names : List String) (defaults : Nat) : Json → Option (String → Option Json)
  | .object members =>
      if ((members.map Prod.fst).filter (· ∈ names)).Nodup then some fun name => members.lookup name
      else none
  | .array items =>
      if names.length ≤ items.length + defaults ∧ items.length ≤ names.length then
        some fun name => (names.zip items).lookup name
      else none
  | _ => none

def requiredField {Item : Type} (fields : String → Option Json) (name : String)
    (decode : Json → Option Item) : Option Item :=
  (fields name).bind decode

def optionalField {Item : Type} (fields : String → Option Json) (name : String)
    (decode : Json → Option Item) : Option (Option Item) :=
  match fields name with
  | none => some none
  | some value => decodeOption decode value

theorem structFields_object {names : List String} (defaults : Nat) {members : List (String × Json)}
    (once : (members.map Prod.fst).Nodup) :
    structFields names defaults (.object members) = some fun name => members.lookup name := by
  exact if_pos (once.filter _)

section

variable {Item : Type} {member name : String} {value : Json} {rest : List (String × Json)}
variable (decode : Json → Option Item)

theorem requiredField_head :
    requiredField (fun name => ((member, value) :: rest).lookup name) member decode = decode value := by
  simp [requiredField]

theorem requiredField_tail (different : name ≠ member) :
    requiredField (fun name => ((member, value) :: rest).lookup name) name decode =
      requiredField (fun name => rest.lookup name) name decode := by
  rw [requiredField, requiredField, List.lookup_cons, beq_false_of_ne different]

theorem optionalField_head :
    optionalField (fun name => ((member, value) :: rest).lookup name) member decode = decodeOption decode value := by
  simp [optionalField]

theorem optionalField_tail (different : name ≠ member) :
    optionalField (fun name => ((member, value) :: rest).lookup name) name decode =
      optionalField (fun name => rest.lookup name) name decode := by
  rw [optionalField, optionalField, List.lookup_cons, beq_false_of_ne different]

end

theorem requiredField_missing {Item : Type} {members : List (String × Json)} {name : String}
    (decode : Json → Option Item) (missing : name ∉ members.map Prod.fst) :
    requiredField (fun name => members.lookup name) name decode = none := by
  have absent : members.lookup name = none := by
    rw [List.lookup_eq_none_iff]
    intro member present
    have different : name ≠ member.1 := by
      rintro rfl
      exact missing (List.mem_map_of_mem present)
    simpa using different
  simp only [requiredField, absent, Option.bind_none]

theorem optionalField_some {Item : Type} {fields : String → Option Json} {name : String}
    {decode : Json → Option Item} {item : Item}
    (found : optionalField fields name decode = some (some item)) :
    ∃ value, fields name = some value ∧ decode value = some item := by
  unfold optionalField at found
  split at found
  · simp at found
  · rename_i value present
    refine ⟨value, present, ?_⟩
    cases value <;> simp_all [decodeOption]

end JsonText
