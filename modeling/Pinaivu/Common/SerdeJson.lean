import Pinaivu.Common.CanonicalBytes
import Pinaivu.Lib.JsonDecode

/-!
The JSON of the types that serde reads and writes in several crates.
-/

namespace Pinaivu

open JsonText

def decodeUuid (value : Json) : Option Uuid := (decodeString value).bind Uuid.parseStr

def decodeU8 (value : Json) : Option UInt8 := (decodeUnsigned (2 ^ 8) value).map UInt8.ofNat

def decodeU32 (value : Json) : Option UInt32 := (decodeUnsigned (2 ^ 32) value).map UInt32.ofNat

def decodeU64 (value : Json) : Option UInt64 := (decodeUnsigned (2 ^ 64) value).map UInt64.ofNat

def Role.name : Role → String
  | .user => "user"
  | .assistant => "assistant"
  | .system => "system"

def Message.toJson (message : Message) : Json := .object
  [("role", .string message.role.name),
    ("content", .string message.content),
    ("timestamp", unsignedJson message.timestamp.toNat),
    ("node_id", optionJson message.nodeId),
    ("token_count", unsignedJson message.tokenCount.toNat)]

def ContextWindow.toJson (window : ContextWindow) : Json := .object
  [("system_prompt", optionJson window.systemPrompt),
    ("summary", optionJson window.summary),
    ("recent_messages", .array (window.recentMessages.map Message.toJson)),
    ("total_tokens", unsignedJson window.totalTokens.toNat)]

theorem decodeUuid_uuidJson (id : Uuid) : decodeUuid (uuidJson id) = some id := by
  simp [decodeUuid, uuidJson, decodeString, Uuid.parseStr_toText]

theorem decodeOption_optionJson (text : Option String) :
    decodeOption decodeString (optionJson text) = some text := by
  cases text <;> rfl

theorem toNat?_ofNat (value : Nat) : (NumberToken.ofNat value).toNat? = some value := by
  have digits : (NumberToken.ofNat value).text.all Char.isDigit = true := by
    rw [List.all_eq_true]
    intro char member
    exact Nat.isDigit_of_mem_toDigits (by decide) (by decide) member
  rw [NumberToken.toNat?, if_pos digits]
  exact congrArg some (Nat.ofDigitChars_ten_toDigits)

theorem decodeUnsigned_unsignedJson {value bound : Nat} (below : value < bound) :
    decodeUnsigned bound (unsignedJson value) = some value := by
  simp [decodeUnsigned, unsignedJson, decodeNumber, toNat?_ofNat, below]

theorem decodeU8_unsignedJson (value : UInt8) : decodeU8 (unsignedJson value.toNat) = some value := by
  rw [decodeU8, decodeUnsigned_unsignedJson value.toNat_lt, Option.map_some, UInt8.ofNat_toNat]

theorem decodeU32_unsignedJson (value : UInt32) : decodeU32 (unsignedJson value.toNat) = some value := by
  rw [decodeU32, decodeUnsigned_unsignedJson value.toNat_lt, Option.map_some, UInt32.ofNat_toNat]

theorem decodeU64_unsignedJson (value : UInt64) : decodeU64 (unsignedJson value.toNat) = some value := by
  rw [decodeU64, decodeUnsigned_unsignedJson value.toNat_lt, Option.map_some, UInt64.ofNat_toNat]

theorem decodeList_map {Item : Type} {encode : Item → Json} {decode : Json → Option Item}
    (inverse : ∀ item, decode (encode item) = some item) (items : List Item) :
    decodeList decode (.array (items.map encode)) = some items := by
  rw [decodeList]
  induction items with
  | nil => rfl
  | cons item items ih => simp [List.mapM_cons, inverse, ih]

theorem decodeEntries_map {Row Item : Type} {key : Row → String} {encode : Row → Json} {item : Row → Item}
    {decode : Json → Option Item} (inverse : ∀ row, decode (encode row) = some (item row)) (rows : List Row) :
    decodeEntries decode (.object (rows.map fun row => (key row, encode row))) =
      some (rows.map fun row => (key row, item row)) := by
  rw [decodeEntries]
  induction rows with
  | nil => rfl
  | cons row rows ih => simp [List.mapM_cons, inverse, ih]

end Pinaivu
