import Mathlib.Logic.Function.Basic
import Pinaivu.Common.SerdeJson
import Pinaivu.Lib.JsonPretty

/-!
`crates/context/src/store.rs`: the turns of a session, kept in memory, in one JSON file a session,
or under one Redis key a session. A clock reading is an argument of the call that takes it; the
file system and Redis refuse no access.
-/

namespace Pinaivu.Context

open JsonText

structure StoredMessage where
  role : String
  content : String
  deriving DecidableEq, Repr

def StoredMessage.toJson (message : StoredMessage) : Json := .object
  [("role", .string message.role), ("content", .string message.content)]

def messagesJson (messages : List StoredMessage) : Json := .array (messages.map StoredMessage.toJson)

def decodeStoredMessage (value : Json) : Option StoredMessage := do
  let fields ← structFields ["role", "content"] 0 value
  return {
    role := ← requiredField fields "role" decodeString
    content := ← requiredField fields "content" decodeString }

/-- The arguments of the three `new` functions. -/
structure Limits where
  maxMsgs : Nat
  ttlSecs : UInt64

def turn (userMsg asstMsg : String) : List StoredMessage := [⟨"user", userMsg⟩, ⟨"assistant", asstMsg⟩]

def Limits.trim (limits : Limits) (messages : List StoredMessage) : List StoredMessage :=
  if 0 < limits.maxMsgs ∧ limits.maxMsgs < messages.length then
    messages.drop (messages.length - limits.maxMsgs)
  else messages

/-! ## In memory -/

structure SessionEntry where
  messages : List StoredMessage
  lastTouched : UInt64

/-- `saturating_sub` of two clock readings. -/
def elapsed (now earlier : UInt64) : Nat := now.toNat - earlier.toNat

structure InMemoryContextStore where
  sessions : String → Option SessionEntry

namespace InMemoryContextStore

def new : InMemoryContextStore := ⟨fun _ => none⟩

/-- The clock is read for the check and again for the touch. -/
def getMessages (limits : Limits) (store : InMemoryContextStore) (sessionId : String)
    (checked touched : UInt64) : InMemoryContextStore × List StoredMessage :=
  match store.sessions sessionId with
  | none => (store, [])
  | some entry =>
      if 0 < limits.ttlSecs ∧ limits.ttlSecs.toNat < elapsed checked entry.lastTouched then
        (⟨Function.update store.sessions sessionId none⟩, [])
      else
        (⟨Function.update store.sessions sessionId (some { entry with lastTouched := touched })⟩,
          entry.messages)

def append (limits : Limits) (store : InMemoryContextStore) (sessionId userMsg asstMsg : String)
    (touched : UInt64) : InMemoryContextStore :=
  let messages := ((store.sessions sessionId).map SessionEntry.messages).getD []
  let entry := ⟨limits.trim (messages ++ turn userMsg asstMsg), touched⟩
  ⟨Function.update store.sessions sessionId (some entry)⟩

def clear (store : InMemoryContextStore) (sessionId : String) : InMemoryContextStore :=
  ⟨Function.update store.sessions sessionId none⟩

/-- One round of the background task, which reads the clock before it takes the lock. -/
def sweep (limits : Limits) (store : InMemoryContextStore) (now : UInt64) : InMemoryContextStore :=
  ⟨fun sessionId => (store.sessions sessionId).filter fun entry =>
    decide (elapsed now limits.ttlSecs < entry.lastTouched.toNat)⟩

end InMemoryContextStore

/-! ## In files -/

/-- Times of the file system are in nanoseconds since the epoch. -/
structure StoredFile where
  data : ByteArray
  modified : Nat

abbrev Directory := String → Option StoredFile

def nanosPerSecond : Nat := 1000000000

namespace LocalFileContextStore

def decodeFile (data : ByteArray) : List StoredMessage :=
  ((ofBytesSpaced data).bind (decodeList decodeStoredMessage)).getD []

section

variable (isAlphanumeric : Char → Bool)

def path (sessionId : String) : String :=
  String.ofList (sessionId.toList.filter fun char => isAlphanumeric char || char = '-') ++ ".json"

def readMsgs (directory : Directory) (sessionId : String) : List StoredMessage :=
  match directory (path isAlphanumeric sessionId) with
  | some file => decodeFile file.data
  | none => []

def writeMsgs (directory : Directory) (sessionId : String) (messages : List StoredMessage) (now : Nat) :
    Directory :=
  Function.update directory (path isAlphanumeric sessionId) (some ⟨toBytes (messagesJson messages), now⟩)

def getMessages (limits : Limits) (directory : Directory) (sessionId : String) (now : Nat) :
    Directory × List StoredMessage :=
  let name := path isAlphanumeric sessionId
  let old := (directory name).any fun file =>
    decide (limits.ttlSecs.toNat < (now - file.modified) / nanosPerSecond)
  if 0 < limits.ttlSecs ∧ old = true then (Function.update directory name none, [])
  else (directory, readMsgs isAlphanumeric directory sessionId)

def append (limits : Limits) (directory : Directory) (sessionId userMsg asstMsg : String) (now : Nat) :
    Directory :=
  let messages := readMsgs isAlphanumeric directory sessionId
  writeMsgs isAlphanumeric directory sessionId (limits.trim (messages ++ turn userMsg asstMsg)) now

def clear (directory : Directory) (sessionId : String) : Directory :=
  Function.update directory (path isAlphanumeric sessionId) none

end

/-- One round of the background task over the files with the extension `json`, which a file named
`.json` does not have. -/
def evictExpired (limits : Limits) (directory : Directory) (now : Nat) : Directory :=
  fun name => (directory name).filter fun file =>
    !(name.endsWith ".json" && name != ".json" &&
      decide (file.modified / nanosPerSecond < now / nanosPerSecond - limits.ttlSecs.toNat))

end LocalFileContextStore

/-! ## In Redis -/

namespace RedisContextStore

def decodeText (raw : Option String) : List StoredMessage :=
  (raw.bind fun text => (parseSpaced text.toList).bind (decodeList decodeStoredMessage)).getD []

def encodeText (messages : List StoredMessage) : String := String.ofList (render (messagesJson messages))

end RedisContextStore

theorem decodeStoredMessage_toJson (message : StoredMessage) :
    decodeStoredMessage message.toJson = some message := by
  rw [decodeStoredMessage, StoredMessage.toJson, structFields_object 0 (by simp), Option.bind_eq_bind,
    Option.bind_some]
  simp (disch := decide) only [requiredField_head, requiredField_tail, decodeString]
  rfl

theorem decodeFile_messages (messages : List StoredMessage) :
    LocalFileContextStore.decodeFile (toBytes (messagesJson messages)) = messages := by
  rw [LocalFileContextStore.decodeFile, ofBytesSpaced_toBytes, Option.bind_some, messagesJson,
    decodeList_map decodeStoredMessage_toJson, Option.getD_some]

theorem decodeText_encodeText (messages : List StoredMessage) :
    RedisContextStore.decodeText (some (RedisContextStore.encodeText messages)) = messages := by
  rw [RedisContextStore.decodeText, RedisContextStore.encodeText, Option.bind_some, String.toList_ofList,
    parseSpaced_render, Option.bind_some, messagesJson, decodeList_map decodeStoredMessage_toJson,
    Option.getD_some]

end Pinaivu.Context
