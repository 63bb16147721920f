import Mathlib.Data.List.Sort
import Pinaivu.Common.SerdeJson
import Pinaivu.Lib.JsonPretty
import Pinaivu.Lib.KeyedList

/-!
The session manager of `crates/context/src/session.rs` with the encrypted blobs of
`crypto.rs`. The storage backend and the cipher are arguments; which of the calls to the
storage and to the index store fail is part of a save.
-/

namespace Pinaivu.Context

open JsonText

abbrev BlobId := String

abbrev SessionKey := Vector UInt8 32

abbrev Nonce := Vector UInt8 12

structure SessionMetadata where
  createdAt : UInt64
  lastUpdated : UInt64
  turnCount : UInt32
  totalTokensUsed : UInt64
  totalCostNanox : UInt64
  blobId : Option BlobId
  prevBlobId : Option BlobId
  deriving DecidableEq, Repr

structure SessionContext where
  sessionId : SessionId
  userAddress : String
  modelId : String
  messages : List Message
  contextWindow : ContextWindow
  metadata : SessionMetadata
  deriving DecidableEq, Repr

structure SessionSummary where
  sessionId : SessionId
  modelId : String
  turnCount : UInt32
  createdAt : UInt64
  lastUpdated : UInt64
  preview : String
  deriving DecidableEq, Repr

def SessionMetadata.toJson (metadata : SessionMetadata) : Json := .object
  [("created_at", unsignedJson metadata.createdAt.toNat),
    ("last_updated", unsignedJson metadata.lastUpdated.toNat),
    ("turn_count", unsignedJson metadata.turnCount.toNat),
    ("total_tokens_used", unsignedJson metadata.totalTokensUsed.toNat),
    ("total_cost_nanox", unsignedJson metadata.totalCostNanox.toNat),
    ("blob_id", optionJson metadata.blobId),
    ("prev_blob_id", optionJson metadata.prevBlobId)]

def SessionContext.toJson (session : SessionContext) : Json := .object
  [("session_id", uuidJson session.sessionId),
    ("user_address", .string session.userAddress),
    ("model_id", .string session.modelId),
    ("messages", .array (session.messages.map Message.toJson)),
    ("context_window", session.contextWindow.toJson),
    ("metadata", session.metadata.toJson)]

def SessionSummary.toJson (summary : SessionSummary) : Json := .object
  [("session_id", uuidJson summary.sessionId),
    ("model_id", .string summary.modelId),
    ("turn_count", unsignedJson summary.turnCount.toNat),
    ("created_at", unsignedJson summary.createdAt.toNat),
    ("last_updated", unsignedJson summary.lastUpdated.toNat),
    ("preview", .string summary.preview)]

def decodeSummary (value : Json) : Option SessionSummary := do
  let fields ← structFields
    ["session_id", "model_id", "turn_count", "created_at", "last_updated", "preview"] 0 value
  return {
    sessionId := ← requiredField fields "session_id" decodeUuid
    modelId := ← requiredField fields "model_id" decodeString
    turnCount := ← requiredField fields "turn_count" decodeU32
    createdAt := ← requiredField fields "created_at" decodeU64
    lastUpdated := ← requiredField fields "last_updated" decodeU64
    preview := ← requiredField fields "preview" decodeString }

def toVec (value : Json) : List UInt8 := (toBytes value).data.toList

def summariesJson (summaries : List SessionSummary) : Json := .array (summaries.map SessionSummary.toJson)

/-- `serde_json::from_slice(..).unwrap_or_default()` at a list of summaries. -/
def decodeSummaries (plain : List UInt8) : List SessionSummary :=
  ((ofBytesSpaced ⟨plain.toArray⟩).bind (decodeList decodeSummary)).getD []

structure EncryptedBlob where
  ciphertext : List UInt8
  nonce : Nonce
  deriving DecidableEq

def EncryptedBlob.toBytes (blob : EncryptedBlob) : List UInt8 := blob.nonce.toList ++ blob.ciphertext

def EncryptedBlob.fromBytes (data : List UInt8) : Option EncryptedBlob :=
  if long : 12 ≤ data.length then
    some ⟨data.drop 12, ⟨(data.take 12).toArray, by simp [long]⟩⟩
  else none

/-- AES-256-GCM; the nonce is the one that the call draws. -/
structure SessionCipher where
  encrypt : SessionKey → Nonce → List UInt8 → Option (List UInt8)
  decrypt : SessionKey → Nonce → List UInt8 → Option (List UInt8)

namespace SessionCipher

variable (cipher : SessionCipher)

def Opens : Prop :=
  ∀ key nonce plain, ∃ sealed, cipher.encrypt key nonce plain = some sealed ∧
    cipher.decrypt key nonce sealed = some plain

end SessionCipher

structure StorageClient (Blobs : Type) where
  put : Blobs → List UInt8 → Blobs × BlobId
  get : Blobs → BlobId → Option (List UInt8)

/-- A blob can be read from the moment it is put. -/
structure StorageClient.Durable {Blobs : Type} (storage : StorageClient Blobs) : Prop where
  stored : ∀ blobs data, storage.get (storage.put blobs data).1 (storage.put blobs data).2 = some data
  kept : ∀ blobs data id found, storage.get blobs id = some found →
    storage.get (storage.put blobs data).1 id = some found

inductive SessionError where
  | storage
  | indexStore
  | encrypt
  | decrypt
  | blobTooShort
  deriving DecidableEq, Repr

structure Manager (Blobs : Type) where
  blobs : Blobs
  indexBlob : String → Option BlobId
  cache : SessionId → Option SessionContext

structure SaveFaults where
  sessionPut : Bool := false
  pointerGet : Bool := false
  indexGet : Bool := false
  indexPut : Bool := false
  pointerSet : Bool := false
  deriving DecidableEq, Repr

structure SaveCall where
  session : SessionContext
  key : SessionKey
  sessionNonce : Nonce
  indexNonce : Nonce
  now : UInt64
  faults : SaveFaults := {}

def preview (session : SessionContext) : String :=
  match session.messages.find? fun message => message.role = .user with
  | some message => String.ofList (message.content.toList.take 80)
  | none => ""

def summaryOf (session : SessionContext) : SessionSummary where
  sessionId := session.sessionId
  modelId := session.modelId
  turnCount := session.metadata.turnCount
  createdAt := session.metadata.createdAt
  lastUpdated := session.metadata.lastUpdated
  preview := preview session

def sortSummaries (summaries : List SessionSummary) : List SessionSummary :=
  summaries.mergeSort fun first second => second.lastUpdated ≤ first.lastUpdated

def updateSummaries (summaries : List SessionSummary) (session : SessionContext) : List SessionSummary :=
  sortSummaries (KeyedList.upsert SessionSummary.sessionId (summaryOf session) summaries)

section

variable {Blobs : Type} (storage : StorageClient Blobs) (cipher : SessionCipher)

def sealBlob (key : SessionKey) (nonce : Nonce) (plain : Json) : Except SessionError (List UInt8) :=
  match cipher.encrypt key nonce (toVec plain) with
  | none => .error .encrypt
  | some sealed => .ok (EncryptedBlob.toBytes ⟨sealed, nonce⟩)

def openBlob (key : SessionKey) (raw : List UInt8) : Except SessionError (List UInt8) :=
  match EncryptedBlob.fromBytes raw with
  | none => .error .blobTooShort
  | some blob =>
      match cipher.decrypt key blob.nonce blob.ciphertext with
      | none => .error .decrypt
      | some plain => .ok plain

/-- No blob in the storage that one of the keys sealed is opened by another of them. -/
def Locked (keys : Set SessionKey) (blobs : Blobs) : Prop :=
  ∀ id raw, storage.get blobs id = some raw → ∀ sealer ∈ keys, ∀ other ∈ keys, sealer ≠ other →
    ∀ nonce plain, sealBlob cipher sealer nonce plain = .ok raw → openBlob cipher other raw = .error .decrypt

/-- An index blob that cannot be fetched counts as an empty index. -/
def readSummaries (key : SessionKey) (raw : Option (List UInt8)) : Except SessionError (List SessionSummary) :=
  match raw with
  | none => .ok []
  | some raw => (openBlob cipher key raw).map decodeSummaries

def Manager.put (manager : Manager Blobs) (fails : Bool) (data : List UInt8) :
    Manager Blobs × Except SessionError BlobId :=
  if fails then (manager, .error .storage)
  else
    let stored := storage.put manager.blobs data
    ({ manager with blobs := stored.1 }, .ok stored.2)

def Manager.get (manager : Manager Blobs) (fails : Bool) (id : BlobId) : Option (List UInt8) :=
  if fails then none else storage.get manager.blobs id

def Manager.setIndexBlob (manager : Manager Blobs) (user : String) (id : BlobId) : Manager Blobs :=
  { manager with indexBlob := fun other => if other = user then some id else manager.indexBlob other }

def Manager.cacheSession (manager : Manager Blobs) (session : SessionContext) : Manager Blobs :=
  { manager with
    cache := fun id => if id = session.sessionId then some session else manager.cache id }

def loadSummaries (manager : Manager Blobs) (call : SaveCall) : Except SessionError (List SessionSummary) :=
  if call.faults.pointerGet then .error .indexStore
  else
    match manager.indexBlob call.session.userAddress with
    | none => .ok []
    | some id => readSummaries cipher call.key (manager.get storage call.faults.indexGet id)

def storeSummaries (manager : Manager Blobs) (call : SaveCall) (summaries : List SessionSummary) :
    Manager Blobs × Except SessionError Unit :=
  match sealBlob cipher call.key call.indexNonce (summariesJson summaries) with
  | .error reason => (manager, .error reason)
  | .ok data =>
      match manager.put storage call.faults.indexPut data with
      | (manager, .error reason) => (manager, .error reason)
      | (manager, .ok id) =>
          if call.faults.pointerSet then (manager, .error .indexStore)
          else (manager.setIndexBlob call.session.userAddress id, .ok ())

def updateSessionIndex (manager : Manager Blobs) (call : SaveCall) :
    Manager Blobs × Except SessionError Unit :=
  match loadSummaries storage cipher manager call with
  | .error reason => (manager, .error reason)
  | .ok summaries => storeSummaries storage cipher manager call (updateSummaries summaries call.session)

def SaveCall.saved (call : SaveCall) (id : BlobId) : SessionContext :=
  { call.session with
    metadata := { call.session.metadata with
      prevBlobId := call.session.metadata.blobId
      blobId := some id
      lastUpdated := call.now } }

/-- Everything before `update_session_index`. -/
def storeSession (manager : Manager Blobs) (call : SaveCall) : Manager Blobs × Except SessionError BlobId :=
  match sealBlob cipher call.key call.sessionNonce call.session.toJson with
  | .error reason => (manager, .error reason)
  | .ok data =>
      match manager.put storage call.faults.sessionPut data with
      | (manager, .error reason) => (manager, .error reason)
      | (manager, .ok id) => (manager.cacheSession (call.saved id), .ok id)

def saveSession (manager : Manager Blobs) (call : SaveCall) : Manager Blobs × Except SessionError BlobId :=
  match storeSession storage cipher manager call with
  | (manager, .error reason) => (manager, .error reason)
  | (manager, .ok id) =>
      match updateSessionIndex storage cipher manager call with
      | (manager, .error reason) => (manager, .error reason)
      | (manager, .ok ()) => (manager, .ok id)

def newSession (sessionId : SessionId) (userAddress modelId : String) (systemPrompt : Option String)
    (now : UInt64) : SessionContext where
  sessionId
  userAddress
  modelId
  messages := []
  contextWindow := { systemPrompt, summary := none, recentMessages := [], totalTokens := 0 }
  metadata := {
    createdAt := now
    lastUpdated := now
    turnCount := 0
    totalTokensUsed := 0
    totalCostNanox := 0
    blobId := none
    prevBlobId := none }

structure CreateCall where
  userAddress : String
  modelId : String
  systemPrompt : Option String
  /-- The id, the key and the time that the call draws. -/
  sessionId : SessionId
  key : SessionKey
  now : UInt64

def createSession (manager : Manager Blobs) (call : CreateCall) :
    Manager Blobs × SessionContext × SessionKey :=
  let session := newSession call.sessionId call.userAddress call.modelId call.systemPrompt call.now
  (manager.cacheSession session, session, call.key)

def listSessions (manager : Manager Blobs) (userAddress : String) (key : SessionKey) :
    Except SessionError (List SessionSummary) :=
  match manager.indexBlob userAddress with
  | none => .ok []
  | some id =>
      match storage.get manager.blobs id with
      | none => .error .storage
      | some raw => (openBlob cipher key raw).map decodeSummaries

end

/-- The blobs of `MemoryStorageClient`, numbered in the order in which they are put. -/
structure MemoryBlobs where
  blobs : List (BlobId × List UInt8)
  counter : Nat
  numbered : ∀ blob ∈ blobs, ∃ number ≤ counter, blob.1 = "mem_blob_" ++ toString number

def memoryStorage : StorageClient MemoryBlobs where
  put memory data :=
    let id := "mem_blob_" ++ toString (memory.counter + 1)
    ({ blobs := (id, data) :: memory.blobs
       counter := memory.counter + 1
       numbered := by
         intro blob member
         rcases List.mem_cons.mp member with rfl | member
         · exact ⟨memory.counter + 1, le_rfl, rfl⟩
         · obtain ⟨number, bound, name⟩ := memory.numbered blob member
           exact ⟨number, Nat.le_succ_of_le bound, name⟩ }, id)
  get memory id := memory.blobs.lookup id

end Pinaivu.Context
