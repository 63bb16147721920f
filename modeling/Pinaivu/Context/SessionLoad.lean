import Pinaivu.Context.SessionIndex
import Pinaivu.Lib.JsonPretty

/-!
`load_session` with and without a cached session, over every history of a manager.
-/

namespace Pinaivu.Context

open JsonText

def decodeRole (value : Json) : Option Role := do
  let name ← match value with
    | .string name => some name
    | .object [(name, .null)] => some name
    | _ => none
  [.user, .assistant, .system].find? fun role => role.name = name

def decodeMessage (value : Json) : Option Message := do
  let fields ← structFields ["role", "content", "timestamp", "node_id", "token_count"] 0 value
  return {
    role := ← requiredField fields "role" decodeRole
    content := ← requiredField fields "content" decodeString
    timestamp := ← requiredField fields "timestamp" decodeU64
    nodeId := ← optionalField fields "node_id" decodeString
    tokenCount := ← requiredField fields "token_count" decodeU32 }

def decodeContextWindow (value : Json) : Option ContextWindow := do
  let fields ← structFields ["system_prompt", "summary", "recent_messages", "total_tokens"] 0 value
  return {
    systemPrompt := ← optionalField fields "system_prompt" decodeString
    summary := ← optionalField fields "summary" decodeString
    recentMessages := ← requiredField fields "recent_messages" (decodeList decodeMessage)
    totalTokens := ← requiredField fields "total_tokens" decodeU32 }

def decodeMetadata (value : Json) : Option SessionMetadata := do
  let fields ← structFields
    ["created_at", "last_updated", "turn_count", "total_tokens_used", "total_cost_nanox", "blob_id",
      "prev_blob_id"] 0 value
  return {
    createdAt := ← requiredField fields "created_at" decodeU64
    lastUpdated := ← requiredField fields "last_updated" decodeU64
    turnCount := ← requiredField fields "turn_count" decodeU32
    totalTokensUsed := ← requiredField fields "total_tokens_used" decodeU64
    totalCostNanox := ← requiredField fields "total_cost_nanox" decodeU64
    blobId := ← optionalField fields "blob_id" decodeString
    prevBlobId := ← optionalField fields "prev_blob_id" decodeString }

def decodeSession (value : Json) : Option SessionContext := do
  let fields ← structFields
    ["session_id", "user_address", "model_id", "messages", "context_window", "metadata"] 0 value
  return {
    sessionId := ← requiredField fields "session_id" decodeUuid
    userAddress := ← requiredField fields "user_address" decodeString
    modelId := ← requiredField fields "model_id" decodeString
    messages := ← requiredField fields "messages" (decodeList decodeMessage)
    contextWindow := ← requiredField fields "context_window" decodeContextWindow
    metadata := ← requiredField fields "metadata" decodeMetadata }

def readSession (plain : List UInt8) : Option SessionContext :=
  (ofBytesSpaced ⟨plain.toArray⟩).bind decodeSession

inductive LoadError where
  | blob (reason : SessionError)
  | deserialise
  deriving DecidableEq, Repr

structure TurnCall where
  session : SessionContext
  userPrompt : String
  assistantReply : String
  tokensUsed : UInt64
  costNanox : UInt64
  nodeId : Option NodePeerId
  key : SessionKey
  sessionNonce : Nonce
  indexNonce : Nonce
  /-- The time of the turn, and that of the save. -/
  now : UInt64
  savedAt : UInt64
  faults : SaveFaults := {}

/-- The session with the turn, as `append_turn` leaves it to the caller. -/
def TurnCall.appended (call : TurnCall) : SessionContext :=
  let metadata := call.session.metadata
  { call.session with
    messages := call.session.messages ++
      [{ role := .user, content := call.userPrompt, timestamp := call.now, nodeId := none, tokenCount := 0 },
        { role := .assistant, content := call.assistantReply, timestamp := call.now, nodeId := call.nodeId,
          tokenCount := call.tokensUsed.toUInt32 }]
    metadata := { metadata with
      turnCount := metadata.turnCount + 1
      totalTokensUsed := metadata.totalTokensUsed + call.tokensUsed
      totalCostNanox := metadata.totalCostNanox + call.costNanox
      lastUpdated := call.now } }

section

variable {Blobs : Type} (storage : StorageClient Blobs) (cipher : SessionCipher)

def appendTurn (manager : Manager Blobs) (call : TurnCall) : Manager Blobs × Except SessionError BlobId :=
  saveSession storage cipher manager {
    session := call.appended
    key := call.key
    sessionNonce := call.sessionNonce
    indexNonce := call.indexNonce
    now := call.savedAt
    faults := call.faults }

def loadSession (manager : Manager Blobs) (sessionId : SessionId) (blobId : BlobId) (key : SessionKey) :
    Manager Blobs × Except LoadError (Option SessionContext) :=
  match manager.cache sessionId with
  | some cached => (manager, .ok (some cached))
  | none =>
      match storage.get manager.blobs blobId with
      | none => (manager, .ok none)
      | some raw =>
          match openBlob cipher key raw with
          | .error reason => (manager, .error (.blob reason))
          | .ok plain =>
              match readSession plain with
              | none => (manager, .error .deserialise)
              | some session =>
                  ({ manager with cache := Function.update manager.cache sessionId (some session) },
                    .ok (some session))

def Manager.evict (manager : Manager Blobs) (sessionId : SessionId) : Manager Blobs :=
  { manager with cache := Function.update manager.cache sessionId none }

/-- The load returns what it would return without the cached session. -/
def LoadAgrees (manager : Manager Blobs) (sessionId : SessionId) (blobId : BlobId) (key : SessionKey) : Prop :=
  (loadSession storage cipher manager sessionId blobId key).2 =
    (loadSession storage cipher (manager.evict sessionId) sessionId blobId key).2

inductive SessionCall where
  | create (call : CreateCall)
  | save (call : SaveCall)
  | append (call : TurnCall)
  | load (sessionId : SessionId) (blobId : BlobId) (key : SessionKey)

def Manager.step (manager : Manager Blobs) : SessionCall → Manager Blobs
  | .create call => (createSession manager call).1
  | .save call => (saveSession storage cipher manager call).1
  | .append call => (appendTurn storage cipher manager call).1
  | .load sessionId blobId key => (loadSession storage cipher manager sessionId blobId key).1

def SessionCall.sealer : SessionCall → Option SessionKey
  | .save call => some call.key
  | .append call => some call.key
  | .create _ | .load _ _ _ => none

def StoredAs (manager : Manager Blobs) (key : SessionKey) (id : BlobId) (session : SessionContext) : Prop :=
  ∃ nonce raw, sealBlob cipher key nonce session.toJson = .ok raw ∧ storage.get manager.blobs id = some raw

def SaveCall.Puts (call : SaveCall) (raw : List UInt8) : Prop :=
  sealBlob cipher call.key call.sessionNonce call.session.toJson = .ok raw ∨
    ∃ summaries, sealBlob cipher call.key call.indexNonce (summariesJson summaries) = .ok raw

def AllSealed (keys : Set SessionKey) (blobs : Blobs) : Prop :=
  ∀ id raw, storage.get blobs id = some raw → ∃ call : SaveCall, call.key ∈ keys ∧ call.Puts cipher raw

end

/-- Only what was put is read. -/
def StorageClient.Genuine {Blobs : Type} (storage : StorageClient Blobs) : Prop :=
  ∀ blobs data id raw, storage.get (storage.put blobs data).1 id = some raw →
    raw = data ∨ storage.get blobs id = some raw

theorem decodeRole_name (role : Role) : decodeRole (.string role.name) = some role := by
  cases role <;> decide

theorem decodeMessage_toJson (message : Message) : decodeMessage message.toJson = some message := by
  rw [decodeMessage, Message.toJson, structFields_object 0 (by simp), Option.bind_eq_bind, Option.bind_some]
  simp (disch := decide) only [requiredField_head, requiredField_tail, optionalField_head, optionalField_tail,
    decodeRole_name, decodeString, decodeU64_unsignedJson, decodeU32_unsignedJson, decodeOption_optionJson]
  rfl

theorem decodeContextWindow_toJson (window : ContextWindow) :
    decodeContextWindow window.toJson = some window := by
  rw [decodeContextWindow, ContextWindow.toJson, structFields_object 0 (by simp), Option.bind_eq_bind,
    Option.bind_some]
  simp (disch := decide) only [requiredField_head, requiredField_tail, optionalField_head, optionalField_tail,
    decodeOption_optionJson, decodeU32_unsignedJson, decodeList_map decodeMessage_toJson]
  rfl

theorem decodeMetadata_toJson (metadata : SessionMetadata) : decodeMetadata metadata.toJson = some metadata := by
  rw [decodeMetadata, SessionMetadata.toJson, structFields_object 0 (by simp), Option.bind_eq_bind,
    Option.bind_some]
  simp (disch := decide) only [requiredField_head, requiredField_tail, optionalField_head, optionalField_tail,
    decodeOption_optionJson, decodeU32_unsignedJson, decodeU64_unsignedJson]
  rfl

theorem decodeSession_toJson (session : SessionContext) : decodeSession session.toJson = some session := by
  rw [decodeSession, SessionContext.toJson, structFields_object 0 (by simp), Option.bind_eq_bind,
    Option.bind_some]
  simp (disch := decide) only [requiredField_head, requiredField_tail, decodeUuid_uuidJson, decodeString,
    decodeContextWindow_toJson, decodeMetadata_toJson, decodeList_map decodeMessage_toJson]
  rfl

theorem readSession_toVec (value : Json) : readSession (toVec value) = decodeSession value := by
  rw [readSession, byteArray_toVec, ofBytesSpaced_toBytes, Option.bind_some]

/-- No index reads as a session: its first item is not an id. -/
theorem decodeSession_summaries (summaries : List SessionSummary) : decodeSession (summariesJson summaries) = none := by
  rw [decodeSession, summariesJson, structFields]
  cases summaries with
  | nil => simp
  | cons summary summaries =>
      have first : requiredField (fun name => (["session_id", "user_address", "model_id", "messages",
          "context_window", "metadata"].zip ((summary :: summaries).map SessionSummary.toJson)).lookup name)
          "session_id" decodeUuid = none := by
        rw [List.map_cons, List.zip_cons_cons, requiredField_head]
        rfl
      split
      · simp only [Option.bind_eq_bind, Option.bind_some, first, Option.bind_none]
      · rfl

section

variable {Blobs : Type} {storage : StorageClient Blobs} {cipher : SessionCipher}
variable {manager : Manager Blobs} {key : SessionKey} {sessionId : SessionId} {blobId : BlobId}
variable {keys : Set SessionKey}

theorem loadSession_cached {cached : SessionContext} (hit : manager.cache sessionId = some cached) :
    loadSession storage cipher manager sessionId blobId key = (manager, .ok (some cached)) := by
  simp only [loadSession, hit]

theorem loadSession_stored (opens : cipher.Opens) {session : SessionContext}
    (miss : manager.cache sessionId = none) (stored : StoredAs storage cipher manager key blobId session) :
    loadSession storage cipher manager sessionId blobId key =
      ({ manager with cache := Function.update manager.cache sessionId (some session) }, .ok (some session)) := by
  obtain ⟨nonce, raw, sealedBlob, found⟩ := stored
  simp only [loadSession, miss, found, openBlob_sealed opens sealedBlob, readSession_toVec, decodeSession_toJson]

/-- A load from the storage returns a session only if the blob is that session, sealed under
the key of the load. -/
theorem storedAs_of_load (opens : cipher.Opens) (locked : Locked storage cipher keys manager.blobs)
    (reads : key ∈ keys) (allSealed : AllSealed storage cipher keys manager.blobs) {session : SessionContext}
    (miss : manager.cache sessionId = none)
    (loaded : (loadSession storage cipher manager sessionId blobId key).2 = .ok (some session)) :
    StoredAs storage cipher manager key blobId session := by
  simp only [loadSession, miss] at loaded
  cases found : storage.get manager.blobs blobId with
  | none => simp [found] at loaded
  | some raw =>
      cases opened : openBlob cipher key raw with
      | error reason => simp [found, opened] at loaded
      | ok plain =>
          have read : readSession plain = some session := by
            simp only [found, opened] at loaded
            split at loaded
            · contradiction
            next other read =>
              obtain rfl : other = session := by simpa using loaded
              exact read
          obtain ⟨call, seals, put⟩ := allSealed blobId raw found
          rcases put with sealedBlob | ⟨summaries, sealedBlob⟩
          · obtain ⟨same, written⟩ := sealer_of_opened opens locked found seals reads sealedBlob opened
            subst same
            rw [written, readSession_toVec, decodeSession_toJson] at read
            obtain rfl := Option.some.inj read
            exact ⟨call.sessionNonce, raw, sealedBlob, found⟩
          · obtain ⟨-, written⟩ := sealer_of_opened opens locked found seals reads sealedBlob opened
            rw [written, readSession_toVec, decodeSession_summaries] at read
            contradiction

theorem loadAgrees_iff_storedAs (opens : cipher.Opens) (locked : Locked storage cipher keys manager.blobs)
    (reads : key ∈ keys) (allSealed : AllSealed storage cipher keys manager.blobs) :
    LoadAgrees storage cipher manager sessionId blobId key ↔
      ∀ cached, manager.cache sessionId = some cached → StoredAs storage cipher manager key blobId cached := by
  have miss : (manager.evict sessionId).cache sessionId = none := by
    simp [Manager.evict]
  cases hit : manager.cache sessionId with
  | none =>
      have same : manager.evict sessionId = manager := by
        rw [Manager.evict, ← hit, Function.update_eq_self]
      simp [LoadAgrees, same]
  | some cached =>
      rw [LoadAgrees, loadSession_cached hit]
      constructor
      · rintro agrees other cachedIs
        obtain rfl := Option.some.inj cachedIs
        have keptLocked : Locked storage cipher keys (manager.evict sessionId).blobs := locked
        have kept : AllSealed storage cipher keys (manager.evict sessionId).blobs := allSealed
        have stored : StoredAs storage cipher (manager.evict sessionId) key blobId cached :=
          storedAs_of_load opens keptLocked reads kept miss agrees.symm
        exact stored
      · intro stored
        have evicted : StoredAs storage cipher (manager.evict sessionId) key blobId cached := stored cached rfl
        rw [loadSession_stored opens miss evicted]

theorem storedAs_unique (opens : cipher.Opens) (locked : Locked storage cipher keys manager.blobs)
    (seals : key ∈ keys) {other : SessionKey} (otherSeals : other ∈ keys) {first second : SessionContext}
    (one : StoredAs storage cipher manager key blobId first)
    (two : StoredAs storage cipher manager other blobId second) : key = other ∧ first = second := by
  obtain ⟨nonce, raw, sealedBlob, found⟩ := one
  obtain ⟨otherNonce, otherRaw, otherSealed, otherFound⟩ := two
  obtain rfl := Option.some.inj (found.symm.trans otherFound)
  obtain ⟨same, plain⟩ :=
    sealer_of_opened opens locked found seals otherSeals sealedBlob (openBlob_sealed opens otherSealed)
  have read := congrArg readSession plain
  simp only [readSession_toVec, decodeSession_toJson, Option.some.injEq] at read
  exact ⟨same, read.symm⟩

section

variable {P : Blobs → Prop}

theorem put_keeps (fails : Bool) {data : List UInt8} (put : ∀ blobs, P blobs → P (storage.put blobs data).1)
    (holds : P manager.blobs) : P (manager.put storage fails data).1.blobs := by
  rw [Manager.put]
  split
  · exact holds
  · exact put manager.blobs holds

theorem storeSession_keeps {call : SaveCall}
    (session : ∀ data, sealBlob cipher call.key call.sessionNonce call.session.toJson = .ok data →
      ∀ blobs, P blobs → P (storage.put blobs data).1)
    (holds : P manager.blobs) : P (storeSession storage cipher manager call).1.blobs := by
  rw [storeSession]
  split
  · exact holds
  next data sealedBlob =>
    have after := put_keeps call.faults.sessionPut (session data sealedBlob) holds
    split
    next failed reason put => rwa [put] at after
    next stored id put => rwa [put] at after

theorem storeSummaries_keeps {call : SaveCall} (summaries : List SessionSummary)
    (index : ∀ summaries data, sealBlob cipher call.key call.indexNonce (summariesJson summaries) = .ok data →
      ∀ blobs, P blobs → P (storage.put blobs data).1)
    (holds : P manager.blobs) : P (storeSummaries storage cipher manager call summaries).1.blobs := by
  rw [storeSummaries]
  split
  · exact holds
  next data sealedBlob =>
    have after := put_keeps call.faults.indexPut (index summaries data sealedBlob) holds
    split
    next failed reason put => rwa [put] at after
    next stored id put =>
      rw [put] at after
      split <;> exact after

theorem saveSession_keeps {call : SaveCall}
    (session : ∀ data, sealBlob cipher call.key call.sessionNonce call.session.toJson = .ok data →
      ∀ blobs, P blobs → P (storage.put blobs data).1)
    (index : ∀ summaries data, sealBlob cipher call.key call.indexNonce (summariesJson summaries) = .ok data →
      ∀ blobs, P blobs → P (storage.put blobs data).1)
    (holds : P manager.blobs) : P (saveSession storage cipher manager call).1.blobs := by
  have stored := storeSession_keeps session holds
  rw [saveSession]
  split
  next failed reason result => rwa [result] at stored
  next after id result =>
    rw [result] at stored
    have updated : P (updateSessionIndex storage cipher after call).1.blobs := by
      rw [updateSessionIndex]
      split
      · exact stored
      · exact storeSummaries_keeps _ index stored
    split
    next failed reason result => rwa [result] at updated
    next done result => rwa [result] at updated

end

theorem saveSession_puts (genuine : storage.Genuine) (call : SaveCall) (id : BlobId) (raw : List UInt8)
    (found : storage.get (saveSession storage cipher manager call).1.blobs id = some raw) :
    storage.get manager.blobs id = some raw ∨ call.Puts cipher raw := by
  have keeps (data : List UInt8) (puts : call.Puts cipher data) (blobs : Blobs)
      (before : ∀ id raw, storage.get blobs id = some raw → storage.get manager.blobs id = some raw ∨
        call.Puts cipher raw) (id : BlobId) (raw : List UInt8)
      (found : storage.get (storage.put blobs data).1 id = some raw) :
      storage.get manager.blobs id = some raw ∨ call.Puts cipher raw := by
    rcases genuine blobs data id raw found with rfl | old
    · exact .inr puts
    · exact before id raw old
  refine saveSession_keeps (P := fun blobs => ∀ id raw, storage.get blobs id = some raw →
    storage.get manager.blobs id = some raw ∨ call.Puts cipher raw) ?_ ?_ (fun id raw => .inl) id raw found
  · exact fun data sealedBlob => keeps data (.inl sealedBlob)
  · exact fun summaries data sealedBlob => keeps data (.inr ⟨summaries, sealedBlob⟩)

theorem allSealed_saveSession (genuine : storage.Genuine) (allSealed : AllSealed storage cipher keys manager.blobs)
    {call : SaveCall} (seals : call.key ∈ keys) :
    AllSealed storage cipher keys (saveSession storage cipher manager call).1.blobs := by
  intro id raw found
  rcases saveSession_puts genuine call id raw found with old | puts
  · exact allSealed id raw old
  · exact ⟨call, seals, puts⟩

theorem loadSession_blobs :
    (loadSession storage cipher manager sessionId blobId key).1.blobs = manager.blobs := by
  unfold loadSession
  repeat' split
  all_goals rfl

theorem allSealed_step (genuine : storage.Genuine) {call : SessionCall}
    (seals : ∀ sealer, call.sealer = some sealer → sealer ∈ keys)
    (allSealed : AllSealed storage cipher keys manager.blobs) :
    AllSealed storage cipher keys (manager.step storage cipher call).blobs := by
  cases call with
  | create call => exact allSealed
  | save call => exact allSealed_saveSession genuine allSealed (seals _ rfl)
  | append call => exact allSealed_saveSession genuine allSealed (seals call.key rfl)
  | load sessionId blobId key =>
      rw [Manager.step, loadSession_blobs]
      exact allSealed

theorem allSealed_run (genuine : storage.Genuine) {start : Manager Blobs}
    (allSealed : AllSealed storage cipher keys start.blobs) (calls : List SessionCall)
    (seals : ∀ call ∈ calls, ∀ sealer, call.sealer = some sealer → sealer ∈ keys) :
    AllSealed storage cipher keys (Runs.run (Manager.step storage cipher) start calls).blobs := by
  induction calls generalizing start with
  | nil => exact allSealed
  | cons call calls ih =>
      rw [List.forall_mem_cons] at seals
      exact ih (allSealed_step genuine seals.1 allSealed) seals.2

end

/-- After any history a load agrees with the storage exactly when the blob it names is the cached
session, if there is one, sealed under the key it is given. -/
theorem load_agrees_iff {Blobs : Type} (storage : StorageClient Blobs) (cipher : SessionCipher)
    (opens : cipher.Opens) (genuine : storage.Genuine) (keys : Set SessionKey) (start : Manager Blobs)
    (allSealed : AllSealed storage cipher keys start.blobs) (calls : List SessionCall)
    (seals : ∀ call ∈ calls, ∀ sealer, call.sealer = some sealer → sealer ∈ keys) (sessionId : SessionId)
    (blobId : BlobId) (key : SessionKey) (reads : key ∈ keys)
    (locked : Locked storage cipher keys (Runs.run (Manager.step storage cipher) start calls).blobs) :
    LoadAgrees storage cipher (Runs.run (Manager.step storage cipher) start calls) sessionId blobId key ↔
      ∀ cached, (Runs.run (Manager.step storage cipher) start calls).cache sessionId = some cached →
        StoredAs storage cipher (Runs.run (Manager.step storage cipher) start calls) key blobId cached := by
  exact loadAgrees_iff_storedAs opens locked reads (allSealed_run genuine allSealed calls seals)

theorem memoryStorage_genuine : memoryStorage.Genuine := by
  intro memory data id raw found
  by_cases same : id = "mem_blob_" ++ toString (memory.counter + 1)
  · left
    simpa [memoryStorage, same] using found.symm
  · right
    exact (memoryStorage_get_other memory data same).symm.trans found

def firstSession : SessionContext := newSession ⟨Vector.replicate 16 1⟩ "0x01" "llama3.1:8b" none 1000

def firstSave : SaveCall where
  session := firstSession
  key := Vector.replicate 32 1
  sessionNonce := Vector.replicate 12 1
  indexNonce := Vector.replicate 12 2
  now := 1060

def createThenSave : List SessionCall := [.create (sampleCreate 1), .save firstSave]

def twoKeys : Set SessionKey := {key | key = firstSave.key ∨ key = Vector.replicate 32 2}

theorem twoKeys_locked (memory : MemoryBlobs) : Locked memoryStorage taggedCipher twoKeys memory := by
  refine taggedCipher_locked memoryStorage ?_ memory
  rintro key (rfl | rfl) other (rfl | rfl) <;> decide

theorem createThenSave_sealers :
    ∀ call ∈ createThenSave, ∀ sealer, call.sealer = some sealer → sealer ∈ twoKeys := by
  simp [createThenSave, SessionCall.sealer, twoKeys]

theorem createThenSave_sealed :
    AllSealed memoryStorage taggedCipher twoKeys
      (Runs.run (Manager.step memoryStorage taggedCipher) emptyWorld.manager createThenSave).blobs := by
  refine allSealed_run memoryStorage_genuine ?_ createThenSave createThenSave_sealers
  intro id raw found
  contradiction

/-- The process starts again after the save: nothing is cached. -/
def restarted : Manager MemoryBlobs :=
  { Runs.run (Manager.step memoryStorage taggedCipher) emptyWorld.manager createThenSave with cache := fun _ => none }

theorem restarted_stored : StoredAs memoryStorage taggedCipher restarted firstSave.key "mem_blob_1" firstSession :=
  ⟨firstSave.sessionNonce, _, rfl, rfl⟩

theorem load_agrees_loaded :
    LoadAgrees memoryStorage taggedCipher
      (Runs.run (Manager.step memoryStorage taggedCipher) restarted
        [.load firstSession.sessionId "mem_blob_1" firstSave.key])
      firstSession.sessionId "mem_blob_1" firstSave.key := by
  refine (load_agrees_iff memoryStorage taggedCipher taggedCipher_opens memoryStorage_genuine twoKeys restarted
    createThenSave_sealed [.load firstSession.sessionId "mem_blob_1" firstSave.key] (by simp [SessionCall.sealer])
    firstSession.sessionId "mem_blob_1" firstSave.key (.inl rfl) (twoKeys_locked _)).mpr ?_
  rw [Runs.run_cons, Runs.run_nil, Manager.step, loadSession_stored taggedCipher_opens rfl restarted_stored]
  intro cached hit
  obtain rfl : firstSession = cached := by simpa using hit
  exact restarted_stored

/-- A saved session is loaded with the wrong key, and with its own key it has other metadata than
the blob. -/
theorem cached_load_disagrees :
    ¬ LoadAgrees memoryStorage taggedCipher
        (Runs.run (Manager.step memoryStorage taggedCipher) emptyWorld.manager createThenSave)
        firstSession.sessionId "mem_blob_1" (Vector.replicate 32 2) ∧
      ¬ LoadAgrees memoryStorage taggedCipher
        (Runs.run (Manager.step memoryStorage taggedCipher) emptyWorld.manager createThenSave)
        firstSession.sessionId "mem_blob_1" firstSave.key := by
  have locked := twoKeys_locked
      (Runs.run (Manager.step memoryStorage taggedCipher) emptyWorld.manager createThenSave).blobs
  have stored : StoredAs memoryStorage taggedCipher
      (Runs.run (Manager.step memoryStorage taggedCipher) emptyWorld.manager createThenSave)
      firstSave.key "mem_blob_1" firstSession := restarted_stored
  have cached : (Runs.run (Manager.step memoryStorage taggedCipher) emptyWorld.manager createThenSave).cache
      firstSession.sessionId = some (firstSave.saved "mem_blob_1") := rfl
  rw [loadAgrees_iff_storedAs taggedCipher_opens locked (.inr rfl) createThenSave_sealed,
    loadAgrees_iff_storedAs taggedCipher_opens locked (.inl rfl) createThenSave_sealed]
  constructor
  · intro agrees
    obtain ⟨sameKey, -⟩ :=
      storedAs_unique taggedCipher_opens locked (.inl rfl) (.inr rfl) stored (agrees _ cached)
    exact absurd sameKey (by decide)
  · intro agrees
    obtain ⟨-, same⟩ := storedAs_unique taggedCipher_opens locked (.inl rfl) (.inl rfl) stored (agrees _ cached)
    have sameBlob := congrArg (fun session : SessionContext => session.metadata.blobId) same
    exact absurd sameBlob (by decide)

end Pinaivu.Context
