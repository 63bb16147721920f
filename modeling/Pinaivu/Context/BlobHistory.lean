import Pinaivu.Context.SessionLoad

/-!
Successive calls of `append_turn` on one session value, and the blobs that `prev_blob_id`
leads to after them.
-/

namespace Pinaivu.Context

open JsonText

structure Turn where
  userPrompt : String
  assistantReply : String
  tokensUsed : UInt64
  costNanox : UInt64
  nodeId : Option NodePeerId
  key : SessionKey
  sessionNonce : Nonce
  indexNonce : Nonce
  now : UInt64
  savedAt : UInt64
  faults : SaveFaults := {}

def Turn.call (turn : Turn) (session : SessionContext) : TurnCall where
  session
  userPrompt := turn.userPrompt
  assistantReply := turn.assistantReply
  tokensUsed := turn.tokensUsed
  costNanox := turn.costNanox
  nodeId := turn.nodeId
  key := turn.key
  sessionNonce := turn.sessionNonce
  indexNonce := turn.indexNonce
  now := turn.now
  savedAt := turn.savedAt
  faults := turn.faults

def Turn.save (turn : Turn) (session : SessionContext) : SaveCall where
  session := (turn.call session).appended
  key := turn.key
  sessionNonce := turn.sessionNonce
  indexNonce := turn.indexNonce
  now := turn.savedAt
  faults := turn.faults

/-- A manager and the session of its caller, which `append_turn` changes in place. -/
structure Conversation (Blobs : Type) where
  manager : Manager Blobs
  session : SessionContext

section

variable {Blobs : Type} (storage : StorageClient Blobs) (cipher : SessionCipher)

def Conversation.append (conversation : Conversation Blobs) (turn : Turn) :
    Conversation Blobs × Except SessionError BlobId :=
  let call := turn.call conversation.session
  let saved := appendTurn storage cipher conversation.manager call
  ({ manager := saved.1, session := call.appended }, saved.2)

def Conversation.step (conversation : Conversation Blobs) (turn : Turn) : Conversation Blobs :=
  (conversation.append storage cipher turn).1

def Conversation.Succeeds (conversation : Conversation Blobs) (turn : Turn) : Prop :=
  ∃ id, (conversation.append storage cipher turn).2 = .ok id

def savedBlobs (start : Conversation Blobs) (turns : List Turn) : List BlobId :=
  Runs.outputs (Conversation.step storage cipher)
    (fun conversation turn => (conversation.append storage cipher turn).2.toOption.toList) start turns

def readMetadata (key : SessionKey) (blobs : Blobs) (id : BlobId) : Option SessionMetadata :=
  match storage.get blobs id with
  | none => none
  | some raw =>
      match openBlob cipher key raw with
      | .error _ => none
      | .ok plain => (readSession plain).map SessionContext.metadata

def earlierBlobs (key : SessionKey) (blobs : Blobs) : Nat → SessionMetadata → List BlobId
  | 0, _ => []
  | steps + 1, metadata =>
      match metadata.prevBlobId with
      | none => []
      | some id =>
          match readMetadata storage cipher key blobs id with
          | none => [id]
          | some earlier => id :: earlierBlobs key blobs steps earlier

def blobHistory (key : SessionKey) (blobs : Blobs) (steps : Nat) (metadata : SessionMetadata) : List BlobId :=
  metadata.blobId.toList ++ earlierBlobs storage cipher key blobs steps metadata

/-- From the metadata of the last save the history visits the saved blobs, newest to oldest,
each once. -/
def HistoryLinked (key : SessionKey) (manager : Manager Blobs) (sessionId : SessionId) (saved : List BlobId) : Prop :=
  ∀ cached, manager.cache sessionId = some cached → ∀ steps, saved.length ≤ steps →
    (blobHistory storage cipher key manager.blobs steps cached.metadata).filter (· ∈ saved) = saved.reverse

/-- Neither the caller's session nor a stored one names the blob. -/
structure Unnamed (key : SessionKey) (conversation : Conversation Blobs) (id : BlobId) : Prop where
  current : conversation.session.metadata.blobId ≠ some id
  previous : conversation.session.metadata.prevBlobId ≠ some id
  stored : ∀ blob metadata, readMetadata storage cipher key conversation.manager.blobs blob = some metadata →
    metadata.prevBlobId ≠ some id

def NewId (key : SessionKey) (conversation : Conversation Blobs) (turn : Turn) : Prop :=
  ∀ id, (conversation.append storage cipher turn).2 = .ok id → Unnamed storage cipher key conversation id

end

section

variable {Blobs : Type} {storage : StorageClient Blobs} {cipher : SessionCipher}
variable {manager : Manager Blobs} {key : SessionKey} {conversation : Conversation Blobs}

theorem readMetadata_found {blobs : Blobs} {id : BlobId} {metadata : SessionMetadata}
    (read : readMetadata storage cipher key blobs id = some metadata) :
    ∃ raw plain session, storage.get blobs id = some raw ∧ openBlob cipher key raw = .ok plain ∧
      readSession plain = some session ∧ session.metadata = metadata := by
  rw [readMetadata] at read
  split at read
  · contradiction
  next raw found =>
    split at read
    · contradiction
    next plain opened =>
      obtain ⟨session, decoded, same⟩ := Option.map_eq_some_iff.mp read
      exact ⟨raw, plain, session, found, opened, decoded, same⟩

def PrevsSatisfy (storage : StorageClient Blobs) (cipher : SessionCipher) (key : SessionKey)
    (P : Option BlobId → Prop) (blobs : Blobs) : Prop :=
  ∀ id metadata, readMetadata storage cipher key blobs id = some metadata → P metadata.prevBlobId

theorem prevs_saveSession (opens : cipher.Opens) (genuine : storage.Genuine) {P : Option BlobId → Prop}
    {call : SaveCall}
    (locked : Locked storage cipher {call.key, key} (saveSession storage cipher manager call).1.blobs)
    (own : P call.session.metadata.prevBlobId) (prevs : PrevsSatisfy storage cipher key P manager.blobs) :
    PrevsSatisfy storage cipher key P (saveSession storage cipher manager call).1.blobs := by
  intro id metadata read
  obtain ⟨raw, plain, session, found, opened, decoded, rfl⟩ := readMetadata_found read
  rcases saveSession_puts genuine call id raw found with old | sealedBlob | ⟨summaries, sealedBlob⟩
  · have before : readMetadata storage cipher key manager.blobs id = some session.metadata := by
      simp only [readMetadata, old, opened, decoded, Option.map_some]
    exact prevs id session.metadata before
  · obtain ⟨-, written⟩ := sealer_of_opened opens locked found (.inl rfl) (.inr rfl) sealedBlob opened
    rw [written, readSession_toVec, decodeSession_toJson] at decoded
    exact Option.some.inj decoded ▸ own
  · obtain ⟨-, written⟩ := sealer_of_opened opens locked found (.inl rfl) (.inr rfl) sealedBlob opened
    rw [written, readSession_toVec, decodeSession_summaries] at decoded
    contradiction

/-- After every turn the key of the turn and the one that reads the history lock the blobs. -/
def LockedAfter (storage : StorageClient Blobs) (cipher : SessionCipher) (key : SessionKey)
    (conversation : Conversation Blobs) (turn : Turn) : Prop :=
  Locked storage cipher {turn.key, key} (conversation.step storage cipher turn).manager.blobs

theorem prevs_append (opens : cipher.Opens) (genuine : storage.Genuine) {P : Option BlobId → Prop} {turn : Turn}
    (locked : LockedAfter storage cipher key conversation turn) (own : P conversation.session.metadata.prevBlobId)
    (prevs : PrevsSatisfy storage cipher key P conversation.manager.blobs) :
    PrevsSatisfy storage cipher key P (conversation.step storage cipher turn).manager.blobs := by
  exact prevs_saveSession opens genuine locked own prevs

theorem put_cache (fails : Bool) (data : List UInt8) : (manager.put storage fails data).1.cache = manager.cache := by
  rw [Manager.put]
  split <;> rfl

theorem storeSummaries_cache (call : SaveCall) (summaries : List SessionSummary) :
    (storeSummaries storage cipher manager call summaries).1.cache = manager.cache := by
  rw [storeSummaries]
  split
  · rfl
  next data _ =>
    have kept := @put_cache _ storage manager call.faults.indexPut data
    split
    next failed reason put => rwa [put] at kept
    next stored id put =>
      rw [put] at kept
      split <;> exact kept

theorem updateSessionIndex_cache (call : SaveCall) :
    (updateSessionIndex storage cipher manager call).1.cache = manager.cache := by
  rw [updateSessionIndex]
  split
  · rfl
  · exact storeSummaries_cache call _

def storedSession (storage : StorageClient Blobs) (manager : Manager Blobs) (call : SaveCall) (data : List UInt8) :
    Manager Blobs :=
  (manager.put storage false data).1.cacheSession (call.saved (storage.put manager.blobs data).2)

theorem saveSession_stored (opens : cipher.Opens) {call : SaveCall} (works : call.faults.sessionPut = false) :
    ∃ data, saveSession storage cipher manager call =
      ((updateSessionIndex storage cipher (storedSession storage manager call data) call).1,
        (updateSessionIndex storage cipher (storedSession storage manager call data) call).2.map
          fun _ => (storage.put manager.blobs data).2) := by
  obtain ⟨data, sealedBlob, -⟩ := sealBlob_opens opens call.key call.sessionNonce call.session.toJson
  refine ⟨data, ?_⟩
  have stored : storeSession storage cipher manager call =
      (storedSession storage manager call data, .ok (storage.put manager.blobs data).2) := by
    rw [storeSession, sealedBlob]
    simp [works, Manager.put, storedSession]
  simp only [saveSession, stored]
  split <;> simp_all [Except.map]

theorem saveSession_unstored {call : SaveCall} (fails : call.faults.sessionPut = true) :
    (saveSession storage cipher manager call).1 = manager ∧
      ∃ reason, (saveSession storage cipher manager call).2 = .error reason := by
  cases sealedBlob : sealBlob cipher call.key call.sessionNonce call.session.toJson with
  | error reason => simp [saveSession, storeSession, sealedBlob]
  | ok data => simp [saveSession, storeSession, sealedBlob, Manager.put, fails]

theorem saveSession_cached (opens : cipher.Opens) {call : SaveCall} {id : BlobId}
    (saved : (saveSession storage cipher manager call).2 = .ok id) :
    (saveSession storage cipher manager call).1.cache call.session.sessionId = some (call.saved id) := by
  cases works : call.faults.sessionPut with
  | true =>
      obtain ⟨-, reason, failed⟩ := @saveSession_unstored _ storage cipher manager call works
      rw [failed] at saved
      contradiction
  | false =>
      obtain ⟨data, stored⟩ := @saveSession_stored _ storage cipher manager opens call works
      rw [stored] at saved ⊢
      cases updated : (updateSessionIndex storage cipher (storedSession storage manager call data) call).2 with
      | error reason => simp [updated, Except.map] at saved
      | ok done =>
          obtain rfl : (storage.put manager.blobs data).2 = id := by simpa [updated, Except.map] using saved
          rw [updateSessionIndex_cache]
          simp [storedSession, Manager.cacheSession, SaveCall.saved]

theorem unnamed_step (opens : cipher.Opens) (genuine : storage.Genuine) {id : BlobId} {turn : Turn}
    (locked : LockedAfter storage cipher key conversation turn)
    (unnamed : Unnamed storage cipher key conversation id) :
    Unnamed storage cipher key (conversation.step storage cipher turn) id where
  current := unnamed.current
  previous := unnamed.previous
  stored := prevs_append (P := (· ≠ some id)) opens genuine locked unnamed.previous unnamed.stored

theorem unnamed_run (opens : cipher.Opens) (genuine : storage.Genuine) {id : BlobId} {turns : List Turn}
    (locked : Runs.Always (Conversation.step storage cipher) (LockedAfter storage cipher key) conversation turns)
    (unnamed : Unnamed storage cipher key conversation id) :
    Unnamed storage cipher key (Runs.run (Conversation.step storage cipher) conversation turns) id := by
  induction turns generalizing conversation with
  | nil => exact unnamed
  | cons turn turns ih => exact ih locked.2 (unnamed_step opens genuine locked.1 unnamed)

theorem mem_toList_iff {result : Except SessionError BlobId} {id : BlobId} :
    id ∈ result.toOption.toList ↔ result = .ok id := by
  cases result <;> simp [Except.toOption, eq_comm]

theorem savedBlobs_unnamed (opens : cipher.Opens) (genuine : storage.Genuine)
    {start : Conversation Blobs} {turns : List Turn}
    (locked : Runs.Always (Conversation.step storage cipher) (LockedAfter storage cipher key) start turns)
    (newIds : Runs.Always (Conversation.step storage cipher) (NewId storage cipher key) start turns) :
    ∀ id ∈ savedBlobs storage cipher start turns,
      Unnamed storage cipher key (Runs.run (Conversation.step storage cipher) start turns) id := by
  induction turns generalizing start with
  | nil => simp [savedBlobs, Runs.outputs]
  | cons turn turns ih =>
      obtain ⟨new, later⟩ := newIds
      intro id member
      rcases List.mem_append.mp member with first | rest
      · have unnamed := new id (mem_toList_iff.mp first)
        exact unnamed_run opens genuine locked unnamed
      · exact ih locked.2 later id rest

theorem savedBlobs_length {start : Conversation Blobs} {turns : List Turn}
    (succeed : Runs.Always (Conversation.step storage cipher) (Conversation.Succeeds storage cipher) start turns) :
    (savedBlobs storage cipher start turns).length = turns.length := by
  induction turns generalizing start with
  | nil => rfl
  | cons turn turns ih =>
      obtain ⟨⟨id, saved⟩, later⟩ := succeed
      have one : ((start.append storage cipher turn).2.toOption.toList).length = 1 := by
        rw [saved]
        rfl
      have rest := ih later
      rw [savedBlobs] at rest
      rw [savedBlobs, Runs.outputs, List.length_append, one, rest, List.length_cons, Nat.add_comm]

theorem earlierBlobs_unsaved {saved : List BlobId} {blobs : Blobs}
    (stored : PrevsSatisfy storage cipher key (fun prev => ∀ id ∈ saved, prev ≠ some id) blobs) (steps : Nat)
    {metadata : SessionMetadata} (start : ∀ id ∈ saved, metadata.prevBlobId ≠ some id) :
    ∀ id ∈ earlierBlobs storage cipher key blobs steps metadata, id ∉ saved := by
  induction steps generalizing metadata with
  | zero => simp [earlierBlobs]
  | succ steps ih =>
      cases prev : metadata.prevBlobId with
      | none => simp [earlierBlobs, prev]
      | some previous =>
          have unsaved : previous ∉ saved := fun member => start previous member prev
          cases read : readMetadata storage cipher key blobs previous with
          | none => simpa [earlierBlobs, prev, read] using unsaved
          | some earlier =>
              have rest := ih (stored previous earlier read)
              simp only [earlierBlobs, prev, read, List.forall_mem_cons]
              exact ⟨unsaved, rest⟩

theorem append_cached (opens : cipher.Opens) {turn : Turn} {id : BlobId}
    (saved : (conversation.append storage cipher turn).2 = .ok id) :
    ∃ cached, (conversation.step storage cipher turn).manager.cache conversation.session.sessionId = some cached ∧
      cached.metadata.blobId = some id ∧ cached.metadata.prevBlobId = conversation.session.metadata.blobId := by
  exact ⟨_, saveSession_cached opens saved, rfl, rfl⟩

end

section

variable {Blobs : Type} {storage : StorageClient Blobs} {cipher : SessionCipher}

theorem savedBlobs_concat (start : Conversation Blobs) (front : List Turn) (last : Turn) :
    savedBlobs storage cipher start (front ++ [last]) =
      savedBlobs storage cipher start front ++
        ((Runs.run (Conversation.step storage cipher) start front).append storage cipher last).2.toOption.toList := by
  rw [savedBlobs, Runs.outputs_append, Runs.outputs, Runs.outputs, List.append_nil]
  rfl

theorem run_sessionId (start : Conversation Blobs) (turns : List Turn) :
    (Runs.run (Conversation.step storage cipher) start turns).session.sessionId = start.session.sessionId := by
  exact @Runs.invariant_run _ _ (Conversation.step storage cipher)
    (fun conversation : Conversation Blobs => conversation.session.sessionId = start.session.sessionId)
    (fun _ _ same => same) _ rfl turns

/-- Of the saved blobs the history visits the last one only. -/
theorem history_after_turn (opens : cipher.Opens) (genuine : storage.Genuine)
    {key : SessionKey} {start : Conversation Blobs} (front : List Turn) (last : Turn)
    (locked : Runs.Always (Conversation.step storage cipher) (LockedAfter storage cipher key) start (front ++ [last]))
    (succeed : Runs.Always (Conversation.step storage cipher) (Conversation.Succeeds storage cipher) start
      (front ++ [last]))
    (newIds : Runs.Always (Conversation.step storage cipher) (NewId storage cipher key) start (front ++ [last])) :
    HistoryLinked storage cipher key (Runs.run (Conversation.step storage cipher) start (front ++ [last])).manager
        start.session.sessionId (savedBlobs storage cipher start (front ++ [last])) ↔
      savedBlobs storage cipher start front = [] := by
  have unnamed := savedBlobs_unnamed opens genuine locked newIds
  obtain ⟨-, ⟨id, saved⟩, -⟩ := (Runs.always_append _ _ _ _).mp succeed
  obtain ⟨cached, hit, current, previous⟩ := append_cached opens saved
  have all : savedBlobs storage cipher start (front ++ [last]) = savedBlobs storage cipher start front ++ [id] := by
    rw [savedBlobs_concat, saved]
    rfl
  rw [all, Runs.run_concat] at unnamed ⊢
  rw [run_sessionId] at hit
  generalize savedBlobs storage cipher start front = older at unnamed ⊢
  have visits (steps : Nat) : (blobHistory storage cipher key
      ((Runs.run (Conversation.step storage cipher) start front).step storage cipher last).manager.blobs steps
      cached.metadata).filter (· ∈ older ++ [id]) = [id] := by
    have unsaved := earlierBlobs_unsaved
      (fun blob metadata read other otherIn => (unnamed other otherIn).stored blob metadata read) steps
      fun other otherIn => previous ▸ (unnamed other otherIn).current
    have none : (earlierBlobs storage cipher key
        ((Runs.run (Conversation.step storage cipher) start front).step storage cipher last).manager.blobs steps
        cached.metadata).filter (· ∈ older ++ [id]) = [] := by
      rw [List.filter_eq_nil_iff]
      intro other visited
      simpa using unsaved other visited
    rw [blobHistory, current, List.filter_append, none]
    simp
  constructor
  · intro linked
    have reversed := (visits _).symm.trans (linked cached hit _ le_rfl)
    simpa using reversed
  · rintro rfl other otherHit steps -
    obtain rfl := Option.some.inj (hit.symm.trans otherHit)
    exact visits steps

theorem newIds_unlinked (opens : cipher.Opens) (genuine : storage.Genuine)
    {key : SessionKey} {start : Conversation Blobs} (current : start.session.metadata.blobId = none)
    (previous : start.session.metadata.prevBlobId = none)
    (prevs : PrevsSatisfy storage cipher key (· = none) start.manager.blobs) {turns : List Turn}
    (locked : Runs.Always (Conversation.step storage cipher) (LockedAfter storage cipher key) start turns) :
    Runs.Always (Conversation.step storage cipher) (NewId storage cipher key) start turns := by
  induction turns generalizing start with
  | nil => trivial
  | cons turn turns ih =>
      have next := prevs_append opens genuine locked.1 previous prevs
      refine ⟨fun id _ => ⟨?_, ?_, ?_⟩, ih current previous next locked.2⟩
      · simp [current]
      · simp [previous]
      · intro blob metadata read
        simp [prevs blob metadata read]

theorem appends_succeed (opens : cipher.Opens) (durable : storage.Durable)
    {key : SessionKey} {turns : List Turn} (calm : ∀ turn ∈ turns, turn.faults = {})
    (keyed : ∀ turn ∈ turns, turn.key = key) {start : Conversation Blobs} {index : Index}
    (is : IndexIs storage cipher start.manager start.session.userAddress index) (own : index.Under {key}) :
    Runs.Always (Conversation.step storage cipher) (Conversation.Succeeds storage cipher) start turns := by
  induction turns generalizing start index with
  | nil => trivial
  | cons turn turns ih =>
      simp only [List.forall_mem_cons] at calm keyed
      have refined := @saveSession_refines _ storage cipher start.manager opens durable {key}
        (locked_alone key start.manager.blobs) (turn.save start.session) calm.1 keyed.1 index own is
      have accepts : index.Accepts (turn.save start.session) := by
        intro sealer summaries found
        exact keyed.1.trans (own sealer summaries found).symm
      refine ⟨?_, ih calm.2 keyed.2 refined.1 (Index.under_save own keyed.1)⟩
      have succeeds := refined.2.mpr accepts
      cases result : (saveSession storage cipher start.manager (turn.save start.session)).2 with
      | error reason => simp [result, Except.isOk, Except.toBool] at succeeds
      | ok id => exact ⟨id, result⟩

variable (storage cipher)

/-- After successful calls of `append_turn` the saved blobs are linked exactly when there was at
most one call. -/
theorem history_linked_iff (opens : cipher.Opens) (genuine : storage.Genuine)
    (key : SessionKey) (start : Conversation Blobs) (turns : List Turn)
    (locked : Runs.Always (Conversation.step storage cipher) (LockedAfter storage cipher key) start turns)
    (succeed : Runs.Always (Conversation.step storage cipher) (Conversation.Succeeds storage cipher) start turns)
    (newIds : Runs.Always (Conversation.step storage cipher) (NewId storage cipher key) start turns) :
    HistoryLinked storage cipher key (Runs.run (Conversation.step storage cipher) start turns).manager
        start.session.sessionId (savedBlobs storage cipher start turns) ↔
      turns.length ≤ 1 := by
  rcases turns.eq_nil_or_concat with rfl | ⟨front, last, rfl⟩
  · simp [HistoryLinked, savedBlobs, Runs.outputs]
  rw [List.concat_eq_append] at *
  have count := savedBlobs_length ((Runs.always_append _ _ _ _).mp succeed).1
  rw [history_after_turn opens genuine front last locked succeed newIds, ← List.length_eq_zero_iff, count,
    List.length_append, List.length_singleton]
  omega

end

def sampleTurn (userPrompt assistantReply : String) (byte : UInt8) : Turn where
  userPrompt
  assistantReply
  tokensUsed := 5
  costNanox := 100
  nodeId := none
  key := firstSave.key
  sessionNonce := Vector.replicate 12 byte
  indexNonce := Vector.replicate 12 (byte + 1)
  now := 1010
  savedAt := 1011

def newConversation : Conversation MemoryBlobs := ⟨emptyWorld.manager, firstSession⟩

theorem newConversation_succeeds (turns : List Turn) (calm : ∀ turn ∈ turns, turn.faults = {})
    (keyed : ∀ turn ∈ turns, turn.key = firstSave.key) :
    Runs.Always (Conversation.step memoryStorage taggedCipher) (Conversation.Succeeds memoryStorage taggedCipher)
      newConversation turns := by
  have empty : IndexIs memoryStorage taggedCipher newConversation.manager
      newConversation.session.userAddress none := rfl
  refine appends_succeed taggedCipher_opens memoryStorage_durable calm keyed empty ?_
  intro sealer summaries found
  contradiction

theorem newConversation_locked (turns : List Turn) (keyed : ∀ turn ∈ turns, turn.key = firstSave.key) :
    Runs.Always (Conversation.step memoryStorage taggedCipher)
      (LockedAfter memoryStorage taggedCipher firstSave.key) newConversation turns := by
  refine (Runs.always_iff_split _ _ _).mpr ?_
  rintro first turn rest rfl
  have same : turn.key = firstSave.key := keyed turn (by simp)
  rw [LockedAfter, same, Set.pair_eq_singleton]
  exact locked_alone firstSave.key _

theorem newConversation_newIds (turns : List Turn) (keyed : ∀ turn ∈ turns, turn.key = firstSave.key) :
    Runs.Always (Conversation.step memoryStorage taggedCipher)
      (NewId memoryStorage taggedCipher firstSave.key) newConversation turns := by
  refine newIds_unlinked taggedCipher_opens memoryStorage_genuine rfl rfl ?_ (newConversation_locked turns keyed)
  intro blob metadata read
  contradiction

def oneTurn : List Turn := [sampleTurn "hello" "hi there" 1]

def twoTurnsInARow : List Turn := [sampleTurn "hello" "hi there" 1, sampleTurn "how are you" "I am great" 3]

theorem history_linked_one_turn :
    HistoryLinked memoryStorage taggedCipher firstSave.key
        (Runs.run (Conversation.step memoryStorage taggedCipher) newConversation oneTurn).manager
        newConversation.session.sessionId (savedBlobs memoryStorage taggedCipher newConversation oneTurn) ↔
      oneTurn.length ≤ 1 := by
  have keyed : ∀ turn ∈ oneTurn, turn.key = firstSave.key := by simp [oneTurn, sampleTurn]
  exact history_linked_iff memoryStorage taggedCipher taggedCipher_opens memoryStorage_genuine
    firstSave.key newConversation oneTurn (newConversation_locked oneTurn keyed)
    (newConversation_succeeds oneTurn (by simp [oneTurn, sampleTurn]) keyed)
    (newConversation_newIds oneTurn keyed)

/-- After the second turn the history misses the blob of the first. -/
theorem second_turn_unlinked :
    ¬ HistoryLinked memoryStorage taggedCipher firstSave.key
        (Runs.run (Conversation.step memoryStorage taggedCipher) newConversation twoTurnsInARow).manager
        newConversation.session.sessionId (savedBlobs memoryStorage taggedCipher newConversation twoTurnsInARow) := by
  have keyed : ∀ turn ∈ twoTurnsInARow, turn.key = firstSave.key := by simp [twoTurnsInARow, sampleTurn]
  have succeed := newConversation_succeeds twoTurnsInARow (by simp [twoTurnsInARow, sampleTurn]) keyed
  intro linked
  have none := (history_after_turn taggedCipher_opens memoryStorage_genuine oneTurn
    (sampleTurn "how are you" "I am great" 3) (newConversation_locked twoTurnsInARow keyed) succeed
    (newConversation_newIds twoTurnsInARow keyed)).mp linked
  have one := savedBlobs_length (newConversation_succeeds oneTurn (by simp [oneTurn, sampleTurn])
    (by simp [oneTurn, sampleTurn]))
  rw [none] at one
  contradiction

end Pinaivu.Context
