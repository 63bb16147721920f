import Pinaivu.Context.BlobHistory

/-!
Calls of `save_session` and `append_turn` that return an error, and what they leave behind in
the caller's session, the cache and the listings.
-/

namespace Pinaivu.Context

inductive Write where
  | save (key : SessionKey) (sessionNonce indexNonce : Nonce) (now : UInt64) (faults : SaveFaults)
  | append (turn : Turn)

def Write.saveCall (session : SessionContext) : Write → SaveCall
  | .save key sessionNonce indexNonce now faults => { session, key, sessionNonce, indexNonce, now, faults }
  | .append turn => turn.save session

/-- The caller's session afterwards; `save_session` only borrows it. -/
def Write.leaves (session : SessionContext) : Write → SessionContext
  | .save .. => session
  | .append turn => (turn.call session).appended

def Write.IsSave : Write → Prop
  | .save .. => True
  | .append _ => False

def StorageClient.Frames {Blobs : Type} (storage : StorageClient Blobs) : Prop :=
  ∀ blobs data id, id ≠ (storage.put blobs data).2 → storage.get (storage.put blobs data).1 id = storage.get blobs id

def StorageClient.Avoids {Blobs : Type} (storage : StorageClient Blobs) (used : BlobId → Prop) (blobs : Blobs) : Prop :=
  ∀ puts data, ¬ used (storage.put (Runs.run (fun blobs data => (storage.put blobs data).1) blobs puts) data).2

def Manager.Refers {Blobs : Type} (manager : Manager Blobs) (id : BlobId) : Prop :=
  (∃ user, manager.indexBlob user = some id) ∨
    ∃ sessionId cached, manager.cache sessionId = some cached ∧ cached.metadata.blobId = some id

section

variable {Blobs : Type} (storage : StorageClient Blobs) (cipher : SessionCipher)

def Conversation.write (conversation : Conversation Blobs) (write : Write) :
    Conversation Blobs × Except SessionError BlobId :=
  let saved := saveSession storage cipher conversation.manager (write.saveCall conversation.session)
  ({ manager := saved.1, session := write.leaves conversation.session }, saved.2)

structure Unchanged (before after : Conversation Blobs) : Prop where
  session : after.session = before.session
  cache : after.manager.cache = before.manager.cache
  listed : ∀ user key,
    listSessions storage cipher after.manager user key = listSessions storage cipher before.manager user key

def FailsClean (conversation : Conversation Blobs) (write : Write) : Prop :=
  ∀ reason, (conversation.write storage cipher write).2 = .error reason →
    Unchanged storage cipher conversation (conversation.write storage cipher write).1

/-- No call that a save depends on fails, and the old index, if it is fetched, opens. -/
structure Completes (manager : Manager Blobs) (call : SaveCall) : Prop where
  sessionPut : call.faults.sessionPut = false
  pointerGet : call.faults.pointerGet = false
  opened : ∀ id raw, manager.indexBlob call.session.userAddress = some id → call.faults.indexGet = false →
    storage.get manager.blobs id = some raw → ∃ plain, openBlob cipher call.key raw = .ok plain
  indexPut : call.faults.indexPut = false
  pointerSet : call.faults.pointerSet = false

end

section

variable {Blobs : Type} {storage : StorageClient Blobs} {cipher : SessionCipher}
variable {manager : Manager Blobs} {call : SaveCall}

theorem write_append (conversation : Conversation Blobs) (turn : Turn) :
    conversation.write storage cipher (.append turn) = conversation.append storage cipher turn := rfl

theorem avoids_put {used : BlobId → Prop} {blobs : Blobs} (data : List UInt8)
    (avoids : storage.Avoids used blobs) : storage.Avoids used (storage.put blobs data).1 := by
  intro puts next
  exact avoids (data :: puts) next

def Preserves (storage : StorageClient Blobs) (manager : Manager Blobs) (blobs : Blobs) : Prop :=
  storage.Avoids manager.Refers blobs ∧
    ∀ id, manager.Refers id → storage.get blobs id = storage.get manager.blobs id

theorem preserves_put (frames : storage.Frames) {blobs : Blobs} (data : List UInt8)
    (preserves : Preserves storage manager blobs) : Preserves storage manager (storage.put blobs data).1 := by
  obtain ⟨avoids, same⟩ := preserves
  refine ⟨avoids_put data avoids, ?_⟩
  intro id refers
  have other : id ≠ (storage.put blobs data).2 := by
    rintro rfl
    exact avoids [] data refers
  rw [frames blobs data id other, same id refers]

theorem preserves_save (frames : storage.Frames) (avoids : storage.Avoids manager.Refers manager.blobs) :
    Preserves storage manager (saveSession storage cipher manager call).1.blobs := by
  refine saveSession_keeps (P := Preserves storage manager) ?_ ?_ ⟨avoids, fun _ _ => rfl⟩
  · intro data _ blobs before
    exact preserves_put frames data before
  · intro _ data _ blobs before
    exact preserves_put frames data before

theorem loadSummaries_stored (frames : storage.Frames) (avoids : storage.Avoids manager.Refers manager.blobs)
    (data : List UInt8) :
    loadSummaries storage cipher (storedSession storage manager call data) call =
      loadSummaries storage cipher manager call := by
  cases pointer : manager.indexBlob call.session.userAddress with
  | none => simp [loadSummaries, storedSession, Manager.put, Manager.cacheSession, pointer]
  | some id =>
      have refers : manager.Refers id := .inl ⟨_, pointer⟩
      have same := (preserves_put frames data ⟨avoids, fun _ _ => rfl⟩).2 id refers
      simp [loadSummaries, storedSession, Manager.put, Manager.cacheSession, Manager.get, pointer, same]

/-- An update of the index fails exactly when one of its calls does or the old index does not
open; it sets the pointer last. -/
theorem updateSessionIndex_outcome (opens : cipher.Opens) :
    (∃ after, updateSessionIndex storage cipher manager call = (after, .ok ()) ∧
      (∃ summaries, loadSummaries storage cipher manager call = .ok summaries) ∧
      call.faults.indexPut = false ∧ call.faults.pointerSet = false) ∨
    (∃ after reason, updateSessionIndex storage cipher manager call = (after, .error reason) ∧
      after.indexBlob = manager.indexBlob ∧
      ((∃ reason, loadSummaries storage cipher manager call = .error reason) ∨
        call.faults.indexPut = true ∨ call.faults.pointerSet = true)) := by
  cases loaded : loadSummaries storage cipher manager call with
  | error reason =>
      right
      exact ⟨manager, reason, by simp [updateSessionIndex, loaded], rfl, .inl ⟨reason, rfl⟩⟩
  | ok summaries =>
      obtain ⟨data, sealedBlob, -⟩ := sealBlob_opens opens call.key call.indexNonce
        (summariesJson (updateSummaries summaries call.session))
      simp only [updateSessionIndex, loaded, storeSummaries, sealedBlob, Manager.put]
      cases indexPut : call.faults.indexPut with
      | true => exact .inr ⟨manager, .storage, by simp, rfl, by simp⟩
      | false =>
          cases pointerSet : call.faults.pointerSet with
          | true =>
              let stored := { manager with blobs := (storage.put manager.blobs data).1 }
              exact .inr ⟨stored, .indexStore, by simp [stored], rfl, by simp⟩
          | false => exact .inl ⟨_, by simp; rfl, ⟨summaries, rfl⟩, rfl, rfl⟩

theorem loadSummaries_fails_iff :
    (∃ reason, loadSummaries storage cipher manager call = .error reason) ↔
      call.faults.pointerGet = true ∨ ∃ id raw, manager.indexBlob call.session.userAddress = some id ∧
        call.faults.indexGet = false ∧ storage.get manager.blobs id = some raw ∧
        ∃ reason, openBlob cipher call.key raw = .error reason := by
  rw [loadSummaries]
  cases call.faults.pointerGet with
  | true => simp
  | false =>
      cases pointer : manager.indexBlob call.session.userAddress with
      | none => simp
      | some id =>
          cases indexGet : call.faults.indexGet with
          | true => simp [Manager.get, readSummaries]
          | false =>
              cases found : storage.get manager.blobs id with
              | none => simp [Manager.get, readSummaries, found]
              | some raw =>
                  cases opened : openBlob cipher call.key raw with
                  | error reason => simp [Manager.get, readSummaries, found, opened, Except.map]
                  | ok plain => simp [Manager.get, readSummaries, found, opened, Except.map]

theorem updateSessionIndex_fails_iff (opens : cipher.Opens) :
    (∃ reason, (updateSessionIndex storage cipher manager call).2 = .error reason) ↔
      (∃ reason, loadSummaries storage cipher manager call = .error reason) ∨
        call.faults.indexPut = true ∨ call.faults.pointerSet = true := by
  rcases @updateSessionIndex_outcome _ storage cipher manager call opens with
    ⟨after, updated, ⟨summaries, loaded⟩, indexPut, pointerSet⟩ | ⟨after, reason, updated, -, cause⟩
  · simp [updated, loaded, indexPut, pointerSet]
  · exact iff_of_true ⟨reason, by rw [updated]⟩ cause

theorem completes_iff :
    Completes storage cipher manager call ↔ call.faults.sessionPut = false ∧
      ¬ ((∃ reason, loadSummaries storage cipher manager call = .error reason) ∨
        call.faults.indexPut = true ∨ call.faults.pointerSet = true) := by
  rw [loadSummaries_fails_iff]
  have opened (raw : List UInt8) : (∃ plain, openBlob cipher call.key raw = .ok plain) ↔
      ¬ ∃ reason, openBlob cipher call.key raw = .error reason := by
    cases openBlob cipher call.key raw <;> simp
  constructor
  · rintro ⟨sessionPut, pointerGet, opens, indexPut, pointerSet⟩
    refine ⟨sessionPut, ?_⟩
    rintro ((failed | ⟨id, raw, pointer, indexGet, found, failed⟩) | failed | failed)
    · simp [pointerGet] at failed
    · exact (opened raw).mp (opens id raw pointer indexGet found) failed
    · simp [indexPut] at failed
    · simp [pointerSet] at failed
  · rintro ⟨sessionPut, calm⟩
    simp only [not_or, Bool.not_eq_true] at calm
    obtain ⟨⟨pointerGet, opens⟩, indexPut, pointerSet⟩ := calm
    refine ⟨sessionPut, pointerGet, ?_, indexPut, pointerSet⟩
    intro id raw pointer indexGet found
    exact (opened raw).mpr fun failed => opens ⟨id, raw, pointer, indexGet, found, failed⟩

theorem saveSession_fails_iff (opens : cipher.Opens) (frames : storage.Frames)
    (avoids : storage.Avoids manager.Refers manager.blobs) :
    (∃ reason, (saveSession storage cipher manager call).2 = .error reason) ↔
      ¬ Completes storage cipher manager call := by
  rw [completes_iff]
  cases works : call.faults.sessionPut with
  | true => exact iff_of_true (saveSession_unstored works).2 (by simp)
  | false =>
      obtain ⟨data, stored⟩ := @saveSession_stored _ storage cipher manager opens call works
      have same := @loadSummaries_stored _ storage cipher manager call frames avoids data
      have update := @updateSessionIndex_fails_iff _ storage cipher (storedSession storage manager call data) call opens
      rw [same] at update
      rw [and_iff_right rfl, not_not, ← update, stored]
      cases (updateSessionIndex storage cipher (storedSession storage manager call data) call).2 <;> simp [Except.map]

theorem saveSession_fails_indexBlob (opens : cipher.Opens) {reason : SessionError}
    (failed : (saveSession storage cipher manager call).2 = .error reason) :
    (saveSession storage cipher manager call).1.indexBlob = manager.indexBlob := by
  cases works : call.faults.sessionPut with
  | true => rw [(saveSession_unstored works).1]
  | false =>
      obtain ⟨data, stored⟩ := @saveSession_stored _ storage cipher manager opens call works
      rw [stored] at failed ⊢
      rcases @updateSessionIndex_outcome _ storage cipher (storedSession storage manager call data) call opens with
        ⟨after, updated, -⟩ | ⟨after, reason, updated, same, -⟩
      · rw [updated] at failed
        contradiction
      · rw [updated, same]
        rfl

theorem listed_of_fails (opens : cipher.Opens) (frames : storage.Frames)
    (avoids : storage.Avoids manager.Refers manager.blobs) {reason : SessionError}
    (failed : (saveSession storage cipher manager call).2 = .error reason) (user : String) (key : SessionKey) :
    listSessions storage cipher (saveSession storage cipher manager call).1 user key =
      listSessions storage cipher manager user key := by
  have same := saveSession_fails_indexBlob opens failed
  rw [listSessions, listSessions, same]
  cases pointer : manager.indexBlob user with
  | none => rfl
  | some id => simp only [(preserves_save frames avoids).2 id (.inl ⟨user, pointer⟩)]

theorem appended_changes (turn : Turn) (session : SessionContext) : (turn.call session).appended ≠ session := by
  intro same
  have lengths := congrArg (fun session : SessionContext => session.messages.length) same
  simp [TurnCall.appended, Turn.call] at lengths

theorem cache_changes (opens : cipher.Opens) (avoids : storage.Avoids manager.Refers manager.blobs)
    (works : call.faults.sessionPut = false) :
    (saveSession storage cipher manager call).1.cache ≠ manager.cache := by
  obtain ⟨data, stored⟩ := @saveSession_stored _ storage cipher manager opens call works
  intro same
  rw [stored, updateSessionIndex_cache] at same
  have hit : manager.cache call.session.sessionId = some (call.saved (storage.put manager.blobs data).2) := by
    rw [← same]
    simp [storedSession, Manager.cacheSession, SaveCall.saved]
  exact avoids [] data (.inr ⟨_, _, hit, rfl⟩)

end

/-- A write that returns an error changes nothing exactly when none of its calls fails, or it is a
`save_session` and its first put fails. -/
theorem fails_clean_iff {Blobs : Type} (storage : StorageClient Blobs) (cipher : SessionCipher) (opens : cipher.Opens)
    (frames : storage.Frames) (conversation : Conversation Blobs)
    (avoids : storage.Avoids conversation.manager.Refers conversation.manager.blobs) (write : Write) :
    FailsClean storage cipher conversation write ↔
      Completes storage cipher conversation.manager (write.saveCall conversation.session) ∨
        write.IsSave ∧ (write.saveCall conversation.session).faults.sessionPut = true := by
  have fails := @saveSession_fails_iff _ storage cipher conversation.manager
    (write.saveCall conversation.session) opens frames avoids
  constructor
  · intro clean
    by_contra neither
    obtain ⟨incomplete, notFirst⟩ := not_or.mp neither
    obtain ⟨reason, failed⟩ := fails.mpr incomplete
    have unchanged := clean reason failed
    cases write with
    | save key sessionNonce indexNonce now faults =>
        have works : faults.sessionPut = false := by simpa [Write.IsSave, Write.saveCall] using notFirst
        exact cache_changes opens avoids works unchanged.cache
    | append turn => exact appended_changes turn conversation.session unchanged.session
  · rintro (complete | ⟨isSave, first⟩) reason failed
    · exact absurd complete (fails.mp ⟨reason, failed⟩)
    · cases write with
      | append turn => exact isSave.elim
      | save key sessionNonce indexNonce now faults =>
          have same := (@saveSession_unstored _ storage cipher conversation.manager _ first).1
          refine ⟨rfl, ?_, listed_of_fails opens frames avoids failed⟩
          exact congrArg Manager.cache same

theorem memoryStorage_frames : memoryStorage.Frames := fun memory data _ => memoryStorage_get_other memory data

theorem newConversation_avoids :
    memoryStorage.Avoids newConversation.manager.Refers newConversation.manager.blobs := by
  intro puts data refers
  rcases refers with ⟨user, pointer⟩ | ⟨sessionId, cached, hit, -⟩
  · contradiction
  · contradiction

def faultySave (faults : SaveFaults) : Write :=
  .save firstSave.key firstSave.sessionNonce firstSave.indexNonce firstSave.now faults

def faultyTurn (faults : SaveFaults) : Write := .append { sampleTurn "hello" "hi there" 1 with faults }

theorem fails_clean_first_put :
    FailsClean memoryStorage taggedCipher newConversation (faultySave { sessionPut := true }) ↔
      Completes memoryStorage taggedCipher newConversation.manager
          ((faultySave { sessionPut := true }).saveCall newConversation.session) ∨
        (faultySave { sessionPut := true }).IsSave ∧
          ((faultySave { sessionPut := true }).saveCall newConversation.session).faults.sessionPut = true := by
  exact fails_clean_iff memoryStorage taggedCipher taggedCipher_opens memoryStorage_frames newConversation
    newConversation_avoids (faultySave { sessionPut := true })

/-- A save whose pointer cannot be set stays in the cache, and a turn that cannot be stored stays
in the caller's session. -/
theorem failed_writes_remain :
    ¬ FailsClean memoryStorage taggedCipher newConversation (faultySave { pointerSet := true }) ∧
      ¬ FailsClean memoryStorage taggedCipher newConversation (faultyTurn { sessionPut := true }) := by
  constructor
  · intro clean
    have incomplete : ¬ Completes memoryStorage taggedCipher newConversation.manager
        ((faultySave { pointerSet := true }).saveCall newConversation.session) := by
      intro complete
      exact absurd complete.pointerSet (by decide)
    obtain ⟨reason, failed⟩ :=
      (saveSession_fails_iff taggedCipher_opens memoryStorage_frames newConversation_avoids).mpr incomplete
    exact cache_changes taggedCipher_opens newConversation_avoids rfl (clean reason failed).cache
  · intro clean
    obtain ⟨-, reason, failed⟩ := @saveSession_unstored _ memoryStorage taggedCipher newConversation.manager
      ((faultyTurn { sessionPut := true }).saveCall newConversation.session) rfl
    exact appended_changes _ newConversation.session (clean reason failed).session

end Pinaivu.Context
