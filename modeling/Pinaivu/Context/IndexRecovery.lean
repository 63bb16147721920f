import Pinaivu.Context.FailedSaves

/-!
What a save leaves of the other sessions in the index. `update_session_index` starts from an empty
list when the old index blob cannot be fetched, and then moves the pointer.
-/

namespace Pinaivu.Context

section

variable {Blobs : Type} (storage : StorageClient Blobs) (cipher : SessionCipher)

/-- Everything that `list_sessions` returned before the save, about other sessions, it returns afterwards. -/
def KeepsOthers (manager : Manager Blobs) (call : SaveCall) : Prop :=
  ∀ user listed, listSessions storage cipher manager user call.key = .ok listed →
    ∃ after, listSessions storage cipher (saveSession storage cipher manager call).1 user call.key = .ok after ∧
      ∀ summary ∈ listed, summary.sessionId ≠ call.session.sessionId → summary ∈ after

/-- Whether or not a write of the pointer that fails is made. -/
def KeepsOthersAnyway (manager : Manager Blobs) (call : SaveCall) : Prop :=
  KeepsOthers storage cipher manager call ∧
    KeepsOthers storage cipher manager { call with faults := { call.faults with pointerSet := false } }

def ListsOthers (manager : Manager Blobs) (call : SaveCall) : Prop :=
  ∃ listed, listSessions storage cipher manager call.session.userAddress call.key = .ok listed ∧
    ∃ summary ∈ listed, summary.sessionId ≠ call.session.sessionId

end

section

variable {Blobs : Type} {storage : StorageClient Blobs} {cipher : SessionCipher}
variable {manager : Manager Blobs} {call : SaveCall}

theorem listSessions_kept {after : Manager Blobs} {user : String} {key : SessionKey} {listed : List SessionSummary}
    (pointer : after.indexBlob user = manager.indexBlob user)
    (kept : ∀ id found, storage.get manager.blobs id = some found → storage.get after.blobs id = some found)
    (before : listSessions storage cipher manager user key = .ok listed) :
    listSessions storage cipher after user key = .ok listed := by
  rw [listSessions] at before ⊢
  rw [pointer]
  cases name : manager.indexBlob user with
  | none => simpa [name] using before
  | some id =>
      cases stored : storage.get manager.blobs id with
      | none => simp [name, stored] at before
      | some raw => simpa [name, stored, kept id raw stored] using before

theorem saveSession_durable (durable : storage.Durable) {id : BlobId} {found : List UInt8}
    (stored : storage.get manager.blobs id = some found) :
    storage.get (saveSession storage cipher manager call).1.blobs id = some found := by
  refine @saveSession_keeps _ storage cipher manager (fun blobs => storage.get blobs id = some found) call ?_ ?_ stored
  · exact fun data _ blobs before => durable.kept blobs data id found before
  · exact fun _ data _ blobs before => durable.kept blobs data id found before

theorem updateSessionIndex_otherUser {user : String} (other : user ≠ call.session.userAddress) :
    (updateSessionIndex storage cipher manager call).1.indexBlob user = manager.indexBlob user := by
  rw [updateSessionIndex]
  cases loadSummaries storage cipher manager call with
  | error reason => rfl
  | ok summaries =>
      simp only [storeSummaries]
      cases sealBlob cipher call.key call.indexNonce (summariesJson (updateSummaries summaries call.session)) with
      | error reason => rfl
      | ok data =>
          cases indexPut : call.faults.indexPut with
          | true => simp [Manager.put]
          | false => cases call.faults.pointerSet <;> simp [Manager.put, Manager.setIndexBlob, other]

theorem saveSession_otherUser (opens : cipher.Opens) {user : String} (other : user ≠ call.session.userAddress) :
    (saveSession storage cipher manager call).1.indexBlob user = manager.indexBlob user := by
  cases works : call.faults.sessionPut with
  | true => rw [(saveSession_unstored works).1]
  | false =>
      obtain ⟨data, stored⟩ := @saveSession_stored _ storage cipher manager opens call works
      rw [stored]
      exact updateSessionIndex_otherUser other

theorem saveSession_lists (opens : cipher.Opens) (durable : storage.Durable) {summaries : List SessionSummary}
    (sessionPut : call.faults.sessionPut = false) (indexPut : call.faults.indexPut = false)
    (pointerSet : call.faults.pointerSet = false)
    (loaded : ∀ data, loadSummaries storage cipher (storedSession storage manager call data) call = .ok summaries) :
    listSessions storage cipher (saveSession storage cipher manager call).1 call.session.userAddress call.key =
      .ok (updateSummaries summaries call.session) := by
  obtain ⟨data, stored⟩ := @saveSession_stored _ storage cipher manager opens call sessionPut
  obtain ⟨after, updated, index⟩ := updateSessionIndex_ok opens durable indexPut pointerSet (loaded data)
  rw [stored, updated]
  exact listSessions_of_index opens index

theorem loadSummaries_listed (durable : storage.Durable) {listed : List SessionSummary}
    (pointerGet : call.faults.pointerGet = false) (indexGet : call.faults.indexGet = false)
    (before : listSessions storage cipher manager call.session.userAddress call.key = .ok listed) (data : List UInt8) :
    loadSummaries storage cipher (storedSession storage manager call data) call = .ok listed := by
  have pointer : (storedSession storage manager call data).indexBlob = manager.indexBlob := rfl
  rw [loadSummaries, pointerGet, pointer]
  rw [listSessions] at before
  cases name : manager.indexBlob call.session.userAddress with
  | none => simpa [name] using before
  | some id =>
      cases stored : storage.get manager.blobs id with
      | none => simp [name, stored] at before
      | some raw =>
          have kept : (storedSession storage manager call data).get storage false id = some raw :=
            durable.kept manager.blobs data id raw stored
          simpa [name, stored, indexGet, kept, readSummaries] using before

theorem loadSummaries_unfetched (pointerGet : call.faults.pointerGet = false) (indexGet : call.faults.indexGet = true) :
    loadSummaries storage cipher manager call = .ok [] := by
  rw [loadSummaries, pointerGet, indexGet]
  cases manager.indexBlob call.session.userAddress <;> simp [Manager.get, readSummaries]

theorem mem_updateSummaries_other {summary : SessionSummary} {summaries : List SessionSummary}
    {session : SessionContext} (other : summary.sessionId ≠ session.sessionId) :
    summary ∈ updateSummaries summaries session ↔ summary ∈ summaries := by
  rw [updateSummaries, mem_sortSummaries, KeyedList.mem_upsert_other other]

theorem keepsOthers_of_fails (opens : cipher.Opens) (durable : storage.Durable) {reason : SessionError}
    (failed : (saveSession storage cipher manager call).2 = .error reason) :
    KeepsOthers storage cipher manager call := by
  intro user listed before
  have pointer := congrFun (saveSession_fails_indexBlob opens failed) user
  have kept := listSessions_kept pointer (fun _ _ => saveSession_durable durable) before
  exact ⟨listed, kept, fun summary member _ => member⟩

theorem saveSession_faulty (opens : cipher.Opens)
    (faulty : call.faults.sessionPut = true ∨ call.faults.pointerGet = true ∨ call.faults.indexPut = true ∨
      call.faults.pointerSet = true) :
    ∃ reason, (saveSession storage cipher manager call).2 = .error reason := by
  cases works : call.faults.sessionPut with
  | true => exact (saveSession_unstored works).2
  | false =>
      obtain ⟨data, stored⟩ := @saveSession_stored _ storage cipher manager opens call works
      have fails := @updateSessionIndex_fails_iff _ storage cipher (storedSession storage manager call data) call opens
      rw [loadSummaries_fails_iff] at fails
      obtain ⟨reason, failed⟩ := fails.mpr (by
        rcases faulty with first | pointerGet | later
        · simp [works] at first
        · exact .inl (.inl pointerGet)
        · exact .inr later)
      exact ⟨reason, by rw [stored, failed]; rfl⟩

theorem keepsOthers_of_fetched (opens : cipher.Opens) (durable : storage.Durable)
    (sessionPut : call.faults.sessionPut = false) (pointerGet : call.faults.pointerGet = false)
    (indexPut : call.faults.indexPut = false) (pointerSet : call.faults.pointerSet = false)
    (harmless : call.faults.indexGet = false ∨ ¬ ListsOthers storage cipher manager call) :
    KeepsOthers storage cipher manager call := by
  intro user listed before
  by_cases own : user = call.session.userAddress
  · subst own
    cases indexGet : call.faults.indexGet with
    | false =>
        refine ⟨_, saveSession_lists opens durable sessionPut indexPut pointerSet
          (loadSummaries_listed durable pointerGet indexGet before), ?_⟩
        intro summary member other
        exact (mem_updateSummaries_other other).mpr member
    | true =>
        refine ⟨_, saveSession_lists opens durable sessionPut indexPut pointerSet
          fun _ => loadSummaries_unfetched pointerGet indexGet, ?_⟩
        intro summary member other
        have alone : ¬ ListsOthers storage cipher manager call := by simpa [indexGet] using harmless
        exact absurd ⟨listed, before, summary, member, other⟩ alone
  · have kept := listSessions_kept (saveSession_otherUser opens own) (fun _ _ => saveSession_durable durable) before
    exact ⟨listed, kept, fun summary member _ => member⟩

theorem keepsOthers_of_harmless (opens : cipher.Opens) (durable : storage.Durable)
    (condition : call.faults.sessionPut = true ∨ call.faults.pointerGet = true ∨ call.faults.indexGet = false ∨
      call.faults.indexPut = true ∨ ¬ ListsOthers storage cipher manager call) :
    KeepsOthers storage cipher manager call := by
  by_cases faulty : call.faults.sessionPut = true ∨ call.faults.pointerGet = true ∨ call.faults.indexPut = true ∨
      call.faults.pointerSet = true
  · obtain ⟨reason, failed⟩ := @saveSession_faulty _ storage cipher manager call opens faulty
    exact keepsOthers_of_fails opens durable failed
  · simp only [not_or, Bool.not_eq_true] at faulty
    obtain ⟨sessionPut, pointerGet, indexPut, pointerSet⟩ := faulty
    refine keepsOthers_of_fetched opens durable sessionPut pointerGet indexPut pointerSet ?_
    simpa [sessionPut, pointerGet, indexPut] using condition

theorem dropsOthers_of_unfetched (opens : cipher.Opens) (durable : storage.Durable)
    (sessionPut : call.faults.sessionPut = false) (pointerGet : call.faults.pointerGet = false)
    (indexGet : call.faults.indexGet = true) (indexPut : call.faults.indexPut = false)
    (pointerSet : call.faults.pointerSet = false) (others : ListsOthers storage cipher manager call) :
    ¬ KeepsOthers storage cipher manager call := by
  intro keeps
  obtain ⟨listed, before, summary, member, other⟩ := others
  obtain ⟨after, lists, kept⟩ := keeps _ listed before
  have emptied := saveSession_lists opens durable sessionPut indexPut pointerSet fun data =>
    @loadSummaries_unfetched _ storage cipher (storedSession storage manager call data) _ pointerGet indexGet
  obtain rfl := Except.ok.inj (emptied.symm.trans lists)
  have absent := (mem_updateSummaries_other other).mp (kept summary member other)
  simp at absent

end

/-- A save keeps the other sessions listed exactly when it fails before it would move the pointer, or its
fetch of the old index does not fail, or there are none. -/
theorem keeps_others_iff {Blobs : Type} (storage : StorageClient Blobs) (cipher : SessionCipher)
    (opens : cipher.Opens) (durable : storage.Durable) (manager : Manager Blobs) (call : SaveCall) :
    KeepsOthersAnyway storage cipher manager call ↔
      call.faults.sessionPut = true ∨ call.faults.pointerGet = true ∨ call.faults.indexGet = false ∨
        call.faults.indexPut = true ∨ ¬ ListsOthers storage cipher manager call := by
  constructor
  · rintro ⟨-, keeps⟩
    by_contra neither
    simp only [not_or, Bool.not_eq_true, Bool.not_eq_false, not_not] at neither
    obtain ⟨sessionPut, pointerGet, indexGet, indexPut, others⟩ := neither
    refine absurd keeps ?_
    exact dropsOthers_of_unfetched opens durable sessionPut pointerGet indexGet indexPut rfl others
  · intro condition
    exact ⟨keepsOthers_of_harmless opens durable condition, keepsOthers_of_harmless opens durable condition⟩

def secondSave (faults : SaveFaults) : SaveCall where
  session := newSession ⟨Vector.replicate 16 2⟩ "0x01" "llama3.1:8b" none 1000
  key := Vector.replicate 32 1
  sessionNonce := Vector.replicate 12 2
  indexNonce := Vector.replicate 12 2
  now := 1060
  faults

def earlierSave : SaveCall :=
  { secondSave {} with session := newSession ⟨Vector.replicate 16 1⟩ "0x01" "llama3.1:8b" none 1000 }

def firstListed : Manager MemoryBlobs := (saveSession memoryStorage taggedCipher emptyWorld.manager earlierSave).1

theorem keeps_others_iff_unwritten :
    KeepsOthersAnyway memoryStorage taggedCipher firstListed (secondSave { indexGet := true, indexPut := true }) := by
  exact (keeps_others_iff memoryStorage taggedCipher taggedCipher_opens memoryStorage_durable firstListed
    (secondSave { indexGet := true, indexPut := true })).mpr (by simp [secondSave])

/-- One failed fetch, and the first session is listed no more. -/
theorem first_session_dropped :
    ¬ KeepsOthers memoryStorage taggedCipher firstListed (secondSave { indexGet := true }) := by
  have listed := @saveSession_lists _ memoryStorage taggedCipher emptyWorld.manager earlierSave taggedCipher_opens
    memoryStorage_durable [] rfl rfl rfl fun _ => rfl
  refine dropsOthers_of_unfetched taggedCipher_opens memoryStorage_durable rfl rfl rfl rfl rfl ?_
  refine ⟨_, listed, summaryOf earlierSave.session, ?_, by decide⟩
  exact mem_sortSummaries.mpr (KeyedList.mem_upsert_self _ _)

end Pinaivu.Context
