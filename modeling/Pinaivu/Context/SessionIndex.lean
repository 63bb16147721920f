import Pinaivu.Context.SessionCore
import Pinaivu.Lib.Runs

/-!
The session index over a run of calls: what one save does to it, and what it holds after
all of them.
-/

namespace Pinaivu.Context

open JsonText

theorem decodeSummary_toJson (summary : SessionSummary) : decodeSummary summary.toJson = some summary := by
  have once : ([("session_id", uuidJson summary.sessionId), ("model_id", .string summary.modelId),
      ("turn_count", unsignedJson summary.turnCount.toNat), ("created_at", unsignedJson summary.createdAt.toNat),
      ("last_updated", unsignedJson summary.lastUpdated.toNat),
      ("preview", .string summary.preview)].map Prod.fst).Nodup := by
    simp
  rw [decodeSummary, SessionSummary.toJson, structFields_object 0 once, Option.bind_eq_bind, Option.bind_some]
  simp (disch := decide) only [requiredField_head, requiredField_tail, decodeUuid_uuidJson, decodeU32_unsignedJson,
    decodeU64_unsignedJson, decodeString]
  rfl

theorem byteArray_toVec (value : Json) : ByteArray.mk (toVec value).toArray = toBytes value := by
  simp [toVec]

theorem decodeSummaries_toVec (summaries : List SessionSummary) :
    decodeSummaries (toVec (summariesJson summaries)) = summaries := by
  have items : decodeList decodeSummary (summariesJson summaries) = some summaries :=
    decodeList_map decodeSummary_toJson summaries
  rw [decodeSummaries, byteArray_toVec, ofBytesSpaced_toBytes, Option.bind_some, items, Option.getD_some]

theorem fromBytes_toBytes (blob : EncryptedBlob) : EncryptedBlob.fromBytes blob.toBytes = some blob := by
  obtain ⟨ciphertext, nonce⟩ := blob
  have bytes : nonce.toList.toArray = nonce.toArray := Array.toArray_toList
  simp [EncryptedBlob.fromBytes, EncryptedBlob.toBytes, bytes]

section

variable {cipher : SessionCipher}

theorem sealBlob_opens (opens : cipher.Opens) (key : SessionKey) (nonce : Nonce) (plain : Json) :
    ∃ raw, sealBlob cipher key nonce plain = .ok raw ∧ openBlob cipher key raw = .ok (toVec plain) := by
  obtain ⟨sealed, encrypted, decrypted⟩ := opens key nonce (toVec plain)
  refine ⟨EncryptedBlob.toBytes ⟨sealed, nonce⟩, by rw [sealBlob, encrypted], ?_⟩
  simp only [openBlob, fromBytes_toBytes, decrypted]

theorem openBlob_sealed (opens : cipher.Opens) {key : SessionKey} {nonce : Nonce} {plain : Json} {raw : List UInt8}
    (sealedBlob : sealBlob cipher key nonce plain = .ok raw) : openBlob cipher key raw = .ok (toVec plain) := by
  obtain ⟨same, sealedSame, opened⟩ := sealBlob_opens opens key nonce plain
  obtain rfl : raw = same := Except.ok.inj (sealedBlob.symm.trans sealedSame)
  exact opened

theorem locked_alone {Blobs : Type} {storage : StorageClient Blobs} (key : SessionKey) (blobs : Blobs) :
    Locked storage cipher {key} blobs := by
  rintro id raw found sealer rfl other rfl different
  contradiction

/-- What one of the keys sealed is opened by no other, and then as what was sealed. -/
theorem sealer_of_opened (opens : cipher.Opens) {Blobs : Type} {storage : StorageClient Blobs}
    {keys : Set SessionKey} {blobs : Blobs} (locked : Locked storage cipher keys blobs) {id : BlobId}
    {raw : List UInt8} (found : storage.get blobs id = some raw) {sealer other : SessionKey} (seals : sealer ∈ keys)
    (reads : other ∈ keys) {nonce : Nonce} {value : Json} (sealedBlob : sealBlob cipher sealer nonce value = .ok raw)
    {plain : List UInt8} (opened : openBlob cipher other raw = .ok plain) : sealer = other ∧ plain = toVec value := by
  by_cases same : sealer = other
  · subst same
    have read := (openBlob_sealed opens sealedBlob).symm.trans opened
    exact ⟨rfl, (Except.ok.inj read).symm⟩
  · rw [locked id raw found sealer seals other reads same nonce value sealedBlob] at opened
    contradiction

end

/-- The key and the list of the index that a user's pointer names, when there is one. -/
abbrev Index := Option (SessionKey × List SessionSummary)

def Index.save (index : Index) (call : SaveCall) : Index :=
  match index with
  | none => some (call.key, updateSummaries [] call.session)
  | some (key, summaries) =>
      if call.key = key then some (key, updateSummaries summaries call.session) else some (key, summaries)

def Index.Accepts (index : Index) (call : SaveCall) : Prop :=
  ∀ key summaries, index = some (key, summaries) → call.key = key

def Index.Under (index : Index) (keys : Set SessionKey) : Prop :=
  ∀ key summaries, index = some (key, summaries) → key ∈ keys

theorem Index.under_save {index : Index} {keys : Set SessionKey} (under : index.Under keys) {call : SaveCall}
    (seals : call.key ∈ keys) : (index.save call).Under keys := by
  intro key summaries found
  rcases index with _ | ⟨indexKey, old⟩
  · obtain ⟨rfl, -⟩ := Prod.mk.inj (Option.some.inj found)
    exact seals
  · rw [Index.save] at found
    split at found <;> obtain ⟨rfl, -⟩ := Prod.mk.inj (Option.some.inj found) <;> exact under indexKey old rfl

section

variable {Blobs : Type} (storage : StorageClient Blobs) (cipher : SessionCipher)

def Holds (manager : Manager Blobs) (key : SessionKey) (id : BlobId) (summaries : List SessionSummary) : Prop :=
  ∃ nonce raw, sealBlob cipher key nonce (summariesJson summaries) = .ok raw ∧
    storage.get manager.blobs id = some raw

def IndexIs (manager : Manager Blobs) (user : String) : Index → Prop
  | none => manager.indexBlob user = none
  | some (key, summaries) =>
      ∃ id, manager.indexBlob user = some id ∧ Holds storage cipher manager key id summaries

end

section

variable {Blobs : Type} {storage : StorageClient Blobs} {cipher : SessionCipher}
variable {manager : Manager Blobs} {key : SessionKey} {id : BlobId} {summaries : List SessionSummary}

theorem readSummaries_holds (opens : cipher.Opens) (holds : Holds storage cipher manager key id summaries) :
    readSummaries cipher key (storage.get manager.blobs id) = .ok summaries := by
  obtain ⟨nonce, raw, sealedBlob, found⟩ := holds
  simp only [readSummaries, found, openBlob_sealed opens sealedBlob, Except.map, decodeSummaries_toVec]

theorem readSummaries_other {keys : Set SessionKey} (locked : Locked storage cipher keys manager.blobs)
    (holds : Holds storage cipher manager key id summaries) (seals : key ∈ keys) {other : SessionKey}
    (reads : other ∈ keys) (different : key ≠ other) :
    readSummaries cipher other (storage.get manager.blobs id) = .error .decrypt := by
  obtain ⟨nonce, raw, sealedBlob, found⟩ := holds
  have refused := locked id raw found key seals other reads different nonce _ sealedBlob
  simp only [readSummaries, found, refused, Except.map]

theorem readSummaries_put (durable : storage.Durable) (data : List UInt8)
    (holds : Holds storage cipher manager key id summaries) (other : SessionKey) :
    readSummaries cipher other (storage.get (manager.put storage false data).1.blobs id) =
      readSummaries cipher other (storage.get manager.blobs id) := by
  obtain ⟨nonce, raw, _, found⟩ := holds
  have kept : storage.get (manager.put storage false data).1.blobs id = some raw :=
    durable.kept manager.blobs data id raw found
  rw [kept, found]

theorem listSessions_of_index (opens : cipher.Opens) {user : String}
    (index : IndexIs storage cipher manager user (some (key, summaries))) :
    listSessions storage cipher manager user key = .ok summaries := by
  obtain ⟨id, pointer, holds⟩ := index
  have read := readSummaries_holds opens holds
  obtain ⟨nonce, raw, _, found⟩ := holds
  simpa only [listSessions, pointer, found, readSummaries] using read

theorem holds_put (durable : storage.Durable) (data : List UInt8)
    (holds : Holds storage cipher manager key id summaries) :
    Holds storage cipher (manager.put storage false data).1 key id summaries := by
  obtain ⟨nonce, raw, sealedBlob, found⟩ := holds
  exact ⟨nonce, raw, sealedBlob, durable.kept manager.blobs data id raw found⟩

theorem indexIs_put (durable : storage.Durable) (data : List UInt8) {user : String} {index : Index}
    (is : IndexIs storage cipher manager user index) :
    IndexIs storage cipher (manager.put storage false data).1 user index := by
  rcases index with _ | ⟨key, summaries⟩
  · exact is
  · obtain ⟨id, pointer, holds⟩ := is
    exact ⟨id, pointer, holds_put durable data holds⟩

theorem storeSession_ok (opens : cipher.Opens) {call : SaveCall} (works : call.faults.sessionPut = false) :
    ∃ data id, storeSession storage cipher manager call =
      ((manager.put storage false data).1.cacheSession (call.saved id), .ok id) := by
  obtain ⟨data, sealedBlob, -⟩ := sealBlob_opens opens call.key call.sessionNonce call.session.toJson
  refine ⟨data, (storage.put manager.blobs data).2, ?_⟩
  rw [storeSession, sealedBlob]
  simp [works, Manager.put]

theorem storeSummaries_ok (opens : cipher.Opens) (durable : storage.Durable) {call : SaveCall}
    (indexPut : call.faults.indexPut = false) (pointerSet : call.faults.pointerSet = false) :
    ∃ after, storeSummaries storage cipher manager call summaries = (after, .ok ()) ∧
      IndexIs storage cipher after call.session.userAddress (some (call.key, summaries)) := by
  obtain ⟨data, sealedBlob, -⟩ := sealBlob_opens opens call.key call.indexNonce (summariesJson summaries)
  refine ⟨((manager.put storage false data).1).setIndexBlob call.session.userAddress
    (storage.put manager.blobs data).2, ?_, ?_⟩
  · rw [storeSummaries, sealedBlob]
    simp [indexPut, pointerSet, Manager.put]
  · refine ⟨(storage.put manager.blobs data).2, by simp [Manager.setIndexBlob], call.indexNonce, data, sealedBlob, ?_⟩
    exact durable.stored manager.blobs data

theorem loadSummaries_empty {call : SaveCall} (calm : call.faults = {})
    (index : IndexIs storage cipher manager call.session.userAddress none) :
    loadSummaries storage cipher manager call = .ok [] := by
  simp [loadSummaries, calm, show manager.indexBlob call.session.userAddress = none from index]

theorem loadSummaries_some {call : SaveCall} (calm : call.faults = {})
    (pointer : manager.indexBlob call.session.userAddress = some id) :
    loadSummaries storage cipher manager call = readSummaries cipher call.key (storage.get manager.blobs id) := by
  simp [loadSummaries, calm, pointer, Manager.get]

theorem updateSessionIndex_ok (opens : cipher.Opens) (durable : storage.Durable) {call : SaveCall}
    (indexPut : call.faults.indexPut = false) (pointerSet : call.faults.pointerSet = false)
    (loaded : loadSummaries storage cipher manager call = .ok summaries) :
    ∃ after, updateSessionIndex storage cipher manager call = (after, .ok ()) ∧
      IndexIs storage cipher after call.session.userAddress
        (some (call.key, updateSummaries summaries call.session)) := by
  rw [updateSessionIndex, loaded]
  exact storeSummaries_ok opens durable indexPut pointerSet

/-- A save changes the index as the abstract one, and it succeeds when the index is under
its key. -/
theorem saveSession_refines (opens : cipher.Opens) (durable : storage.Durable) {keys : Set SessionKey}
    (locked : Locked storage cipher keys manager.blobs) {call : SaveCall} (calm : call.faults = {})
    (seals : call.key ∈ keys) {index : Index} (under : index.Under keys)
    (is : IndexIs storage cipher manager call.session.userAddress index) :
    IndexIs storage cipher (saveSession storage cipher manager call).1 call.session.userAddress (index.save call) ∧
      ((saveSession storage cipher manager call).2.isOk = true ↔ index.Accepts call) := by
  obtain ⟨data, blobId, storedSession⟩ := @storeSession_ok _ storage _ manager opens call (by rw [calm])
  generalize cachedIs : ((manager.put storage false data).1).cacheSession (call.saved blobId) = cached
  have kept : IndexIs storage cipher cached call.session.userAddress index := by
    rw [← cachedIs]
    exact indexIs_put durable data is
  rw [saveSession, storedSession, cachedIs]
  rcases index with _ | ⟨key, summaries⟩
  · obtain ⟨after, updated, newIndex⟩ := updateSessionIndex_ok opens durable (by rw [calm]) (by rw [calm])
      (loadSummaries_empty calm kept)
    simp only [updated, Index.save]
    exact ⟨newIndex, by simp [Except.isOk, Except.toBool, Index.Accepts]⟩
  · obtain ⟨id, pointer, holds⟩ := is
    have loaded : loadSummaries storage cipher cached call =
        readSummaries cipher call.key (storage.get manager.blobs id) := by
      rw [← cachedIs, ← readSummaries_put durable data holds]
      exact loadSummaries_some calm pointer
    by_cases same : call.key = key
    · subst same
      rw [readSummaries_holds opens holds] at loaded
      obtain ⟨after, updated, newIndex⟩ := updateSessionIndex_ok opens durable (by rw [calm]) (by rw [calm]) loaded
      simp only [updated, Index.save, if_true]
      exact ⟨newIndex, by simp [Except.isOk, Except.toBool, Index.Accepts]⟩
    · rw [readSummaries_other locked holds (under key summaries rfl) seals (Ne.symm same)] at loaded
      simp only [updateSessionIndex, loaded, Index.save, if_neg same]
      exact ⟨kept, by simp [Except.isOk, Except.toBool, Index.Accepts, same]⟩

end

/-- A call of a client; a save names the session only, its key is the one that
`create_session` returned for it. -/
inductive Call where
  | create (call : CreateCall)
  | save (session : SessionContext) (sessionNonce indexNonce : Nonce) (now : UInt64)

def Call.user : Call → String
  | .create call => call.userAddress
  | .save session _ _ _ => session.userAddress

structure World (Blobs : Type) where
  manager : Manager Blobs
  keys : List (SessionId × SessionKey)

/-- The save that the client makes; it has no key for a session that was not created. -/
def keyedSave (keys : List (SessionId × SessionKey)) (session : SessionContext) (sessionNonce indexNonce : Nonce)
    (now : UInt64) : Option SaveCall :=
  (keys.lookup session.sessionId).map fun key => { session, key, sessionNonce, indexNonce, now }

def saves (keys : List (SessionId × SessionKey)) : List Call → List SaveCall
  | [] => []
  | .create call :: rest => saves ((call.sessionId, call.key) :: keys) rest
  | .save session sessionNonce indexNonce now :: rest =>
      (keyedSave keys session sessionNonce indexNonce now).toList ++ saves keys rest

section

variable {Blobs : Type} (storage : StorageClient Blobs) (cipher : SessionCipher)

def World.step (world : World Blobs) : Call → World Blobs
  | .create call =>
      { manager := (createSession world.manager call).1, keys := (call.sessionId, call.key) :: world.keys }
  | .save session sessionNonce indexNonce now =>
      match keyedSave world.keys session sessionNonce indexNonce now with
      | none => world
      | some call => { world with manager := (saveSession storage cipher world.manager call).1 }

def World.Succeeds (world : World Blobs) : Call → Prop
  | .create _ => True
  | .save session sessionNonce indexNonce now =>
      ∀ call, keyedSave world.keys session sessionNonce indexNonce now = some call →
        (saveSession storage cipher world.manager call).2.isOk = true

end

section

variable {Blobs : Type} {storage : StorageClient Blobs} {cipher : SessionCipher}

theorem keyedSave_some {keys : List (SessionId × SessionKey)} {session : SessionContext}
    {sessionNonce indexNonce : Nonce} {now : UInt64} {call : SaveCall}
    (keyed : keyedSave keys session sessionNonce indexNonce now = some call) :
    call.session = session ∧ call.faults = {} := by
  obtain ⟨key, _, rfl⟩ := Option.map_eq_some_iff.mp keyed
  exact ⟨rfl, rfl⟩

theorem run_refines (opens : cipher.Opens) (durable : storage.Durable) {user : String} {keys : Set SessionKey}
    (calls : List Call) (own : ∀ call ∈ calls, call.user = user) (world : World Blobs) (index : Index)
    (seals : ∀ call ∈ saves world.keys calls, call.key ∈ keys)
    (locked : Runs.Always (World.step storage cipher) (fun world _ => Locked storage cipher keys world.manager.blobs)
      world calls)
    (under : index.Under keys) (is : IndexIs storage cipher world.manager user index) :
    IndexIs storage cipher (Runs.run (World.step storage cipher) world calls).manager user
        (Runs.run Index.save index (saves world.keys calls)) ∧
      (Runs.Always (World.step storage cipher) (World.Succeeds storage cipher) world calls ↔
        Runs.Always Index.save Index.Accepts index (saves world.keys calls)) := by
  induction calls generalizing world index with
  | nil => exact ⟨is, Iff.rfl⟩
  | cons call calls ih =>
      have rest := fun other member => own other (List.mem_cons_of_mem call member)
      obtain ⟨lockedNow, later⟩ := locked
      cases call with
      | create call =>
          obtain ⟨after, always⟩ := ih rest (World.step storage cipher world (.create call)) index seals later under (by
            rcases index with _ | ⟨key, summaries⟩ <;> exact is)
          refine ⟨after, ?_⟩
          rw [Runs.Always, always]
          exact and_iff_right trivial
      | save session sessionNonce indexNonce now =>
          cases keyed : keyedSave world.keys session sessionNonce indexNonce now with
          | none =>
              have stay : World.step storage cipher world (.save session sessionNonce indexNonce now) = world := by
                simp only [World.step, keyed]
              rw [stay] at later
              obtain ⟨after, always⟩ := ih rest world index (by simpa [saves, keyed] using seals) later under is
              simpa [saves, keyed, Runs.Always, World.Succeeds, stay] using ⟨after, always⟩
          | some call =>
              obtain ⟨sameSession, calm⟩ := keyedSave_some keyed
              have owner : call.session.userAddress = user :=
                sameSession ▸ own (.save session sessionNonce indexNonce now) List.mem_cons_self
              subst owner
              simp only [saves, keyed, Option.toList_some, List.singleton_append, List.forall_mem_cons] at seals
              obtain ⟨saved, succeeds⟩ := saveSession_refines opens durable lockedNow calm seals.1 under is
              have next : World.step storage cipher world (.save session sessionNonce indexNonce now) =
                  { world with manager := (saveSession storage cipher world.manager call).1 } := by
                simp only [World.step, keyed]
              rw [next] at later
              obtain ⟨after, always⟩ := ih rest
                { world with manager := (saveSession storage cipher world.manager call).1 } _ seals.2 later
                (Index.under_save under seals.1) saved
              rw [Runs.run_cons, next]
              simp only [saves, keyed, Option.toList_some, List.singleton_append, Runs.run_cons, Runs.Always, next]
              refine ⟨after, and_congr ?_ always⟩
              simpa [World.Succeeds, keyed] using succeeds

end

/-- The index holds one summary for each session saved, that of its latest save, newest
first. -/
structure IndexComplete (summaries saved : List SessionSummary) : Prop where
  once : (summaries.map SessionSummary.sessionId).Nodup
  latest : ∀ summary, summary ∈ summaries ↔
    KeyedList.find SessionSummary.sessionId summary.sessionId saved.reverse = some summary
  newest : summaries.Pairwise fun first second => second.lastUpdated ≤ first.lastUpdated

theorem complete_nil : IndexComplete [] [] where
  once := List.nodup_nil
  latest := by simp [KeyedList.find]
  newest := .nil

theorem mem_sortSummaries {summary : SessionSummary} {summaries : List SessionSummary} :
    summary ∈ sortSummaries summaries ↔ summary ∈ summaries := by
  exact List.mem_mergeSort

theorem sortSummaries_newest (summaries : List SessionSummary) :
    (sortSummaries summaries).Pairwise fun first second => second.lastUpdated ≤ first.lastUpdated := by
  have sorted : (sortSummaries summaries).Pairwise
      fun first second => decide (second.lastUpdated ≤ first.lastUpdated) = true := by
    apply List.pairwise_mergeSort
    · intro first second third
      simp only [decide_eq_true_eq]
      exact fun left right => UInt64.le_trans right left
    · intro first second
      simpa using UInt64.le_total second.lastUpdated first.lastUpdated
  simpa only [decide_eq_true_eq] using sorted

theorem complete_update {summaries saved : List SessionSummary} (complete : IndexComplete summaries saved)
    (session : SessionContext) :
    IndexComplete (updateSummaries summaries session) (saved ++ [summaryOf session]) where
  once := by
    have permuted := (List.mergeSort_perm (KeyedList.upsert SessionSummary.sessionId (summaryOf session) summaries)
      fun first second => second.lastUpdated ≤ first.lastUpdated).map SessionSummary.sessionId
    exact permuted.nodup_iff.mpr (KeyedList.upsert_nodup (summaryOf session) complete.once)
  latest := by
    intro summary
    rw [updateSummaries, mem_sortSummaries, KeyedList.mem_upsert complete.once, complete.latest,
      List.reverse_concat]
    by_cases same : summary.sessionId = (summaryOf session).sessionId
    · have first : KeyedList.find SessionSummary.sessionId summary.sessionId
          (summaryOf session :: saved.reverse) = some (summaryOf session) := by
        simp [KeyedList.find, same]
      rw [first, Option.some.injEq, eq_comm]
      simp [same]
    · have skip : KeyedList.find SessionSummary.sessionId summary.sessionId
          (summaryOf session :: saved.reverse) =
          KeyedList.find SessionSummary.sessionId summary.sessionId saved.reverse := by
        simp [KeyedList.find, Ne.symm same]
      have different : summary ≠ summaryOf session := by
        rintro rfl
        exact same rfl
      simp [skip, same, different]
  newest := sortSummaries_newest _

def indexAfter (saved : List SaveCall) : List SessionSummary :=
  saved.foldl (fun summaries call => updateSummaries summaries call.session) []

theorem indexAfter_complete (saved : List SaveCall) :
    IndexComplete (indexAfter saved) (saved.map fun call => summaryOf call.session) := by
  induction saved using List.reverseRecOn with
  | nil => exact complete_nil
  | append_singleton saved last ih =>
      rw [indexAfter, List.foldl_concat, List.map_append, List.map_singleton]
      exact complete_update ih last.session

theorem run_save_same {key : SessionKey} (saved : List SaveCall) (same : ∀ call ∈ saved, call.key = key)
    (summaries : List SessionSummary) :
    Runs.run Index.save (some (key, summaries)) saved =
      some (key, saved.foldl (fun summaries call => updateSummaries summaries call.session) summaries) := by
  induction saved generalizing summaries with
  | nil => rfl
  | cons call saved ih =>
      rw [Runs.run_cons, Index.save, if_pos (same call List.mem_cons_self), List.foldl_cons]
      exact ih (fun other member => same other (List.mem_cons_of_mem call member)) _

theorem run_save_new {key : SessionKey} {saved : List SaveCall} (nonempty : saved ≠ [])
    (same : ∀ call ∈ saved, call.key = key) :
    Runs.run Index.save none saved = some (key, indexAfter saved) := by
  cases saved with
  | nil => contradiction
  | cons call saved =>
      rw [Runs.run_cons, Index.save, same call List.mem_cons_self]
      exact run_save_same saved (fun other member => same other (List.mem_cons_of_mem call member)) _

theorem always_accepts_iff {key : SessionKey} (saved : List SaveCall) (summaries : List SessionSummary) :
    Runs.Always Index.save Index.Accepts (some (key, summaries)) saved ↔ ∀ call ∈ saved, call.key = key := by
  induction saved generalizing summaries with
  | nil => simp [Runs.Always]
  | cons call saved ih =>
      have accepts : Index.Accepts (some (key, summaries)) call ↔ call.key = key := by
        constructor
        · exact fun accepted => accepted key summaries rfl
        · rintro same other others found
          obtain ⟨rfl, rfl⟩ := Prod.mk.inj (Option.some.inj found)
          exact same
      rw [Runs.Always, accepts, List.forall_mem_cons]
      refine and_congr_right fun same => ?_
      rw [Index.save, if_pos same]
      exact ih _

theorem always_accepts_new_iff (saved : List SaveCall) :
    Runs.Always Index.save Index.Accepts none saved ↔ ∀ first ∈ saved, ∀ second ∈ saved, first.key = second.key := by
  cases saved with
  | nil => simp [Runs.Always]
  | cons call saved =>
      have accepts : Index.Accepts none call := by
        intro key summaries found
        contradiction
      rw [Runs.Always, and_iff_right accepts, Index.save, always_accepts_iff]
      constructor
      · intro same first firstIn second secondIn
        have keyOf : ∀ other ∈ call :: saved, other.key = call.key := by
          simpa using same
        rw [keyOf first firstIn, keyOf second secondIn]
      · intro same other member
        exact same other (List.mem_cons_of_mem call member) call List.mem_cons_self

section

variable {Blobs : Type} (storage : StorageClient Blobs) (cipher : SessionCipher)

/-- Every save of the run succeeds, and the index that each of their keys reads is
complete. -/
def IndexKept (start : World Blobs) (user : String) (calls : List Call) : Prop :=
  Runs.Always (World.step storage cipher) (World.Succeeds storage cipher) start calls ∧
    ∃ summaries, IndexComplete summaries ((saves start.keys calls).map fun call => summaryOf call.session) ∧
      ∀ call ∈ saves start.keys calls,
        listSessions storage cipher (Runs.run (World.step storage cipher) start calls).manager user call.key =
          .ok summaries

def sealers (saved : List SaveCall) : Set SessionKey := {key | ∃ call ∈ saved, call.key = key}

theorem key_mem_sealers {saved : List SaveCall} {call : SaveCall} (member : call ∈ saved) :
    call.key ∈ sealers saved := ⟨call, member, rfl⟩

/-- A user's index keeps up with a run of calls exactly when all saves of the run are
under one key. -/
theorem index_kept_iff (opens : cipher.Opens) (durable : storage.Durable)
    (start : World Blobs) (user : String) (fresh : start.manager.indexBlob user = none) (calls : List Call)
    (own : ∀ call ∈ calls, call.user = user)
    (locked : Runs.Always (World.step storage cipher)
      (fun world _ => Locked storage cipher (sealers (saves start.keys calls)) world.manager.blobs) start calls) :
    IndexKept storage cipher start user calls ↔
      ∀ first ∈ saves start.keys calls, ∀ second ∈ saves start.keys calls, first.key = second.key := by
  obtain ⟨index, always⟩ := run_refines opens durable calls own start none (fun _ => key_mem_sealers)
    locked (by simp [Index.Under]) fresh
  rw [always_accepts_new_iff] at always
  constructor
  · exact fun kept => always.mp kept.1
  · intro same
    refine ⟨always.mpr same, indexAfter (saves start.keys calls), indexAfter_complete _, ?_⟩
    intro call member
    rw [run_save_new (List.ne_nil_of_mem member) fun other otherIn => same other otherIn call member] at index
    exact listSessions_of_index opens index

end

theorem memBlobId_injective {first second : Nat}
    (same : "mem_blob_" ++ toString first = "mem_blob_" ++ toString second) : first = second := by
  have digits : Nat.toDigits 10 first = Nat.toDigits 10 second := by
    have texts := congrArg String.toList same
    simpa [String.toList_append, Nat.repr] using texts
  have values := congrArg (Nat.ofDigitChars 10 · 0) digits
  simpa only [Nat.ofDigitChars_ten_toDigits] using values

theorem memoryStorage_get_other (memory : MemoryBlobs) (data : List UInt8) {id : BlobId}
    (other : id ≠ (memoryStorage.put memory data).2) :
    memoryStorage.get (memoryStorage.put memory data).1 id = memoryStorage.get memory id := by
  have different : id ≠ "mem_blob_" ++ toString (memory.counter + 1) := other
  have skip : List.lookup id (("mem_blob_" ++ toString (memory.counter + 1), data) :: memory.blobs) =
      List.lookup id memory.blobs := by
    rw [List.lookup_cons, beq_false_of_ne different]
  exact skip

theorem memoryStorage_durable : memoryStorage.Durable where
  stored memory data := by
    simp [memoryStorage]
  kept memory data id found := by
    intro stored
    have present : (id, found) ∈ memory.blobs := by
      obtain ⟨before, after, split, -⟩ := List.lookup_eq_some_iff.mp stored
      simp [split]
    obtain ⟨number, bound, name⟩ := memory.numbered (id, found) present
    have other : id ≠ "mem_blob_" ++ toString (memory.counter + 1) := by
      intro hit
      have same := memBlobId_injective (name.symm.trans hit)
      omega
    exact (memoryStorage_get_other memory data other).trans stored

/-- A cipher with tags of 16 bytes: the first half of the key. -/
def taggedCipher : SessionCipher where
  encrypt key _ plain := some (key.toList.take 16 ++ plain)
  decrypt key _ ciphertext :=
    if ciphertext.take 16 = key.toList.take 16 then some (ciphertext.drop 16) else none

theorem taggedCipher_opens : taggedCipher.Opens := by
  intro key nonce plain
  refine ⟨key.toList.take 16 ++ plain, rfl, ?_⟩
  have length : (key.toList.take 16).length = 16 := by simp
  simp [taggedCipher, length]

theorem taggedCipher_locked {Blobs : Type} (storage : StorageClient Blobs) {keys : Set SessionKey}
    (apart : ∀ key ∈ keys, ∀ other ∈ keys, key.toList.take 16 = other.toList.take 16 → key = other) (blobs : Blobs) :
    Locked storage taggedCipher keys blobs := by
  intro id raw found sealer seals other reads different nonce plain sealedBlob
  obtain rfl := Except.ok.inj sealedBlob
  have length : (sealer.toList.take 16).length = 16 := by simp
  have tags : sealer.toList.take 16 ≠ other.toList.take 16 :=
      fun same => different (apart sealer seals other reads same)
  simp only [openBlob, fromBytes_toBytes]
  simp [taggedCipher, tags]

def emptyWorld : World MemoryBlobs where
  manager := {
    blobs := { blobs := [], counter := 0, numbered := by simp }
    indexBlob := fun _ => none
    cache := fun _ => none }
  keys := []

def sampleCreate (byte : UInt8) : CreateCall where
  userAddress := "0x01"
  modelId := "llama3.1:8b"
  systemPrompt := none
  sessionId := ⟨Vector.replicate 16 byte⟩
  key := Vector.replicate 32 byte
  now := 1000

def sampleSave (byte : UInt8) : Call :=
  .save (newSession ⟨Vector.replicate 16 byte⟩ "0x01" "llama3.1:8b" none 1000) (Vector.replicate 12 byte)
    (Vector.replicate 12 byte) 1060

def twoSessions : List Call := [.create (sampleCreate 1), .create (sampleCreate 2), sampleSave 1, sampleSave 2]

theorem samples_locked {start : World MemoryBlobs} {saved : List SaveCall}
    (tags : ∀ first ∈ saved, ∀ second ∈ saved, first.key.toList.take 16 = second.key.toList.take 16 →
      first.key = second.key) (calls : List Call) :
    Runs.Always (World.step memoryStorage taggedCipher)
      (fun world _ => Locked memoryStorage taggedCipher (sealers saved) world.manager.blobs) start calls := by
  refine (Runs.always_iff_split _ _ _).mpr fun first _ _ _ => taggedCipher_locked memoryStorage ?_ _
  rintro key ⟨call, member, rfl⟩ other ⟨otherCall, otherMember, rfl⟩
  exact tags call member otherCall otherMember

theorem index_kept_one_session :
    IndexKept memoryStorage taggedCipher emptyWorld "0x01" [.create (sampleCreate 1), sampleSave 1, sampleSave 1] := by
  refine (index_kept_iff memoryStorage taggedCipher taggedCipher_opens memoryStorage_durable
    emptyWorld "0x01" rfl _ ?_ (samples_locked ?_ _)).mpr ?_
  · decide
  · decide
  · decide

theorem second_session_lost : ¬ IndexKept memoryStorage taggedCipher emptyWorld "0x01" twoSessions := by
  rintro ⟨succeed, -⟩
  have own : ∀ call ∈ twoSessions, call.user = "0x01" := by decide
  have locked := @samples_locked emptyWorld (saves [] twoSessions) (by decide) twoSessions
  obtain ⟨-, always⟩ := run_refines taggedCipher_opens memoryStorage_durable twoSessions own emptyWorld none
    (fun _ => key_mem_sealers) locked (by simp [Index.Under]) rfl
  have oneKey := (always_accepts_new_iff _).mp (always.mp succeed)
  revert oneKey
  decide

end Pinaivu.Context
