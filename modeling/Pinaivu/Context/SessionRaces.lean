import Pinaivu.Context.SessionIndex
import Pinaivu.Lib.SharedCell

/-!
Two concurrent saves. Each step is one call to the storage or to the index store with
the computation up to the next one.
-/

namespace Pinaivu.Context

inductive Progress where
  | begun
  | sessionStored
  | pointed (pointer : Option BlobId)
  | loaded (summaries : List SessionSummary)
  | indexStored (id : BlobId)
  | finished
  | failed
  deriving DecidableEq

section

variable {Blobs : Type} (storage : StorageClient Blobs) (cipher : SessionCipher)

def advance (manager : Manager Blobs) (call : SaveCall) : Progress → Manager Blobs × Progress
  | .begun =>
      match storeSession storage cipher manager call with
      | (manager, .error _) => (manager, .failed)
      | (manager, .ok _) => (manager, .sessionStored)
  | .sessionStored =>
      if call.faults.pointerGet then (manager, .failed)
      else (manager, .pointed (manager.indexBlob call.session.userAddress))
  | .pointed none => (manager, .loaded [])
  | .pointed (some id) =>
      match readSummaries cipher call.key (manager.get storage call.faults.indexGet id) with
      | .error _ => (manager, .failed)
      | .ok summaries => (manager, .loaded summaries)
  | .loaded summaries =>
      match sealBlob cipher call.key call.indexNonce (summariesJson (updateSummaries summaries call.session)) with
      | .error _ => (manager, .failed)
      | .ok data =>
          match manager.put storage call.faults.indexPut data with
          | (manager, .error _) => (manager, .failed)
          | (manager, .ok id) => (manager, .indexStored id)
  | .indexStored id =>
      if call.faults.pointerSet then (manager, .failed)
      else (manager.setIndexBlob call.session.userAddress id, .finished)
  | .finished => (manager, .finished)
  | .failed => (manager, .failed)

structure Race (Blobs : Type) where
  manager : Manager Blobs
  progress : Bool → Progress

variable (calls : Bool → SaveCall)

def Race.step (race : Race Blobs) (who : Bool) : Race Blobs :=
  let next := advance storage cipher race.manager (calls who) (race.progress who)
  { manager := next.1, progress := Function.update race.progress who next.2 }

def Race.start (manager : Manager Blobs) : Race Blobs := { manager, progress := fun _ => .begun }

def race (manager : Manager Blobs) (schedule : List Bool) : Race Blobs :=
  Runs.run (Race.step storage cipher calls) (Race.start manager) schedule

end

section

variable {Blobs : Type} (storage : StorageClient Blobs) (cipher : SessionCipher)

def advances (call : SaveCall) (steps : Nat) (state : Manager Blobs × Progress) : Manager Blobs × Progress :=
  (fun state : Manager Blobs × Progress => advance storage cipher state.1 call state.2)^[steps] state

theorem advances_succ (call : SaveCall) (steps : Nat) (manager : Manager Blobs) (progress : Progress) :
    advances storage cipher call (steps + 1) (manager, progress) =
      advances storage cipher call steps (advance storage cipher manager call progress) := by
  exact Function.iterate_succ_apply _ steps (manager, progress)

theorem advances_failed (call : SaveCall) (steps : Nat) (manager : Manager Blobs) :
    advances storage cipher call steps (manager, .failed) = (manager, .failed) := by
  exact Function.iterate_fixed rfl steps

theorem advances_finished (call : SaveCall) (steps : Nat) (manager : Manager Blobs) :
    advances storage cipher call steps (manager, .finished) = (manager, .finished) := by
  exact Function.iterate_fixed rfl steps

def progressOf {Value : Type} (result : Except SessionError Value) : Progress :=
  if result.isOk then .finished else .failed

theorem advances_loaded (manager : Manager Blobs) (call : SaveCall) (summaries : List SessionSummary) :
    advances storage cipher call 2 (manager, .loaded summaries) =
      let stored := storeSummaries storage cipher manager call (updateSummaries summaries call.session)
      (stored.1, progressOf stored.2) := by
  rw [advances_succ]
  cases sealedBlob : sealBlob cipher call.key call.indexNonce
      (summariesJson (updateSummaries summaries call.session)) with
  | error reason =>
      simp [advance, storeSummaries, sealedBlob, advances_failed, progressOf, Except.isOk, Except.toBool]
  | ok data =>
      rcases put : manager.put storage call.faults.indexPut data with ⟨after, _ | id⟩
      · simp [advance, storeSummaries, sealedBlob, put, advances_failed, progressOf, Except.isOk, Except.toBool]
      · by_cases fails : call.faults.pointerSet = true
        · simp [advances_succ, advance, storeSummaries, sealedBlob, put, fails, advances_failed, progressOf,
            Except.isOk, Except.toBool]
        · simp [advances_succ, advance, storeSummaries, sealedBlob, put, fails, advances_finished, progressOf,
            Except.isOk, Except.toBool]

theorem advances_pointed (manager : Manager Blobs) (call : SaveCall) (pointer : Option BlobId) :
    advances storage cipher call 3 (manager, .pointed pointer) =
      advances storage cipher call 2 (advance storage cipher manager call (.pointed pointer)) := by
  exact advances_succ storage cipher call 2 manager (.pointed pointer)

theorem advances_sessionStored (manager : Manager Blobs) (call : SaveCall) :
    advances storage cipher call 4 (manager, .sessionStored) =
      let updated := updateSessionIndex storage cipher manager call
      (updated.1, progressOf updated.2) := by
  rw [advances_succ, updateSessionIndex, loadSummaries]
  by_cases fails : call.faults.pointerGet = true
  · simp [advance, fails, advances_failed, progressOf, Except.isOk, Except.toBool]
  · cases pointer : manager.indexBlob call.session.userAddress with
    | none => simp [advances_pointed, advance, fails, pointer, advances_loaded]
    | some id =>
        cases read : readSummaries cipher call.key (manager.get storage call.faults.indexGet id) with
        | error reason =>
            simp [advances_pointed, advance, fails, pointer, read, advances_failed, progressOf,
              Except.isOk, Except.toBool]
        | ok summaries => simp [advances_pointed, advance, fails, pointer, read, advances_loaded]

/-- A call that runs alone is `save_session`. -/
theorem advances_alone (manager : Manager Blobs) (call : SaveCall) :
    advances storage cipher call 5 (manager, .begun) =
      let saved := saveSession storage cipher manager call
      (saved.1, progressOf saved.2) := by
  rw [advances_succ, saveSession]
  rcases stored : storeSession storage cipher manager call with ⟨after, reason | id⟩
  · simp [advance, stored, advances_failed, progressOf, Except.isOk, Except.toBool]
  · rcases updated : updateSessionIndex storage cipher after call with ⟨last, reason | done⟩
    · simp [advance, stored, advances_sessionStored, updated, progressOf, Except.isOk, Except.toBool]
    · simp [advance, stored, advances_sessionStored, updated, progressOf, Except.isOk, Except.toBool]

end

/-- The only call that may fail in a save that succeeds is the fetch of the index. -/
structure Works (faults : SaveFaults) : Prop where
  sessionPut : faults.sessionPut = false
  pointerGet : faults.pointerGet = false
  indexPut : faults.indexPut = false
  pointerSet : faults.pointerSet = false

def Passed (faults : SaveFaults) : Progress → Prop
  | .begun | .failed => True
  | .sessionStored => faults.sessionPut = false
  | .pointed _ | .loaded _ => faults.sessionPut = false ∧ faults.pointerGet = false
  | .indexStored _ => faults.sessionPut = false ∧ faults.pointerGet = false ∧ faults.indexPut = false
  | .finished => Works faults

section

variable {Blobs : Type} (storage : StorageClient Blobs) (cipher : SessionCipher)

theorem passed_storeSession {manager after : Manager Blobs} {call : SaveCall} {id : BlobId}
    (stored : storeSession storage cipher manager call = (after, .ok id)) : call.faults.sessionPut = false := by
  rw [← Bool.not_eq_true]
  intro fails
  cases sealedBlob : sealBlob cipher call.key call.sessionNonce call.session.toJson <;>
    simp [storeSession, sealedBlob, Manager.put, fails] at stored

theorem passed_advance (manager : Manager Blobs) (call : SaveCall) {progress : Progress}
    (passed : Passed call.faults progress) :
    Passed call.faults (advance storage cipher manager call progress).2 := by
  cases progress with
  | begun =>
      rcases stored : storeSession storage cipher manager call with ⟨after, reason | id⟩
      · simp [advance, stored, Passed]
      · simpa [advance, stored, Passed] using passed_storeSession storage cipher stored
  | sessionStored =>
      cases fails : call.faults.pointerGet
      · simpa [advance, fails, Passed] using passed
      · simp [advance, fails, Passed]
  | pointed pointer =>
      cases pointer with
      | none => exact passed
      | some id =>
          cases read : readSummaries cipher call.key (manager.get storage call.faults.indexGet id) with
          | error reason => simp [advance, read, Passed]
          | ok summaries => simpa [advance, read, Passed] using passed
  | loaded summaries =>
      cases sealedBlob : sealBlob cipher call.key call.indexNonce
          (summariesJson (updateSummaries summaries call.session)) with
      | error reason => simp [advance, sealedBlob, Passed]
      | ok data =>
          cases fails : call.faults.indexPut
          · simpa [advance, sealedBlob, Manager.put, fails, Passed] using passed
          · simp [advance, sealedBlob, Manager.put, fails, Passed]
  | indexStored id =>
      cases fails : call.faults.pointerSet
      · obtain ⟨sessionPut, pointerGet, indexPut⟩ := passed
        simpa [advance, fails, Passed] using Works.mk sessionPut pointerGet indexPut fails
      · simp [advance, fails, Passed]
  | finished => exact passed
  | failed => exact passed

theorem works_of_finished {calls : Bool → SaveCall} {manager : Manager Blobs} {schedule : List Bool} {who : Bool}
    (finished : (race storage cipher calls manager schedule).progress who = .finished) :
    Works (calls who).faults := by
  have passed : ∀ caller,
        Passed (calls caller).faults ((race storage cipher calls manager schedule).progress caller) := by
    refine Runs.invariant_run (fun race : Race Blobs => ∀ caller, Passed (calls caller).faults (race.progress caller))
      ?_ ?_ schedule
    · intro race stepping passed caller
      by_cases same : caller = stepping
      · subst same
        simpa [Race.step] using passed_advance storage cipher race.manager (calls caller) (passed caller)
      · simpa only [Race.step, Function.update_of_ne same] using passed caller
    · intro caller
      trivial
  have last := passed who
  rwa [finished] at last

end

section

variable {Blobs : Type} (storage : StorageClient Blobs) (cipher : SessionCipher) (calls : Bool → SaveCall)

def contentOf (manager : Manager Blobs) (key : SessionKey) (id : BlobId) : List SessionSummary :=
  (readSummaries cipher key (storage.get manager.blobs id)).toOption.getD []

def indexContent (manager : Manager Blobs) (key : SessionKey) (user : String) : List SessionSummary :=
  match manager.indexBlob user with
  | none => []
  | some id => contentOf storage cipher manager key id

/-- The index that a call is about to point to, from the moment it has read the pointer. -/
def phaseOf (manager : Manager Blobs) (call : SaveCall) : Progress → SharedCell.Phase (List SessionSummary)
  | .begun | .sessionStored | .failed => .idle
  | .pointed none => .pending (updateSummaries [] call.session)
  | .pointed (some id) =>
      .pending (updateSummaries (if call.faults.indexGet then [] else contentOf storage cipher manager call.key id)
        call.session)
  | .loaded summaries => .pending (updateSummaries summaries call.session)
  | .indexStored id => .pending (contentOf storage cipher manager call.key id)
  | .finished => .done

theorem phaseOf_done {manager : Manager Blobs} {call : SaveCall} {progress : Progress} :
    phaseOf storage cipher manager call progress = .done ↔ progress = .finished := by
  rcases progress with _ | _ | (_ | id) | _ | id | _ | _ <;> simp [phaseOf]

def abstractState (key : SessionKey) (user : String) (race : Race Blobs) :
    SharedCell.State (List SessionSummary) where
  cell := indexContent storage cipher race.manager key user
  phase who := phaseOf storage cipher race.manager (calls who) (race.progress who)

/-- A call that fails to fetch the index starts from an empty one. -/
def update (who : Bool) (summaries : List SessionSummary) : List SessionSummary :=
  updateSummaries (if (calls who).faults.indexGet then [] else summaries) (calls who).session

def Forgets (who : Bool) : Prop := (calls who).faults.indexGet = true

def Has (who : Bool) (summaries : List SessionSummary) : Prop := summaryOf (calls who).session ∈ summaries

/-- A pointer is set only when the other call has not read the pointer yet, has set it
already, or has read an index with the summary; and a call that will fail to fetch the
index reads the pointer before the other has set it. -/
def StepsSafely (race : Race Blobs) (who : Bool) : Prop :=
  (∀ id, race.progress who = .indexStored id →
    ∀ summaries, phaseOf storage cipher race.manager (calls !who) (race.progress !who) = .pending summaries →
      summaryOf (calls who).session ∈ summaries) ∧
    (race.progress who = .sessionStored → (calls who).faults.indexGet = true → race.progress (!who) ≠ .finished)

def Readable (manager : Manager Blobs) (key : SessionKey) (id : BlobId) : Prop :=
  ∃ summaries, Holds storage cipher manager key id summaries

def Names (progress : Progress) (id : BlobId) : Prop :=
  progress = .pointed (some id) ∨ progress = .indexStored id

/-- No call has failed, and the blobs that the pointer and the calls name are indexes
under the key. -/
structure WellFormed (key : SessionKey) (user : String) (race : Race Blobs) : Prop where
  pointer : ∀ id, race.manager.indexBlob user = some id → Readable storage cipher race.manager key id
  named : ∀ who id, Names (race.progress who) id → Readable storage cipher race.manager key id
  running : ∀ who, race.progress who ≠ .failed

end

section

variable {Blobs : Type} {storage : StorageClient Blobs} {cipher : SessionCipher}
variable {before after : Manager Blobs} {key : SessionKey} {id : BlobId} {summaries : List SessionSummary}

theorem contentOf_holds (opens : cipher.Opens) (holds : Holds storage cipher before key id summaries) :
    contentOf storage cipher before key id = summaries := by
  rw [contentOf, readSummaries_holds opens holds]
  rfl

def Grows (storage : StorageClient Blobs) (before after : Manager Blobs) : Prop :=
  ∀ id raw, storage.get before.blobs id = some raw → storage.get after.blobs id = some raw

theorem grows_put (durable : storage.Durable) (manager : Manager Blobs) (data : List UInt8) :
    Grows storage manager (manager.put storage false data).1 := by
  intro id raw found
  exact durable.kept manager.blobs data id raw found

theorem Grows.readable (grows : Grows storage before after) (readable : Readable storage cipher before key id) :
    Readable storage cipher after key id := by
  obtain ⟨summaries, nonce, raw, sealedBlob, found⟩ := readable
  exact ⟨summaries, nonce, raw, sealedBlob, grows id raw found⟩

theorem Grows.contentOf (grows : Grows storage before after) (readable : Readable storage cipher before key id) :
    contentOf storage cipher after key id = contentOf storage cipher before key id := by
  obtain ⟨summaries, nonce, raw, sealedBlob, found⟩ := readable
  simp only [Context.contentOf, found, grows id raw found]

theorem Grows.phaseOf (grows : Grows storage before after) {call : SaveCall} {progress : Progress}
    (named : ∀ id, Names progress id → Readable storage cipher before call.key id) :
    phaseOf storage cipher after call progress = phaseOf storage cipher before call progress := by
  rcases progress with _ | _ | (_ | id) | _ | id | _ | _
  all_goals try rfl
  · simp only [Context.phaseOf, grows.contentOf (named id (.inl rfl))]
  · simp only [Context.phaseOf, grows.contentOf (named id (.inr rfl))]

structure Quiet (storage : StorageClient Blobs) (cipher : SessionCipher) (call : SaveCall)
    (before : Manager Blobs) (progress : Progress) (after : Manager Blobs) (next : Progress) : Prop where
  pointer : after.indexBlob = before.indexBlob
  grows : Grows storage before after
  phase : phaseOf storage cipher after call next = phaseOf storage cipher before call progress
  named : ∀ id, Names next id → Readable storage cipher after call.key id
  running : next ≠ .failed
  reads : progress ≠ .sessionStored
  sets : ∀ id, progress ≠ .indexStored id

theorem quiet_begun (opens : cipher.Opens) (durable : storage.Durable) {call : SaveCall} (works : Works call.faults) :
    ∃ after next, advance storage cipher before call .begun = (after, next) ∧
      Quiet storage cipher call before .begun after next := by
  obtain ⟨data, blobId, stored⟩ := @storeSession_ok _ storage _ before opens _ works.sessionPut
  refine ⟨(before.put storage false data).1.cacheSession (call.saved blobId), .sessionStored,
    by simp only [advance, stored], ?_⟩
  exact {
    pointer := rfl
    grows := grows_put durable before data
    phase := rfl
    named := by simp [Names]
    running := by simp
    reads := by simp
    sets := by simp }

theorem quiet_pointed (opens : cipher.Opens) {call : SaveCall} (pointer : Option BlobId)
    (named : ∀ id, pointer = some id → Readable storage cipher before call.key id) :
    ∃ after next, advance storage cipher before call (.pointed pointer) = (after, next) ∧
      Quiet storage cipher call before (.pointed pointer) after next := by
  have stay : ∀ summaries, phaseOf storage cipher before call (.loaded summaries) =
      phaseOf storage cipher before call (.pointed pointer) →
      Quiet storage cipher call before (.pointed pointer) before (.loaded summaries) := by
    intro summaries phase
    exact {
      pointer := rfl
      grows := fun _ _ found => found
      phase := phase
      named := by simp [Names]
      running := by simp
      reads := by simp
      sets := by simp }
  cases pointer with
  | none => exact ⟨before, .loaded [], rfl, stay [] rfl⟩
  | some id =>
      obtain ⟨summaries, holds⟩ := named id rfl
      have read : readSummaries cipher call.key (before.get storage call.faults.indexGet id) =
          .ok (if call.faults.indexGet then [] else contentOf storage cipher before call.key id) := by
        cases fails : call.faults.indexGet
        · simpa [Manager.get, contentOf_holds opens holds] using readSummaries_holds opens holds
        · simp [Manager.get, readSummaries]
      exact ⟨before, _, by simp only [advance, read], stay _ rfl⟩

theorem quiet_loaded (opens : cipher.Opens) (durable : storage.Durable) {call : SaveCall} (works : Works call.faults)
    (summaries : List SessionSummary) :
    ∃ after next, advance storage cipher before call (.loaded summaries) = (after, next) ∧
      Quiet storage cipher call before (.loaded summaries) after next := by
  obtain ⟨data, sealedBlob, -⟩ := sealBlob_opens opens call.key call.indexNonce
    (summariesJson (updateSummaries summaries call.session))
  have holds : Holds storage cipher (before.put storage false data).1 call.key (storage.put before.blobs data).2
      (updateSummaries summaries call.session) :=
    ⟨call.indexNonce, data, sealedBlob, durable.stored before.blobs data⟩
  refine ⟨(before.put storage false data).1, .indexStored (storage.put before.blobs data).2, ?_, ?_⟩
  · simp [advance, sealedBlob, Manager.put, works.indexPut]
  · exact {
      pointer := rfl
      grows := grows_put durable before data
      phase := by simp only [phaseOf, contentOf_holds opens holds]
      named := by
        rintro id (name | name)
        · simp at name
        · obtain rfl := Progress.indexStored.inj name
          exact ⟨_, holds⟩
      running := by simp
      reads := by simp
      sets := by simp }

theorem quiet_step (opens : cipher.Opens) (durable : storage.Durable) {call : SaveCall} (works : Works call.faults)
    {progress : Progress} (named : ∀ id, Names progress id → Readable storage cipher before call.key id)
    (running : progress ≠ .failed) (reads : progress ≠ .sessionStored) (sets : ∀ id, progress ≠ .indexStored id) :
    ∃ after next, advance storage cipher before call progress = (after, next) ∧
      Quiet storage cipher call before progress after next := by
  cases progress with
  | begun => exact quiet_begun opens durable works
  | sessionStored => contradiction
  | pointed pointer => exact quiet_pointed opens pointer fun id found => named id (.inl (found ▸ rfl))
  | loaded summaries => exact quiet_loaded opens durable works summaries
  | indexStored id => exact absurd rfl (sets id)
  | finished =>
      exact ⟨before, .finished, rfl, {
        pointer := rfl
        grows := fun _ _ found => found
        phase := rfl
        named := by simp [Names]
        running := by simp
        reads := by simp
        sets := by simp }⟩
  | failed => contradiction

end

section

variable {Blobs : Type} {storage : StorageClient Blobs} {cipher : SessionCipher} {calls : Bool → SaveCall}
variable {key : SessionKey} {user : String} {race : Race Blobs}

structure Rivals (calls : Bool → SaveCall) (user : String) (key : SessionKey) : Prop where
  user : ∀ who, (calls who).session.userAddress = user
  key : ∀ who, (calls who).key = key
  apart : (calls true).session.sessionId ≠ (calls false).session.sessionId

theorem wellFormed_step (wf : WellFormed storage cipher key user race) {who : Bool} {after : Manager Blobs}
    {next : Progress} (grows : Grows storage race.manager after)
    (pointer : ∀ id, after.indexBlob user = some id → Readable storage cipher after key id)
    (named : ∀ id, Names next id → Readable storage cipher after key id) (running : next ≠ .failed) :
    WellFormed storage cipher key user ⟨after, Function.update race.progress who next⟩ where
  pointer := pointer
  named := by
    intro caller id
    by_cases same : caller = who
    · subst same
      simpa using named id
    · simp only [Function.update_of_ne same]
      exact fun name => grows.readable (wf.named caller id name)
  running := by
    intro caller
    by_cases same : caller = who
    · subst same
      simpa using running
    · simpa only [Function.update_of_ne same] using wf.running caller

theorem abstractState_update {who : Bool} {after : Manager Blobs} (next : Progress)
    (others : ∀ caller, caller ≠ who → phaseOf storage cipher after (calls caller) (race.progress caller) =
      phaseOf storage cipher race.manager (calls caller) (race.progress caller)) :
    abstractState storage cipher calls key user ⟨after, Function.update race.progress who next⟩ =
      { cell := indexContent storage cipher after key user
        phase := Function.update (abstractState storage cipher calls key user race).phase who
          (phaseOf storage cipher after (calls who) next) } := by
  have phases : ∀ caller, phaseOf storage cipher after (calls caller) (Function.update race.progress who next caller) =
      Function.update (abstractState storage cipher calls key user race).phase who
        (phaseOf storage cipher after (calls who) next) caller := by
    intro caller
    by_cases same : caller = who
    · subst same
      rw [Function.update_self, Function.update_self]
    · rw [Function.update_of_ne same, Function.update_of_ne same]
      exact others caller same
  exact congrArg _ (funext phases)

structure Simulates (storage : StorageClient Blobs) (cipher : SessionCipher) (calls : Bool → SaveCall)
    (key : SessionKey) (user : String) (race : Race Blobs) (who : Bool) : Prop where
  wellFormed : WellFormed storage cipher key user (race.step storage cipher calls who)
  state :
    (abstractState storage cipher calls key user (race.step storage cipher calls who) =
        abstractState storage cipher calls key user race ∧
      StepsSafely storage cipher calls race who) ∨
    (abstractState storage cipher calls key user (race.step storage cipher calls who) =
        SharedCell.step (update calls) (abstractState storage cipher calls key user race) who ∧
      (StepsSafely storage cipher calls race who ↔
        ¬ SharedCell.Loses (Has calls) (Forgets calls) (abstractState storage cipher calls key user race) who))

theorem simulates_quiet (rivals : Rivals calls user key) (wf : WellFormed storage cipher key user race) {who : Bool}
    {after : Manager Blobs} {next : Progress}
    (stepped : advance storage cipher race.manager (calls who) (race.progress who) = (after, next))
    (quiet : Quiet storage cipher (calls who) race.manager (race.progress who) after next) :
    Simulates storage cipher calls key user race who := by
  have result : race.step storage cipher calls who = ⟨after, Function.update race.progress who next⟩ := by
    simp only [Race.step, stepped]
  have sameKey := rivals.key
  have cell : indexContent storage cipher after key user = indexContent storage cipher race.manager key user := by
    rw [indexContent, indexContent, quiet.pointer]
    cases pointer : race.manager.indexBlob user with
    | none => rfl
    | some id => exact quiet.grows.contentOf (wf.pointer id pointer)
  have others : ∀ caller, caller ≠ who → phaseOf storage cipher after (calls caller) (race.progress caller) =
      phaseOf storage cipher race.manager (calls caller) (race.progress caller) := by
    intro caller _
    exact quiet.grows.phaseOf fun id name => sameKey caller ▸ wf.named caller id name
  constructor
  · rw [result]
    refine wellFormed_step wf quiet.grows ?_ (fun id name => sameKey who ▸ quiet.named id name) quiet.running
    intro id pointer
    exact quiet.grows.readable (wf.pointer id (quiet.pointer ▸ pointer))
  · refine .inl ⟨?_, fun id sets => absurd sets (quiet.sets id), fun reads => absurd reads quiet.reads⟩
    rw [result, abstractState_update next others, cell, quiet.phase]
    exact congrArg _ (Function.update_eq_self who _)

theorem simulates_read (rivals : Rivals calls user key) (works : ∀ who, Works (calls who).faults)
    (wf : WellFormed storage cipher key user race) {who : Bool}
    (reads : race.progress who = .sessionStored) : Simulates storage cipher calls key user race who := by
  have stepped : race.step storage cipher calls who =
      ⟨race.manager, Function.update race.progress who (.pointed (race.manager.indexBlob user))⟩ := by
    simp [Race.step, reads, advance, (works who).pointerGet, rivals.user]
  have phase : phaseOf storage cipher race.manager (calls who) (.pointed (race.manager.indexBlob user)) =
      .pending (update calls who (indexContent storage cipher race.manager key user)) := by
    rw [indexContent, update]
    cases race.manager.indexBlob user with
    | none => simp [phaseOf]
    | some id => rw [phaseOf, rivals.key]
  have idle : (abstractState storage cipher calls key user race).phase who = .idle := by
    simp only [abstractState, reads, phaseOf]
  have done : (abstractState storage cipher calls key user race).phase (!who) = .done ↔
      race.progress (!who) = .finished :=
    phaseOf_done storage cipher
  constructor
  · rw [stepped]
    refine wellFormed_step wf (fun _ _ found => found) wf.pointer ?_ (by simp)
    rintro id (name | name)
    · exact wf.pointer id (Progress.pointed.inj name)
    · contradiction
  · refine .inr ⟨?_, ?_⟩
    · rw [stepped, abstractState_update (.pointed (race.manager.indexBlob user)) fun _ _ => rfl, phase,
        SharedCell.step, idle]
      rfl
    · cases fails : (calls who).faults.indexGet <;>
        simp [StepsSafely, reads, SharedCell.Loses, idle, done, Forgets, fails]

theorem simulates_set (rivals : Rivals calls user key) (works : ∀ who, Works (calls who).faults)
    (wf : WellFormed storage cipher key user race) {who : Bool}
    {id : BlobId} (sets : race.progress who = .indexStored id) :
    Simulates storage cipher calls key user race who := by
  have stepped : race.step storage cipher calls who =
      ⟨race.manager.setIndexBlob user id, Function.update race.progress who .finished⟩ := by
    simp [Race.step, sets, advance, (works who).pointerSet, rivals.user]
  have pointer : (race.manager.setIndexBlob user id).indexBlob user = some id := by
    simp [Manager.setIndexBlob]
  have readable : Readable storage cipher race.manager key id := wf.named who id (.inr sets)
  have pending : (abstractState storage cipher calls key user race).phase who =
      .pending (contentOf storage cipher race.manager key id) := by
    simp only [abstractState, sets, phaseOf, rivals.key]
  have theirs : (abstractState storage cipher calls key user race).phase (!who) =
      phaseOf storage cipher race.manager (calls !who) (race.progress !who) := rfl
  have others : ∀ caller, caller ≠ who →
      phaseOf storage cipher (race.manager.setIndexBlob user id) (calls caller) (race.progress caller) =
        phaseOf storage cipher race.manager (calls caller) (race.progress caller) := fun _ _ => rfl
  constructor
  · rw [stepped]
    refine wellFormed_step wf (fun _ _ found => found) ?_ (by simp [Names]) (by simp)
    intro other found
    obtain rfl := Option.some.inj (pointer.symm.trans found)
    exact readable
  · refine .inr ⟨?_, ?_⟩
    · rw [stepped, abstractState_update .finished others, SharedCell.step, pending, indexContent, pointer]
      rfl
    · simp [StepsSafely, sets, SharedCell.Loses, pending, theirs, Has]

theorem step_simulates (opens : cipher.Opens) (durable : storage.Durable) (rivals : Rivals calls user key)
    (works : ∀ who, Works (calls who).faults) (wf : WellFormed storage cipher key user race) (who : Bool) :
    Simulates storage cipher calls key user race who := by
  by_cases reads : race.progress who = .sessionStored
  · exact simulates_read rivals works wf reads
  · by_cases sets : ∃ id, race.progress who = .indexStored id
    · obtain ⟨id, sets⟩ := sets
      exact simulates_set rivals works wf sets
    · obtain ⟨after, next, stepped, quiet⟩ := quiet_step opens durable (works who)
        (fun id name => (rivals.key who).symm ▸ wf.named who id name) (wf.running who) reads
        (fun id hit => sets ⟨id, hit⟩)
      exact simulates_quiet rivals wf stepped quiet

theorem has_update (who : Bool) (summaries : List SessionSummary) : Has calls who (update calls who summaries) := by
  exact mem_sortSummaries.mpr (KeyedList.mem_upsert_self _ _)

theorem has_update_other (rivals : Rivals calls user key) (who : Bool) (summaries : List SessionSummary) :
    Has calls (!who) (update calls who summaries) ↔ ¬ Forgets calls who ∧ Has calls (!who) summaries := by
  have apart : (summaryOf (calls !who).session).sessionId ≠ (summaryOf (calls who).session).sessionId := by
    cases who
    · exact rivals.apart
    · exact rivals.apart.symm
  rw [Has, update, updateSummaries, mem_sortSummaries, KeyedList.mem_upsert_other apart]
  cases fails : (calls who).faults.indexGet <;> simp [Forgets, Has, fails]

theorem kept_iff (opens : cipher.Opens) (durable : storage.Durable) (rivals : Rivals calls user key)
    (works : ∀ who, Works (calls who).faults) (start : Race Blobs) (wf : WellFormed storage cipher key user start)
    (pendingHas : SharedCell.PendingHas (Has calls) (abstractState storage cipher calls key user start))
    (schedule : List Bool) :
    SharedCell.Kept (Has calls) (abstractState storage cipher calls key user
        (Runs.run (Race.step storage cipher calls) start schedule)) ↔
      SharedCell.Kept (Has calls) (abstractState storage cipher calls key user start) ∧
        Runs.Always (Race.step storage cipher calls) (StepsSafely storage cipher calls) start schedule := by
  refine Runs.property_run_iff
    (fun race => WellFormed storage cipher key user race ∧
      SharedCell.PendingHas (Has calls) (abstractState storage cipher calls key user race))
    (fun race => SharedCell.Kept (Has calls) (abstractState storage cipher calls key user race))
    (StepsSafely storage cipher calls) ?_ ?_ start schedule ⟨wf, pendingHas⟩
  · rintro race who ⟨wf, pendingHas⟩
    obtain ⟨wellFormed, state⟩ := step_simulates opens durable rivals works wf who
    refine ⟨wellFormed, ?_⟩
    rcases state with ⟨same, -⟩ | ⟨stepped, -⟩
    · rwa [same]
    · rw [stepped]
      exact SharedCell.pendingHas_step has_update pendingHas
  · rintro race who ⟨wf, pendingHas⟩
    obtain ⟨-, ⟨same, safe⟩ | ⟨stepped, safe⟩⟩ := step_simulates opens durable rivals works wf who
    · rw [same, and_iff_left safe]
    · rw [stepped, SharedCell.kept_step_iff (has_update_other rivals) _ who pendingHas, safe]

theorem wellFormed_run (opens : cipher.Opens) (durable : storage.Durable) (rivals : Rivals calls user key)
    (works : ∀ who, Works (calls who).faults) (schedule : List Bool) {start : Race Blobs}
    (wf : WellFormed storage cipher key user start) :
    WellFormed storage cipher key user (Runs.run (Race.step storage cipher calls) start schedule) := by
  refine Runs.invariant_run (WellFormed storage cipher key user) ?_ wf schedule
  intro race who wf
  exact (step_simulates opens durable rivals works wf who).wellFormed

theorem wellFormed_start {manager : Manager Blobs}
    (index : manager.indexBlob user = none ∨ ∃ summaries, IndexIs storage cipher manager user (some (key, summaries))) :
    WellFormed storage cipher key user (Race.start manager) where
  pointer := by
    intro id pointer
    rcases index with none | ⟨summaries, named, found, holds⟩
    · exact absurd (none.symm.trans pointer) (by simp)
    · obtain rfl := Option.some.inj (found.symm.trans pointer)
      exact ⟨summaries, holds⟩
  named := by simp [Race.start, Names]
  running := by simp [Race.start]

theorem listSessions_wellFormed (opens : cipher.Opens) (wf : WellFormed storage cipher key user race) :
    listSessions storage cipher race.manager user key = .ok (indexContent storage cipher race.manager key user) := by
  rw [indexContent]
  cases pointer : race.manager.indexBlob user with
  | none => rw [listSessions, pointer]
  | some id =>
      obtain ⟨summaries, holds⟩ := wf.pointer id pointer
      simp only [contentOf_holds opens holds]
      exact listSessions_of_index opens ⟨id, pointer, holds⟩

end

section

variable {Blobs : Type} (storage : StorageClient Blobs) (cipher : SessionCipher)

def BothIndexed (calls : Bool → SaveCall) (user : String) (key : SessionKey) (manager : Manager Blobs) : Prop :=
  ∃ summaries, listSessions storage cipher manager user key = .ok summaries ∧
    ∀ who, summaryOf (calls who).session ∈ summaries

variable {storage cipher} {calls : Bool → SaveCall} {user : String} {key : SessionKey}

theorem bothIndexed_iff_kept (opens : cipher.Opens) {race : Race Blobs}
    (wf : WellFormed storage cipher key user race) (finished : ∀ who, race.progress who = .finished) :
    BothIndexed storage cipher calls user key race.manager ↔
      SharedCell.Kept (Has calls) (abstractState storage cipher calls key user race) := by
  have done : ∀ who, (abstractState storage cipher calls key user race).phase who = .done := by
    intro who
    simp only [abstractState, finished, phaseOf]
  have outcome : ∀ who, (abstractState storage cipher calls key user race).outcome who =
      indexContent storage cipher race.manager key user := by
    intro who
    simp only [SharedCell.State.outcome, done]
    rfl
  simp [BothIndexed, listSessions_wellFormed opens wf, SharedCell.Kept, done, outcome, Has]

theorem bothIndexed_race (opens : cipher.Opens) (durable : storage.Durable) (rivals : Rivals calls user key)
    {manager : Manager Blobs}
    (index : manager.indexBlob user = none ∨ ∃ summaries, IndexIs storage cipher manager user (some (key, summaries)))
    {schedule : List Bool} (finished : ∀ who, (race storage cipher calls manager schedule).progress who = .finished) :
    BothIndexed storage cipher calls user key (race storage cipher calls manager schedule).manager ↔
      Runs.Always (Race.step storage cipher calls) (StepsSafely storage cipher calls)
        (Race.start manager) schedule := by
  have works : ∀ who, Works (calls who).faults := fun who => works_of_finished storage cipher (finished who)
  have wf := wellFormed_start index
  have pendingHas : SharedCell.PendingHas (Has calls)
      (abstractState storage cipher calls key user (Race.start manager)) := by
    intro who value pending
    contradiction
  have kept : SharedCell.Kept (Has calls)
      (abstractState storage cipher calls key user (Race.start manager)) := by
    intro who done
    contradiction
  have wfAfter : WellFormed storage cipher key user (race storage cipher calls manager schedule) :=
    wellFormed_run opens durable rivals works schedule wf
  rw [bothIndexed_iff_kept opens wfAfter finished, race, kept_iff opens durable rivals works _ wf pendingHas,
    and_iff_right kept]

end

/-- After two concurrent saves the index has both summaries exactly when neither call set
the pointer while the other was about to set it to an index without the first summary. -/
theorem both_indexed_iff {Blobs : Type} (storage : StorageClient Blobs) (cipher : SessionCipher)
    (opens : cipher.Opens) (durable : storage.Durable) (calls : Bool → SaveCall) (user : String) (key : SessionKey)
    (rivals : Rivals calls user key) (manager : Manager Blobs)
    (index : manager.indexBlob user = none ∨ ∃ summaries, IndexIs storage cipher manager user (some (key, summaries)))
    (schedule : List Bool) (finished : ∀ who, (race storage cipher calls manager schedule).progress who = .finished) :
    BothIndexed storage cipher calls user key (race storage cipher calls manager schedule).manager ↔
      Runs.Always (Race.step storage cipher calls) (StepsSafely storage cipher calls)
        (Race.start manager) schedule := by
  exact bothIndexed_race opens durable rivals index finished

def rivalCall (who : Bool) : SaveCall where
  session := newSession ⟨Vector.replicate 16 (if who then 1 else 2)⟩ "0x01" "llama3.1:8b" none 1000
  key := Vector.replicate 32 9
  sessionNonce := Vector.replicate 12 (if who then 1 else 2)
  indexNonce := Vector.replicate 12 (if who then 3 else 4)
  now := 1060

theorem rivalCall_rivals : Rivals rivalCall "0x01" (Vector.replicate 32 9) where
  user := by intro who; rfl
  key := by intro who; rfl
  apart := by decide

/-- Both calls read the pointer before either sets it. -/
def overlapping : List Bool := [true, true, false, false, true, true, true, false, false, false]

theorem overlapping_finished (who : Bool) :
    (race memoryStorage taggedCipher rivalCall emptyWorld.manager overlapping).progress who = .finished := by
  cases who <;> rfl

theorem both_indexed_overlapping :
    BothIndexed memoryStorage taggedCipher rivalCall "0x01" (Vector.replicate 32 9)
        (race memoryStorage taggedCipher rivalCall emptyWorld.manager overlapping).manager ↔
      Runs.Always (Race.step memoryStorage taggedCipher rivalCall) (StepsSafely memoryStorage taggedCipher rivalCall)
        (Race.start emptyWorld.manager) overlapping := by
  exact both_indexed_iff memoryStorage taggedCipher taggedCipher_opens memoryStorage_durable rivalCall "0x01"
    (Vector.replicate 32 9) rivalCall_rivals emptyWorld.manager (.inl rfl) overlapping overlapping_finished

theorem first_update_lost :
    (∀ who, (race memoryStorage taggedCipher rivalCall emptyWorld.manager overlapping).progress who = .finished) ∧
    ¬ BothIndexed memoryStorage taggedCipher rivalCall "0x01" (Vector.replicate 32 9)
        (race memoryStorage taggedCipher rivalCall emptyWorld.manager overlapping).manager := by
  refine ⟨overlapping_finished, ?_⟩
  rw [bothIndexed_race taggedCipher_opens memoryStorage_durable rivalCall_rivals (.inl rfl) overlapping_finished,
    Runs.always_iff_split]
  intro safe
  have member := (safe [true, true, false, false, true, true] true [false, false, false] rfl).1 _ rfl
    (updateSummaries [] (rivalCall false).session) rfl
  rw [updateSummaries, mem_sortSummaries] at member
  revert member
  decide

end Pinaivu.Context
