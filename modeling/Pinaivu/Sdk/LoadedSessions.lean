import Pinaivu.Sdk.KeyHandoff
import Pinaivu.Sdk.SessionBlobs

/-!
A session that is loaded from the blob of a save. The session is written out before the blob has an
id, so that the blob holds the pointer that the session had until then.
-/

namespace Pinaivu.Sdk

open Context JsonText

structure Session.Names (session : Session) (id : BlobId) : Prop where
  pointer : session.context.metadata.walrusBlobId = some id
  request : ∀ send promptBlob, (session.inferenceRequest send promptBlob).contextBlobId = some id
  next : ∀ newId now, (session.context.moveTo newId now).metadata.prevBlobId = some id

theorem names_iff (session : Session) (id : BlobId) :
    session.Names id ↔ session.context.metadata.walrusBlobId = some id :=
  ⟨fun names => names.pointer, fun pointer => ⟨pointer, fun _ _ => pointer, fun _ _ => pointer⟩⟩

section

variable {Blobs Call : Type} (storage : StorageClient Blobs) (packages : Packages)

def LoadsItself (world : World Blobs Call) (options : SessionOptions) (id : BlobId) : Prop :=
  ∃ loaded, Session.load storage packages world.blobs id world.session.sessionKey options = .ok loaded ∧
    loaded.Names id

/-- The schedule up to the step of the call that writes out the session. -/
def WritesOutAfter [DecidableEq Call] (operations : Call → Operation) (session : Session) (blobs : Blobs)
    (schedule : List Call) (call : Call) (before : List Call) : Prop :=
  (∃ rest, schedule = before ++ call :: rest) ∧
    ((history storage packages operations session blobs before).phase call).snapshots (operations call) = true

end

section

variable {Blobs Call : Type} {storage : StorageClient Blobs} {packages : Packages} [DecidableEq Call]
  {operations : Call → Operation}

theorem written_step {world : World Blobs Call} {call mover : Call} (unwritten : ¬(world.phase call).written)
    (written : ((step storage packages operations world mover).phase call).written) :
    mover = call ∧ (world.phase call).snapshots (operations call) = true := by
  have moved := stepped storage packages operations world mover
  by_cases own : call = mover
  · subst own
    refine ⟨rfl, ?_⟩
    generalize step storage packages operations world call = after at moved written
    cases moved with
    | prompts _ _ | asks _ | hears _ => simp [Phase.written] at written
    | appends streaming whole => simp [streaming, Phase.snapshots, whole]
    | saves idle given => simp [idle, given, Phase.snapshots]
    | seals encrypting _ => simp [encrypting, Phase.written] at unwritten
    | puts putting _ => simp [putting, Phase.written] at unwritten
    | names stored => simp [stored, Phase.written] at unwritten
    | fails _ _ _ => simp [Phase.written] at written
    | stays _ => exact absurd written unwritten
  · rw [moved.other_phase own] at written
    exact absurd written unwritten

theorem exists_writesOut {session : Session} {blobs : Blobs} {schedule : List Call} {call : Call} {id : BlobId}
    (returned : (history storage packages operations session blobs schedule).phase call = .resolved id) :
    ∃ before, WritesOutAfter storage packages operations session blobs schedule call before := by
  have idle : ¬(((begin session blobs : World Blobs Call)).phase call).written := by simp [begin, Phase.written]
  have ended : (Runs.run (step storage packages operations) (begin session blobs) schedule |>.phase call).written := by
    rw [history] at returned
    simp [returned, Phase.written]
  obtain ⟨before, mover, rest, rfl, unwritten, written⟩ :=
    Runs.exists_step_of_run (fun world : World Blobs Call => (world.phase call).written = true) idle ended
  obtain ⟨rfl, snapshots⟩ := written_step unwritten written
  exact ⟨before, ⟨rest, rfl⟩, snapshots⟩

theorem load_of_returned (opens : packages.Opens) (durable : storage.Durable) {session : Session} {blobs : Blobs}
    {schedule before : List Call} {call : Call} {id : BlobId}
    (returned : (history storage packages operations session blobs schedule).phase call = .resolved id)
    (writes : WritesOutAfter storage packages operations session blobs schedule call before)
    (options : SessionOptions) :
    ∃ loaded, Session.load storage packages (history storage packages operations session blobs schedule).blobs id
        (history storage packages operations session blobs schedule).session.sessionKey options = .ok loaded ∧
      loaded.context.metadata.walrusBlobId =
        (history storage packages operations session blobs before).session.context.metadata.walrusBlobId := by
  obtain ⟨⟨rest, rfl⟩, snapshots⟩ := writes
  obtain ⟨carries, pointer⟩ := (stepped storage packages operations
    (history storage packages operations session blobs before) call).snapshot snapshots
  have kept := carries_run operations opens durable carries rest
  rw [← Runs.run_cons, history, ← Runs.run_append] at kept
  rw [history] at returned ⊢
  rw [returned] at kept
  exact ⟨_, load_of_carries options kept, pointer⟩

/-- The blob id that a save returned loads as a session that knows it exactly when the session named
this id when it was written out. -/
theorem loaded_names_blob_iff {Blobs Call : Type} [DecidableEq Call] (storage : StorageClient Blobs)
    (packages : Packages) (opens : packages.Opens) (durable : storage.Durable) (operations : Call → Operation)
    (session : Session) (blobs : Blobs) (schedule : List Call) (options : SessionOptions) (call : Call) (id : BlobId)
    (returned : (history storage packages operations session blobs schedule).phase call = .resolved id) :
    (∃ before, WritesOutAfter storage packages operations session blobs schedule call before) ∧
    ∀ before, WritesOutAfter storage packages operations session blobs schedule call before →
      (LoadsItself storage packages (history storage packages operations session blobs schedule) options id ↔
        (history storage packages operations session blobs before).session.context.metadata.walrusBlobId =
          some id) := by
  refine ⟨exists_writesOut returned, ?_⟩
  intro before writes
  obtain ⟨loaded, read, pointer⟩ := load_of_returned opens durable returned writes options
  rw [← pointer, ← names_iff]
  constructor
  · rintro ⟨found, again, names⟩
    obtain rfl : loaded = found := Except.ok.inj (read.symm.trans again)
    exact names
  · intro names
    exact ⟨loaded, read, names⟩

theorem lone_save {call : Call} {save : Save} (given : operations call = .save save) (works : save.putFails = false)
    {session : Session} {data : List UInt8}
    (written : sealContext packages session.sessionKey save.nonce (contextBytes session.context) = .ok data)
    (blobs : Blobs) :
    (history storage packages operations session blobs [call, call, call, call]).phase call =
      .resolved (storage.put blobs data).2 := by
  simp [history, begin, step, given, written, works]

end

theorem packagesOf_opens {crates : Crates} (opens : crates.cipher.Opens) : (packagesOf crates).Opens := by
  intro key nonce plain sealed encrypted
  obtain ⟨real, written, read⟩ := opens key nonce plain
  have same := (packagesOf_implements crates).encrypt _ _ _ _ written
  obtain rfl : sealed = real := Except.ok.inj (encrypted.symm.trans same)
  exact (packagesOf_implements crates).decrypt _ _ _ _ read

theorem sealContext_packagesOf {crates : Crates} {key : SessionKey} {nonce : Nonce} {json sealed : List UInt8}
    (encrypted : crates.cipher.encrypt key nonce json = some sealed) :
    sealContext (packagesOf crates) key nonce json = .ok (nonce.toList ++ sealed) := by
  have framed : EncryptedBlob.toBytes ⟨sealed, nonce.toList⟩ = .ok (nonce.toList ++ sealed) :=
    toBytes_eq (show nonce.toList.length = 12 by simp)
  rw [sealContext, SessionKey.encrypt, (packagesOf_implements crates).encrypt _ _ _ _ encrypted, ok_bind, pure_bind,
    framed]

def sampleSession : Session where
  context := {
    sessionId := "1f0e9d8c-7b6a-4594-8372-615041302010"
    userAddress := ""
    modelId := "llama3.1:8b"
    messages := []
    contextWindow := { systemPrompt := none, summary := none, recentMessages := [], totalTokens := 0 }
    metadata := {
      createdAt := 1700000000
      lastUpdated := 1700000000
      turnCount := 0
      totalTokensUsed := 0
      totalCostNanox := 0
      walrusBlobId := none
      prevBlobId := none } }
  sessionKey := sampleSessionKey
  options := SessionOptions.required {}

def samplePackages : Packages := packagesOf { sampleCrates with cipher := taggedCipher }

theorem samplePackages_opens : samplePackages.Opens := packagesOf_opens taggedCipher_opens

def emptyBlobs : MemoryBlobs := emptyWorld.manager.blobs

def sampleSave : Save := { nonce := sampleNonce, now := 1700000005 }

def sampleOperations : Unit → Operation := fun _ => .save sampleSave

def sampleSchedule : List Unit := [(), (), (), ()]

theorem sample_returned (session : Session) :
    (history memoryStorage samplePackages sampleOperations session emptyBlobs sampleSchedule).phase () =
      .resolved "mem_blob_1" := by
  have written : sealContext samplePackages session.sessionKey sampleSave.nonce (contextBytes session.context) =
      .ok (sampleNonce.toList ++ (session.sessionKey.toList.take 16 ++ contextBytes session.context)) :=
    sealContext_packagesOf rfl
  have given : sampleOperations () = .save sampleSave := rfl
  have works : sampleSave.putFails = false := rfl
  have name : "mem_blob_" ++ toString (0 + 1) = "mem_blob_1" := by decide
  rw [sampleSchedule, lone_save given works written, ← name]
  rfl

theorem sample_writesOut (session : Session) :
    WritesOutAfter memoryStorage samplePackages sampleOperations session emptyBlobs sampleSchedule () [] :=
  ⟨⟨[(), (), ()], rfl⟩, rfl⟩

/-- The session names the blob that the storage is about to give out. -/
def namedSession : Session :=
  { sampleSession with
    context := { sampleSession.context with
      metadata := { sampleSession.context.metadata with walrusBlobId := some "mem_blob_1" } } }

theorem loaded_names_blob_named :
    LoadsItself memoryStorage samplePackages
      (history memoryStorage samplePackages sampleOperations namedSession emptyBlobs sampleSchedule) {}
      "mem_blob_1" := by
  refine ((loaded_names_blob_iff memoryStorage samplePackages samplePackages_opens memoryStorage_durable
    sampleOperations namedSession emptyBlobs sampleSchedule {} () "mem_blob_1" (sample_returned namedSession)).2 []
    (sample_writesOut namedSession)).mpr ?_
  rfl

/-- The session that is loaded from its only blob has no blob of its own. -/
theorem loaded_session_unnamed :
    (history memoryStorage samplePackages sampleOperations sampleSession emptyBlobs sampleSchedule).phase () =
        .resolved "mem_blob_1" ∧
      ¬LoadsItself memoryStorage samplePackages
        (history memoryStorage samplePackages sampleOperations sampleSession emptyBlobs sampleSchedule) {}
        "mem_blob_1" := by
  have returned := sample_returned sampleSession
  refine ⟨returned, ?_⟩
  rintro ⟨loaded, read, names⟩
  obtain ⟨found, again, pointer⟩ := load_of_returned samplePackages_opens memoryStorage_durable
    returned (sample_writesOut sampleSession) {}
  obtain rfl : loaded = found := Except.ok.inj (read.symm.trans again)
  rw [names.pointer] at pointer
  cases pointer

end Pinaivu.Sdk
