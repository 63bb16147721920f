import Pinaivu.Lib.Runs
import Pinaivu.Reputation.StoreHistory

/-!
Restarts of the file-backed store: what `flush` writes is read back as the same histories, so a
rebuilt store answers as the one that flushed it.
-/

namespace Pinaivu.Reputation

open JsonText Merkle P2P LocalReputationStore

theorem decodeProof_proofJson (proof : ProofOfInference) : decodeProof (proofJson proof) = some proof := by
  have texts : ∀ text, decodeString (.string text) = some text := fun _ => rfl
  rw [decodeProof, proofJson, structFields_object 0 (by simp), Option.bind_eq_bind, Option.bind_some]
  simp (disch := decide) only [requiredField_head, requiredField_tail, optionalField_head,
    optionalField_tail, decodeUuid_uuidJson, texts, decodeU32_unsignedJson, decodeU64_unsignedJson,
    decodeHash_bytesJson, decodeOption_optionJson, decodeList_map decodeU8_unsignedJson]
  rfl

theorem decodeNodeData_toJson (data : PerNodeData) : decodeNodeData data.toJson = some data := by
  rw [decodeNodeData, PerNodeData.toJson, structFields_object 0 (by simp), Option.bind_eq_bind,
    Option.bind_some]
  simp (disch := decide) only [requiredField_head, requiredField_tail,
    decodeList_map decodeProof_proofJson, decodeReputation_toJson]
  rfl

theorem decodeStoreFile_json (nodes : List NodeEntry) :
    decodeStoreFile (storeFileJson nodes) =
      some (nodes.map fun entry => (entry.peerId, entry.state.data)) := by
  have inverse : ∀ entry : NodeEntry, decodeNodeData entry.state.data.toJson = some entry.state.data :=
    fun entry => decodeNodeData_toJson entry.state.data
  rw [decodeStoreFile, storeFileJson, structFields_object 0 (by simp), Option.bind_eq_bind,
    Option.bind_some]
  simp (disch := decide) only [requiredField_head, decodeEntries_map inverse]

section

variable {SigningKey : Type} (prims : Primitives SigningKey)

def reload (entry : NodeEntry) : NodeEntry :=
  ⟨entry.peerId, .fromProofs prims entry.state.data.proofs (readScore prims entry.state.data.score)⟩

variable {prims}

theorem reload_consistent {entry : NodeEntry} (consistent : entry.state.Consistent prims) :
    (reload prims entry).state.Consistent prims := by
  have scores := consistent.scores
  exact consistent_fromProofs consistent.once ⟨scores.totalJobs, scores.verifiedProofs, scores.merkleRoot⟩

theorem state_fromFile (localPeerId : NodePeerId) (store : LocalReputationStore) :
    (fromFile prims localPeerId (some store.flush)).state = store.state.map (reload prims) := by
  have states : ∀ (nodes : List NodeEntry) (start : LocalReputationStore),
      ((nodes.map fun entry => (entry.peerId, entry.state.data)).foldl
        (fun store node =>
          store.put node.1 (.fromProofs prims node.2.proofs (readScore prims node.2.score))) start).state =
        (nodes.map (reload prims)).foldl (fun rows row => KeyedList.upsert NodeEntry.peerId row rows)
          start.state := by
    intro nodes
    induction nodes with
    | nil => exact fun _ => rfl
    | cons entry rest ih => exact fun start => ih _
  have unique : (([] ++ store.state.map (reload prims)).map NodeEntry.peerId).Nodup := by
    rw [List.nil_append, KeyedList.map_key_form (fun _ => rfl)]
    exact store.unique
  have kept := KeyedList.foldl_upsert unique
  unfold fromFile flush
  simp only [Option.bind_some, ofBytesSpaced_toBytesPretty, decodeStoreFile_json, Option.getD_some]
  rw [states]
  exact kept

theorem localPeerId_fromFile (localPeerId : NodePeerId) (disk : Option ByteArray) :
    (fromFile prims localPeerId disk).localPeerId = localPeerId := by
  have kept : ∀ (nodes : List (NodePeerId × PerNodeData)) (start : LocalReputationStore),
      (nodes.foldl (fun store node =>
        store.put node.1 (.fromProofs prims node.2.proofs (readScore prims node.2.score))) start).localPeerId =
        start.localPeerId := by
    intro nodes
    induction nodes with
    | nil => exact fun _ => rfl
    | cons node rest ih => exact fun start => ih _
  exact kept _ _

theorem alike_fromFile {store : LocalReputationStore} (consistent : StoreConsistent prims store) :
    Alike prims store (fromFile prims store.localPeerId (some store.flush)) := by
  constructor
  · exact (localPeerId_fromFile store.localPeerId _).symm
  · exact consistent
  · intro entry member
    rw [state_fromFile, List.mem_map] at member
    obtain ⟨before, present, rfl⟩ := member
    exact reload_consistent (consistent before present)
  · intro nodeId
    have found := @KeyedList.find_form _ _ _ NodeEntry.peerId _ NodeEntry.peerId (reload prims)
      (fun _ => rfl) nodeId store.state
    unfold history stateOf LocalReputationStore.get
    rw [state_fromFile, found]
    cases KeyedList.find NodeEntry.peerId nodeId store.state <;> rfl

end

structure World where
  store : LocalReputationStore
  disk : Option ByteArray

/-- A submitted proof, with the clock and whether a flush would succeed, or a restart from the file. -/
inductive Event where
  | record (now : UInt64) (proof : ProofOfInference) (flushes : Bool)
  | restart (localPeerId : NodePeerId)

def World.start (localPeerId : NodePeerId) : World := ⟨.inMemory localPeerId, none⟩

section

variable {SigningKey : Type} (prims : Primitives SigningKey)

def step (world : World) : Event → World
  | .record now proof flushes =>
      let recorded := world.store.recordProof prims now proof
      ⟨recorded.1, if recorded.2 && world.store.hasFile && flushes then some recorded.1.flush else world.disk⟩
  | .restart localPeerId => ⟨.fromFile prims localPeerId world.disk, world.disk⟩

/-- The same proofs in the same order, each with a clock reading of either store. -/
def recordAll (clock : UInt64 × UInt64 → UInt64) (store : LocalReputationStore)
    (proofs : List ((UInt64 × UInt64) × ProofOfInference)) : LocalReputationStore :=
  proofs.foldl (fun store submitted => (store.recordProof prims (clock submitted.1) submitted.2).1) store

variable {prims}

theorem Alike.recordAll {first second : LocalReputationStore} (alike : Alike prims first second)
    (proofs : List ((UInt64 × UInt64) × ProofOfInference)) :
    Alike prims (recordAll prims Prod.fst first proofs) (recordAll prims Prod.snd second proofs) := by
  induction proofs generalizing first second with
  | nil => exact alike
  | cons submitted rest ih => exact ih (alike.recordProof submitted.1.1 submitted.1.2 submitted.2)

/-- The store is consistent, and the file is absent or what a consistent store flushed. -/
structure World.Sound (prims : Primitives SigningKey) (world : World) : Prop where
  store : StoreConsistent prims world.store
  disk : ∀ bytes, world.disk = some bytes → ∃ other, StoreConsistent prims other ∧ bytes = other.flush

theorem sound_step (world : World) (event : Event) (sound : world.Sound prims) :
    (step prims world event).Sound prims := by
  cases event with
  | record now proof flushes =>
      have consistent := recordProof_consistent sound.store now proof
      constructor
      · exact consistent
      · intro bytes written
        simp only [step] at written
        split at written
        · exact ⟨_, consistent, (Option.some.inj written).symm⟩
        · exact sound.disk bytes written
  | restart localPeerId =>
      constructor
      · cases written : world.disk with
        | none =>
            intro entry member
            simp [step, written, fromFile] at member
        | some bytes =>
            obtain ⟨other, consistent, rfl⟩ := sound.disk bytes written
            intro entry member
            simp only [step, written, state_fromFile, List.mem_map] at member
            obtain ⟨before, present, rfl⟩ := member
            exact reload_consistent (consistent before present)
      · exact sound.disk

/-- After every run the copies of each node's history agree, and a store rebuilt from a file just
flushed answers as the running one, now and after any further records. -/
theorem store_reload (localPeerId : NodePeerId) (events : List Event) :
    (∀ entry ∈ (Runs.run (step prims) (.start localPeerId) events).store.state,
      entry.state.Consistent prims) ∧
    ∀ now proof flushed,
      flushed = step prims (Runs.run (step prims) (.start localPeerId) events) (.record now proof true) →
      ((Runs.run (step prims) (.start localPeerId) events).store.recordProof prims now proof).2 = true →
      (Runs.run (step prims) (.start localPeerId) events).store.hasFile = true →
      ∀ more, view prims (recordAll prims Prod.fst flushed.store more) =
        view prims (recordAll prims Prod.snd
          (fromFile prims flushed.store.localPeerId flushed.disk) more) := by
  have start : (World.start localPeerId).Sound prims := by
    constructor
    · intro entry member
      simp [World.start, inMemory] at member
    · intro bytes written
      simp [World.start] at written
  have sound := Runs.invariant_run (World.Sound prims) sound_step start events
  refine ⟨sound.store, ?_⟩
  rintro now proof flushed rfl fresh backed more
  have consistent := recordProof_consistent sound.store now proof
  apply view_of_alike
  apply Alike.recordAll
  simp only [step, fresh, backed, Bool.and_self, if_true]
  exact alike_fromFile consistent

end

def sampleWorld : World := Runs.run (step samplePrims) (.start "peer") [.restart "peer"]

def sampleFlushed : World :=
  step samplePrims sampleWorld (.record 1700000001 (sampleProof 1 (List.replicate 64 1)) true)

def laterProofs : List ((UInt64 × UInt64) × ProofOfInference) :=
  [((1700000002, 1700000005), sampleProof 2 [])]

theorem sample_reload :
    view samplePrims (recordAll samplePrims Prod.fst sampleFlushed.store laterProofs) =
      view samplePrims (recordAll samplePrims Prod.snd
        (fromFile samplePrims sampleFlushed.store.localPeerId sampleFlushed.disk) laterProofs) := by
  have fresh : (sampleWorld.store.recordProof samplePrims 1700000001
      (sampleProof 1 (List.replicate 64 1))).2 = true := rfl
  have backed : sampleWorld.store.hasFile = true := rfl
  apply (store_reload "peer" [.restart "peer"]).2 1700000001 (sampleProof 1 (List.replicate 64 1)) sampleFlushed
  · rfl
  · exact fresh
  · exact backed

end Pinaivu.Reputation
