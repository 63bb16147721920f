import Pinaivu.Reputation.LocalStore

/-!
The four copies of a node's history (proofs, leaves, index and score) agree in every store that
records proofs, and the store answers from the history alone: the proofs submitted for a node,
the first of each id.
-/

namespace Pinaivu.Reputation

open JsonText Merkle P2P LocalReputationStore

theorem hexEncode_injective : Function.Injective hexEncode := by
  intro first second same
  exact Vector.toList_inj.mp (Hex.encode_injective (String.ofList_injective same))

section

variable {SigningKey : Type} (prims : Primitives SigningKey)

def ids (proofs : List ProofOfInference) : List Digest := proofs.map (·.id prims.sha256)

/-- The copies of one node's history agree, and no id occurs twice in it. -/
structure NodeState.Consistent (state : NodeState) : Prop where
  leaves : state.tree.leaves = ids prims state.data.proofs
  index : ∀ key position, state.index key = some position ↔
    ∃ proof, state.data.proofs[position]? = some proof ∧ key = hexEncode (proof.id prims.sha256)
  once : (ids prims state.data.proofs).Nodup
  totalJobs : state.data.score.totalJobs = UInt64.ofNat state.data.proofs.length
  verifiedProofs : state.data.score.verifiedProofs =
    UInt64.ofNat (state.data.proofs.countP (·.verify prims.scheme))
  merkleRoot : state.data.score.merkleRoot = state.tree.root prims.hashPair zeroDigest

variable {prims}

theorem NodeState.Consistent.indexed {state : NodeState} (consistent : state.Consistent prims)
    (proof : ProofOfInference) :
    (state.index (hexEncode (proof.id prims.sha256))).isSome = true ↔
      proof.id prims.sha256 ∈ ids prims state.data.proofs := by
  rw [Option.isSome_iff_exists, ids, List.mem_map]
  constructor
  · rintro ⟨position, found⟩
    obtain ⟨other, placed, same⟩ := (consistent.index _ position).mp found
    exact ⟨other, List.mem_of_getElem? placed, (hexEncode_injective same).symm⟩
  · rintro ⟨other, member, same⟩
    obtain ⟨position, placed⟩ := List.mem_iff_getElem?.mp member
    exact ⟨position, (consistent.index _ position).mpr ⟨other, placed, by rw [same]⟩⟩

theorem NodeState.Consistent.determined {first second : NodeState} (firstHolds : first.Consistent prims)
    (secondHolds : second.Consistent prims) (same : first.data.proofs = second.data.proofs) :
    first.tree = second.tree ∧ first.index = second.index := by
  constructor
  · have leaves : first.tree.leaves = second.tree.leaves := by
      rw [firstHolds.leaves, secondHolds.leaves, same]
    rcases first with ⟨_, ⟨_⟩, _⟩
    exact congrArg MerkleTree.mk leaves
  · funext key
    apply Option.ext
    intro position
    rw [firstHolds.index, secondHolds.index, same]

/-- A score that agrees with the proofs in all but the floats and the time. -/
structure Scores (prims : Primitives SigningKey) (proofs : List ProofOfInference) (score : ReputationScore) :
    Prop where
  totalJobs : score.totalJobs = UInt64.ofNat proofs.length
  verifiedProofs : score.verifiedProofs = UInt64.ofNat (proofs.countP (·.verify prims.scheme))
  merkleRoot : score.merkleRoot = MerkleTree.root prims.hashPair zeroDigest ⟨ids prims proofs⟩

theorem scores_computeScore (proofs : List ProofOfInference) (now : UInt64) :
    Scores prims proofs
      (computeScore prims proofs (MerkleTree.root prims.hashPair zeroDigest ⟨ids prims proofs⟩) now) := by
  cases proofs with
  | nil => exact ⟨rfl, rfl, by simp [computeScore, defaultScore, MerkleTree.root, ids]⟩
  | cons proof rest => exact ⟨rfl, rfl, rfl⟩

theorem index_update {proofs : List ProofOfInference} {index : String → Option Nat}
    (matched : ∀ key position, index key = some position ↔
      ∃ proof, proofs[position]? = some proof ∧ key = hexEncode (proof.id prims.sha256))
    {proof : ProofOfInference} (fresh : proof.id prims.sha256 ∉ ids prims proofs) (key : String)
    (position : Nat) :
    Function.update index (hexEncode (proof.id prims.sha256)) (some proofs.length) key = some position ↔
      ∃ other, (proofs ++ [proof])[position]? = some other ∧ key = hexEncode (other.id prims.sha256) := by
  rcases lt_trichotomy position proofs.length with before | rfl | after
  · have kept : (proofs ++ [proof])[position]? = proofs[position]? := List.getElem?_append_left before
    rw [kept, ← matched]
    by_cases same : key = hexEncode (proof.id prims.sha256)
    · have absent : index key ≠ some position := by
        intro found
        obtain ⟨other, placed, equal⟩ := (matched _ _).mp found
        apply fresh
        rw [hexEncode_injective (same.symm.trans equal)]
        exact List.mem_map_of_mem (List.mem_of_getElem? placed)
      rw [same, Function.update_self, ← same]
      simp only [Option.some.injEq, absent, iff_false]
      omega
    · rw [Function.update_of_ne same]
  · have last : (proofs ++ [proof])[proofs.length]? = some proof := by simp
    rw [last]
    by_cases same : key = hexEncode (proof.id prims.sha256)
    · simp [same]
    · have absent : index key ≠ some proofs.length := by
        intro found
        obtain ⟨other, placed, -⟩ := (matched _ _).mp found
        simp at placed
      simp [absent, same]
  · have none : (proofs ++ [proof])[position]? = none := by
      rw [List.getElem?_eq_none_iff, List.length_append, List.length_singleton]
      omega
    rw [none]
    by_cases same : key = hexEncode (proof.id prims.sha256)
    · rw [same, Function.update_self]
      simp only [Option.some.injEq, reduceCtorEq, false_and, exists_false, iff_false]
      omega
    · rw [Function.update_of_ne same, matched, List.getElem?_eq_none_iff.mpr (by omega)]

theorem NodeState.Consistent.scores {state : NodeState} (consistent : state.Consistent prims) :
    Scores prims state.data.proofs state.data.score := by
  refine ⟨consistent.totalJobs, consistent.verifiedProofs, ?_⟩
  rw [consistent.merkleRoot, ← consistent.leaves]

theorem NodeState.Consistent.recorded {state : NodeState} (consistent : state.Consistent prims)
    {proof : ProofOfInference} (fresh : proof.id prims.sha256 ∉ ids prims state.data.proofs)
    {score : ReputationScore} (scored : Scores prims (state.data.proofs ++ [proof]) score) :
    NodeState.Consistent prims ⟨⟨state.data.proofs ++ [proof], score⟩,
      state.tree.insert (proof.id prims.sha256),
      Function.update state.index (hexEncode (proof.id prims.sha256)) (some state.tree.leaves.length)⟩ := by
  have added : ids prims (state.data.proofs ++ [proof]) =
      ids prims state.data.proofs ++ [proof.id prims.sha256] := by
    simp [ids]
  have leaves : (state.tree.insert (proof.id prims.sha256)).leaves =
      ids prims (state.data.proofs ++ [proof]) := by
    rw [added, MerkleTree.insert, consistent.leaves]
  have length : state.tree.leaves.length = state.data.proofs.length := by
    rw [consistent.leaves, ids, List.length_map]
  constructor
  · exact leaves
  · rw [length]
    exact index_update consistent.index fresh
  · rw [added, List.nodup_append]
    refine ⟨consistent.once, by simp, ?_⟩
    rintro first member second single rfl
    exact fresh (List.mem_singleton.mp single ▸ member)
  · exact scored.totalJobs
  · exact scored.verifiedProofs
  · rw [scored.merkleRoot, ← leaves]

theorem fromProofs_concat (proofs : List ProofOfInference) (proof : ProofOfInference)
    (score before : ReputationScore) :
    NodeState.fromProofs prims (proofs ++ [proof]) score =
      ⟨⟨proofs ++ [proof], score⟩,
        (NodeState.fromProofs prims proofs before).tree.insert (proof.id prims.sha256),
        Function.update (NodeState.fromProofs prims proofs before).index
          (hexEncode (proof.id prims.sha256)) (some proofs.length)⟩ := by
  simp [NodeState.fromProofs, addLeaf, List.zipIdx_append]

theorem consistent_fromProofs {proofs : List ProofOfInference} (once : (ids prims proofs).Nodup)
    {score : ReputationScore} (scored : Scores prims proofs score) :
    (NodeState.fromProofs prims proofs score).Consistent prims := by
  induction proofs using List.reverseRecOn generalizing score with
  | nil =>
      constructor
      · rfl
      · intro key position
        simp [NodeState.fromProofs]
      · exact once
      · exact scored.totalJobs
      · exact scored.verifiedProofs
      · exact scored.merkleRoot
  | append_singleton proofs proof ih =>
      have added : ids prims (proofs ++ [proof]) = ids prims proofs ++ [proof.id prims.sha256] := by
        simp [ids]
      rw [added, List.nodup_append] at once
      have fresh : proof.id prims.sha256 ∉ ids prims proofs := fun member =>
        once.2.2 _ member _ (List.mem_singleton_self _) rfl
      have before := ih once.1 (scores_computeScore proofs 0)
      have after := before.recorded fresh scored
      rw [fromProofs_concat _ _ _ (computeScore prims proofs _ 0)]
      have length : (NodeState.fromProofs prims proofs (computeScore prims proofs
          (MerkleTree.root prims.hashPair zeroDigest ⟨ids prims proofs⟩) 0)).tree.leaves.length =
          proofs.length := by
        rw [before.leaves, ids, List.length_map]
        rfl
      rw [length] at after
      exact after

end

namespace LocalReputationStore

theorem get_put_self (store : LocalReputationStore) (nodeId : NodePeerId) (state : NodeState) :
    (store.put nodeId state).get nodeId = some state := by
  have found := @KeyedList.find_upsert_self _ _ _ NodeEntry.peerId ⟨nodeId, state⟩ store.state
  exact congrArg (Option.map NodeEntry.state) found

theorem get_put_other (store : LocalReputationStore) {nodeId other : NodePeerId} (state : NodeState)
    (different : other ≠ nodeId) : (store.put nodeId state).get other = store.get other := by
  have found := @KeyedList.find_upsert_other _ _ _ NodeEntry.peerId ⟨nodeId, state⟩ other different
    store.state
  exact congrArg (Option.map NodeEntry.state) found

end LocalReputationStore

section

variable {SigningKey : Type} (prims : Primitives SigningKey)

def stateOf (store : LocalReputationStore) (nodeId : NodePeerId) : NodeState :=
  (store.get nodeId).getD (.fromProofs prims [] (defaultScore prims))

/-- The proofs that count for a node, in the order of their first submission. -/
def history (store : LocalReputationStore) (nodeId : NodePeerId) : List ProofOfInference :=
  (stateOf prims store nodeId).data.proofs

def StoreConsistent (store : LocalReputationStore) : Prop :=
  ∀ entry ∈ store.state, entry.state.Consistent prims

def extend (proofs : List ProofOfInference) (proof : ProofOfInference) : List ProofOfInference :=
  KeyedList.insertNew (·.id prims.sha256) proof proofs

variable {prims}

theorem stateOf_consistent {store : LocalReputationStore} (consistent : StoreConsistent prims store)
    (nodeId : NodePeerId) : (stateOf prims store nodeId).Consistent prims := by
  unfold stateOf
  cases found : store.get nodeId with
  | none =>
      have once : (ids prims []).Nodup := List.nodup_nil
      exact consistent_fromProofs once (scores_computeScore [] 0)
  | some state =>
      obtain ⟨entry, present, rfl⟩ := Option.map_eq_some_iff.mp found
      exact consistent entry (KeyedList.mem_of_find present).1

theorem put_consistent {store : LocalReputationStore} (consistent : StoreConsistent prims store)
    (nodeId : NodePeerId) {state : NodeState} (good : state.Consistent prims) :
    StoreConsistent prims (store.put nodeId state) := by
  intro entry member
  rcases (KeyedList.mem_upsert store.unique).mp member with rfl | ⟨kept, -⟩
  · exact good
  · exact consistent entry kept

theorem stateOf_put_self (store : LocalReputationStore) (nodeId : NodePeerId) (state : NodeState) :
    stateOf prims (store.put nodeId state) nodeId = state := by
  rw [stateOf, store.get_put_self, Option.getD_some]

theorem stateOf_put_other (store : LocalReputationStore) {nodeId other : NodePeerId} (state : NodeState)
    (different : other ≠ nodeId) :
    stateOf prims (store.put nodeId state) other = stateOf prims store other := by
  rw [stateOf, store.get_put_other state different, stateOf]

theorem recordProof_cases {store : LocalReputationStore} (consistent : StoreConsistent prims store)
    (now : UInt64) (proof : ProofOfInference) :
    ∃ state, (store.recordProof prims now proof).1 = store.put proof.nodePeerId state ∧
      state.Consistent prims ∧
      state.data.proofs = extend prims (history prims store proof.nodePeerId) proof ∧
      ((store.recordProof prims now proof).2 = true ↔
        proof.id prims.sha256 ∉ ids prims (history prims store proof.nodePeerId)) := by
  have good := stateOf_consistent consistent proof.nodePeerId
  have indexed := good.indexed proof
  have opened : store.recordProof prims now proof =
      if ((stateOf prims store proof.nodePeerId).index (hexEncode (proof.id prims.sha256))).isSome then
        (store.put proof.nodePeerId (stateOf prims store proof.nodePeerId), false)
      else
        let state := stateOf prims store proof.nodePeerId
        let tree := state.tree.insert (proof.id prims.sha256)
        let proofs := state.data.proofs ++ [proof]
        (store.put proof.nodePeerId
          ⟨⟨proofs, computeScore prims proofs (tree.root prims.hashPair zeroDigest) now⟩, tree,
            Function.update state.index (hexEncode (proof.id prims.sha256)) (some state.tree.leaves.length)⟩,
          true) := rfl
  by_cases known : proof.id prims.sha256 ∈ ids prims (history prims store proof.nodePeerId)
  · rw [opened, if_pos (indexed.mpr known)]
    exact ⟨_, rfl, good, (if_pos known).symm, by simp [known]⟩
  · rw [opened, if_neg fun found => known (indexed.mp found)]
    refine ⟨_, rfl, good.recorded known ?_, (if_neg known).symm, by simp [known]⟩
    have leaves : (stateOf prims store proof.nodePeerId).tree.insert (proof.id prims.sha256) =
        ⟨ids prims ((stateOf prims store proof.nodePeerId).data.proofs ++ [proof])⟩ := by
      simp [MerkleTree.insert, good.leaves, ids]
    rw [leaves]
    exact scores_computeScore _ now

theorem recordProof_consistent {store : LocalReputationStore} (consistent : StoreConsistent prims store)
    (now : UInt64) (proof : ProofOfInference) :
    StoreConsistent prims (store.recordProof prims now proof).1 := by
  obtain ⟨state, put, good, -, -⟩ := recordProof_cases consistent now proof
  rw [put]
  exact put_consistent consistent _ good

/-- The store refines a history for each node to which every new id is appended. -/
theorem history_recordProof {store : LocalReputationStore} (consistent : StoreConsistent prims store)
    (now : UInt64) (proof : ProofOfInference) (nodeId : NodePeerId) :
    history prims (store.recordProof prims now proof).1 nodeId =
      if proof.nodePeerId = nodeId then extend prims (history prims store nodeId) proof
      else history prims store nodeId := by
  obtain ⟨state, put, -, proofs, -⟩ := recordProof_cases consistent now proof
  rw [put]
  split
  · rename_i same
    subst same
    rw [history, stateOf_put_self, proofs]
  · rename_i different
    rw [history, stateOf_put_other _ _ fun same => different same.symm, history]

/-- What the store tells of itself, but for the floats and the time of the scores. -/
structure View where
  totalJobs : NodePeerId → UInt64
  verifiedProofs : NodePeerId → UInt64
  scoreRoot : NodePeerId → Digest
  merkleRoot : Digest
  merkleProof : Digest → Except Panic (Option (List (MerklePathStep Digest)))
  allProofs : List ProofOfInference

variable (prims) in
def view (store : LocalReputationStore) : View where
  totalJobs := fun nodeId => (store.getScore prims nodeId).totalJobs
  verifiedProofs := fun nodeId => (store.getScore prims nodeId).verifiedProofs
  scoreRoot := fun nodeId => (store.getScore prims nodeId).merkleRoot
  merkleRoot := store.merkleRoot prims
  merkleProof := store.merkleProof prims
  allProofs := store.allProofs

theorem getScore_eq (store : LocalReputationStore) (nodeId : NodePeerId) :
    store.getScore prims nodeId = (stateOf prims store nodeId).data.score := by
  unfold LocalReputationStore.getScore stateOf
  cases store.get nodeId <;> rfl

theorem merkleRoot_eq (store : LocalReputationStore) :
    store.merkleRoot prims = (stateOf prims store store.localPeerId).tree.root prims.hashPair zeroDigest := by
  unfold LocalReputationStore.merkleRoot stateOf
  cases store.get store.localPeerId with
  | none => simp [NodeState.fromProofs, MerkleTree.root, MerkleTree.new]
  | some state => rfl

theorem merkleProof_eq (store : LocalReputationStore) (proofId : Digest) :
    store.merkleProof prims proofId =
      match (stateOf prims store store.localPeerId).index (hexEncode proofId) with
      | none => .ok none
      | some leafIndex => (stateOf prims store store.localPeerId).tree.proof prims.hashPair leafIndex := by
  unfold LocalReputationStore.merkleProof stateOf
  cases store.get store.localPeerId <;> rfl

theorem allProofs_eq (store : LocalReputationStore) :
    store.allProofs = history prims store store.localPeerId := by
  unfold LocalReputationStore.allProofs history stateOf
  cases store.get store.localPeerId <;> rfl

theorem merkleRoot_history {store : LocalReputationStore} (consistent : StoreConsistent prims store) :
    store.merkleRoot prims =
      MerkleTree.root prims.hashPair zeroDigest ⟨ids prims (history prims store store.localPeerId)⟩ := by
  have leaves := (stateOf_consistent consistent store.localPeerId).leaves
  rw [merkleRoot_eq, history, ← leaves]

structure Alike (prims : Primitives SigningKey) (first second : LocalReputationStore) : Prop where
  localPeerId : first.localPeerId = second.localPeerId
  firstConsistent : StoreConsistent prims first
  secondConsistent : StoreConsistent prims second
  histories : ∀ nodeId, history prims first nodeId = history prims second nodeId

theorem getScore_scores {store : LocalReputationStore} (consistent : StoreConsistent prims store)
    (nodeId : NodePeerId) : Scores prims (history prims store nodeId) (store.getScore prims nodeId) := by
  rw [getScore_eq]
  exact (stateOf_consistent consistent nodeId).scores

theorem view_of_alike {first second : LocalReputationStore} (alike : Alike prims first second) :
    view prims first = view prims second := by
  rcases alike with ⟨same, firstConsistent, secondConsistent, histories⟩
  have firstScores := getScore_scores firstConsistent
  have secondScores := getScore_scores secondConsistent
  have states := (stateOf_consistent firstConsistent first.localPeerId).determined
    (stateOf_consistent secondConsistent first.localPeerId) (histories first.localPeerId)
  rw [view, view, View.mk.injEq]
  refine ⟨funext fun nodeId => ?_, funext fun nodeId => ?_, funext fun nodeId => ?_, ?_,
    funext fun proofId => ?_, ?_⟩
  · rw [(firstScores nodeId).totalJobs, (secondScores nodeId).totalJobs, histories]
  · rw [(firstScores nodeId).verifiedProofs, (secondScores nodeId).verifiedProofs, histories]
  · rw [(firstScores nodeId).merkleRoot, (secondScores nodeId).merkleRoot, histories]
  · rw [merkleRoot_history firstConsistent, merkleRoot_history secondConsistent, histories, same]
  · rw [merkleProof_eq, merkleProof_eq, ← same, states.1, states.2]
  · rw [allProofs_eq, allProofs_eq, histories, same]

theorem recordProof_localPeerId (store : LocalReputationStore) (now : UInt64) (proof : ProofOfInference) :
    (store.recordProof prims now proof).1.localPeerId = store.localPeerId := by
  unfold LocalReputationStore.recordProof
  simp only []
  split <;> rfl

theorem Alike.recordProof {first second : LocalReputationStore} (alike : Alike prims first second)
    (firstNow secondNow : UInt64) (proof : ProofOfInference) :
    Alike prims (first.recordProof prims firstNow proof).1 (second.recordProof prims secondNow proof).1 := by
  rcases alike with ⟨same, firstConsistent, secondConsistent, histories⟩
  constructor
  · rw [recordProof_localPeerId, recordProof_localPeerId, same]
  · exact recordProof_consistent firstConsistent firstNow proof
  · exact recordProof_consistent secondConsistent secondNow proof
  · intro nodeId
    rw [history_recordProof firstConsistent, history_recordProof secondConsistent, histories]

end

/-! Small primitives to run examples with: a digest repeats the number of input tokens, or the
sum of two digests, and a signature that begins with 1 verifies. -/

def tokensOf (bytes : ByteArray) : Option UInt32 := do
  match ← ofBytesSpaced bytes with
  | .object members => requiredField (fun name => members.lookup name) "input_tokens" decodeU32
  | _ => none

def samplePrims : Primitives Unit where
  scheme := {
    verifyingKey := fun _ => Vector.replicate 32 9
    sign := fun _ _ => Vector.replicate 64 1
    isVerifyingKey := fun _ => true
    verify := fun _ _ signature => signature[0] == 1 }
  sha256 := fun bytes => Vector.replicate 32 (UInt8.ofNat ((tokensOf bytes).getD 0).toNat)
  hashPair := fun left right => Vector.replicate 32 (left[0] + right[0])
  floatText := fun _ => .ofNat 0
  readFloat := id

def sampleProof (inputTokens : UInt32) (signature : List UInt8) : ProofOfInference where
  requestId := ⟨Vector.replicate 16 1⟩
  sessionId := ⟨Vector.replicate 16 2⟩
  nodePeerId := "peer"
  clientAddress := "0xClient"
  modelId := "llama3.1:8b"
  inputTokens := inputTokens
  outputTokens := 200
  latencyMs := 100
  pricePaidNanox := 500
  timestamp := 1700000000
  inputHash := Vector.replicate 32 1
  outputHash := Vector.replicate 32 2
  settlementId := "free"
  escrowTxId := none
  nodePubkey := Vector.replicate 32 9
  signature := signature

theorem id_sample (inputTokens : UInt32) (signature : List UInt8) :
    (sampleProof inputTokens signature).id samplePrims.sha256 =
      Vector.replicate 32 (UInt8.ofNat inputTokens.toNat) := by
  have read : tokensOf (sampleProof inputTokens signature).canonicalBytes = some inputTokens := by
    rw [tokensOf, ProofOfInference.canonicalBytes, ofBytesSpaced_toBytes]
    simp (disch := decide) only [ProofOfInference.signable, Option.bind_eq_bind, Option.bind_some,
      requiredField_tail, requiredField_head]
    exact decodeU32_unsignedJson inputTokens
  simp only [ProofOfInference.id, samplePrims, read, Option.getD_some]

end Pinaivu.Reputation
