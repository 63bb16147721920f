import Mathlib.Logic.Function.Basic
import Pinaivu.Lib.JsonPretty
import Pinaivu.Lib.KeyedList
import Pinaivu.P2P.Payloads
import Pinaivu.Reputation.MerkleCore

/-!
`crates/reputation/src/local.rs`: the proofs of each node beside the tree, the index and the
score that are kept of them, the file they are flushed to and the store that is rebuilt from
it. A path is always the same file, so the disk is its contents.
-/

namespace Pinaivu.Reputation

open JsonText Merkle P2P

abbrev Digest := Vector UInt8 32

/-- The signature scheme, SHA-256 of bytes and of two digests, the text of a finite float, and
what the reader of a file makes of that text. -/
structure Primitives (SigningKey : Type) where
  scheme : Ed25519 SigningKey
  sha256 : ByteArray → Digest
  hashPair : Digest → Digest → Digest
  floatText : Float → Decimal
  readFloat : Decimal → Decimal

structure PerNodeData where
  proofs : List ProofOfInference
  score : ReputationScore

structure NodeState where
  data : PerNodeData
  tree : MerkleTree Digest
  index : String → Option Nat

structure NodeEntry where
  peerId : NodePeerId
  state : NodeState

structure LocalReputationStore where
  localPeerId : NodePeerId
  hasFile : Bool
  state : List NodeEntry
  unique : (state.map NodeEntry.peerId).Nodup

def hexEncode (digest : Digest) : String := String.ofList (Hex.encode digest.toList)

def zeroDigest : Digest := Vector.replicate 32 0

section

variable {SigningKey : Type} (prims : Primitives SigningKey)

def defaultScore : ReputationScore where
  value := prims.floatText 0
  totalJobs := 0
  successRate := prims.floatText 0
  avgLatencyMs := prims.floatText 0
  verifiedProofs := 0
  lastUpdated := 0
  merkleRoot := zeroDigest

def addLeaf (built : MerkleTree Digest × (String → Option Nat)) (entry : ProofOfInference × Nat) :
    MerkleTree Digest × (String → Option Nat) :=
  let id := entry.1.id prims.sha256
  (built.1.insert id, Function.update built.2 (hexEncode id) (some entry.2))

def NodeState.fromProofs (proofs : List ProofOfInference) (score : ReputationScore) : NodeState :=
  let built := proofs.zipIdx.foldl (addLeaf prims) (MerkleTree.new, fun _ => none)
  ⟨⟨proofs, score⟩, built.1, built.2⟩

def computeScore (proofs : List ProofOfInference) (merkleRoot : Digest) (now : UInt64) :
    ReputationScore :=
  if proofs.isEmpty then defaultScore prims
  else
    let totalJobs := UInt64.ofNat proofs.length
    let verified := UInt64.ofNat (proofs.countP (·.verify prims.scheme))
    let successRate := verified.toFloat / totalJobs.toFloat
    let avgLatency :=
      (proofs.foldl (fun sum proof => sum + proof.latencyMs.toFloat) 0.0) / totalJobs.toFloat
    let latencyScore := max (1.0 - min (avgLatency / 5000.0) 1.0) 0.0
    { value := prims.floatText (0.6 * successRate + 0.4 * latencyScore)
      totalJobs := totalJobs
      successRate := prims.floatText successRate
      avgLatencyMs := prims.floatText avgLatency
      verifiedProofs := verified
      lastUpdated := now
      merkleRoot := merkleRoot }

end

namespace LocalReputationStore

def get (store : LocalReputationStore) (nodeId : NodePeerId) : Option NodeState :=
  (KeyedList.find NodeEntry.peerId nodeId store.state).map NodeEntry.state

def put (store : LocalReputationStore) (nodeId : NodePeerId) (state : NodeState) :
    LocalReputationStore :=
  { store with
    state := KeyedList.upsert NodeEntry.peerId ⟨nodeId, state⟩ store.state
    unique := KeyedList.upsert_nodup _ store.unique }

def inMemory (localPeerId : NodePeerId) : LocalReputationStore := ⟨localPeerId, false, [], List.nodup_nil⟩

variable {SigningKey : Type} (prims : Primitives SigningKey)

/-- The store after the call, and whether the proof was new, so that a flush follows. -/
def recordProof (store : LocalReputationStore) (now : UInt64) (proof : ProofOfInference) :
    LocalReputationStore × Bool :=
  let nodeId := proof.nodePeerId
  let state := (store.get nodeId).getD (.fromProofs prims [] (defaultScore prims))
  let id := proof.id prims.sha256
  if (state.index (hexEncode id)).isSome then (store.put nodeId state, false)
  else
    let leafIndex := state.tree.leaves.length
    let tree := state.tree.insert id
    let proofs := state.data.proofs ++ [proof]
    let score := computeScore prims proofs (tree.root prims.hashPair zeroDigest) now
    let index := Function.update state.index (hexEncode id) (some leafIndex)
    (store.put nodeId ⟨⟨proofs, score⟩, tree, index⟩, true)

def getScore (store : LocalReputationStore) (nodeId : NodePeerId) : ReputationScore :=
  ((store.get nodeId).map (·.data.score)).getD (defaultScore prims)

def merkleRoot (store : LocalReputationStore) : Digest :=
  ((store.get store.localPeerId).map (·.tree.root prims.hashPair zeroDigest)).getD zeroDigest

def merkleProof (store : LocalReputationStore) (proofId : Digest) :
    Except Panic (Option (List (MerklePathStep Digest))) :=
  match store.get store.localPeerId with
  | none => .ok none
  | some state =>
      match state.index (hexEncode proofId) with
      | none => .ok none
      | some leafIndex => state.tree.proof prims.hashPair leafIndex

def allProofs (store : LocalReputationStore) : List ProofOfInference :=
  ((store.get store.localPeerId).map (·.data.proofs)).getD []

end LocalReputationStore

def proofJson (proof : ProofOfInference) : Json := .object
  [("request_id", uuidJson proof.requestId),
    ("session_id", uuidJson proof.sessionId),
    ("node_peer_id", .string proof.nodePeerId),
    ("client_address", .string proof.clientAddress),
    ("model_id", .string proof.modelId),
    ("input_tokens", unsignedJson proof.inputTokens.toNat),
    ("output_tokens", unsignedJson proof.outputTokens.toNat),
    ("latency_ms", unsignedJson proof.latencyMs.toNat),
    ("price_paid_nanox", unsignedJson proof.pricePaidNanox.toNat),
    ("timestamp", unsignedJson proof.timestamp.toNat),
    ("input_hash", bytesJson proof.inputHash),
    ("output_hash", bytesJson proof.outputHash),
    ("settlement_id", .string proof.settlementId),
    ("escrow_tx_id", optionJson proof.escrowTxId),
    ("node_pubkey", bytesJson proof.nodePubkey),
    ("signature", .array (proof.signature.map fun byte => unsignedJson byte.toNat))]

def PerNodeData.toJson (data : PerNodeData) : Json := .object
  [("proofs", .array (data.proofs.map proofJson)), ("score", data.score.toJson)]

def storeFileJson (nodes : List NodeEntry) : Json := .object
  [("nodes", .object (nodes.map fun entry => (entry.peerId, entry.state.data.toJson)))]

def decodeProof (value : Json) : Option ProofOfInference := do
  let fields ← structFields
    ["request_id", "session_id", "node_peer_id", "client_address", "model_id", "input_tokens",
      "output_tokens", "latency_ms", "price_paid_nanox", "timestamp", "input_hash", "output_hash",
      "settlement_id", "escrow_tx_id", "node_pubkey", "signature"] 0 value
  return {
    requestId := ← requiredField fields "request_id" decodeUuid
    sessionId := ← requiredField fields "session_id" decodeUuid
    nodePeerId := ← requiredField fields "node_peer_id" decodeString
    clientAddress := ← requiredField fields "client_address" decodeString
    modelId := ← requiredField fields "model_id" decodeString
    inputTokens := ← requiredField fields "input_tokens" decodeU32
    outputTokens := ← requiredField fields "output_tokens" decodeU32
    latencyMs := ← requiredField fields "latency_ms" decodeU32
    pricePaidNanox := ← requiredField fields "price_paid_nanox" decodeU64
    timestamp := ← requiredField fields "timestamp" decodeU64
    inputHash := ← requiredField fields "input_hash" decodeHash
    outputHash := ← requiredField fields "output_hash" decodeHash
    settlementId := ← requiredField fields "settlement_id" decodeString
    escrowTxId := ← optionalField fields "escrow_tx_id" decodeString
    nodePubkey := ← requiredField fields "node_pubkey" decodeHash
    signature := ← requiredField fields "signature" (decodeList decodeU8) }

def decodeNodeData (value : Json) : Option PerNodeData := do
  let fields ← structFields ["proofs", "score"] 0 value
  return {
    proofs := ← requiredField fields "proofs" (decodeList decodeProof)
    score := ← requiredField fields "score" (decodeReputation some) }

def decodeStoreFile (value : Json) : Option (List (NodePeerId × PerNodeData)) := do
  let fields ← structFields ["nodes"] 0 value
  requiredField fields "nodes" (decodeEntries decodeNodeData)

section

variable {SigningKey : Type} (prims : Primitives SigningKey)

def readScore (score : ReputationScore) : ReputationScore :=
  { score with
    value := prims.readFloat score.value
    successRate := prims.readFloat score.successRate
    avgLatencyMs := prims.readFloat score.avgLatencyMs }

def LocalReputationStore.flush (store : LocalReputationStore) : ByteArray :=
  toBytesPretty (storeFileJson store.state)

/-- A file that does not parse is taken for an empty one. -/
def LocalReputationStore.fromFile (localPeerId : NodePeerId) (disk : Option ByteArray) :
    LocalReputationStore :=
  let nodes := ((disk.bind ofBytesSpaced).bind decodeStoreFile).getD []
  nodes.foldl (fun store node =>
      store.put node.1 (.fromProofs prims node.2.proofs (readScore prims node.2.score)))
    ⟨localPeerId, true, [], List.nodup_nil⟩

end

end Pinaivu.Reputation
