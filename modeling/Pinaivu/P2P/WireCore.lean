import Pinaivu.Common.SerdeJson
import Pinaivu.Lib.JsonPretty

/-!
The messages of the inference topics, as serde derives their JSON, and the dispatch of
a gossip message in `crates/p2p/src/service.rs`. A float is the text that serde_json writes
for it; what it reads from a text is a parameter. Only the events of inference traffic are
modelled.
-/

namespace Pinaivu.P2P

open JsonText

abbrev Decimal := NumberToken

/-- What serde_json makes of the text of an `f64` and of an `f32`: a float, which need not be
the one whose text it is, or nothing when the text is out of range. -/
structure FloatReader where
  double : Decimal → Option Decimal
  single : Decimal → Option Decimal

inductive PrivacyLevel where
  | standard
  | «private»
  | fragmented
  | maximum
  deriving DecidableEq, Repr

def PrivacyLevel.name : PrivacyLevel → String
  | .standard => "standard"
  | .«private» => "private"
  | .fragmented => "fragmented"
  | .maximum => "maximum"

structure InferenceRequest where
  requestId : RequestId
  sessionId : SessionId
  modelPreference : String
  contextBlobId : Option String
  promptEncrypted : List UInt8
  promptNonce : List UInt8
  maxTokens : UInt32
  temperature : Decimal
  escrowTxId : String
  budgetNanox : NanoX
  timestamp : UInt64
  clientPeerId : NodePeerId
  privacyLevel : PrivacyLevel
  acceptedSettlements : List String
  targetPeerId : Option String
  responseTopic : Option String
  promptPlain : Option String
  deriving DecidableEq

structure P2PInferenceChunk where
  requestId : RequestId
  responseId : String
  token : String
  isFinal : Bool
  error : Option String
  deriving DecidableEq

structure ReputationScore where
  value : Decimal
  totalJobs : UInt64
  successRate : Decimal
  avgLatencyMs : Decimal
  verifiedProofs : UInt64
  lastUpdated : UInt64
  merkleRoot : Vector UInt8 32
  deriving DecidableEq

structure SettlementOffer where
  settlementId : String
  pricePer1k : NanoX
  tokenId : String
  deriving DecidableEq

structure InferenceBid where
  requestId : RequestId
  nodePeerId : NodePeerId
  estimatedLatencyMs : UInt32
  currentLoadPct : UInt8
  modelId : String
  maxContextLen : UInt32
  hasTee : Bool
  reputation : ReputationScore
  acceptedSettlements : List SettlementOffer
  deriving DecidableEq

def P2PInferenceChunk.toJson (chunk : P2PInferenceChunk) : Json := .object
  [("request_id", uuidJson chunk.requestId),
    ("response_id", .string chunk.responseId),
    ("token", .string chunk.token),
    ("is_final", .bool chunk.isFinal),
    ("error", optionJson chunk.error)]

def ReputationScore.toJson (score : ReputationScore) : Json := .object
  [("value", .number score.value),
    ("total_jobs", unsignedJson score.totalJobs.toNat),
    ("success_rate", .number score.successRate),
    ("avg_latency_ms", .number score.avgLatencyMs),
    ("verified_proofs", unsignedJson score.verifiedProofs.toNat),
    ("last_updated", unsignedJson score.lastUpdated.toNat),
    ("merkle_root", bytesJson score.merkleRoot)]

def SettlementOffer.toJson (offer : SettlementOffer) : Json := .object
  [("settlement_id", .string offer.settlementId),
    ("price_per_1k", unsignedJson offer.pricePer1k.toNat),
    ("token_id", .string offer.tokenId)]

def InferenceBid.toJson (bid : InferenceBid) : Json := .object
  [("request_id", uuidJson bid.requestId),
    ("node_peer_id", .string bid.nodePeerId),
    ("estimated_latency_ms", unsignedJson bid.estimatedLatencyMs.toNat),
    ("current_load_pct", unsignedJson bid.currentLoadPct.toNat),
    ("model_id", .string bid.modelId),
    ("max_context_len", unsignedJson bid.maxContextLen.toNat),
    ("has_tee", .bool bid.hasTee),
    ("reputation", bid.reputation.toJson),
    ("accepted_settlements", .array (bid.acceptedSettlements.map SettlementOffer.toJson))]

def decodeFloat (readFloat : Decimal → Option Decimal) (value : Json) : Option Decimal :=
  (decodeNumber value).bind readFloat

def decodeHash (value : Json) : Option (Vector UInt8 32) := do
  let bytes ← decodeList decodeU8 value
  if sized : bytes.length = 32 then some ⟨bytes.toArray, sized⟩ else none

/-- A unit variant is its name, or an object of the name and null. -/
def decodePrivacyLevel (value : Json) : Option PrivacyLevel := do
  let name ← match value with
    | .string name => some name
    | .object [(name, .null)] => some name
    | _ => none
  [.standard, .«private», .fragmented, .maximum].find? fun level => level.name = name

def decodeChunk (value : Json) : Option P2PInferenceChunk := do
  let fields ← structFields ["request_id", "response_id", "token", "is_final", "error"] 1 value
  return {
    requestId := ← requiredField fields "request_id" decodeUuid
    responseId := ← requiredField fields "response_id" decodeString
    token := ← requiredField fields "token" decodeString
    isFinal := ← requiredField fields "is_final" decodeBool
    error := ← optionalField fields "error" decodeString }

def decodeRequest (readSingle : Decimal → Option Decimal) (value : Json) : Option InferenceRequest := do
  let fields ← structFields
    ["request_id", "session_id", "model_preference", "context_blob_id", "prompt_encrypted",
      "prompt_nonce", "max_tokens", "temperature", "escrow_tx_id", "budget_nanox", "timestamp",
      "client_peer_id", "privacy_level", "accepted_settlements", "target_peer_id", "response_topic",
      "prompt_plain"] 3 value
  return {
    requestId := ← requiredField fields "request_id" decodeUuid
    sessionId := ← requiredField fields "session_id" decodeUuid
    modelPreference := ← requiredField fields "model_preference" decodeString
    contextBlobId := ← optionalField fields "context_blob_id" decodeString
    promptEncrypted := ← requiredField fields "prompt_encrypted" (decodeList decodeU8)
    promptNonce := ← requiredField fields "prompt_nonce" (decodeList decodeU8)
    maxTokens := ← requiredField fields "max_tokens" decodeU32
    temperature := ← requiredField fields "temperature" (decodeFloat readSingle)
    escrowTxId := ← requiredField fields "escrow_tx_id" decodeString
    budgetNanox := ← requiredField fields "budget_nanox" decodeU64
    timestamp := ← requiredField fields "timestamp" decodeU64
    clientPeerId := ← requiredField fields "client_peer_id" decodeString
    privacyLevel := ← requiredField fields "privacy_level" decodePrivacyLevel
    acceptedSettlements := ← requiredField fields "accepted_settlements" (decodeList decodeString)
    targetPeerId := ← optionalField fields "target_peer_id" decodeString
    responseTopic := ← optionalField fields "response_topic" decodeString
    promptPlain := ← optionalField fields "prompt_plain" decodeString }

def decodeReputation (readDouble : Decimal → Option Decimal) (value : Json) : Option ReputationScore := do
  let fields ← structFields
    ["value", "total_jobs", "success_rate", "avg_latency_ms", "verified_proofs", "last_updated",
      "merkle_root"] 0 value
  return {
    value := ← requiredField fields "value" (decodeFloat readDouble)
    totalJobs := ← requiredField fields "total_jobs" decodeU64
    successRate := ← requiredField fields "success_rate" (decodeFloat readDouble)
    avgLatencyMs := ← requiredField fields "avg_latency_ms" (decodeFloat readDouble)
    verifiedProofs := ← requiredField fields "verified_proofs" decodeU64
    lastUpdated := ← requiredField fields "last_updated" decodeU64
    merkleRoot := ← requiredField fields "merkle_root" decodeHash }

def decodeOffer (value : Json) : Option SettlementOffer := do
  let fields ← structFields ["settlement_id", "price_per_1k", "token_id"] 0 value
  return {
    settlementId := ← requiredField fields "settlement_id" decodeString
    pricePer1k := ← requiredField fields "price_per_1k" decodeU64
    tokenId := ← requiredField fields "token_id" decodeString }

def decodeBid (readDouble : Decimal → Option Decimal) (value : Json) : Option InferenceBid := do
  let fields ← structFields
    ["request_id", "node_peer_id", "estimated_latency_ms", "current_load_pct", "model_id",
      "max_context_len", "has_tee", "reputation", "accepted_settlements"] 0 value
  return {
    requestId := ← requiredField fields "request_id" decodeUuid
    nodePeerId := ← requiredField fields "node_peer_id" decodeString
    estimatedLatencyMs := ← requiredField fields "estimated_latency_ms" decodeU32
    currentLoadPct := ← requiredField fields "current_load_pct" decodeU8
    modelId := ← requiredField fields "model_id" decodeString
    maxContextLen := ← requiredField fields "max_context_len" decodeU32
    hasTee := ← requiredField fields "has_tee" decodeBool
    reputation := ← requiredField fields "reputation" (decodeReputation readDouble)
    acceptedSettlements := ← requiredField fields "accepted_settlements" (decodeList decodeOffer) }

inductive KnownTopic where
  | nodeAnnounce
  | nodeHealth
  | reputation
  | inferenceAny
  | inferenceModel (model : String)
  | inferenceResponse (responseId : String)
  | unknown (hash : String)
  deriving DecidableEq

/-- The hash of an identity topic is its name. -/
def KnownTopic.fromHash (hash : String) : KnownTopic :=
  if hash = "node/announce" then .nodeAnnounce
  else if hash = "node/health" then .nodeHealth
  else if hash = "reputation/update" then .reputation
  else if hash = "inference/any" then .inferenceAny
  else .unknown hash

structure GossipMessage where
  topic : String
  data : ByteArray

inductive P2PEvent where
  | inferenceRequestReceived (request : InferenceRequest)
  | bidReceived (bid : InferenceBid)
  | inferenceChunkReceived (responseId : String) (chunk : P2PInferenceChunk)

def fromSlice {Value : Type} (decode : Json → Option Value) (data : ByteArray) : Option Value :=
  (ofBytesSpaced data).bind decode

def dispatchGossipsubMessage (floats : FloatReader) (responseTopics : String → Option String)
    (message : GossipMessage) : Option P2PEvent :=
  match responseTopics message.topic with
  | some responseId => (fromSlice decodeChunk message.data).map (.inferenceChunkReceived responseId)
  | none =>
      match KnownTopic.fromHash message.topic with
      | .inferenceAny | .inferenceModel _ =>
          match fromSlice decodeChunk message.data with
          | some chunk => some (.inferenceChunkReceived chunk.responseId chunk)
          | none =>
              match fromSlice (decodeRequest floats.single) message.data with
              | some request => some (.inferenceRequestReceived request)
              | none => (fromSlice (decodeBid floats.double) message.data).map .bidReceived
      | _ => none

theorem fromSlice_toBytes {Value : Type} (decode : Json → Option Value) (value : Json) :
    fromSlice decode (toBytes value) = decode value := by
  rw [fromSlice, ofBytesSpaced_toBytes, Option.bind_some]

theorem decodeChunk_toJson (chunk : P2PInferenceChunk) : decodeChunk chunk.toJson = some chunk := by
  have once : ([("request_id", uuidJson chunk.requestId), ("response_id", .string chunk.responseId),
      ("token", .string chunk.token), ("is_final", .bool chunk.isFinal),
      ("error", optionJson chunk.error)].map Prod.fst).Nodup := by
    simp
  rw [decodeChunk, P2PInferenceChunk.toJson, structFields_object 1 once, Option.bind_eq_bind, Option.bind_some]
  simp (disch := decide) only [requiredField_head, requiredField_tail, optionalField_head, optionalField_tail,
    decodeUuid_uuidJson, decodeOption_optionJson, decodeString, decodeBool]
  rfl

/-- The dispatcher's first attempt fails on every object without a response id. -/
theorem decodeChunk_missing {members : List (String × Json)} (once : (members.map Prod.fst).Nodup)
    (missing : "response_id" ∉ members.map Prod.fst) : decodeChunk (.object members) = none := by
  rw [decodeChunk, structFields_object 1 once, Option.bind_eq_bind, Option.bind_some]
  refine Option.bind_eq_none_iff.mpr fun _ _ => ?_
  rw [requiredField_missing _ missing]
  rfl

end Pinaivu.P2P
