import Pinaivu.P2P.WireCore

/-!
The TypeScript client of `sdk/src/p2p/index.ts` beside the node: the request it
broadcasts and the messages that its bid listeners take.
-/

namespace Pinaivu.P2P

open JsonText

/-- `JSON.stringify` writes a number that is not finite as null. -/
inductive JsNumber where
  | finite (token : NumberToken)
  | notFinite
  deriving DecidableEq

def JsNumber.toJson : JsNumber → Json
  | .finite token => .number token
  | .notFinite => .null

structure SdkInferenceRequest where
  requestId : String
  sessionId : String
  modelPreference : String
  contextBlobId : Option String
  promptEncrypted : List JsNumber
  promptNonce : List JsNumber
  maxTokens : JsNumber
  temperature : JsNumber
  escrowTxId : String
  budgetNanox : JsNumber
  timestamp : JsNumber
  clientPeerId : String
  privacyLevel : PrivacyLevel
  deriving DecidableEq

def SdkInferenceRequest.toJson (request : SdkInferenceRequest) : Json := .object
  [("request_id", .string request.requestId),
    ("session_id", .string request.sessionId),
    ("model_preference", .string request.modelPreference),
    ("context_blob_id", optionJson request.contextBlobId),
    ("prompt_encrypted", .array (request.promptEncrypted.map JsNumber.toJson)),
    ("prompt_nonce", .array (request.promptNonce.map JsNumber.toJson)),
    ("max_tokens", request.maxTokens.toJson),
    ("temperature", request.temperature.toJson),
    ("escrow_tx_id", .string request.escrowTxId),
    ("budget_nanox", request.budgetNanox.toJson),
    ("timestamp", request.timestamp.toJson),
    ("client_peer_id", .string request.clientPeerId),
    ("privacy_level", .string request.privacyLevel.name)]

def broadcastRequest (request : SdkInferenceRequest) : List GossipMessage :=
  let payload := toBytes request.toJson
  [⟨"inference/" ++ request.modelPreference, payload⟩, ⟨"inference/any", payload⟩]

def sendBid (bid : InferenceBid) : GossipMessage := ⟨"inference/any", toBytes bid.toJson⟩

def hasMember (name : String) : Json → Bool
  | .object members => name ∈ members.map Prod.fst
  | _ => false

/-- Of two members with one name `JSON.parse` keeps the last. -/
def member? (name : String) : Json → Option Json
  | .object members => members.reverse.lookup name
  | _ => none

/-- `handleMessage` up to the call of the listener: the request id it is registered
for and the parsed bid it is given. -/
def handleMessage (listening : String → Bool) (message : GossipMessage) : Option (String × Json) := do
  let parsed ← ofBytesSpaced message.data
  if message.topic = "node/announce" then none
  else if message.topic = "inference/any" ∨ message.topic.startsWith "inference/" then
    if hasMember "price_per_1k" parsed ∧ hasMember "request_id" parsed then
      let requestId ← (member? "request_id" parsed).bind decodeString
      if listening requestId then some (requestId, parsed) else none
    else none
  else none

section

variable (request : SdkInferenceRequest)

def sdkMembers : List String :=
  ["request_id", "session_id", "model_preference", "context_blob_id", "prompt_encrypted",
    "prompt_nonce", "max_tokens", "temperature", "escrow_tx_id", "budget_nanox", "timestamp",
    "client_peer_id", "privacy_level"]

theorem toJson_members :
    ∃ members, request.toJson = .object members ∧ members.map Prod.fst = sdkMembers := by
  exact ⟨_, rfl, rfl⟩

theorem decodeChunk_sdk : decodeChunk request.toJson = none := by
  obtain ⟨members, written, names⟩ := toJson_members request
  have once : (members.map Prod.fst).Nodup := names ▸ by decide
  have missing : "response_id" ∉ members.map Prod.fst := names ▸ by decide
  rw [written]
  exact decodeChunk_missing once missing

theorem decodeRequest_sdk (readSingle : Decimal → Option Decimal) :
    decodeRequest readSingle request.toJson = none := by
  obtain ⟨members, written, names⟩ := toJson_members request
  have once : (members.map Prod.fst).Nodup := names ▸ by decide
  have missing : "accepted_settlements" ∉ members.map Prod.fst := names ▸ by decide
  rw [decodeRequest, written, structFields_object 3 once, Option.bind_eq_bind, Option.bind_some]
  iterate 13 refine Option.bind_eq_none_iff.mpr fun _ _ => ?_
  rw [requiredField_missing _ missing]
  rfl

theorem decodeBid_sdk (readDouble : Decimal → Option Decimal) :
    decodeBid readDouble request.toJson = none := by
  obtain ⟨members, written, names⟩ := toJson_members request
  have once : (members.map Prod.fst).Nodup := names ▸ by decide
  have missing : "node_peer_id" ∉ members.map Prod.fst := names ▸ by decide
  rw [decodeBid, written, structFields_object 0 once, Option.bind_eq_bind, Option.bind_some]
  iterate 1 refine Option.bind_eq_none_iff.mpr fun _ _ => ?_
  rw [requiredField_missing _ missing]
  rfl

theorem dispatch_sdk (floats : FloatReader) (responseTopics : String → Option String) (topic : String) :
    dispatchGossipsubMessage floats responseTopics ⟨topic, toBytes request.toJson⟩ = none := by
  have chunk : fromSlice decodeChunk (toBytes request.toJson) = none := by
    rw [fromSlice_toBytes, decodeChunk_sdk]
  have whole : fromSlice (decodeRequest floats.single) (toBytes request.toJson) = none := by
    rw [fromSlice_toBytes, decodeRequest_sdk]
  have bid : fromSlice (decodeBid floats.double) (toBytes request.toJson) = none := by
    rw [fromSlice_toBytes, decodeBid_sdk]
  unfold dispatchGossipsubMessage
  split
  · rw [chunk, Option.map_none]
  · split
    · rw [chunk, whole, bid]
      rfl
    · rw [chunk, whole, bid]
      rfl
    · rfl

end

theorem handleMessage_sendBid (listening : String → Bool) (bid : InferenceBid) :
    handleMessage listening (sendBid bid) = none := by
  have missing : hasMember "price_per_1k" bid.toJson = false := by
    simp [hasMember, InferenceBid.toJson]
  simp [handleMessage, sendBid, ofBytesSpaced_toBytes, missing]

/-- No request of the SDK reaches a node and no bid of a node reaches the SDK. -/
theorem sdk_traffic_dropped (floats : FloatReader) (request : SdkInferenceRequest)
    (responseTopics : String → Option String) (bid : InferenceBid) (listening : String → Bool) :
    (∀ message ∈ broadcastRequest request, dispatchGossipsubMessage floats responseTopics message = none) ∧
      handleMessage listening (sendBid bid) = none := by
  constructor
  · intro message sent
    simp only [broadcastRequest, List.mem_cons, List.not_mem_nil, or_false] at sent
    rcases sent with rfl | rfl <;> exact dispatch_sdk request floats responseTopics _
  · exact handleMessage_sendBid listening bid

def sampleRequest : SdkInferenceRequest where
  requestId := "9b2c1a54-0c1d-4b5e-8f3a-2d6e7f809112"
  sessionId := "1f0e9d8c-7b6a-4594-8372-615041302010"
  modelPreference := "llama3.1:8b"
  contextBlobId := none
  promptEncrypted := [.finite (.ofNat 17), .finite (.ofNat 204)]
  promptNonce := List.replicate 12 (.finite (.ofNat 5))
  maxTokens := .finite (.ofNat 512)
  temperature := .finite (.ofNat 1)
  escrowTxId := ""
  budgetNanox := .finite (.ofNat 0)
  timestamp := .finite (.ofNat 1700000000)
  clientPeerId := ""
  privacyLevel := .standard

def sampleBid : InferenceBid where
  requestId := ⟨Vector.replicate 16 7⟩
  nodePeerId := "12D3KooWnode"
  estimatedLatencyMs := 200
  currentLoadPct := 10
  modelId := "llama3.1:8b"
  maxContextLen := 8192
  hasTee := false
  reputation := ⟨.ofNat 1, 3, .ofNat 1, .ofNat 150, 3, 1700000000, Vector.replicate 32 0⟩
  acceptedSettlements := [⟨"free", 0, "native"⟩]

theorem sdk_sample_dropped :
    (∀ floats responseTopics received, ∀ message ∈ broadcastRequest sampleRequest,
      dispatchGossipsubMessage floats responseTopics message ≠ some (.inferenceRequestReceived received)) ∧
    ∀ delivered, handleMessage (fun _ => true) (sendBid sampleBid) ≠
      some (sampleBid.requestId.toText, delivered) := by
  constructor
  · intro floats responseTopics received message sent
    simp only [broadcastRequest, List.mem_cons, List.not_mem_nil, or_false] at sent
    rcases sent with rfl | rfl <;> simp [dispatch_sdk]
  · intro delivered
    simp [handleMessage_sendBid]

end Pinaivu.P2P
