import Pinaivu.P2P.GossipDelivery

/-!
The three kinds of payload on the topic `inference/any`. The dispatcher tries one decoder
after another on the same bytes; the encoding of a message is read by the decoder of its own
kind and refused by those tried before it.
-/

namespace Pinaivu.P2P

open JsonText

def InferenceRequest.toJson (request : InferenceRequest) : Json := .object
  [("request_id", uuidJson request.requestId),
    ("session_id", uuidJson request.sessionId),
    ("model_preference", .string request.modelPreference),
    ("context_blob_id", optionJson request.contextBlobId),
    ("prompt_encrypted", .array (request.promptEncrypted.map fun byte => unsignedJson byte.toNat)),
    ("prompt_nonce", .array (request.promptNonce.map fun byte => unsignedJson byte.toNat)),
    ("max_tokens", unsignedJson request.maxTokens.toNat),
    ("temperature", .number request.temperature),
    ("escrow_tx_id", .string request.escrowTxId),
    ("budget_nanox", unsignedJson request.budgetNanox.toNat),
    ("timestamp", unsignedJson request.timestamp.toNat),
    ("client_peer_id", .string request.clientPeerId),
    ("privacy_level", .string request.privacyLevel.name),
    ("accepted_settlements", .array (request.acceptedSettlements.map .string)),
    ("target_peer_id", optionJson request.targetPeerId),
    ("response_topic", optionJson request.responseTopic),
    ("prompt_plain", optionJson request.promptPlain)]

inductive InferencePayload where
  | chunk (chunk : P2PInferenceChunk)
  | request (request : InferenceRequest)
  | bid (bid : InferenceBid)
  deriving DecidableEq

def InferencePayload.toJson : InferencePayload → Json
  | .chunk sent => sent.toJson
  | .request sent => sent.toJson
  | .bid sent => sent.toJson

def InferencePayload.message (payload : InferencePayload) : GossipMessage :=
  ⟨"inference/any", toBytes payload.toJson⟩

def InferencePayload.event : InferencePayload → P2PEvent
  | .chunk sent => .inferenceChunkReceived sent.responseId sent
  | .request sent => .inferenceRequestReceived sent
  | .bid sent => .bidReceived sent

section

variable (readFloat : Decimal → Option Decimal)

def ReputationScore.reread (score : ReputationScore) : Option ReputationScore := do
  return { score with
    value := ← readFloat score.value
    successRate := ← readFloat score.successRate
    avgLatencyMs := ← readFloat score.avgLatencyMs }

def InferenceBid.reread (bid : InferenceBid) : Option InferenceBid :=
  (bid.reputation.reread readFloat).map fun reputation => { bid with reputation }

def InferenceRequest.reread (request : InferenceRequest) : Option InferenceRequest :=
  (readFloat request.temperature).map fun temperature => { request with temperature }

end

/-- What a reader gets of a payload: all of it but the floats is read as it was written. -/
def InferencePayload.reread (floats : FloatReader) : InferencePayload → Option InferencePayload
  | .chunk sent => some (.chunk sent)
  | .request sent => (sent.reread floats.single).map .request
  | .bid sent => (sent.reread floats.double).map .bid

theorem decodeHash_bytesJson (hash : Vector UInt8 32) : decodeHash (bytesJson hash) = some hash := by
  have sized : hash.toList.length = 32 := hash.size_toArray
  simp only [decodeHash, bytesJson, decodeList_map decodeU8_unsignedJson, Option.bind_eq_bind,
    Option.bind_some, dif_pos sized]
  exact congrArg some (vector_of_list rfl sized)

theorem decodePrivacyLevel_name (level : PrivacyLevel) :
    decodePrivacyLevel (.string level.name) = some level := by
  cases level <;> decide

theorem decodeFloat_number (readFloat : Decimal → Option Decimal) (float : Decimal) :
    decodeFloat readFloat (.number float) = readFloat float := rfl

theorem decodeReputation_toJson (readDouble : Decimal → Option Decimal) (score : ReputationScore) :
    decodeReputation readDouble score.toJson = score.reread readDouble := by
  rw [decodeReputation, ReputationScore.toJson, structFields_object 0 (by simp), Option.bind_eq_bind,
    Option.bind_some]
  simp (disch := decide) only [requiredField_head, requiredField_tail, decodeFloat_number,
    decodeU64_unsignedJson, decodeHash_bytesJson]
  rfl

theorem decodeOffer_toJson (offer : SettlementOffer) : decodeOffer offer.toJson = some offer := by
  rw [decodeOffer, SettlementOffer.toJson, structFields_object 0 (by simp), Option.bind_eq_bind,
    Option.bind_some]
  simp (disch := decide) only [requiredField_head, requiredField_tail, decodeString,
    decodeU64_unsignedJson]
  rfl

theorem decodeBid_toJson (readDouble : Decimal → Option Decimal) (bid : InferenceBid) :
    decodeBid readDouble bid.toJson = bid.reread readDouble := by
  rw [decodeBid, InferenceBid.toJson, structFields_object 0 (by simp), Option.bind_eq_bind,
    Option.bind_some]
  simp (disch := decide) only [requiredField_head, requiredField_tail, decodeUuid_uuidJson,
    decodeString, decodeU32_unsignedJson, decodeU8_unsignedJson, decodeBool, decodeReputation_toJson,
    decodeList_map decodeOffer_toJson]
  rw [InferenceBid.reread, Option.map_eq_bind]
  rfl

theorem decodeRequest_toJson (readSingle : Decimal → Option Decimal) (request : InferenceRequest) :
    decodeRequest readSingle request.toJson = request.reread readSingle := by
  have texts : ∀ text, decodeString (.string text) = some text := fun _ => rfl
  rw [decodeRequest, InferenceRequest.toJson, structFields_object 3 (by simp), Option.bind_eq_bind,
    Option.bind_some]
  simp (disch := decide) only [requiredField_head, requiredField_tail, optionalField_head,
    optionalField_tail, decodeUuid_uuidJson, texts, decodeFloat_number, decodeU32_unsignedJson,
    decodeU64_unsignedJson, decodePrivacyLevel_name, decodeOption_optionJson,
    decodeList_map decodeU8_unsignedJson, decodeList_map texts]
  rw [InferenceRequest.reread, Option.map_eq_bind]
  rfl

theorem decodeChunk_request (request : InferenceRequest) : decodeChunk request.toJson = none := by
  rw [InferenceRequest.toJson]
  exact decodeChunk_missing (by simp) (by simp)

theorem decodeChunk_bid (bid : InferenceBid) : decodeChunk bid.toJson = none := by
  rw [InferenceBid.toJson]
  exact decodeChunk_missing (by simp) (by simp)

theorem decodeRequest_bid (readSingle : Decimal → Option Decimal) (bid : InferenceBid) :
    decodeRequest readSingle bid.toJson = none := by
  rw [decodeRequest, InferenceBid.toJson, structFields_object 3 (by simp), Option.bind_eq_bind,
    Option.bind_some]
  refine Option.bind_eq_none_iff.mpr fun _ _ => ?_
  rw [requiredField_missing _ (by simp)]
  rfl

theorem decodeBid_request (readDouble : Decimal → Option Decimal) (request : InferenceRequest) :
    decodeBid readDouble request.toJson = none := by
  rw [decodeBid, InferenceRequest.toJson, structFields_object 0 (by simp), Option.bind_eq_bind,
    Option.bind_some]
  refine Option.bind_eq_none_iff.mpr fun _ _ => ?_
  rw [requiredField_missing _ (by simp)]
  rfl

/-- Every payload is taken for what it is, with its floats as the reader gives them, whatever
response topics the node waits on. -/
theorem dispatch_reread (floats : FloatReader) (subscribed : List String) (payload : InferencePayload) :
    dispatchGossipsubMessage floats (responseTopics subscribed) payload.message =
      (payload.reread floats).map InferencePayload.event := by
  have known : KnownTopic.fromHash "inference/any" = .inferenceAny := by
    decide
  rw [dispatchGossipsubMessage, InferencePayload.message]
  simp only [responseTopics_any, known, fromSlice_toBytes]
  cases payload with
  | chunk sent =>
      simp only [InferencePayload.toJson, decodeChunk_toJson, InferencePayload.reread, Option.map_some,
        InferencePayload.event]
  | request sent =>
      simp only [InferencePayload.toJson, decodeChunk_request, decodeRequest_toJson, InferencePayload.reread]
      cases sent.reread floats.single with
      | none => simp only [decodeBid_request, Option.map_none]
      | some read => rfl
  | bid sent =>
      simp only [InferencePayload.toJson, decodeChunk_bid, decodeRequest_bid, decodeBid_toJson,
        InferencePayload.reread, Option.map_map]
      rfl

def InferencePayload.FloatsKept (floats : FloatReader) : InferencePayload → Prop
  | .chunk _ => True
  | .request sent => floats.single sent.temperature = some sent.temperature
  | .bid sent =>
      floats.double sent.reputation.value = some sent.reputation.value ∧
        floats.double sent.reputation.successRate = some sent.reputation.successRate ∧
        floats.double sent.reputation.avgLatencyMs = some sent.reputation.avgLatencyMs

theorem ReputationScore.reread_eq_self_iff (readFloat : Decimal → Option Decimal) (score : ReputationScore) :
    score.reread readFloat = some score ↔
      readFloat score.value = some score.value ∧ readFloat score.successRate = some score.successRate ∧
        readFloat score.avgLatencyMs = some score.avgLatencyMs := by
  obtain ⟨value, totalJobs, successRate, avgLatencyMs, verifiedProofs, lastUpdated, merkleRoot⟩ := score
  simp [ReputationScore.reread, Option.bind_eq_some_iff]

theorem InferencePayload.reread_eq_self_iff (floats : FloatReader) (payload : InferencePayload) :
    payload.reread floats = some payload ↔ payload.FloatsKept floats := by
  cases payload with
  | chunk sent => simp [InferencePayload.reread, FloatsKept]
  | request sent =>
      obtain ⟨⟩ := sent
      simp [InferencePayload.reread, InferenceRequest.reread, FloatsKept]
  | bid sent =>
      obtain ⟨⟩ := sent
      simp [InferencePayload.reread, InferenceBid.reread, FloatsKept, ReputationScore.reread_eq_self_iff]

theorem InferencePayload.event_injective : Function.Injective InferencePayload.event := by
  intro first second same
  cases first <;> cases second <;> simp_all [InferencePayload.event]

/-- A payload arrives as it was sent exactly when its floats are read back as they were written. -/
theorem dispatch_payload_iff (floats : FloatReader) (subscribed : List String) (payload : InferencePayload) :
    dispatchGossipsubMessage floats (responseTopics subscribed) payload.message = some payload.event ↔
      payload.FloatsKept floats := by
  rw [dispatch_reread, ← InferencePayload.reread_eq_self_iff, ← Option.map_some,
    (Option.map_injective InferencePayload.event_injective).eq_iff]

/-- One job of eleven succeeded: the text of the `f64` nearest to 1/11. -/
def eleventh : Decimal where
  text := "0.09090909090909091".toList
  chars := List.all_eq_true.mp (by decide)
  valid := by decide

/-- The next `f64`: serde_json divides the rounded digits by a power of ten unless its feature
`float_roundtrip` is on. -/
def afterEleventh : Decimal where
  text := "0.09090909090909093".toList
  chars := List.all_eq_true.mp (by decide)
  valid := by decide

def unitFloat : Decimal where
  text := "1.0".toList
  chars := List.all_eq_true.mp (by decide)
  valid := by decide

def roundingReader : FloatReader where
  double := fun float => if float = eleventh then some afterEleventh else some float
  single := some

def newcomerBid (successRate : Decimal) : InferenceBid where
  requestId := ⟨Vector.replicate 16 7⟩
  nodePeerId := "12D3KooWnode"
  estimatedLatencyMs := 200
  currentLoadPct := 10
  modelId := "llama3.1:8b"
  maxContextLen := 8192
  hasTee := false
  reputation := ⟨unitFloat, 11, successRate, unitFloat, 1, 1700000000, Vector.replicate 32 0⟩
  acceptedSettlements := [⟨"free", 0, "native"⟩]

theorem eleventh_misread :
    dispatchGossipsubMessage roundingReader (responseTopics []) (InferencePayload.bid (newcomerBid eleventh)).message =
        some (.bidReceived (newcomerBid afterEleventh)) ∧
      afterEleventh ≠ eleventh ∧
      dispatchGossipsubMessage roundingReader (responseTopics [])
        (InferencePayload.bid (newcomerBid eleventh)).message ≠ some (.bidReceived (newcomerBid eleventh)) := by
  have apart : afterEleventh ≠ eleventh := by decide
  have received := dispatch_reread roundingReader [] (.bid (newcomerBid eleventh))
  have reread : InferencePayload.reread roundingReader (.bid (newcomerBid eleventh)) =
      some (.bid (newcomerBid afterEleventh)) := by
    decide
  rw [reread] at received
  refine ⟨received, apart, ?_⟩
  rw [received]
  intro same
  exact apart (congrArg (fun bid => bid.reputation.successRate) (P2PEvent.bidReceived.inj (Option.some.inj same)))

end Pinaivu.P2P
