import Pinaivu.Lib.BigEndian
import Pinaivu.Lib.SeenFilter
import Pinaivu.P2P.WireCore

/-!
The tokens of one remote inference: the worker's loop in `daemon.rs` publishes a chunk
for each item of the engine's stream, gossip drops what has the id of a message it has
seen, and the loop of `infer_via_p2p` collects what arrives.
-/

namespace Pinaivu.P2P

open JsonText

structure InferenceStreamChunk where
  requestId : RequestId
  chunkIndex : UInt32
  token : String
  isFinal : Bool
  tokensGenerated : UInt32
  finishReason : Option String
  deriving DecidableEq, Repr

abbrev EngineRun := Except String (List (Except String InferenceStreamChunk))

abbrev MessageId := List UInt8

def errorChunk (requestId : RequestId) (responseTopic message : String) : P2PInferenceChunk where
  requestId := requestId
  responseId := responseTopic
  token := ""
  isFinal := true
  error := some message

def tokenChunk (requestId : RequestId) (responseTopic : String) (chunk : InferenceStreamChunk) :
    P2PInferenceChunk where
  requestId := requestId
  responseId := responseTopic
  token := chunk.token
  isFinal := chunk.isFinal
  error := none

def publishStream (requestId : RequestId) (responseTopic : String) :
    List (Except String InferenceStreamChunk) → List P2PInferenceChunk
  | [] => []
  | .ok chunk :: rest =>
      tokenChunk requestId responseTopic chunk ::
        if chunk.isFinal then [] else publishStream requestId responseTopic rest
  | .error message :: _ => [errorChunk requestId responseTopic message]

def executeP2pInference (requestId : RequestId) (responseTopic : String) : EngineRun →
    List P2PInferenceChunk
  | .ok stream => publishStream requestId responseTopic stream
  | .error message => [errorChunk requestId responseTopic message]

def publishInferChunk (chunk : P2PInferenceChunk) : GossipMessage :=
  ⟨"inference/any", toBytes chunk.toJson⟩

/-- `message_id_fn`: a 64-bit hash of topic and data. -/
def messageId (hash : String → ByteArray → UInt64) (message : GossipMessage) : MessageId :=
  BigEndian.bytes 8 (hash message.topic message.data).toNat

def responseTopics (subscribed : List String) (topic : String) : Option String :=
  subscribed.find? fun responseId => "infer/resp/" ++ responseId = topic

/-- What the daemon's event loop passes to the collector of a response id. -/
def routed (responseId : String) : P2PEvent → Option P2PInferenceChunk
  | .inferenceChunkReceived target chunk => if target = responseId then some chunk else none
  | _ => none

/-- The loop of `infer_via_p2p` over the chunks that arrive before it times out. -/
def collectTokens : List P2PInferenceChunk → List String
  | [] => []
  | chunk :: rest =>
      if chunk.error.isSome then []
      else if chunk.isFinal then [chunk.token]
      else chunk.token :: collectTokens rest

section

variable (floats : FloatReader) (hash : String → ByteArray → UInt64) (subscribed : List String)
  (seen : List MessageId) (others : Nat → List MessageId)

/-- The published messages, each with the ids that other traffic adds just before it. -/
def traffic (chunks : List P2PInferenceChunk) : List (List MessageId × P2PInferenceChunk) :=
  chunks.zipIdx.map fun entry => (others entry.2, entry.1)

def acceptedMessages (chunks : List P2PInferenceChunk) : List GossipMessage :=
  SeenFilter.accepted (messageId hash) seen
    ((traffic others chunks).map fun entry => (entry.1, publishInferChunk entry.2))

def collectedTokens (responseId : String) (chunks : List P2PInferenceChunk) : List String :=
  collectTokens ((acceptedMessages hash seen others chunks).filterMap fun message =>
    (dispatchGossipsubMessage floats (responseTopics subscribed) message).bind (routed responseId))

/-- Every published chunk whose id gossip has seen before carries no text. -/
def OnlyEmptyRejected (chunks : List P2PInferenceChunk) : Prop :=
  SeenFilter.RejectedAre (messageId hash ∘ publishInferChunk) (fun chunk => chunk.token = "") seen
    (traffic others chunks)

end

/-- The tokens that the worker's stream holds up to its end, its last chunk or an error. -/
def streamTokens : List (Except String InferenceStreamChunk) → List String
  | [] => []
  | .ok chunk :: rest => chunk.token :: if chunk.isFinal then [] else streamTokens rest
  | .error _ :: _ => []

def workerTokens : EngineRun → List String
  | .ok stream => streamTokens stream
  | .error _ => []

theorem responseTopics_any (subscribed : List String) :
    responseTopics subscribed "inference/any" = none := by
  rw [responseTopics, List.find?_eq_none]
  intro responseId _ same
  have letters := congrArg (fun text => text.toList[5]?) (of_decide_eq_true same)
  simp at letters

theorem dispatch_publishInferChunk (floats : FloatReader) (subscribed : List String)
    (chunk : P2PInferenceChunk) :
    dispatchGossipsubMessage floats (responseTopics subscribed) (publishInferChunk chunk) =
      some (.inferenceChunkReceived chunk.responseId chunk) := by
  have known : KnownTopic.fromHash "inference/any" = .inferenceAny := by decide
  simp only [dispatchGossipsubMessage, publishInferChunk, responseTopics_any, known,
    fromSlice_toBytes, decodeChunk_toJson]

theorem publishStream_responseId (requestId : RequestId) (responseTopic : String)
    (stream : List (Except String InferenceStreamChunk)) :
    ∀ chunk ∈ publishStream requestId responseTopic stream, chunk.responseId = responseTopic := by
  induction stream with
  | nil => simp [publishStream]
  | cons item rest ih =>
      cases item with
      | error message => simp [publishStream, errorChunk]
      | ok chunk =>
          intro published member
          rcases List.mem_cons.mp member with rfl | later
          · rfl
          · split at later
            · contradiction
            · exact ih published later

theorem executeP2pInference_responseId (requestId : RequestId) (responseTopic : String)
    (engine : EngineRun) :
    ∀ chunk ∈ executeP2pInference requestId responseTopic engine,
      chunk.responseId = responseTopic := by
  cases engine with
  | error message => simp [executeP2pInference, errorChunk]
  | ok stream => exact publishStream_responseId requestId responseTopic stream

theorem collectTokens_error (chunks : List P2PInferenceChunk) (requestId : RequestId)
    (responseTopic message : String)
    (part : chunks.Sublist [errorChunk requestId responseTopic message]) :
    String.join (collectTokens chunks) = String.join (chunks.map P2PInferenceChunk.token) := by
  rcases List.sublist_singleton.mp part with rfl | rfl
  · rfl
  · simp [collectTokens, errorChunk]

theorem collectTokens_sublist (requestId : RequestId) (responseTopic : String)
    (stream : List (Except String InferenceStreamChunk)) (chunks : List P2PInferenceChunk)
    (part : chunks.Sublist (publishStream requestId responseTopic stream)) :
    String.join (collectTokens chunks) = String.join (chunks.map P2PInferenceChunk.token) := by
  induction stream generalizing chunks with
  | nil =>
      obtain rfl := List.sublist_nil.mp part
      rfl
  | cons item rest ih =>
      cases item with
      | error message => exact collectTokens_error chunks requestId responseTopic message part
      | ok chunk =>
          by_cases final : chunk.isFinal
          · simp only [publishStream, final, if_true] at part
            rcases List.sublist_singleton.mp part with rfl | rfl
            · rfl
            · simp [collectTokens, tokenChunk, final]
          · simp only [publishStream, final, Bool.false_eq_true, if_false] at part
            rcases List.sublist_cons_iff.mp part with later | ⟨tail, rfl, later⟩
            · exact ih chunks later
            · simp [collectTokens, tokenChunk, final, ih tail later, String.join_cons]

theorem map_token_publishStream (requestId : RequestId) (responseTopic : String)
    (stream : List (Except String InferenceStreamChunk)) :
    String.join ((publishStream requestId responseTopic stream).map P2PInferenceChunk.token) =
      String.join (streamTokens stream) := by
  induction stream with
  | nil => rfl
  | cons item rest ih =>
      cases item with
      | error message => simp [publishStream, streamTokens, errorChunk]
      | ok chunk =>
          by_cases final : chunk.isFinal
          · simp [publishStream, streamTokens, tokenChunk, final]
          · simp [publishStream, streamTokens, tokenChunk, final, ih, String.join_cons]

theorem map_token_executeP2pInference (requestId : RequestId) (responseTopic : String)
    (engine : EngineRun) :
    String.join ((executeP2pInference requestId responseTopic engine).map P2PInferenceChunk.token) =
      String.join (workerTokens engine) := by
  cases engine with
  | error message => simp [executeP2pInference, workerTokens, errorChunk]
  | ok stream => exact map_token_publishStream requestId responseTopic stream

theorem collectTokens_executeP2pInference (requestId : RequestId) (responseTopic : String)
    (engine : EngineRun) (chunks : List P2PInferenceChunk)
    (part : chunks.Sublist (executeP2pInference requestId responseTopic engine)) :
    String.join (collectTokens chunks) = String.join (chunks.map P2PInferenceChunk.token) := by
  cases engine with
  | error message => exact collectTokens_error chunks requestId responseTopic message part
  | ok stream => exact collectTokens_sublist requestId responseTopic stream chunks part

section

variable (floats : FloatReader) (hash : String → ByteArray → UInt64) (subscribed : List String)
  (seen : List MessageId) (others : Nat → List MessageId)

def acceptedChunks (chunks : List P2PInferenceChunk) : List P2PInferenceChunk :=
  SeenFilter.accepted (messageId hash ∘ publishInferChunk) seen (traffic others chunks)

theorem map_snd_traffic (chunks : List P2PInferenceChunk) :
    (traffic others chunks).map Prod.snd = chunks := by
  rw [traffic, List.map_map]
  exact List.zipIdx_map_fst 0 chunks

theorem acceptedChunks_sublist (chunks : List P2PInferenceChunk) :
    (acceptedChunks hash seen others chunks).Sublist chunks := by
  have part := SeenFilter.accepted_sublist (messageId hash ∘ publishInferChunk) seen
    (traffic others chunks)
  rwa [map_snd_traffic] at part

theorem collectedTokens_eq (responseId : String) (chunks : List P2PInferenceChunk)
    (addressed : ∀ chunk ∈ chunks, chunk.responseId = responseId) :
    collectedTokens floats hash subscribed seen others responseId chunks =
      collectTokens (acceptedChunks hash seen others chunks) := by
  have received : ∀ chunk ∈ acceptedChunks hash seen others chunks,
      (dispatchGossipsubMessage floats (responseTopics subscribed) (publishInferChunk chunk)).bind
        (routed responseId) = some chunk := by
    intro chunk member
    have target := addressed chunk ((acceptedChunks_sublist hash seen others chunks).subset member)
    rw [dispatch_publishInferChunk, Option.bind_some, routed, if_pos target]
  unfold collectedTokens acceptedMessages
  rw [SeenFilter.accepted_map, List.filterMap_map]
  exact congrArg collectTokens ((List.filterMap_congr received).trans List.filterMap_some)

theorem collected_text (requestId : RequestId) (responseId : String) (engine : EngineRun) :
    (String.join (collectedTokens floats hash subscribed seen others responseId
        (executeP2pInference requestId responseId engine))).toList =
      (acceptedChunks hash seen others (executeP2pInference requestId responseId engine)).flatMap
        fun chunk => chunk.token.toList := by
  have addressed := executeP2pInference_responseId requestId responseId engine
  have part := acceptedChunks_sublist hash seen others (executeP2pInference requestId responseId engine)
  rw [collectedTokens_eq _ _ _ _ _ _ _ addressed,
    collectTokens_executeP2pInference requestId responseId engine _ part, String.toList_join,
    List.flatMap_map]

theorem worker_text (requestId : RequestId) (responseId : String) (engine : EngineRun) :
    (String.join (workerTokens engine)).toList =
      (executeP2pInference requestId responseId engine).flatMap fun chunk => chunk.token.toList := by
  rw [← map_token_executeP2pInference requestId responseId, String.toList_join, List.flatMap_map]

end

def stutter : EngineRun :=
  .ok [.ok ⟨⟨Vector.replicate 16 3⟩, 0, " very", false, 1, none⟩,
    .ok ⟨⟨Vector.replicate 16 3⟩, 1, " very", false, 2, none⟩,
    .ok ⟨⟨Vector.replicate 16 3⟩, 2, " good", true, 3, some "stop"⟩]

end Pinaivu.P2P
