import Pinaivu.Node.ApiProofs

/-!
What the handlers do with a stream that breaks off: an error among its items, or an end
before the chunk that is marked final.
-/

namespace Pinaivu.Api

open Settlement P2P

/-- Every item is a chunk, and one of them is final. -/
def CompleteStream (stream : List (Except String InferenceStreamChunk)) : Prop :=
  (∀ item ∈ stream, ∃ chunk, item = .ok chunk) ∧ ∃ chunk, .ok chunk ∈ stream ∧ chunk.isFinal = true

/-- No chunk up to the first final one is an error. -/
def CompleteChunks (chunks : List P2PInferenceChunk) : Prop :=
  ∃ before last after, chunks = before ++ last :: after ∧ last.isFinal = true ∧ last.error = none ∧
    ∀ chunk ∈ before, chunk.isFinal = false ∧ chunk.error = none

/-- Funds are locked or released, a proof is signed, or the job is completed. -/
def Effect.Concludes : Effect → Prop
  | .lockFunds _ _ locked => locked = true
  | .signProof .. | .releaseFunds .. | .completeJob .. => True
  | _ => False

def ApiResponse.receipt : ApiResponse → Option ReceiptInfo
  | .ndjson _ receipt _ => receipt
  | _ => none

def WithoutReceipt (outcome : Outcome) : Prop :=
  (∀ effect ∈ outcome.effects, ¬ effect.Concludes) ∧ outcome.response.receipt = none

section

variable {SigningKey : Type} (scheme : Ed25519 SigningKey) (node : NodeState SigningKey) (cipher : PromptCipher)
variable (circumstances : Circumstances)

def Broken : ApiRequest → Prop
  | .chat body =>
      circumstances.replayed = false ∧ circumstances.permit = true ∧
        ∃ stream, node.engine.runInference (chatCall node circumstances body) = .ok stream ∧ ¬ CompleteStream stream
  | .infer body =>
      if body.peerId.isSome then
        node.p2pService = true ∧ circumstances.broadcast = .ok () ∧ ¬ CompleteChunks circumstances.received
      else
        circumstances.replayed = false ∧ circumstances.permit = true ∧
          ∃ stream, node.engine.runInference (inferCall node circumstances body) = .ok stream ∧
            ¬ CompleteStream stream
  | .inferEncrypted body =>
      ∃ prompt, openPrompt cipher body = .ok prompt ∧
        ∃ stream, node.engine.runInference (encryptedCall circumstances body prompt) = .ok stream ∧
          ¬ CompleteStream stream

/-- The request has no job, and no adapter that the client accepts locks the funds. -/
def Unsettled : ApiRequest → Prop
  | .chat _ => False
  | .infer body =>
      body.peerId.isSome = true ∧
        ¬ Locks scheme node body.acceptedSettlements circumstances.requestId (body.maxTokens.getD 1000).toUInt64
  | .inferEncrypted body =>
      ¬ Locks scheme node body.acceptedSettlements circumstances.requestId (body.maxTokens.getD 1000).toUInt64

end

section

variable {SigningKey : Type} (scheme : Ed25519 SigningKey) (sha256 : ByteArray → Vector UInt8 32)
variable (node : NodeState SigningKey) (circumstances : Circumstances)

theorem settle_silent_iff (wanted : Option (List String)) (work : Work) :
    (∀ effect ∈ (settleAndBuildReceipt scheme sha256 node circumstances wanted work).1, ¬ effect.Concludes) ∧
        (settleAndBuildReceipt scheme sha256 node circumstances wanted work).2 = none ↔
      ¬ Locks scheme node wanted work.requestId work.amountNanox := by
  rcases settle_cases scheme sha256 node circumstances wanted work with
    ⟨unlocked, settled⟩ | ⟨adapter, unlocked, settled⟩ | ⟨adapter, handle, built, locked, _, settled⟩
  · simp [settled, unlocked]
  · simp [settled, unlocked, Effect.Concludes]
  · simp [settled, locked, Effect.Concludes]

theorem tracked_concludes {call : EngineCall} {stream : List (Except String InferenceStreamChunk)}
    (ran : node.engine.runInference call = .ok stream) (fallbackFrom : Option String)
    (wanted : Option (List String)) (proofModel : String) (amountNanox : NanoX)
    (respond : List String → Option ReceiptInfo → ApiResponse) :
    ¬ WithoutReceipt (serveTracked scheme sha256 node circumstances call fallbackFrom wanted proofModel amountNanox
      respond) := by
  rintro ⟨silent, -⟩
  simp [serveTracked, runAndCollect, ran, Except.map, Effect.Concludes] at silent

theorem chat_concludes (body : ChatCompletionRequest) (fresh : circumstances.replayed = false)
    (permit : circumstances.permit = true) {stream : List (Except String InferenceStreamChunk)}
    (ran : node.engine.runInference (chatCall node circumstances body) = .ok stream) :
    ¬ WithoutReceipt (chatCompletions scheme sha256 node circumstances body) := by
  rw [chatCompletions, if_neg (by simp [fresh]), if_neg (by simp [permit])]
  exact tracked_concludes scheme sha256 node circumstances ran _ _ _ _ _

theorem infer_concludes (body : InferRequest) (fresh : circumstances.replayed = false)
    (permit : circumstances.permit = true) {stream : List (Except String InferenceStreamChunk)}
    (ran : node.engine.runInference (inferCall node circumstances body) = .ok stream) :
    ¬ WithoutReceipt (inferLocally scheme sha256 node circumstances body) := by
  rw [inferLocally, if_neg (by simp [fresh]), if_neg (by simp [permit])]
  exact tracked_concludes scheme sha256 node circumstances ran _ _ _ _ _

theorem settled_without_iff {first : Effect} (quiet : ¬ first.Concludes) (tokens : List String)
    (wanted : Option (List String)) (work : Work) :
    WithoutReceipt ⟨first :: (settleAndBuildReceipt scheme sha256 node circumstances wanted work).1,
        .ndjson tokens (settleAndBuildReceipt scheme sha256 node circumstances wanted work).2 none⟩ ↔
      ¬ Locks scheme node wanted work.requestId work.amountNanox := by
  rw [← settle_silent_iff scheme sha256 node circumstances wanted work, WithoutReceipt]
  simp [quiet, ApiResponse.receipt]

theorem p2p_without_iff (body : InferRequest) (peerId : String) (service : node.p2pService = true)
    (sent : circumstances.broadcast = .ok ()) :
    WithoutReceipt (inferViaP2p scheme sha256 node circumstances body peerId) ↔
      ¬ Locks scheme node body.acceptedSettlements circumstances.requestId (body.maxTokens.getD 1000).toUInt64 := by
  rw [inferViaP2p, if_neg (by simp [service])]
  simp only [sent]
  exact settled_without_iff scheme sha256 node circumstances (by simp [Effect.Concludes]) _ _
    (workOf circumstances body.modelId (body.maxTokens.getD 1000).toUInt64 body.prompt
      (collectTokens circumstances.received))

theorem encrypted_without_iff (cipher : PromptCipher) (body : InferEncryptedRequest) {prompt : String}
    (opened : openPrompt cipher body = .ok prompt) {stream : List (Except String InferenceStreamChunk)}
    (ran : node.engine.runInference (encryptedCall circumstances body prompt) = .ok stream) :
    WithoutReceipt (inferEncrypted scheme sha256 node circumstances cipher body) ↔
      ¬ Locks scheme node body.acceptedSettlements circumstances.requestId (body.maxTokens.getD 1000).toUInt64 := by
  simp only [inferEncrypted, opened, runAndCollect, ran, Except.map]
  exact settled_without_iff scheme sha256 node circumstances (by simp [Effect.Concludes]) _ _
    (workOf circumstances body.modelId (body.maxTokens.getD 1000).toUInt64 prompt (streamedTokens stream))

end

/-- A request whose stream breaks off ends without a receipt exactly when it has no job
and no accepted adapter locks the funds. -/
theorem no_receipt_iff {SigningKey : Type} (scheme : Ed25519 SigningKey) (sha256 : ByteArray → Vector UInt8 32)
    (cipher : PromptCipher) (node : NodeState SigningKey) (circumstances : Circumstances) (request : ApiRequest) :
    (Broken node cipher circumstances request →
        WithoutReceipt (serve scheme sha256 cipher node circumstances request)) ↔
      (Broken node cipher circumstances request → Unsettled scheme node circumstances request) := by
  refine imp_congr_right fun broken => ?_
  cases request with
  | chat body =>
      obtain ⟨fresh, permit, stream, ran, -⟩ := broken
      simpa [Unsettled, serve] using chat_concludes scheme sha256 node circumstances body fresh permit ran
  | infer body =>
      cases peer : body.peerId with
      | none =>
          obtain ⟨fresh, permit, stream, ran, -⟩ : circumstances.replayed = false ∧ circumstances.permit = true ∧
              ∃ stream, node.engine.runInference (inferCall node circumstances body) = .ok stream ∧
                ¬ CompleteStream stream := by
            simpa [Broken, peer] using broken
          simpa [Unsettled, serve, infer, peer] using
            infer_concludes scheme sha256 node circumstances body fresh permit ran
      | some peerId =>
          obtain ⟨service, sent, -⟩ : node.p2pService = true ∧ circumstances.broadcast = .ok () ∧
              ¬ CompleteChunks circumstances.received := by
            simpa [Broken, peer] using broken
          simp [Unsettled, serve, infer, peer, p2p_without_iff scheme sha256 node
            circumstances body peerId service sent]
  | inferEncrypted body =>
      obtain ⟨prompt, opened, stream, ran, -⟩ := broken
      exact encrypted_without_iff scheme sha256 node circumstances cipher body opened ran

def brokenStream : List (Except String InferenceStreamChunk) :=
  [.ok (sampleChunk false), .error "connection reset by peer"]

def remoteError : P2PInferenceChunk := errorChunk ⟨Vector.replicate 16 4⟩ "" "CUDA out of memory"

theorem brokenStream_incomplete : ¬ CompleteStream brokenStream := by
  rintro ⟨ok, -⟩
  obtain ⟨chunk, same⟩ := ok (.error "connection reset by peer") (by simp [brokenStream])
  contradiction

theorem remoteError_incomplete : ¬ CompleteChunks [remoteError] := by
  rintro ⟨before, last, after, split, -, quiet, -⟩
  have member : last ∈ [remoteError] := by simp [split]
  obtain rfl := List.mem_singleton.mp member
  contradiction

theorem broken_streams_settled :
    (Broken (sampleNode brokenStream) samplePromptCipher (sampleCircumstances []) (.chat sampleChat) ∧
      ¬ WithoutReceipt (serve (oneMessage ByteArray.empty) (fun _ => Vector.replicate 32 0) samplePromptCipher
        (sampleNode brokenStream) (sampleCircumstances []) (.chat sampleChat))) ∧
    Broken (sampleNode []) samplePromptCipher (sampleCircumstances [remoteError]) (.infer samplePeerRequest) ∧
      ¬ WithoutReceipt (serve (oneMessage ByteArray.empty) (fun _ => Vector.replicate 32 0) samplePromptCipher
        (sampleNode []) (sampleCircumstances [remoteError]) (.infer samplePeerRequest)) := by
  refine ⟨⟨⟨rfl, rfl, brokenStream, rfl, brokenStream_incomplete⟩, ?_⟩, ?_, ?_⟩
  · exact chat_concludes _ _ _ _ sampleChat rfl rfl rfl
  · simpa [Broken, samplePeerRequest, sampleNode, sampleCircumstances] using remoteError_incomplete
  · intro without
    exact (p2p_without_iff _ _ _ _ samplePeerRequest "12D3KooWpeer" rfl rfl).mp without (sampleNode_locks _ _ _)

end Pinaivu.Api
