import Pinaivu.Node.ApiCore

/-!
What the proofs that the handlers sign say, beside what ran: the engine call of this
node, or the one that the addressed peer makes for a broadcast request.
-/

namespace Pinaivu.Api

open Settlement P2P

structure Execution where
  modelId : String
  prompt : String
  nodeKey : Vector UInt8 32

def executionOf (ownKey peerKey : Vector UInt8 32) : Effect → Option Execution
  | .runInference call => some ⟨call.modelId, call.prompt, ownKey⟩
  | .broadcast request => some ⟨(remoteCall request).modelId, (remoteCall request).prompt, peerKey⟩
  | _ => none

def signedProof : Effect → Option ProofOfInference
  | .signProof proof => some proof
  | _ => none

def ApiResponse.text : ApiResponse → Option String
  | .ndjson tokens _ _ => some (String.join tokens)
  | .chatStream _ tokens => some (String.join tokens)
  | .chatCompletion _ content _ _ => some content
  | _ => none

section

variable {SigningKey : Type} (scheme : Ed25519 SigningKey) (sha256 : ByteArray → Vector UInt8 32)
variable (node : NodeState SigningKey) (peerKey : Vector UInt8 32)

structure Describes (proof : ProofOfInference) (execution : Execution) (text : String) : Prop where
  model : proof.modelId = execution.modelId
  input : proof.inputHash = sha256 execution.prompt.toUTF8
  output : proof.outputHash = sha256 text.toUTF8
  signer : proof.nodePubkey = execution.nodeKey

/-- Every proof that is signed describes what ran for the request. -/
def ProofsDescribe (outcome : Outcome) : Prop :=
  ∀ proof ∈ outcome.effects.filterMap signedProof,
    ∃ execution ∈ outcome.effects.filterMap (executionOf (scheme.verifyingKey node.identity) peerKey),
      ∃ text, outcome.response.text = some text ∧ Describes sha256 proof execution text

/-- An adapter that the client accepts locks the funds. -/
def Locks (wanted : Option (List String)) (requestId : RequestId) (amountNanox : NanoX) : Prop :=
  ∃ adapter, selectAdapter node.settlements (wanted.getD ["receipt", "free"]) = some adapter ∧
    ∃ handle, adapter.lockFunds (escrowParams scheme node requestId amountNanox) = .ok handle

end

section

variable {SigningKey : Type} (scheme : Ed25519 SigningKey) (sha256 : ByteArray → Vector UInt8 32)
variable (node : NodeState SigningKey) (circumstances : Circumstances)

theorem settle_cases (wanted : Option (List String)) (work : Work) :
    (¬ Locks scheme node wanted work.requestId work.amountNanox ∧
      settleAndBuildReceipt scheme sha256 node circumstances wanted work = ([], none)) ∨
    (∃ adapter, ¬ Locks scheme node wanted work.requestId work.amountNanox ∧
      settleAndBuildReceipt scheme sha256 node circumstances wanted work =
        ([.lockFunds adapter (escrowParams scheme node work.requestId work.amountNanox) false], none)) ∨
    ∃ adapter handle built, Locks scheme node wanted work.requestId work.amountNanox ∧
      buildReceipt scheme sha256 node.identity adapter work circumstances.now handle.chainTxId = built ∧
      settleAndBuildReceipt scheme sha256 node circumstances wanted work =
        ([.lockFunds adapter (escrowParams scheme node work.requestId work.amountNanox) true, .signProof built.1,
          .releaseFunds adapter handle built.1], some built.2) := by
  cases selected : selectAdapter node.settlements (wanted.getD ["receipt", "free"]) with
  | none => exact .inl ⟨by simp [Locks, selected], by simp only [settleAndBuildReceipt, selected]⟩
  | some adapter =>
      refine .inr ?_
      cases locked : adapter.lockFunds (escrowParams scheme node work.requestId work.amountNanox) with
      | error detail =>
          exact .inl ⟨adapter.id, by simp [Locks, selected, locked],
            by simp only [settleAndBuildReceipt, selected, locked]⟩
      | ok handle =>
          exact .inr ⟨adapter.id, handle, _, ⟨adapter, selected, handle, locked⟩, rfl,
            by simp only [settleAndBuildReceipt, selected, locked]⟩

theorem settle_executions (wanted : Option (List String)) (work : Work) (ownKey peerKey : Vector UInt8 32) :
    (settleAndBuildReceipt scheme sha256 node circumstances wanted work).1.filterMap
      (executionOf ownKey peerKey) = [] := by
  rcases settle_cases scheme sha256 node circumstances wanted work with
    ⟨_, settled⟩ | ⟨adapter, _, settled⟩ | ⟨adapter, handle, built, _, _, settled⟩
  all_goals rw [settled]; rfl

theorem settle_signed (wanted : Option (List String)) (work : Work) :
    ((settleAndBuildReceipt scheme sha256 node circumstances wanted work).1.filterMap signedProof = [] ∧
      ¬ Locks scheme node wanted work.requestId work.amountNanox) ∨
    ∃ proof, (settleAndBuildReceipt scheme sha256 node circumstances wanted work).1.filterMap signedProof = [proof] ∧
      Locks scheme node wanted work.requestId work.amountNanox ∧ proof.modelId = work.modelId ∧
      proof.inputHash = sha256 work.prompt.toUTF8 ∧ proof.outputHash = sha256 work.output.toUTF8 ∧
      proof.nodePubkey = scheme.verifyingKey node.identity := by
  rcases settle_cases scheme sha256 node circumstances wanted work with
    ⟨unlocked, settled⟩ | ⟨adapter, unlocked, settled⟩ | ⟨adapter, handle, built, locked, made, settled⟩
  · exact .inl ⟨by rw [settled]; rfl, unlocked⟩
  · exact .inl ⟨by rw [settled]; rfl, unlocked⟩
  · refine .inr ⟨built.1, by rw [settled]; rfl, locked, ?_⟩
    rw [← made]
    exact ⟨rfl, rfl, rfl, rfl⟩

variable (peerKey : Vector UInt8 32)

theorem describes_unsigned {outcome : Outcome} (unsigned : outcome.effects.filterMap signedProof = []) :
    ProofsDescribe scheme sha256 node peerKey outcome := by
  intro proof member
  rw [unsigned] at member
  contradiction

theorem describes_settled (before : List Effect) (execution : Execution) (response : ApiResponse)
    (wanted : Option (List String)) (work : Work)
    (executed : before.filterMap (executionOf (scheme.verifyingKey node.identity) peerKey) = [execution])
    (unsigned : before.filterMap signedProof = []) (prompt : work.prompt = execution.prompt)
    (text : response.text = some work.output) :
    ProofsDescribe scheme sha256 node peerKey
        ⟨before ++ (settleAndBuildReceipt scheme sha256 node circumstances wanted work).1, response⟩ ↔
      (Locks scheme node wanted work.requestId work.amountNanox →
        work.modelId = execution.modelId ∧ scheme.verifyingKey node.identity = execution.nodeKey) := by
  rw [ProofsDescribe]
  simp only [List.filterMap_append, executed, unsigned, settle_executions, List.nil_append, List.append_nil,
    List.mem_singleton, exists_eq_left, text, Option.some.injEq, exists_eq_left']
  rcases settle_signed scheme sha256 node circumstances wanted work with
    ⟨none, unlocked⟩ | ⟨proof, signed, locked, model, input, output, signer⟩
  · simp [none, unlocked]
  · simp only [signed, List.mem_singleton, forall_eq, locked, true_imp_iff]
    constructor
    · intro describes
      exact ⟨model.symm.trans describes.model, signer.symm.trans describes.signer⟩
    · rintro ⟨sameModel, sameKey⟩
      exact ⟨model.trans sameModel, prompt ▸ input, output, signer.trans sameKey⟩

theorem runAndCollect_ok_iff (call : EngineCall) :
    (∃ tokens, runAndCollect node.engine call = .ok tokens) ↔ (node.engine.runInference call).isOk = true := by
  cases answer : node.engine.runInference call <;> simp [runAndCollect, answer, Except.map, Except.isOk, Except.toBool]

theorem describes_tracked (call : EngineCall) (fallbackFrom : Option String) (wanted : Option (List String))
    (proofModel : String) (amountNanox : NanoX) (respond : List String → Option ReceiptInfo → ApiResponse)
    (text : ∀ tokens receipt, (respond tokens receipt).text = some (String.join tokens)) :
    ProofsDescribe scheme sha256 node peerKey
        (serveTracked scheme sha256 node circumstances call fallbackFrom wanted proofModel amountNanox respond) ↔
      ((node.engine.runInference call).isOk = true →
        Locks scheme node wanted circumstances.requestId amountNanox → proofModel = call.modelId) := by
  rw [← runAndCollect_ok_iff, serveTracked]
  cases collected : runAndCollect node.engine call with
  | error detail =>
      have unsigned : ProofsDescribe scheme sha256 node peerKey
          ⟨[.pushJob circumstances.requestId call.modelId, .runInference call,
            .markFailed circumstances.requestId], .upstream detail⟩ :=
        describes_unsigned scheme sha256 node peerKey rfl
      simpa using unsigned
  | ok tokens =>
      have settled := describes_settled scheme sha256 node circumstances peerKey
        [.pushJob circumstances.requestId call.modelId, .runInference call,
          .completeJob circumstances.requestId {
            inputTokens := inputTokenCount call.prompt
            outputTokens := outputTokenCount tokens
            latencyMs := circumstances.latencyMs.toUInt64
            fallbackFrom := fallbackFrom }]
        ⟨call.modelId, call.prompt, scheme.verifyingKey node.identity⟩
        (respond tokens (settleAndBuildReceipt scheme sha256 node circumstances wanted
          (workOf circumstances proofModel amountNanox call.prompt tokens)).2)
        wanted (workOf circumstances proofModel amountNanox call.prompt tokens) rfl rfl rfl (text tokens _)
      refine Iff.trans settled ?_
      simp [workOf]

theorem describes_gated (outcome : Outcome) :
    ProofsDescribe scheme sha256 node peerKey
        (if circumstances.replayed then ⟨[], .replay⟩
          else if !circumstances.permit then ⟨[], .capacity⟩
          else outcome) ↔
      (circumstances.replayed = false → circumstances.permit = true →
        ProofsDescribe scheme sha256 node peerKey outcome) := by
  have replay : ProofsDescribe scheme sha256 node peerKey ⟨[], .replay⟩ :=
    describes_unsigned scheme sha256 node peerKey rfl
  have capacity : ProofsDescribe scheme sha256 node peerKey ⟨[], .capacity⟩ :=
    describes_unsigned scheme sha256 node peerKey rfl
  cases circumstances.replayed <;> cases circumstances.permit <;> simp [replay, capacity]

theorem describes_chat (body : ChatCompletionRequest) :
    ProofsDescribe scheme sha256 node peerKey (chatCompletions scheme sha256 node circumstances body) ↔
      (circumstances.replayed = false → circumstances.permit = true →
        (node.engine.runInference (chatCall node circumstances body)).isOk = true →
        Locks scheme node body.acceptedSettlements circumstances.requestId (body.maxTokens.getD 2048).toUInt64 →
        (resolveModel body.model node.engine).1 = body.model) := by
  have text : ∀ tokens (receipt : Option ReceiptInfo), ApiResponse.text
      (if body.stream then .chatStream body.model tokens
        else .chatCompletion body.model (String.join tokens)
          (inputTokenCount (chatCall node circumstances body).prompt) (outputTokenCount tokens)) =
      some (String.join tokens) := by
    intro tokens _
    cases body.stream <;> rfl
  rw [chatCompletions, describes_gated]
  refine imp_congr_right fun _ => imp_congr_right fun _ => ?_
  refine Iff.trans (describes_tracked scheme sha256 node circumstances peerKey _ _ _ _ _ _ text) ?_
  refine imp_congr_right fun _ => imp_congr_right fun _ => ?_
  exact eq_comm

theorem describes_locally (body : InferRequest) :
    ProofsDescribe scheme sha256 node peerKey (inferLocally scheme sha256 node circumstances body) := by
  rw [inferLocally, describes_gated]
  intro _ _
  exact (describes_tracked scheme sha256 node circumstances peerKey _ _ _ _ _ _ fun _ _ => rfl).mpr fun _ _ => rfl

theorem describes_encrypted (cipher : PromptCipher) (body : InferEncryptedRequest) :
    ProofsDescribe scheme sha256 node peerKey (inferEncrypted scheme sha256 node circumstances cipher body) := by
  unfold inferEncrypted
  split
  · exact describes_unsigned scheme sha256 node peerKey rfl
  · rename_i prompt opened
    cases collected : runAndCollect node.engine (encryptedCall circumstances body prompt) with
    | error detail =>
        simp only [collected]
        exact describes_unsigned scheme sha256 node peerKey rfl
    | ok tokens =>
        simp only [collected]
        exact (describes_settled scheme sha256 node circumstances peerKey
          [.runInference (encryptedCall circumstances body prompt)]
          ⟨body.modelId, prompt, scheme.verifyingKey node.identity⟩ _ body.acceptedSettlements
          (workOf circumstances body.modelId (body.maxTokens.getD 1000).toUInt64 prompt tokens)
          rfl rfl rfl rfl).mpr fun _ => ⟨rfl, rfl⟩

theorem describes_p2p (body : InferRequest) (peerId : String) :
    ProofsDescribe scheme sha256 node peerKey (inferViaP2p scheme sha256 node circumstances body peerId) ↔
      (node.p2pService = true → circumstances.broadcast = .ok () →
        Locks scheme node body.acceptedSettlements circumstances.requestId (body.maxTokens.getD 1000).toUInt64 →
        scheme.verifyingKey node.identity = peerKey) := by
  unfold inferViaP2p
  by_cases service : node.p2pService = true
  · rw [if_neg (by simp [service])]
    cases sent : circumstances.broadcast with
    | error detail =>
        simpa using describes_unsigned scheme sha256 node peerKey rfl
    | ok done =>
        have settled := describes_settled scheme sha256 node circumstances peerKey
          [.broadcast (p2pRequest circumstances body peerId)] ⟨body.modelId, body.prompt, peerKey⟩
          (.ndjson (collectTokens circumstances.received) (settleAndBuildReceipt scheme sha256 node circumstances
            body.acceptedSettlements (workOf circumstances body.modelId (body.maxTokens.getD 1000).toUInt64
              body.prompt (collectTokens circumstances.received))).2 none)
          body.acceptedSettlements (workOf circumstances body.modelId (body.maxTokens.getD 1000).toUInt64
            body.prompt (collectTokens circumstances.received)) rfl rfl rfl rfl
        refine Iff.trans settled ?_
        simp [service, workOf]
  · simpa [service] using describes_unsigned scheme sha256 node peerKey rfl

end

section

variable {SigningKey : Type} (scheme : Ed25519 SigningKey) (node : NodeState SigningKey)
variable (circumstances : Circumstances) (peerKey : Vector UInt8 32)

/-- A chat request, or one for a peer, reaches an adapter that locks the funds, so that a
proof is signed for it. -/
def SignsChatOrPeer : ApiRequest → Prop
  | .chat body =>
      circumstances.replayed = false ∧ circumstances.permit = true ∧
        (node.engine.runInference (chatCall node circumstances body)).isOk = true ∧
        Locks scheme node body.acceptedSettlements circumstances.requestId (body.maxTokens.getD 2048).toUInt64
  | .infer body =>
      body.peerId.isSome = true ∧ node.p2pService = true ∧ circumstances.broadcast = .ok () ∧
        Locks scheme node body.acceptedSettlements circumstances.requestId (body.maxTokens.getD 1000).toUInt64
  | .inferEncrypted _ => False

/-- The model asked for is the one that runs, or the peer has this node's key. -/
def Faithful : ApiRequest → Prop
  | .chat body => (resolveModel body.model node.engine).1 = body.model
  | .infer _ => scheme.verifyingKey node.identity = peerKey
  | .inferEncrypted _ => True

end

/-- The signed proofs of a request describe what ran exactly when a chat request that is
signed for asked for the model that runs, and a peer that ran one has this node's key. -/
theorem proofs_describe_iff {SigningKey : Type} (scheme : Ed25519 SigningKey) (sha256 : ByteArray → Vector UInt8 32)
    (cipher : PromptCipher) (node : NodeState SigningKey) (peerKey : Vector UInt8 32)
    (circumstances : Circumstances) (request : ApiRequest) :
    ProofsDescribe scheme sha256 node peerKey (serve scheme sha256 cipher node circumstances request) ↔
      (SignsChatOrPeer scheme node circumstances request → Faithful scheme node peerKey request) := by
  cases request with
  | chat body =>
      rw [serve, describes_chat]
      simp [SignsChatOrPeer, Faithful]
  | infer body =>
      rw [serve, infer]
      cases peer : body.peerId with
      | none => simp [describes_locally, SignsChatOrPeer, peer]
      | some peerId => simp [describes_p2p, SignsChatOrPeer, Faithful, peer]
  | inferEncrypted body => simp [serve, describes_encrypted, SignsChatOrPeer]

def freeAdapter : SettlementAdapter where
  id := "free"
  lockFunds params := .ok {
    settlementId := "free"
    requestId := params.requestId
    amountNanox := 0
    chainTxId := none
    payload := .object [] }
  releaseFunds _ _ := .ok ()

def sampleChunk (isFinal : Bool) : InferenceStreamChunk where
  requestId := ⟨Vector.replicate 16 4⟩
  chunkIndex := 0
  token := "Paris"
  isFinal := isFinal
  tokensGenerated := 1
  finishReason := none

def sampleNode (stream : List (Except String InferenceStreamChunk)) : NodeState Unit where
  identity := ()
  engine := { listAvailableModels := .ok ["mistral:7b", "llama3.1:8b"], runInference := fun _ => .ok stream }
  settlements := [freeAdapter]
  p2pService := true
  maxContextTokens := 4096

def sampleCircumstances (received : List P2PInferenceChunk) : Circumstances where
  requestId := ⟨Vector.replicate 16 4⟩
  responseId := "04040404-0404-0404-0404-040404040404"
  now := 1700000000
  latencyMs := 350
  replayed := false
  permit := true
  history := .ok []
  broadcast := .ok ()
  received := received

def sampleChat : ChatCompletionRequest where
  model := "llama3.1:70b"
  messages := [⟨"user", "Capital of France?"⟩]
  stream := false
  maxTokens := none
  temperature := none
  acceptedSettlements := none
  sessionId := none

def samplePeerRequest : InferRequest where
  modelId := "llama3.1:8b"
  prompt := "Capital of France?"
  sessionId := none
  maxTokens := none
  temperature := none
  acceptedSettlements := none
  peerId := some "12D3KooWpeer"

def samplePromptCipher : PromptCipher where
  base64 _ := none
  ecdh clientPub := clientPub
  deriveAesKey secret := secret
  decrypt _ _ _ := none

theorem sampleNode_locks (stream : List (Except String InferenceStreamChunk)) (requestId : RequestId)
    (amountNanox : NanoX) :
    Locks (oneMessage ByteArray.empty) (sampleNode stream) none requestId amountNanox := by
  refine ⟨freeAdapter, ?_, _, rfl⟩
  simp [selectAdapter, sampleNode, freeAdapter]

/-- The engine runs the smaller model of the family, and the proof names the larger; and
this node signs for the output of a peer. -/
theorem proofs_misdescribe :
    ¬ ProofsDescribe (oneMessage ByteArray.empty) (fun _ => Vector.replicate 32 0) (sampleNode [.ok (sampleChunk true)])
        (Vector.replicate 32 7) (serve (oneMessage ByteArray.empty) (fun _ => Vector.replicate 32 0) samplePromptCipher
          (sampleNode [.ok (sampleChunk true)]) (sampleCircumstances []) (.chat sampleChat)) ∧
    ¬ ProofsDescribe (oneMessage ByteArray.empty) (fun _ => Vector.replicate 32 0) (sampleNode [])
        (Vector.replicate 32 7) (serve (oneMessage ByteArray.empty) (fun _ => Vector.replicate 32 0) samplePromptCipher
          (sampleNode []) (sampleCircumstances [tokenChunk ⟨Vector.replicate 16 4⟩ "" (sampleChunk true)])
          (.infer samplePeerRequest)) := by
  constructor
  · intro describes
    have named := (describes_chat _ _ _ _ _ sampleChat).mp describes rfl rfl rfl (sampleNode_locks _ _ _)
    revert named
    decide +kernel
  · intro describes
    have signer := (describes_p2p _ _ _ _ _ samplePeerRequest "12D3KooWpeer").mp describes rfl rfl
      (sampleNode_locks _ _ _)
    revert signer
    decide

end Pinaivu.Api
