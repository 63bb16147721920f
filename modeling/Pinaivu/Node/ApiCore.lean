import Pinaivu.Context.StoreCore
import Pinaivu.Lib.UnicodeText
import Pinaivu.P2P.GossipDelivery
import Pinaivu.Persistence.JobCore
import Pinaivu.Settlement.Adapter

/-!
The inference handlers of `crates/node/src/api/mod.rs`, from a request that has passed
the API key and payment gates to the answer. A handler's run is the list of what it does
to the engine, the job store, the settlement adapters and the network, with its answer;
metrics, the journal, the stored turn and the stored output are left out. SHA-256, the
signature scheme and the decryption of a prompt are arguments.
-/

namespace Pinaivu.Api

open Settlement P2P Context

structure OaiChatMessage where
  role : String
  content : String
  deriving DecidableEq, Repr

structure ChatCompletionRequest where
  model : String
  messages : List OaiChatMessage
  stream : Bool
  maxTokens : Option UInt32
  temperature : Option Decimal
  acceptedSettlements : Option (List String)
  sessionId : Option String

structure InferRequest where
  modelId : String
  prompt : String
  sessionId : Option String
  maxTokens : Option UInt32
  temperature : Option Decimal
  acceptedSettlements : Option (List String)
  peerId : Option String

structure InferEncryptedRequest where
  modelId : String
  clientPubkeyX25519 : String
  promptEncrypted : String
  promptNonce : String
  maxTokens : Option UInt32
  temperature : Option Decimal
  acceptedSettlements : Option (List String)

structure InferenceParams where
  maxTokens : UInt32
  temperature : Decimal
  requestId : RequestId
  deriving DecidableEq

structure EngineCall where
  modelId : String
  context : ContextWindow
  prompt : String
  params : InferenceParams
  deriving DecidableEq

structure InferenceEngine where
  listAvailableModels : Except String (List String)
  runInference : EngineCall → EngineRun

structure SettlementAdapter where
  id : String
  lockFunds : EscrowParams → Except String EscrowHandle
  releaseFunds : EscrowHandle → ProofOfInference → Except String Unit

structure NodeState (SigningKey : Type) where
  identity : SigningKey
  engine : InferenceEngine
  settlements : List SettlementAdapter
  p2pService : Bool
  maxContextTokens : UInt32

structure ReceiptInfo where
  proofId : String
  settlementId : String
  proofValid : Bool
  inputTokens : UInt32
  outputTokens : UInt32
  latencyMs : UInt32
  nodePubkey : String
  signature : String
  canonicalBytesHex : String
  chainTxId : Option String
  deriving DecidableEq, Repr

inductive Effect where
  | pushJob (requestId : RequestId) (model : String)
  | markFailed (requestId : RequestId)
  | completeJob (requestId : RequestId) (metrics : Job.JobMetrics)
  | runInference (call : EngineCall)
  | broadcast (request : InferenceRequest)
  | lockFunds (adapter : String) (params : EscrowParams) (locked : Bool)
  | signProof (proof : ProofOfInference)
  | releaseFunds (adapter : String) (handle : EscrowHandle) (proof : ProofOfInference)

inductive ApiResponse where
  | replay
  | capacity
  | upstream (detail : String)
  | badRequest (detail : String)
  | p2pUnavailable
  | broadcastFailed (detail : String)
  | ndjson (tokens : List String) (receipt : Option ReceiptInfo) (fallbackNotice : Option String)
  | chatStream (model : String) (tokens : List String)
  | chatCompletion (model content : String) (promptTokens completionTokens : UInt32)

structure Outcome where
  effects : List Effect
  response : ApiResponse

/-- What a request meets besides its body: the values that it draws, the answers of the
gates, the conversation stored for its session, and the chunks that arrive over P2P
before the deadline. -/
structure Circumstances where
  requestId : RequestId
  responseId : String
  now : UInt64
  latencyMs : UInt32
  replayed : Bool
  permit : Bool
  history : Except String (List StoredMessage)
  broadcast : Except String Unit
  received : List P2PInferenceChunk

def defaultTemperature : Decimal where
  text := ['0', '.', '7']
  chars := List.all_eq_true.mp (by decide)
  valid := by decide

def historyRole (role : String) : Role :=
  if role = "assistant" then .assistant else if role = "system" then .system else .user

def historyMessage (role content : String) : Message where
  role := historyRole role
  content := content
  timestamp := 0
  nodeId := none
  tokenCount := 0

def defaultContext : ContextWindow where
  systemPrompt := none
  summary := none
  recentMessages := []
  totalTokens := 0

/-- The variables of the loop of `messages_to_context`. -/
structure MessageSplit where
  recentMessages : List Message
  systemParts : List String
  prompt : String

def splitMessage (count : Nat) (split : MessageSplit) (entry : OaiChatMessage × Nat) : MessageSplit :=
  if entry.1.role = "system" then { split with systemParts := split.systemParts ++ [entry.1.content] }
  else if entry.2 + 1 = count ∧ entry.1.role = "user" then { split with prompt := entry.1.content }
  else if entry.2 < count - 1 then
    { split with recentMessages := split.recentMessages ++ [historyMessage entry.1.role entry.1.content] }
  else split

def messagesToContext (messages : List OaiChatMessage) : ContextWindow × String :=
  let split := messages.zipIdx.foldl (splitMessage messages.length) ⟨[], [], ""⟩
  let prompt :=
    if split.prompt = "" then (messages.getLast?.map OaiChatMessage.content).getD split.prompt
    else split.prompt
  ({ defaultContext with
      systemPrompt := if split.systemParts = [] then none else some ("\n".intercalate split.systemParts)
      recentMessages := split.recentMessages }, prompt)

def storedMessagesToContextWindow (history : List StoredMessage) : ContextWindow :=
  { defaultContext with recentMessages := history.map fun message => historyMessage message.role message.content }

/-- `value as f32`: 24 significant bits, the nearest, ties to even. -/
def singleOfNat (value : Nat) : Nat :=
  let unit := 2 ^ (value.log2 - 23)
  let down := value / unit
  let rest := value % unit
  if unit < 2 * rest ∨ (unit = 2 * rest ∧ down % 2 = 1) then (down + 1) * unit else down * unit

/-- The division by four is exact in `f32`, and the cast saturates. -/
def estimateTokens (text : String) : UInt32 :=
  UInt32.ofNat (min ((singleOfNat text.utf8ByteSize + 3) / 4) 0xFFFFFFFF)

def fittingMessages (budget : UInt32) : UInt32 → List Message → List Message
  | _, [] => []
  | used, message :: older =>
      let tokens := estimateTokens message.content + 4
      if budget < used + tokens then [] else message :: fittingMessages budget (used + tokens) older

def trimContextWindow (window : ContextWindow) (maxTokens : UInt32) : ContextWindow :=
  if maxTokens = 0 then window
  else
    let systemTokens := (window.systemPrompt.map estimateTokens).getD 0
    let budget := UInt32.ofNat (maxTokens.toNat - systemTokens.toNat)
    { window with recentMessages := (fittingMessages budget 0 window.recentMessages.reverse).reverse }

def resolveModel (requested : String) (engine : InferenceEngine) : String × Option String :=
  match engine.listAvailableModels with
  | .error _ => (requested, none)
  | .ok available =>
      if requested ∈ available then (requested, none)
      else
        let family := requested.toList.takeWhile (· ≠ ':')
        match available.find? fun model => family.isPrefixOf model.toList with
        | some fallback =>
            (fallback, some ("'" ++ requested ++ "' not available — routing to '" ++ fallback ++ "'"))
        | none => (requested, none)

def selectAdapter (adapters : List SettlementAdapter) (clientSettlements : List String) :
    Option SettlementAdapter :=
  adapters.find? fun adapter => adapter.id ∈ clientSettlements

def inputTokenCount (prompt : String) : UInt32 := max (UInt32.ofNat (UnicodeText.words prompt).length) 1

def outputTokenCount (tokens : List String) : UInt32 := max (UInt32.ofNat tokens.length) 1

/-- The tokens of the chunks; an error in the stream is logged. -/
def streamedTokens (stream : List (Except String InferenceStreamChunk)) : List String :=
  stream.filterMap fun item => item.toOption.map InferenceStreamChunk.token

def runAndCollect (engine : InferenceEngine) (call : EngineCall) : Except String (List String) :=
  (engine.runInference call).map streamedTokens

structure Work where
  requestId : RequestId
  modelId : String
  inputTokens : UInt32
  outputTokens : UInt32
  latencyMs : UInt32
  amountNanox : NanoX
  prompt : String
  output : String

def workOf (circumstances : Circumstances) (modelId : String) (amountNanox : NanoX) (prompt : String)
    (tokens : List String) : Work where
  requestId := circumstances.requestId
  modelId := modelId
  inputTokens := inputTokenCount prompt
  outputTokens := outputTokenCount tokens
  latencyMs := circumstances.latencyMs
  amountNanox := amountNanox
  prompt := prompt
  output := String.join tokens

def hexText (bytes : List UInt8) : String := String.ofList (Hex.encode bytes)

/-- The parts of AES-GCM with X25519 that `infer_encrypted_handler` calls. -/
structure PromptCipher where
  base64 : String → Option (List UInt8)
  ecdh : Vector UInt8 32 → Vector UInt8 32
  deriveAesKey : Vector UInt8 32 → Vector UInt8 32
  decrypt : Vector UInt8 32 → List UInt8 → List UInt8 → Option (List UInt8)

def openPrompt (cipher : PromptCipher) (body : InferEncryptedRequest) : Except String String :=
  match Hex.decode body.clientPubkeyX25519.toList with
  | none => .error "invalid client_pubkey_x25519"
  | some clientPub =>
      if sized : clientPub.length = 32 then
        let key := cipher.deriveAesKey (cipher.ecdh ⟨clientPub.toArray, sized⟩)
        match cipher.base64 body.promptEncrypted, cipher.base64 body.promptNonce with
        | none, _ => .error "invalid prompt_encrypted base64"
        | some _, none => .error "invalid prompt_nonce base64"
        | some ciphertext, some nonce =>
            if nonce.length ≠ 12 then .error "nonce must be 12 bytes"
            else
              match cipher.decrypt key nonce ciphertext with
              | none => .error "decryption failed"
              | some plaintext =>
                  match String.fromUTF8? ⟨plaintext.toArray⟩ with
                  | none => .error "decrypted prompt is not valid UTF-8"
                  | some prompt => .ok prompt
      else .error "client_pubkey_x25519 must be 32 bytes"

section

variable {SigningKey : Type} (scheme : Ed25519 SigningKey) (sha256 : ByteArray → Vector UInt8 32)

def buildReceipt (identity : SigningKey) (adapterId : String) (work : Work) (nowSecs : UInt64)
    (chainTxId : Option String) : ProofOfInference × ReceiptInfo :=
  let publicKeyHex := hexText (scheme.verifyingKey identity).toList
  let proof := signProof scheme identity {
    requestId := work.requestId
    sessionId := ⟨Vector.replicate 16 0⟩
    nodePeerId := publicKeyHex
    clientAddress := "http-api-client"
    modelId := work.modelId
    inputTokens := work.inputTokens
    outputTokens := work.outputTokens
    latencyMs := work.latencyMs
    pricePaidNanox := work.amountNanox
    timestamp := nowSecs
    inputHash := sha256 work.prompt.toUTF8
    outputHash := sha256 work.output.toUTF8
    settlementId := adapterId
    escrowTxId := none
    nodePubkey := Vector.replicate 32 0
    signature := List.replicate 64 0 }
  (proof, {
    proofId := hexText (sha256 proof.canonicalBytes).toList
    settlementId := adapterId
    proofValid := proof.verify scheme
    inputTokens := work.inputTokens
    outputTokens := work.outputTokens
    latencyMs := work.latencyMs
    nodePubkey := publicKeyHex
    signature := hexText proof.signature
    canonicalBytesHex := hexText proof.canonicalBytes.data.toList
    chainTxId := chainTxId })

variable (node : NodeState SigningKey) (circumstances : Circumstances)

def escrowParams (requestId : RequestId) (amountNanox : NanoX) : EscrowParams where
  requestId := requestId
  amountNanox := amountNanox
  clientAddress := "http-api-client"
  nodeAddress := hexText (scheme.verifyingKey node.identity).toList
  tokenId := "native"

/-- A failed release is logged. -/
def settleAndBuildReceipt (wanted : Option (List String)) (work : Work) : List Effect × Option ReceiptInfo :=
  match selectAdapter node.settlements (wanted.getD ["receipt", "free"]) with
  | none => ([], none)
  | some adapter =>
      let params := escrowParams scheme node work.requestId work.amountNanox
      match adapter.lockFunds params with
      | .error _ => ([.lockFunds adapter.id params false], none)
      | .ok handle =>
          let built := buildReceipt scheme sha256 node.identity adapter.id work circumstances.now handle.chainTxId
          ([.lockFunds adapter.id params true, .signProof built.1, .releaseFunds adapter.id handle built.1],
            some built.2)

/-- The run of a tracked job, which the chat and the infer handler write alike;
`proofModel` is the model that they pass on to the receipt. -/
def serveTracked (call : EngineCall) (fallbackFrom : Option String) (wanted : Option (List String))
    (proofModel : String) (amountNanox : NanoX) (respond : List String → Option ReceiptInfo → ApiResponse) :
    Outcome :=
  let started : List Effect := [.pushJob circumstances.requestId call.modelId, .runInference call]
  match runAndCollect node.engine call with
  | .error detail => ⟨started ++ [.markFailed circumstances.requestId], .upstream detail⟩
  | .ok tokens =>
      let work := workOf circumstances proofModel amountNanox call.prompt tokens
      let settled := settleAndBuildReceipt scheme sha256 node circumstances wanted work
      let metrics : Job.JobMetrics := {
        inputTokens := work.inputTokens
        outputTokens := work.outputTokens
        latencyMs := circumstances.latencyMs.toUInt64
        fallbackFrom := fallbackFrom }
      ⟨started ++ .completeJob circumstances.requestId metrics :: settled.1, respond tokens settled.2⟩

def chatCall (body : ChatCompletionRequest) : EngineCall :=
  let split := messagesToContext body.messages
  { modelId := (resolveModel body.model node.engine).1
    context := trimContextWindow split.1 node.maxContextTokens
    prompt := split.2
    params := {
      maxTokens := body.maxTokens.getD 2048
      temperature := body.temperature.getD defaultTemperature
      requestId := circumstances.requestId } }

def chatCompletions (body : ChatCompletionRequest) : Outcome :=
  if circumstances.replayed then ⟨[], .replay⟩
  else if !circumstances.permit then ⟨[], .capacity⟩
  else
    let call := chatCall node circumstances body
    let fallbackFrom := (resolveModel body.model node.engine).2.map fun _ => body.model
    serveTracked scheme sha256 node circumstances call fallbackFrom body.acceptedSettlements body.model
      (body.maxTokens.getD 2048).toUInt64 fun tokens _ =>
        if body.stream then .chatStream body.model tokens
        else .chatCompletion body.model (String.join tokens) (inputTokenCount call.prompt) (outputTokenCount tokens)

/-- The history of the request's session; a history that cannot be read is ignored. -/
def sessionContext (body : InferRequest) : ContextWindow :=
  match body.sessionId, circumstances.history with
  | some _, .ok history => storedMessagesToContextWindow history
  | _, _ => defaultContext

def inferCall (body : InferRequest) : EngineCall where
  modelId := (resolveModel body.modelId node.engine).1
  context := trimContextWindow (sessionContext circumstances body) node.maxContextTokens
  prompt := body.prompt
  params := {
    maxTokens := body.maxTokens.getD 2048
    temperature := body.temperature.getD defaultTemperature
    requestId := circumstances.requestId }

def inferLocally (body : InferRequest) : Outcome :=
  if circumstances.replayed then ⟨[], .replay⟩
  else if !circumstances.permit then ⟨[], .capacity⟩
  else
    let call := inferCall node circumstances body
    let notice := (resolveModel body.modelId node.engine).2
    serveTracked scheme sha256 node circumstances call (notice.map fun _ => body.modelId) body.acceptedSettlements
      call.modelId (body.maxTokens.getD 1000).toUInt64 fun tokens receipt => .ndjson tokens receipt notice

def p2pRequest (body : InferRequest) (targetPeerId : String) : InferenceRequest where
  requestId := circumstances.requestId
  sessionId := ⟨Vector.replicate 16 0⟩
  modelPreference := body.modelId
  contextBlobId := none
  promptEncrypted := []
  promptNonce := []
  maxTokens := body.maxTokens.getD 2048
  temperature := body.temperature.getD defaultTemperature
  escrowTxId := ""
  budgetNanox := 0xFFFFFFFFFFFFFFFF
  timestamp := circumstances.now
  clientPeerId := "local"
  privacyLevel := .standard
  acceptedSettlements := body.acceptedSettlements.getD ["free"]
  targetPeerId := some targetPeerId
  responseTopic := some circumstances.responseId
  promptPlain := some body.prompt

def inferViaP2p (body : InferRequest) (targetPeerId : String) : Outcome :=
  if !node.p2pService then ⟨[], .p2pUnavailable⟩
  else
    let request := p2pRequest circumstances body targetPeerId
    match circumstances.broadcast with
    | .error detail => ⟨[.broadcast request], .broadcastFailed detail⟩
    | .ok () =>
        let tokens := collectTokens circumstances.received
        let work := workOf circumstances body.modelId (body.maxTokens.getD 1000).toUInt64 body.prompt tokens
        let settled := settleAndBuildReceipt scheme sha256 node circumstances body.acceptedSettlements work
        ⟨.broadcast request :: settled.1, .ndjson tokens settled.2 none⟩

def infer (body : InferRequest) : Outcome :=
  match body.peerId with
  | some peerId => inferViaP2p scheme sha256 node circumstances body peerId
  | none => inferLocally scheme sha256 node circumstances body

def encryptedCall (body : InferEncryptedRequest) (prompt : String) : EngineCall where
  modelId := body.modelId
  context := defaultContext
  prompt := prompt
  params := {
    maxTokens := body.maxTokens.getD 2048
    temperature := body.temperature.getD defaultTemperature
    requestId := circumstances.requestId }

def inferEncrypted (cipher : PromptCipher) (body : InferEncryptedRequest) : Outcome :=
  match openPrompt cipher body with
  | .error detail => ⟨[], .badRequest detail⟩
  | .ok prompt =>
      let call := encryptedCall circumstances body prompt
      match runAndCollect node.engine call with
      | .error detail => ⟨[.runInference call], .upstream detail⟩
      | .ok tokens =>
          let work := workOf circumstances body.modelId (body.maxTokens.getD 1000).toUInt64 prompt tokens
          let settled := settleAndBuildReceipt scheme sha256 node circumstances body.acceptedSettlements work
          ⟨.runInference call :: settled.1, .ndjson tokens settled.2 none⟩

end

inductive ApiRequest where
  | chat (body : ChatCompletionRequest)
  | infer (body : InferRequest)
  | inferEncrypted (body : InferEncryptedRequest)

def serve {SigningKey : Type} (scheme : Ed25519 SigningKey) (sha256 : ByteArray → Vector UInt8 32)
    (cipher : PromptCipher) (node : NodeState SigningKey) (circumstances : Circumstances) : ApiRequest → Outcome
  | .chat body => chatCompletions scheme sha256 node circumstances body
  | .infer body => infer scheme sha256 node circumstances body
  | .inferEncrypted body => inferEncrypted scheme sha256 node circumstances cipher body

def remoteCall (request : InferenceRequest) : EngineCall :=
  let prompt := request.promptPlain.getD ""
  { modelId := request.modelPreference
    context := {
      defaultContext with
      recentMessages :=
        [{ role := .user, content := prompt, timestamp := 0, nodeId := none, tokenCount := 0 }] }
    prompt := prompt
    params := {
      maxTokens := request.maxTokens
      temperature := request.temperature
      requestId := request.requestId } }

end Pinaivu.Api
