import Pinaivu.Lib.JsRuntime
import Pinaivu.Lib.Runs
import Pinaivu.P2P.SdkWire
import Pinaivu.Sdk.Crypto

/-!
`Session` of `sdk/src/session.ts`. Calls of `send` and `save` on one session run up to their next
`await` in each step, in any order. What a call draws, what the transport yields to it and which
of the things that it awaits fail is part of the call.
-/

namespace Pinaivu.Sdk

open Context JsonText

/-! Times and counts are natural numbers. -/

structure Message where
  role : Role
  content : String
  timestamp : Nat
  nodeId : Option String
  tokenCount : Nat
  deriving DecidableEq, Repr

structure ContextWindow where
  systemPrompt : Option String
  summary : Option String
  recentMessages : List Message
  totalTokens : Nat
  deriving DecidableEq, Repr

structure SessionMetadata where
  createdAt : Nat
  lastUpdated : Nat
  turnCount : Nat
  totalTokensUsed : Nat
  totalCostNanox : Nat
  walrusBlobId : Option BlobId
  prevBlobId : Option BlobId
  deriving DecidableEq, Repr

structure SessionContext where
  sessionId : String
  userAddress : String
  modelId : String
  messages : List Message
  contextWindow : ContextWindow
  metadata : SessionMetadata
  deriving DecidableEq, Repr

def Message.toJson (message : Message) : Json := .object
  [("role", .string message.role.name),
    ("content", .string message.content),
    ("timestamp", unsignedJson message.timestamp),
    ("node_id", optionJson message.nodeId),
    ("token_count", unsignedJson message.tokenCount)]

def ContextWindow.toJson (window : ContextWindow) : Json := .object
  [("system_prompt", optionJson window.systemPrompt),
    ("summary", optionJson window.summary),
    ("recent_messages", .array (window.recentMessages.map Message.toJson)),
    ("total_tokens", unsignedJson window.totalTokens)]

def SessionMetadata.toJson (metadata : SessionMetadata) : Json := .object
  [("created_at", unsignedJson metadata.createdAt),
    ("last_updated", unsignedJson metadata.lastUpdated),
    ("turn_count", unsignedJson metadata.turnCount),
    ("total_tokens_used", unsignedJson metadata.totalTokensUsed),
    ("total_cost_nanox", unsignedJson metadata.totalCostNanox),
    ("walrus_blob_id", optionJson metadata.walrusBlobId),
    ("prev_blob_id", optionJson metadata.prevBlobId)]

def SessionContext.toJson (context : SessionContext) : Json := .object
  [("session_id", .string context.sessionId),
    ("user_address", .string context.userAddress),
    ("model_id", .string context.modelId),
    ("messages", .array (context.messages.map Message.toJson)),
    ("context_window", context.contextWindow.toJson),
    ("metadata", context.metadata.toJson)]

def decodeCount (value : Json) : Option Nat := (decodeNumber value).bind NumberToken.toNat?

def decodeRole (value : Json) : Option Role :=
  (decodeString value).bind fun name => [Role.user, .assistant, .system].find? fun role => role.name = name

def decodeMessage (value : Json) : Option Message := do
  return {
    role := ← (Js.get "role" value).bind decodeRole
    content := ← (Js.get "content" value).bind decodeString
    timestamp := ← (Js.get "timestamp" value).bind decodeCount
    nodeId := ← (Js.get "node_id" value).bind (decodeOption decodeString)
    tokenCount := ← (Js.get "token_count" value).bind decodeCount }

def decodeContextWindow (value : Json) : Option ContextWindow := do
  return {
    systemPrompt := ← (Js.get "system_prompt" value).bind (decodeOption decodeString)
    summary := ← (Js.get "summary" value).bind (decodeOption decodeString)
    recentMessages := ← (Js.get "recent_messages" value).bind (decodeList decodeMessage)
    totalTokens := ← (Js.get "total_tokens" value).bind decodeCount }

def decodeMetadata (value : Json) : Option SessionMetadata := do
  return {
    createdAt := ← (Js.get "created_at" value).bind decodeCount
    lastUpdated := ← (Js.get "last_updated" value).bind decodeCount
    turnCount := ← (Js.get "turn_count" value).bind decodeCount
    totalTokensUsed := ← (Js.get "total_tokens_used" value).bind decodeCount
    totalCostNanox := ← (Js.get "total_cost_nanox" value).bind decodeCount
    walrusBlobId := ← (Js.get "walrus_blob_id" value).bind (decodeOption decodeString)
    prevBlobId := ← (Js.get "prev_blob_id" value).bind (decodeOption decodeString) }

def decodeContext (value : Json) : Option SessionContext := do
  return {
    sessionId := ← (Js.get "session_id" value).bind decodeString
    userAddress := ← (Js.get "user_address" value).bind decodeString
    modelId := ← (Js.get "model_id" value).bind decodeString
    messages := ← (Js.get "messages" value).bind (decodeList decodeMessage)
    contextWindow := ← (Js.get "context_window" value).bind decodeContextWindow
    metadata := ← (Js.get "metadata" value).bind decodeMetadata }

structure SessionOptions where
  systemPrompt : Option String := none
  maxTokens : Option P2P.JsNumber := none
  temperature : Option P2P.JsNumber := none
  bidWindowMs : Option P2P.JsNumber := none

theorem temperature_chars : ∀ char ∈ ['0', '.', '7'], numberChar char = true := List.all_eq_true.mp rfl

theorem temperature_valid : validNumber ['0', '.', '7'] = true := rfl

def defaultTemperature : NumberToken := ⟨['0', '.', '7'], temperature_chars, temperature_valid⟩

structure RequiredOptions where
  systemPrompt : String
  maxTokens : P2P.JsNumber
  temperature : P2P.JsNumber
  bidWindowMs : P2P.JsNumber

def SessionOptions.required (options : SessionOptions) : RequiredOptions where
  systemPrompt := options.systemPrompt.getD ""
  maxTokens := options.maxTokens.getD (.finite (.ofNat 2048))
  temperature := options.temperature.getD (.finite defaultTemperature)
  bidWindowMs := options.bidWindowMs.getD (.finite (.ofNat 500))

structure Session where
  context : SessionContext
  sessionKey : SessionKey
  options : RequiredOptions

/-- The nonce and the clock of one save, and whether the storage refuses it. -/
structure Save where
  nonce : Nonce
  now : Nat
  putFails : Bool := false

structure Send where
  userMessage : String
  now : Nat
  requestId : String
  promptNonce : Nonce
  /-- What the transport yields, and whether it throws after that or is abandoned. -/
  tokens : List String
  streamFails : Bool := false
  save : Save

inductive Operation where
  | send (send : Send)
  | save (save : Save)

/-- `text.length`: UTF-16 code units. -/
def utf16Length (text : String) : Nat :=
  (text.toList.map fun char => if char.toNat < 65536 then 1 else 2).foldr (· + ·) 0

def quarter (length : Nat) : Nat := (length + 3) / 4

def turn (userMessage assistantReply : String) (timestamp : Nat) : List Message :=
  [{ role := .user
     content := userMessage
     timestamp
     nodeId := none
     tokenCount := quarter (utf16Length userMessage) },
    { role := .assistant
      content := assistantReply
      timestamp
      nodeId := none
      tokenCount := quarter (utf16Length assistantReply) }]

def SessionContext.appendTurn (context : SessionContext) (userMessage assistantReply : String)
    (timestamp : Nat) : SessionContext :=
  { context with
    messages := context.messages ++ turn userMessage assistantReply timestamp
    metadata := { context.metadata with
      turnCount := context.metadata.turnCount + 1
      totalTokensUsed := context.metadata.totalTokensUsed +
        quarter (utf16Length userMessage + utf16Length assistantReply)
      lastUpdated := timestamp } }

/-- What `save` writes into the metadata after the storage has answered. -/
def SessionContext.moveTo (context : SessionContext) (id : BlobId) (now : Nat) : SessionContext :=
  { context with
    metadata := { context.metadata with
      prevBlobId := context.metadata.walrusBlobId
      walrusBlobId := some id
      lastUpdated := now } }

def jsByte (byte : UInt8) : P2P.JsNumber := .finite (.ofNat byte.toNat)

def Session.inferenceRequest (session : Session) (send : Send) (promptBlob : EncryptedBlob) :
    P2P.SdkInferenceRequest where
  requestId := send.requestId
  sessionId := session.context.sessionId
  modelPreference := session.context.modelId
  contextBlobId := session.context.metadata.walrusBlobId
  promptEncrypted := promptBlob.ciphertext.map jsByte
  promptNonce := promptBlob.nonce.map jsByte
  maxTokens := session.options.maxTokens
  temperature := session.options.temperature
  escrowTxId := ""
  budgetNanox := .finite (.ofNat 0)
  timestamp := .finite (.ofNat send.now)
  clientPeerId := ""
  privacyLevel := .standard

inductive Phase where
  | idle
  | prompting (send : Send)
  | streaming (send : Send) (request : P2P.SdkInferenceRequest) (reply : String) (remaining : List String)
  | encrypting (save : Save) (json : List UInt8)
  | putting (save : Save) (data : List UInt8)
  | stored (save : Save) (id : BlobId)
  | resolved (id : BlobId)
  | rejected

structure World (Blobs Call : Type) where
  session : Session
  blobs : Blobs
  phase : Call → Phase

def contextBytes (context : SessionContext) : List UInt8 := (toBytes context.toJson).data.toList

def parseContext (bytes : List UInt8) : Except String SessionContext :=
  match (ofBytesSpaced ⟨bytes.toArray⟩).bind decodeContext with
  | some context => .ok context
  | none => .error "SyntaxError"

section

variable {Blobs Call : Type} (storage : StorageClient Blobs) (packages : Packages)

/-- `encryptJson` after the text has been written, and `toBytes`. -/
def sealContext (key : SessionKey) (nonce : Nonce) (json : List UInt8) : Except String (List UInt8) := do
  let blob ← SessionKey.encrypt packages key nonce json
  blob.toBytes

/-- `EncryptedBlob.fromBytes` and `decryptJson`. -/
def openContext (key : SessionKey) (raw : List UInt8) : Except String SessionContext := do
  let blob ← EncryptedBlob.fromBytes raw
  let bytes ← SessionKey.decrypt packages key blob
  parseContext bytes

def Session.load (blobs : Blobs) (id : BlobId) (key : SessionKey) (options : SessionOptions) :
    Except String Session :=
  match storage.get blobs id with
  | none => .error ("blob not found: " ++ id)
  | some raw => do
      let context ← openContext packages key raw
      return { context, sessionKey := key, options := options.required }

variable [DecidableEq Call] (operations : Call → Operation)

def World.enter (world : World Blobs Call) (call : Call) (phase : Phase) : World Blobs Call :=
  { world with phase := Function.update world.phase call phase }

def World.setContext (world : World Blobs Call) (context : SessionContext) : World Blobs Call :=
  { world with session := { world.session with context } }

/-- The start of `save`: the text of the session is written before anything is awaited. -/
def World.beginSave (world : World Blobs Call) (call : Call) (save : Save) : World Blobs Call :=
  world.enter call (.encrypting save (contextBytes world.session.context))

/-- One call goes on to its next `await`. -/
def step (world : World Blobs Call) (call : Call) : World Blobs Call :=
  match world.phase call with
  | .idle =>
      match operations call with
      | .send send => world.enter call (.prompting send)
      | .save save => world.beginSave call save
  | .prompting send =>
      match SessionKey.encrypt packages world.session.sessionKey send.promptNonce (encodeText send.userMessage) with
      | .ok blob => world.enter call (.streaming send (world.session.inferenceRequest send blob) "" send.tokens)
      | .error _ => world.enter call .rejected
  | .streaming send request reply (token :: remaining) =>
      world.enter call (.streaming send request (reply ++ token) remaining)
  | .streaming send _ reply [] =>
      if send.streamFails then world.enter call .rejected
      else
        (world.setContext (world.session.context.appendTurn send.userMessage reply send.now)).beginSave call send.save
  | .encrypting save json =>
      match sealContext packages world.session.sessionKey save.nonce json with
      | .ok data => world.enter call (.putting save data)
      | .error _ => world.enter call .rejected
  | .putting save data =>
      if save.putFails then world.enter call .rejected
      else
        { world with
          blobs := (storage.put world.blobs data).1
          phase := Function.update world.phase call (.stored save (storage.put world.blobs data).2) }
  | .stored save id =>
      (world.setContext (world.session.context.moveTo id save.now)).enter call (.resolved id)
  | .resolved _ => world
  | .rejected => world

def begin (session : Session) (blobs : Blobs) : World Blobs Call := ⟨session, blobs, fun _ => .idle⟩

def history (session : Session) (blobs : Blobs) (schedule : List Call) : World Blobs Call :=
  Runs.run (step storage packages operations) (begin session blobs) schedule

end

end Pinaivu.Sdk
