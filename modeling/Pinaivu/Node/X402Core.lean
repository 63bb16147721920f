import Pinaivu.Lib.JsonDecode
import Pinaivu.Lib.JsonPretty
import Pinaivu.Lib.UnicodeText

/-!
The x402 payment gate of `crates/node/src/x402.rs`. The answers of the chain's RPC
endpoint, base64 and the Unicode lower-case table are arguments; each error stands for
one message of the source.
-/

namespace Pinaivu.X402

open JsonText UnicodeText

structure X402Section where
  enabled : Bool
  usdcAddress : String
  priceUnits : UInt64
  network : String
  nodeEvmAddress : String
  rpcUrl : String
  deriving DecidableEq, Repr

structure PaymentPayloadInner where
  transaction : String
  signature : String

structure PaymentPayload where
  x402Version : UInt32
  scheme : String
  network : String
  payload : PaymentPayloadInner

structure TxLog where
  topics : List String
  data : String
  deriving DecidableEq, Repr

structure TxReceipt where
  status : Option String
  «to» : Option String
  logs : List TxLog
  deriving DecidableEq, Repr

structure RpcEnvelope where
  result : Option TxReceipt
  error : Option Json

inductive HeaderError where
  | base64
  | json
  | version (given : UInt32)
  | scheme (given : String)
  | network (given expected : String)
  | missingHash
  | notAHash (length : Nat)
  deriving DecidableEq, Repr

inductive VerifyError where
  | rpcUrlMissing
  | requestFailed (detail : String)
  | parseFailed
  | rpcError
  | notFound
  | reverted (status : String)
  | noStatus
  | amountTooSmall (amount required : Nat)
  | noTransfer (node : String)
  deriving DecidableEq, Repr

inductive Failure where
  | error (reason : VerifyError)
  | panic
  deriving DecidableEq, Repr

inductive Refusal where
  | paymentRequired (body : Json)
  | invalidPayment (reason : HeaderError)
  | notVerified (reason : VerifyError) (txHash : String)
  | panic

def decodeInner (value : Json) : Option PaymentPayloadInner := do
  let fields ← structFields ["transaction", "signature"] 0 value
  return {
    transaction := ← requiredField fields "transaction" decodeString
    signature := ← requiredField fields "signature" decodeString }

def decodePayload (value : Json) : Option PaymentPayload := do
  let fields ← structFields ["x402Version", "scheme", "network", "payload"] 0 value
  let version ← requiredField fields "x402Version" (decodeUnsigned (2 ^ 32))
  return {
    x402Version := UInt32.ofNat version
    scheme := ← requiredField fields "scheme" decodeString
    network := ← requiredField fields "network" decodeString
    payload := ← requiredField fields "payload" decodeInner }

def decodeLog (value : Json) : Option TxLog := do
  let fields ← structFields ["topics", "data"] 0 value
  return {
    topics := ← requiredField fields "topics" (decodeList decodeString)
    data := ← requiredField fields "data" decodeString }

def receiptFields : Json → Option (String → Option Json) := structFields ["status", "to", "logs"] 1

def decodeReceipt (value : Json) : Option TxReceipt := do
  let fields ← receiptFields value
  return {
    status := ← optionalField fields "status" decodeString
    «to» := ← optionalField fields "to" decodeString
    logs := ← match fields "logs" with
      | none => some []
      | some logs => decodeList decodeLog logs }

def envelopeFields : Json → Option (String → Option Json) := structFields ["result", "error"] 0

def decodeEnvelope (value : Json) : Option RpcEnvelope := do
  let fields ← envelopeFields value
  return {
    result := ← optionalField fields "result" decodeReceipt
    error := ← optionalField fields "error" some }

def lastBytes (count : Nat) (text : List Char) : Except Failure (List Char) :=
  match byteDrop (byteLength text - count) text with
  | none => .error .panic
  | some last => .ok last

def topicAddress (topic : String) : Except Failure String := do
  let digits ← lastBytes 40 topic.toList
  return "0x" ++ String.ofList digits

def trimStart0x : List Char → List Char
  | '0' :: 'x' :: rest => trimStart0x rest
  | text => text

/-- `u64::from_str_radix(text, 16)`: a sign may come first, and digits must follow. -/
def fromStrRadix16 (text : List Char) : Option Nat := do
  let digits := match text with
    | '+' :: digits => digits
    | digits => digits
  if digits = [] then none
  else do
    let value ← Hex.number digits
    if value < 2 ^ 64 then some value else none

def transferSig : String := "0xddf252ad1be2c89b69c2b068fc378daa952ba7f163c4a11628f55a4df523b3ef"

section

variable (lower : String → String) (config : X402Section)

def make402Body (resourceUrl : String) : Json := .object
  [("x402Version", .number (.ofNat 1)),
    ("accepts", .array [.object
      [("scheme", .string "exact"),
        ("network", .string config.network),
        ("maxAmountRequired", .string (toString config.priceUnits)),
        ("resource", .string resourceUrl),
        ("description", .string "Pinaivu AI inference — pay per request"),
        ("mimeType", .string "application/x-ndjson"),
        ("payTo", .string config.nodeEvmAddress),
        ("maxTimeoutSeconds", .number (.ofNat 300)),
        ("asset", .string config.usdcAddress),
        ("extra", .object [])]])]

def parsePaymentHeader (base64 : List Char → Option ByteArray) (header : String) :
    Except HeaderError String :=
  match base64 (trim header) with
  | none => .error .base64
  | some decoded =>
      match (ofBytesSpaced decoded).bind decodePayload with
      | none => .error .json
      | some payload =>
          if payload.x402Version ≠ 1 then .error (.version payload.x402Version)
          else if payload.scheme ≠ "exact" then .error (.scheme payload.scheme)
          else if payload.network ≠ config.network then
            .error (.network payload.network config.network)
          else
            let tx := trim payload.payload.transaction
            if tx = [] then .error .missingHash
            else if tx.take 2 ≠ ['0', 'x'] ∨ byteLength tx ≠ 66 then .error (.notAHash (byteLength tx))
            else .ok (String.ofList tx)

/-- The amount is looked at only where the data has 16 digits, and only the last 16. -/
def checkAmount (data : String) : Except Failure Unit :=
  let digits := trimStart0x data.toList
  if 16 ≤ byteLength digits then do
    let last ← lastBytes 16 digits
    let amount := (fromStrRadix16 last).getD 0
    if amount < config.priceUnits.toNat then
      .error (.error (.amountTooSmall amount config.priceUnits.toNat))
    else .ok ()
  else .ok ()

def checkLogs (node : String) : List TxLog → Except Failure String
  | [] => .error (.error (.noTransfer node))
  | log :: rest =>
      match log.topics with
      | signature :: source :: target :: _ =>
          if lower signature ≠ transferSig then checkLogs node rest
          else do
            let recipient ← topicAddress (lower target)
            if recipient ≠ node then checkLogs node rest
            else do
              checkAmount config log.data
              topicAddress (lower source)
      | _ => checkLogs node rest

def confirmedReceipt (answer : Except String Json) : Except VerifyError TxReceipt :=
  if config.rpcUrl = "" then .error .rpcUrlMissing
  else
    match answer with
    | .error detail => .error (.requestFailed detail)
    | .ok response =>
        match decodeEnvelope response with
        | none => .error .parseFailed
        | some envelope =>
            match envelope.error, envelope.result with
            | some _, _ => .error .rpcError
            | none, none => .error .notFound
            | none, some receipt =>
                match receipt.status with
                | none => .error .noStatus
                | some status => if status = "0x1" then .ok receipt else .error (.reverted status)

/-- `verify_onchain`, given the endpoint's answer for the transaction. -/
def verifyOnchain (answer : Except String Json) : Except Failure String :=
  match confirmedReceipt config answer with
  | .error reason => .error (.error reason)
  | .ok receipt =>
      let node := lower config.nodeEvmAddress
      match receipt.«to» with
      | some target => if lower target = node then .ok node else checkLogs lower config node receipt.logs
      | none => checkLogs lower config node receipt.logs

def checkPayment (base64 : List Char → Option ByteArray) (rpc : String → Except String Json)
    (header : Option String) : Except Refusal String :=
  if config.enabled then
    match header with
    | none => .error (.paymentRequired (make402Body config "https://node/v1/infer"))
    | some value =>
        match parsePaymentHeader config base64 value with
        | .error reason => .error (.invalidPayment reason)
        | .ok txHash =>
            match verifyOnchain lower config (rpc txHash) with
            | .ok payer => .ok payer
            | .error (.error reason) => .error (.notVerified reason txHash)
            | .error .panic => .error .panic
  else .ok ""

end

end Pinaivu.X402
