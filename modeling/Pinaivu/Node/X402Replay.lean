import Pinaivu.Lib.Runs
import Pinaivu.Node.X402Acceptance

/-!
The gates of `infer_handler` over a run of requests. The node keeps nothing between two
requests, so a step depends on the request and the chain's answer only.
-/

namespace Pinaivu.X402

open FirstMatch JsonText UnicodeText

/-- The values of the request's headers that are text. -/
structure InferHeaders where
  authorization : Option String
  xApiKey : Option String
  xPayment : Option String

structure InferCall where
  headers : InferHeaders
  rpc : String → Except String Json

inductive GateError where
  | unauthorized
  | refused (reason : Refusal)

def providedKey (headers : InferHeaders) : Option String :=
  let bearer := headers.authorization.bind fun text =>
    (text.toList.dropPrefix? "Bearer ".toList).map String.ofList
  bearer.or headers.xApiKey

def checkApiKey (headers : InferHeaders) (apiKey : String) : Bool :=
  apiKey = "" || providedKey headers = some apiKey

/-- The transaction of a hash text, which may be written in either case. -/
def transactionOf (txHash : String) : Option (List UInt8) := Hex.decode (txHash.toList.drop 2)

section

variable (lower : String → String) (base64 : List Char → Option ByteArray) (config : X402Section)
variable (apiKey : String)

def inferGate (call : InferCall) : Except GateError String :=
  if checkApiKey call.headers apiKey then
    (checkPayment lower config base64 call.rpc call.headers.xPayment).mapError .refused
  else .error .unauthorized

def presented (call : InferCall) : Option (List UInt8) := do
  let header ← call.headers.xPayment
  let txHash ← (parsePaymentHeader config base64 header).toOption
  transactionOf txHash

def passesGate (call : InferCall) : Bool := (inferGate lower base64 config apiKey call).isOk

/-- The transaction that pays for a request, when the gate lets the request through. -/
def payment (call : InferCall) : Option (List UInt8) :=
  if passesGate lower base64 config apiKey call then presented base64 config call else none

def payments (calls : List InferCall) : List (List UInt8) :=
  calls.filterMap (payment lower base64 config apiKey)

/-- An acceptable key: none is asked for, or the configured one is given. -/
def Keyed (headers : InferHeaders) : Prop := apiKey = "" ∨ providedKey headers = some apiKey

/-- The header is a payload for the node's network that gives this hash. -/
def Names (header txHash : String) : Prop :=
  ∃ bytes payload, base64 (trim header) = some bytes ∧ (ofBytesSpaced bytes).bind decodePayload = some payload ∧
    payload.x402Version = 1 ∧ payload.scheme = "exact" ∧ payload.network = config.network ∧
    (trim payload.payload.transaction).take 2 = ['0', 'x'] ∧ byteLength (trim payload.payload.transaction) = 66 ∧
    String.ofList (trim payload.payload.transaction) = txHash

/-- A successful receipt, addressed to the node or with a first transfer to the node that passes. -/
def Confirms (answer : Except String Json) : Prop :=
  config.rpcUrl ≠ "" ∧ ∃ response envelope receipt, answer = .ok response ∧
    decodeEnvelope response = some envelope ∧ envelope.error = none ∧ envelope.result = some receipt ∧
    receipt.status = some "0x1" ∧
    (AddressedToNode lower config receipt ∨
      ∃ log, IsFirst (Stops lower config) receipt.logs log ∧ LetsThrough lower config log)

/-- The request comes with an acceptable key, and with a header that names the transaction, for which
the endpoint then has a confirming receipt. -/
def Spends (call : InferCall) (transaction : List UInt8) : Prop :=
  Keyed apiKey call.headers ∧ ∃ header txHash, call.headers.xPayment = some header ∧
    Names base64 config header txHash ∧ transactionOf txHash = some transaction ∧
    Confirms lower config (call.rpc txHash)

end

section

variable {lower : String → String} {base64 : List Char → Option ByteArray} {config : X402Section}
variable {apiKey header txHash : String}

theorem checkApiKey_iff (headers : InferHeaders) : checkApiKey headers apiKey = true ↔ Keyed apiKey headers := by
  simp [checkApiKey, Keyed]

theorem parsePaymentHeader_iff :
    parsePaymentHeader config base64 header = .ok txHash ↔ Names base64 config header txHash := by
  constructor
  · intro parsed
    unfold parsePaymentHeader at parsed
    split at parsed
    · contradiction
    · next bytes opened =>
        split at parsed
        · contradiction
        · next payload read =>
            dsimp only at parsed
            have version : payload.x402Version = 1 := by
              by_contra other
              rw [if_pos other] at parsed
              contradiction
            have scheme : payload.scheme = "exact" := by
              by_contra other
              rw [if_neg (not_not.mpr version), if_pos other] at parsed
              contradiction
            have network : payload.network = config.network := by
              by_contra other
              rw [if_neg (not_not.mpr version), if_neg (not_not.mpr scheme), if_pos other] at parsed
              contradiction
            rw [if_neg (not_not.mpr version), if_neg (not_not.mpr scheme), if_neg (not_not.mpr network)] at parsed
            split at parsed
            · contradiction
            · split at parsed
              · contradiction
              · next shape =>
                  rw [not_or, not_not, not_not] at shape
                  exact ⟨bytes, payload, opened, read, version, scheme, network, shape.1, shape.2,
                    Except.ok.inj parsed⟩
  · rintro ⟨bytes, payload, opened, read, version, scheme, network, tagged, long, rfl⟩
    have written : trim payload.payload.transaction ≠ [] := by
      intro empty
      simp [empty] at tagged
    simp [parsePaymentHeader, opened, read, version, scheme, network, written, tagged, long]

theorem confirmedReceipt_iff {response : Json} {receipt : TxReceipt} :
    confirmedReceipt config (.ok response) = .ok receipt ↔
      config.rpcUrl ≠ "" ∧ ∃ envelope, decodeEnvelope response = some envelope ∧ envelope.error = none ∧
        envelope.result = some receipt ∧ receipt.status = some "0x1" := by
  unfold confirmedReceipt
  constructor
  · intro confirmed
    split_ifs at confirmed with url
    dsimp only at confirmed
    split at confirmed
    · contradiction
    · next envelope decoded =>
        refine ⟨url, envelope, decoded, ?_⟩
        split at confirmed
        · contradiction
        · contradiction
        · next found noError result =>
            split at confirmed
            · contradiction
            · next status known =>
                split_ifs at confirmed with success
                obtain rfl := Except.ok.inj confirmed
                exact ⟨noError, result, by rw [known, success]⟩
  · rintro ⟨url, envelope, decoded, noError, result, success⟩
    simp [url, decoded, noError, result, success]

theorem verifyOnchain_iff {answer : Except String Json} :
    (∃ payer, verifyOnchain lower config answer = .ok payer) ↔ Confirms lower config answer := by
  constructor
  · rintro ⟨payer, verified⟩
    cases answer with
    | error detail =>
        unfold verifyOnchain confirmedReceipt at verified
        split_ifs at verified
    | ok response =>
        cases confirmed : confirmedReceipt config (.ok response) with
        | error reason => simp [verifyOnchain, confirmed] at verified
        | ok receipt =>
            obtain ⟨url, envelope, decoded, noError, result, success⟩ := confirmedReceipt_iff.mp confirmed
            exact ⟨url, response, envelope, receipt, rfl, decoded, noError, result, success,
              (verifyOnchain_receipt confirmed).mp ⟨payer, verified⟩⟩
  · rintro ⟨url, response, envelope, receipt, rfl, decoded, noError, result, success, accepted⟩
    have confirmed := confirmedReceipt_iff.mpr ⟨url, envelope, decoded, noError, result, success⟩
    exact (verifyOnchain_receipt confirmed).mpr accepted

theorem presented_iff {call : InferCall} {transaction : List UInt8} :
    presented base64 config call = some transaction ↔ ∃ header txHash, call.headers.xPayment = some header ∧
      parsePaymentHeader config base64 header = .ok txHash ∧ transactionOf txHash = some transaction := by
  have parsed : ∀ header txHash, (parsePaymentHeader config base64 header).toOption = some txHash ↔
      parsePaymentHeader config base64 header = .ok txHash := by
    intro header txHash
    cases parsePaymentHeader config base64 header <;> simp [Except.toOption]
  simp [presented, Option.bind_eq_some_iff, parsed]

theorem passesGate_iff (enabled : config.enabled = true) {call : InferCall}
    (presents : call.headers.xPayment = some header)
    (parsed : parsePaymentHeader config base64 header = .ok txHash) :
    passesGate lower base64 config apiKey call = true ↔
      Keyed apiKey call.headers ∧ Confirms lower config (call.rpc txHash) := by
  rw [passesGate, inferGate, ← checkApiKey_iff, ← verifyOnchain_iff]
  simp only [checkPayment, enabled, presents, parsed, if_true]
  cases checkApiKey call.headers apiKey with
  | false => simp [Except.isOk, Except.toBool]
  | true =>
      cases verifyOnchain lower config (call.rpc txHash) with
      | ok payer => simp [Except.mapError, Except.isOk, Except.toBool]
      | error failure => cases failure <;> simp [Except.mapError, Except.isOk, Except.toBool]

theorem payment_iff (enabled : config.enabled = true) (call : InferCall) (transaction : List UInt8) :
    payment lower base64 config apiKey call = some transaction ↔
      Spends lower base64 config apiKey call transaction := by
  have passed : payment lower base64 config apiKey call = some transaction ↔
      passesGate lower base64 config apiKey call = true ∧ presented base64 config call = some transaction := by
    simp [payment]
  rw [passed, presented_iff]
  constructor
  · rintro ⟨passes, header, txHash, presents, parsed, named⟩
    obtain ⟨keyed, confirms⟩ := (passesGate_iff enabled presents parsed).mp passes
    exact ⟨keyed, header, txHash, presents, parsePaymentHeader_iff.mp parsed, named, confirms⟩
  · rintro ⟨keyed, header, txHash, presents, names, named, confirms⟩
    have parsed := parsePaymentHeader_iff.mpr names
    exact ⟨(passesGate_iff enabled presents parsed).mpr ⟨keyed, confirms⟩, header, txHash, presents, parsed, named⟩

end

def paidHash : String := "0xabababababababababababababababababababababababababababababababab"

def paidPayload : Json := .object
  [("x402Version", .number (.ofNat 1)),
    ("scheme", .string "exact"),
    ("network", .string "base-sepolia"),
    ("payload", .object
      [("transaction", .string paidHash),
        ("signature", .string "0x")])]

def paidHeader : String :=
  "eyJ4NDAyVmVyc2lvbiI6MSwic2NoZW1lIjoiZXhhY3QiLCJuZXR3b3JrIjoiYmFzZS1zZXBvbGlhIiwicGF5bG9hZCI6eyJ0cmFuc2FjdGlvbiI6IjB4YWJhYmFiYWJhYmFiYWJhYmFiYWJhYmFiYWJhYmFiYWJhYmFiYWJhYmFiYWJhYmFiYWJhYmFiYWJhYmFiYWJhYiIsInNpZ25hdHVyZSI6IjB4In19"

def paidBase64 (text : List Char) : Option ByteArray :=
  if text = paidHeader.toList then some (toBytes paidPayload) else none

def paidResponse : Json := .object
  [("jsonrpc", .string "2.0"),
    ("result", .object
      [("status", .string "0x1"),
        ("to", .string "0x036cbd53842c5426634e7929541ec2318f3dcf7e"),
        ("logs", .array [.object
          [("address", .string "0x036cbd53842c5426634e7929541ec2318f3dcf7e"),
            ("topics", .array
              [.string transferSig,
                .string "0x0000000000000000000000003333333333333333333333333333333333333333",
                .string "0x0000000000000000000000001111111111111111111111111111111111111111"]),
            ("data", .string "0x00000000000000000000000000000000000000000000000000000000000003e8")]])])]

def paidCall : InferCall where
  headers := { authorization := none, xApiKey := none, xPayment := some paidHeader }
  rpc := fun _ => .ok paidResponse

def unpaidCall : InferCall where
  headers := { authorization := none, xApiKey := none, xPayment := none }
  rpc := fun _ => .error "not asked"

theorem decodePayload_paid : decodePayload paidPayload = some ⟨1, "exact", "base-sepolia", ⟨paidHash, "0x"⟩⟩ := by
  have once : ["x402Version", "scheme", "network", "payload"].Nodup := by decide
  have inner : ["transaction", "signature"].Nodup := by decide
  simp (disch := first | assumption | decide) only [decodePayload, paidPayload, structFields_object,
    Option.bind_eq_bind, Option.bind_some, Option.pure_def, requiredField_head, requiredField_tail, decodeInner,
    decodeString]
  rfl

set_option maxRecDepth 4000 in
theorem names_paid : Names paidBase64 baseConfig paidHeader paidHash := by
  have header : trim paidHeader = paidHeader.toList :=
    (trim_visible (by decide +kernel)).trans String.toList_ofList.symm
  have hash : trim paidHash = paidHash.toList := (trim_visible (by decide +kernel)).trans String.toList_ofList.symm
  have tagged : paidHash.toList.take 2 = ['0', 'x'] := by decide +kernel
  have long : byteLength paidHash.toList = 66 := by decide +kernel
  rw [← hash] at tagged long
  refine ⟨toBytes paidPayload, ⟨1, "exact", "base-sepolia", ⟨paidHash, "0x"⟩⟩, ?_, ?_, rfl, rfl, rfl, tagged, long, ?_⟩
  · rw [header]
    exact if_pos rfl
  · rw [ofBytesSpaced_toBytes, Option.bind_some]
    exact decodePayload_paid
  · rw [hash, String.ofList_toList]

theorem spends_paid : Spends asciiLower paidBase64 baseConfig "" paidCall (List.replicate 32 0xab) := by
  have verified : verifyOnchain asciiLower baseConfig (.ok paidResponse) =
      .ok "0x3333333333333333333333333333333333333333" := by decide +kernel
  exact ⟨.inl rfl, paidHeader, paidHash, rfl, names_paid, by decide +kernel, verifyOnchain_iff.mp ⟨_, verified⟩⟩

end Pinaivu.X402
