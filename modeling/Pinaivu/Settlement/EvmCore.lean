import Pinaivu.Settlement.Adapter
import Pinaivu.Settlement.Eip1559Core

/-!
`EvmSettlement` of `settlement/evm.rs`: ABI words, sending a call, and the escrow
operations. The answers of the JSON-RPC node are an argument, and a call keeps what it
submits to the node. An error is the list of its messages, the outermost context first.
-/

namespace Pinaivu.Evm

open Settlement

inductive Failure where
  | error (messages : List String)
  | panic
  deriving DecidableEq, Repr

def withContext {Result : Type} (message : String) :
    Except Failure Result → Except Failure Result
  | .ok result => .ok result
  | .error (.error messages) => .error (.error (message :: messages))
  | .error .panic => .error .panic

theorem ok_bind {First Second : Type} (first : First) (next : First → Except Failure Second) :
    (Except.ok first >>= next) = next first := rfl

theorem bind_ok {First Second : Type} {first : Except Failure First}
    {next : First → Except Failure Second} {result : Second}
    (found : (first >>= next) = .ok result) : ∃ value, first = .ok value ∧ next value = .ok result := by
  cases first with
  | error failure => cases found
  | ok value => exact ⟨value, rfl, found⟩

theorem withContext_ok {Result : Type} {message : String} {answer : Except Failure Result}
    {result : Result} (found : withContext message answer = .ok result) : answer = .ok result := by
  cases answer with
  | error failure => cases failure <;> cases found
  | ok value => exact found

/-- A call of the adapter: the bytes that it hands to `eth_sendRawTransaction`, and its result. -/
structure Sending (Result : Type) where
  submitted : List (List UInt8)
  result : Except Failure Result

namespace Sending

instance : Monad Sending where
  pure value := ⟨[], .ok value⟩
  bind first next :=
    match first.result with
    | .error failure => ⟨first.submitted, .error failure⟩
    | .ok value => ⟨first.submitted ++ (next value).submitted, (next value).result⟩

instance : MonadLift (Except Failure) Sending := ⟨fun result => ⟨[], result⟩⟩

def fail {Result : Type} (failure : Failure) : Sending Result := ⟨[], .error failure⟩

def withContext {Result : Type} (message : String) (call : Sending Result) : Sending Result :=
  ⟨call.submitted, Evm.withContext message call.result⟩

section

variable {First Result : Type}

theorem bind_result (first : Sending First) (next : First → Sending Result) :
    (first >>= next).result = first.result >>= fun value => (next value).result := by
  obtain ⟨submitted, result⟩ := first
  cases result <;> rfl

theorem bind_submitted {first : Sending First} {next : First → Sending Result}
    (quiet : ∀ value, (next value).submitted = []) : (first >>= next).submitted = first.submitted := by
  obtain ⟨submitted, result⟩ := first
  cases result with
  | error failure => rfl
  | ok value =>
      have same : submitted ++ (next value).submitted = submitted := by
        rw [quiet, List.append_nil]
      exact same

theorem bind_ok {first : Sending First} {next : First → Sending Result} {result : Result}
    (found : (first >>= next).result = .ok result) :
    ∃ value, first.result = .ok value ∧ (next value).result = .ok result := by
  rw [bind_result] at found
  exact Evm.bind_ok found

theorem withContext_ok {message : String} {call : Sending Result} {result : Result}
    (found : (call.withContext message).result = .ok result) : call.result = .ok result := Evm.withContext_ok found

end

end Sending

structure EvmConfig where
  id : String
  contractAddress : String
  chainId : UInt64
  signerSeed : Option (Vector UInt8 32)

abbrev Calldata := { bytes : List UInt8 // bytes.length < 2 ^ 63 }

/-- The node's answers while one transaction is sent: `get_nonce`, the pair of
`fee_params`, `estimate_gas`, and the answer to a raw transaction if it is a string. -/
structure Rpc where
  nonce : Except Failure UInt64
  fees : Except Failure (UInt64 × UInt64)
  gas : Option UInt64
  sendRawTransaction : List UInt8 → Except Failure (Option String)

def Rpc.submit (rpc : Rpc) (raw : List UInt8) : Sending (Option String) := ⟨[raw], rpc.sendRawTransaction raw⟩

def zeros (count : Nat) : List UInt8 := List.replicate count 0

def abiSelector (keccak256 : List UInt8 → Vector UInt8 32) (sig : String) : List UInt8 :=
  (keccak256 sig.toUTF8.data.toList).toList.take 4

def abiAddress (address : Vector UInt8 20) : List UInt8 := zeros 12 ++ address.toList

def abiUint256 (number : UInt64) : List UInt8 := zeros 24 ++ BigEndian.bytes 8 number.toNat

def abiBytes32 (data : List UInt8) : List UInt8 :=
  let len := min data.length 32
  data.take len ++ zeros (32 - len)

def abiCall (selector : List UInt8) (words : List (List UInt8)) : List UInt8 :=
  selector ++ words.flatten

def stripHex : List Char → List Char
  | '0' :: 'x' :: digits => digits
  | text => text

def parseAddr (text : String) : Except Failure (Vector UInt8 20) :=
  match Hex.decode (stripHex text.toList) with
  | none => .error (.error ["invalid hex address"])
  | some bytes =>
      if size : bytes.length = 20 then .ok ⟨bytes.toArray, by simpa using size⟩
      else .error (.error ["address must be 20 bytes"])

def ethAddress {SigningKey : Type} (crypto : Crypto SigningKey) (seed : Vector UInt8 32) :
    Except Failure (Vector UInt8 20) :=
  match crypto.fromBytes seed with
  | none => .error (.error ["EvmSettlement: invalid secp256k1 private key"])
  | some signingKey =>
      .ok ((crypto.keccak256 (crypto.publicKey signingKey).toList).drop 12)

def EvmConfig.seed (config : EvmConfig) : Except Failure (Vector UInt8 32) :=
  match config.signerSeed with
  | none => .error (.error ["EvmSettlement: no signer_key_hex configured"])
  | some seed => .ok seed

def sendTx {SigningKey : Type} (config : EvmConfig) (crypto : Crypto SigningKey) (rpc : Rpc)
    (calldata : Calldata) (value : UInt64) : Sending String := do
  let seed ← config.seed
  let _ ← ethAddress crypto seed
  let address ← withContext "EvmSettlement: invalid contract_address"
    (parseAddr config.contractAddress)
  let nonce ← rpc.nonce
  let (maxPriorityFee, maxFee) ← rpc.fees
  let gasLimit := rpc.gas.getD 300000
  let raw ← (signEip1559 crypto ⟨config.chainId, nonce, maxPriorityFee, maxFee, gasLimit, address,
    value, calldata.val, calldata.property⟩ seed).mapError fun failed => Failure.error [failed.text]
  let answer ← (rpc.submit raw).withContext "EvmSettlement: eth_sendRawTransaction failed"
  match answer with
  | none => .fail (.error ["eth_sendRawTransaction: non-string result"])
  | some txHash => return txHash

/-- `&text[..text.len().min(limit)]`; `none` is the panic inside a character. -/
def bytePrefix : Nat → List Char → Option (List Char)
  | _, [] => some []
  | limit, char :: rest =>
      if limit = 0 then some []
      else if char.utf8Size ≤ limit then
        (bytePrefix (limit - char.utf8Size) rest).map (char :: ·)
      else none

def txHashToEscrowId (txHash : String) : Option UInt64 :=
  (bytePrefix 16 (stripHex txHash.toList)).map fun nibbles =>
    let bytes := (Hex.decode nibbles).getD []
    let n := min bytes.length 8
    UInt64.ofNat (BigEndian.value (bytes.take n ++ zeros (8 - n)))

def uuidToBytes32 (id : Uuid) : List UInt8 := id.bytes.toList ++ zeros 16

def lockCalldata (keccak256 : List UInt8 → Vector UInt8 32) (requestId : RequestId)
    (node : Vector UInt8 20) : Calldata where
  val := abiCall (abiSelector keccak256 "lockEscrow(bytes32,address)")
    [abiBytes32 (uuidToBytes32 requestId), abiAddress node]
  property := by
    simp [abiCall, abiSelector, abiBytes32, uuidToBytes32, abiAddress, zeros]

def releaseCalldata (keccak256 : List UInt8 → Vector UInt8 32) (escrowId : UInt64)
    (proofHash : Vector UInt8 32) : Calldata where
  val := abiCall (abiSelector keccak256 "releaseEscrow(uint256,bytes32)")
    [abiUint256 escrowId, abiBytes32 proofHash.toList]
  property := by
    simp [abiCall, abiSelector, abiBytes32, abiUint256, zeros]

def refundCalldata (keccak256 : List UInt8 → Vector UInt8 32) (escrowId : UInt64) :
    Calldata where
  val := abiCall (abiSelector keccak256 "refundEscrow(uint256)") [abiUint256 escrowId]
  property := by
    simp [abiCall, abiSelector, abiUint256, zeros]

section

variable {SigningKey : Type} (config : EvmConfig) (crypto : Crypto SigningKey) (rpc : Rpc)

def resolveNode (params : EscrowParams) : Except Failure (Vector UInt8 20) :=
  match parseAddr params.nodeAddress with
  | .ok node => .ok node
  | .error _ =>
      withContext "EvmSettlement: cannot resolve node address" (config.seed.bind (ethAddress crypto))

def lockFunds (params : EscrowParams) : Sending EscrowHandle := do
  let node ← resolveNode config crypto params
  let txHash ← (sendTx config crypto rpc (lockCalldata crypto.keccak256 params.requestId node)
    params.amountNanox).withContext ("EvmSettlement: lockEscrow failed for " ++ params.requestId.toText)
  match txHashToEscrowId txHash with
  | none => .fail .panic
  | some escrowId =>
      return ⟨config.id, params.requestId, params.amountNanox, some txHash,
        .object [("tx_hash", .string txHash), ("escrow_id", .number escrowId),
          ("chain_id", .number config.chainId)]⟩

def handleEscrowId (handle : EscrowHandle) : Except Failure UInt64 :=
  match (handle.payload.get "escrow_id").bind Json.asU64 with
  | none => .error (.error ["EvmSettlement: escrow_id missing from handle"])
  | some escrowId => .ok escrowId

def releaseCall (handle : EscrowHandle) (proofHash : Vector UInt8 32) : Except Failure Calldata :=
  (handleEscrowId handle).map fun escrowId => releaseCalldata crypto.keccak256 escrowId proofHash

def releaseFunds (handle : EscrowHandle) (proofHash : Vector UInt8 32) : Sending Unit := do
  let calldata ← releaseCall crypto handle proofHash
  let _ ← (sendTx config crypto rpc calldata 0).withContext
    ("EvmSettlement: releaseEscrow failed for " ++ handle.requestId.toText)

def refundCall (handle : EscrowHandle) : Except Failure Calldata :=
  (handleEscrowId handle).map (refundCalldata crypto.keccak256)

def refundFunds (handle : EscrowHandle) : Sending Unit := do
  let calldata ← refundCall crypto handle
  let _ ← (sendTx config crypto rpc calldata 0).withContext
    ("EvmSettlement: refundEscrow failed for " ++ handle.requestId.toText)

end

end Pinaivu.Evm
