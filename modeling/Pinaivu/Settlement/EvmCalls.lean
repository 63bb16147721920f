import Pinaivu.Settlement.Eip1559Canonical
import Pinaivu.Settlement.EvmRegistration

/-!
The transactions of `EvmSettlement` as an Ethereum node reads them: the signed bytes, then the sender that the
signature stands for, and then the function of `contracts/evm/DeAIEscrow.sol` that the calldata names.
-/

namespace Pinaivu.Evm

open Settlement

inductive ContractCall where
  | lockEscrow (requestId : BitVec 256) (nodeAddress : Vector UInt8 20)
  | releaseEscrow (escrowId proofHash : BitVec 256)
  | refundEscrow (escrowId : BitVec 256)
  | anchorRoot (rootHash label : BitVec 256)
  deriving DecidableEq

def ContractCall.signature : ContractCall → String
  | .lockEscrow _ _ => "lockEscrow(bytes32,address)"
  | .releaseEscrow _ _ => "releaseEscrow(uint256,bytes32)"
  | .refundEscrow _ => "refundEscrow(uint256)"
  | .anchorRoot _ _ => "anchorRoot(bytes32,bytes32)"

/-- A `bytes32` is a word, as a `uint256` is. -/
def ContractCall.values : ContractCall → List AbiFormat.Value
  | .lockEscrow requestId nodeAddress => [.uint256 requestId, .address nodeAddress]
  | .releaseEscrow escrowId proofHash => [.uint256 escrowId, .uint256 proofHash]
  | .refundEscrow escrowId => [.uint256 escrowId]
  | .anchorRoot rootHash label => [.uint256 rootHash, .uint256 label]

/-- The contract's dispatch on the selector. Only `lockEscrow` is payable. -/
def dispatch (keccak256 : List UInt8 → Vector UInt8 32) (value : Nat) (data : List UInt8) : Option ContractCall :=
  let selector := data.take 4
  let arguments := data.drop 4
  if selector = abiSelector keccak256 "lockEscrow(bytes32,address)" then
    match AbiFormat.decode [.uint256, .address] arguments with
    | some [.uint256 requestId, .address nodeAddress] => some (.lockEscrow requestId nodeAddress)
    | _ => none
  else if value ≠ 0 then none
  else if selector = abiSelector keccak256 "releaseEscrow(uint256,bytes32)" then
    match AbiFormat.decode [.uint256, .uint256] arguments with
    | some [.uint256 escrowId, .uint256 proofHash] => some (.releaseEscrow escrowId proofHash)
    | _ => none
  else if selector = abiSelector keccak256 "refundEscrow(uint256)" then
    match AbiFormat.decode [.uint256] arguments with
    | some [.uint256 escrowId] => some (.refundEscrow escrowId)
    | _ => none
  else if selector = abiSelector keccak256 "anchorRoot(bytes32,bytes32)" then
    match AbiFormat.decode [.uint256, .uint256] arguments with
    | some [.uint256 rootHash, .uint256 label] => some (.anchorRoot rootHash label)
    | _ => none
  else none

def Separate (keccak256 : List UInt8 → Vector UInt8 32) : Prop :=
  (["lockEscrow(bytes32,address)", "releaseEscrow(uint256,bytes32)", "refundEscrow(uint256)",
    "anchorRoot(bytes32,bytes32)"].map (abiSelector keccak256)).Nodup

structure Message where
  chainId : Nat
  nonce : Nat
  maxPriorityFee : Nat
  maxFee : Nat
  gasLimit : Nat
  toAddress : List UInt8
  value : Nat
  data : List UInt8
  sender : Vector UInt8 20
  deriving DecidableEq

def decodeInt : Rlp.Item → Option Nat
  | .bytes digits => if digits.head? = some 0 then none else some (BigEndian.value digits)
  | .list _ => none

def addressOf (keccak256 : List UInt8 → Vector UInt8 32) (publicKey : Vector UInt8 64) : Vector UInt8 20 :=
  (keccak256 publicKey.toList).drop 12

/-- `recover` finds the public key of a signature; nodes refuse integers with leading zeros. -/
def decodeTransaction (keccak256 : List UInt8 → Vector UInt8 32)
    (recover : Vector UInt8 32 → Nat → Nat → Nat → Option (Vector UInt8 64)) (raw : List UInt8) : Option Message := do
  let 0x02 :: body := raw | none
  let (item, rest) ← Rlp.decode body
  let .list [chainId, nonce, maxPriorityFee, maxFee, gasLimit, toAddress, value, data, accessList, v, r, s] := item
    | none
  let (.bytes toBytes, .bytes dataBytes, .list _) := (toAddress, data, accessList) | none
  let v ← decodeInt v
  let r ← decodeInt r
  let s ← decodeInt s
  let signed := [chainId, nonce, maxPriorityFee, maxFee, gasLimit, toAddress, value, data, accessList]
  let hash := keccak256 (0x02 :: Rlp.encode (.list signed))
  let publicKey ← if rest = [] ∧ toBytes.length = 20 ∧ v ≤ 1 then recover hash v r s else none
  return {
    chainId := ← decodeInt chainId
    nonce := ← decodeInt nonce
    maxPriorityFee := ← decodeInt maxPriorityFee
    maxFee := ← decodeInt maxFee
    gasLimit := ← decodeInt gasLimit
    toAddress := toBytes
    value := ← decodeInt value
    data := dataBytes
    sender := addressOf keccak256 publicKey }

def anchorCalldata (keccak256 : List UInt8 → Vector UInt8 32) (root : Vector UInt8 32) (label : List UInt8) :
    Calldata where
  val := abiCall (abiSelector keccak256 "anchorRoot(bytes32,bytes32)")
    [abiBytes32 root.toList, abiBytes32 (abiBytes32 label)]
  property := by
    simp [abiCall, abiSelector, abiBytes32, zeros]

theorem calldata_short (calldata : Calldata) : calldata.val.length < 2 ^ 63 := calldata.property

section

variable {SigningKey : Type} (config : EvmConfig) (crypto : Crypto SigningKey)

def anchorHash (rpc : Rpc) (hash : Vector UInt8 32) (label : String) : Sending (Option String) := do
  let txHash ← (sendTx config crypto rpc (anchorCalldata crypto.keccak256 hash label.toUTF8.data.toList) 0).withContext
    ("EvmSettlement: anchorRoot failed for label '" ++ label ++ "'")
  return some txHash

/-- What `send_tx` builds before it submits it. -/
def signTx (rpc : Rpc) (calldata : Calldata) (value : UInt64) : Except Failure (List UInt8) := do
  let seed ← config.seed
  let _ ← ethAddress crypto seed
  let address ← withContext "EvmSettlement: invalid contract_address" (parseAddr config.contractAddress)
  let nonce ← rpc.nonce
  let (maxPriorityFee, maxFee) ← rpc.fees
  let gasLimit := rpc.gas.getD 300000
  (signEip1559 crypto ⟨config.chainId, nonce, maxPriorityFee, maxFee, gasLimit, address, value, calldata.val,
    calldata_short calldata⟩ seed).mapError fun failed => .error [failed.text]

end

inductive Operation where
  | lockFunds (params : EscrowParams)
  | releaseFunds (handle : EscrowHandle) (proofHash : Vector UInt8 32)
  | refundFunds (handle : EscrowHandle)
  | anchorHash (hash : Vector UInt8 32) (label : String)

inductive Answer where
  | locked (handle : EscrowHandle)
  | settled
  | anchored (txHash : Option String)

namespace Operation

variable {SigningKey : Type} (config : EvmConfig) (crypto : Crypto SigningKey)

def run (rpc : Rpc) : Operation → Sending Answer
  | .lockFunds params => do return .locked (← Evm.lockFunds config crypto rpc params)
  | .releaseFunds handle proofHash => do
      let _ ← Evm.releaseFunds config crypto rpc handle proofHash
      return .settled
  | .refundFunds handle => do
      let _ ← Evm.refundFunds config crypto rpc handle
      return .settled
  | .anchorHash hash label => do return .anchored (← Evm.anchorHash config crypto rpc hash label)

def amount : Operation → UInt64
  | .lockFunds params => params.amountNanox
  | .releaseFunds _ _ | .refundFunds _ | .anchorHash _ _ => 0

def calldata : Operation → Except Failure Calldata
  | .lockFunds params => (resolveNode config crypto params).map (lockCalldata crypto.keccak256 params.requestId)
  | .releaseFunds handle proofHash => releaseCall crypto handle proofHash
  | .refundFunds handle => refundCall crypto handle
  | .anchorHash hash label => .ok (anchorCalldata crypto.keccak256 hash label.toUTF8.data.toList)

def submits (rpc : Rpc) (operation : Operation) : Except Failure (List UInt8) := do
  let data ← operation.calldata config crypto
  signTx config crypto rpc data operation.amount

end Operation

/-- A `bytes32` argument from as many bytes, or from fewer with zeros after them. -/
def bytes32 (bytes : List UInt8) : BitVec 256 := BitVec.ofNat 256 (BigEndian.value (abiBytes32 bytes))

/-- What an operation asks of the contract. A label is cut after 32 bytes. -/
def Operation.meaning {SigningKey : Type} (config : EvmConfig) (crypto : Crypto SigningKey) :
    Operation → Except Failure ContractCall
  | .lockFunds params =>
      (resolveNode config crypto params).map (.lockEscrow (bytes32 params.requestId.bytes.toList))
  | .releaseFunds handle proofHash =>
      (handleEscrowId handle).map fun id => .releaseEscrow (BitVec.ofNat 256 id.toNat) (bytes32 proofHash.toList)
  | .refundFunds handle => (handleEscrowId handle).map fun id => .refundEscrow (BitVec.ofNat 256 id.toNat)
  | .anchorHash hash label => .ok (.anchorRoot (bytes32 hash.toList) (bytes32 (label.toUTF8.data.toList.take 32)))

theorem length_abiBytes32 (data : List UInt8) : (abiBytes32 data).length = 32 := by
  simp [abiBytes32, zeros]

theorem abiBytes32_of_length {data : List UInt8} (length : data.length = 32) : abiBytes32 data = data := by
  simp [abiBytes32, zeros, length]

theorem abiBytes32_take (data : List UInt8) : abiBytes32 (data.take 32) = abiBytes32 data := by
  simp [abiBytes32, List.take_take, Nat.min_comm]

theorem abiBytes32_uuid (id : Uuid) : abiBytes32 (uuidToBytes32 id) = abiBytes32 id.bytes.toList := by
  have length : id.bytes.toList.length = 16 := id.bytes.length_toList
  rw [abiBytes32_of_length (by simp [uuidToBytes32, zeros])]
  simp [abiBytes32, uuidToBytes32, zeros]

theorem word_bytes32 (data : List UInt8) : AbiFormat.word (bytes32 data).toNat = abiBytes32 data := by
  have bound := BigEndian.value_lt (abiBytes32 data)
  rw [length_abiBytes32] at bound
  apply BigEndian.value_injective
  · rw [AbiFormat.length_word, length_abiBytes32]
  · have small : BigEndian.value (abiBytes32 data) < 2 ^ 256 := bound
    rw [bytes32, BitVec.toNat_ofNat, Nat.mod_eq_of_lt small, AbiFormat.word, BigEndian.value_bytes,
      Nat.mod_eq_of_lt bound]

theorem word_uint64 (number : UInt64) :
    AbiFormat.word (BitVec.ofNat 256 number.toNat).toNat = abiUint256 number := by
  have small : number.toNat < 2 ^ 256 := Nat.lt_trans number.toNat_lt (by decide)
  rw [BitVec.toNat_ofNat, Nat.mod_eq_of_lt small, abiUint256_eq_word]

def ContractCall.encode (keccak256 : List UInt8 → Vector UInt8 32) (call : ContractCall) : List UInt8 :=
  abiSelector keccak256 call.signature ++ AbiFormat.encode call.values

def ContractCall.pays (call : ContractCall) (value : Nat) : Prop :=
  match call with
  | .lockEscrow _ _ => True
  | .releaseEscrow _ _ | .refundEscrow _ | .anchorRoot _ _ => value = 0

theorem dispatch_encode {keccak256 : List UInt8 → Vector UInt8 32} (separate : Separate keccak256)
    (call : ContractCall) {value : Nat} (pays : call.pays value) :
    dispatch keccak256 value (call.encode keccak256) = some call := by
  have selector := length_abiSelector keccak256 call.signature
  have head : (call.encode keccak256).take 4 = abiSelector keccak256 call.signature := List.take_left' selector
  have arguments : (call.encode keccak256).drop 4 = AbiFormat.encode call.values := List.drop_left' selector
  have short : (AbiFormat.encode call.values).length < 256 ^ 32 := by
    cases call <;> simp [AbiFormat.encode, ContractCall.values, AbiFormat.tail]
  have decoded := AbiFormat.decode_encode call.values short
  simp only [Separate, List.map_cons, List.map_nil, List.nodup_cons, List.mem_cons, List.not_mem_nil, or_false,
    not_or] at separate
  obtain ⟨⟨lockRelease, lockRefund, lockAnchor⟩, ⟨releaseRefund, releaseAnchor⟩, refundAnchor, -⟩ := separate
  rw [dispatch, head, arguments]
  cases call with
  | lockEscrow requestId nodeAddress =>
      simp only [ContractCall.signature, if_true]
      rw [show AbiFormat.decode [.uint256, .address] _ = _ from decoded]
      rfl
  | releaseEscrow escrowId proofHash =>
      obtain rfl : value = 0 := pays
      simp only [ContractCall.signature, if_neg (Ne.symm lockRelease), ne_eq, not_true_eq_false, if_false, if_true]
      rw [show AbiFormat.decode [.uint256, .uint256] _ = _ from decoded]
      rfl
  | refundEscrow escrowId =>
      obtain rfl : value = 0 := pays
      simp only [ContractCall.signature, if_neg (Ne.symm lockRefund), ne_eq, not_true_eq_false, if_false,
        if_neg (Ne.symm releaseRefund), if_true]
      rw [show AbiFormat.decode [.uint256] _ = _ from decoded]
      rfl
  | anchorRoot rootHash label =>
      obtain rfl : value = 0 := pays
      simp only [ContractCall.signature, if_neg (Ne.symm lockAnchor), ne_eq, not_true_eq_false, if_false,
        if_neg (Ne.symm releaseAnchor), if_neg (Ne.symm refundAnchor), if_true]
      rw [show AbiFormat.decode [.uint256, .uint256] _ = _ from decoded]
      rfl

/-- A node takes the signature: its integers are canonical and its parity is one. -/
def Signature.Accepted (signature : Signature) : Prop :=
  signature.r.head ≠ 0 ∧ signature.s.head ≠ 0 ∧ signature.recoveryId ≤ 1

instance (signature : Signature) : Decidable signature.Accepted := inferInstanceAs (Decidable (_ ∧ _ ∧ _))

def Recovers {SigningKey : Type} (crypto : Crypto SigningKey)
    (recover : Vector UInt8 32 → Nat → Nat → Nat → Option (Vector UInt8 64)) : Prop :=
  ∀ signingKey hash signature, crypto.signPrehashRecoverable signingKey hash = some signature →
    recover hash signature.recoveryId.toNat (BigEndian.value signature.r.toList)
      (BigEndian.value signature.s.toList) = some (crypto.publicKey signingKey)

def TxParams.message (tx : TxParams) (sender : Vector UInt8 20) : Message where
  chainId := tx.chainId.toNat
  nonce := tx.nonce.toNat
  maxPriorityFee := tx.maxPriorityFee.toNat
  maxFee := tx.maxFee.toNat
  gasLimit := tx.gasLimit.toNat
  toAddress := tx.toAddress.toList
  value := tx.value.toNat
  data := tx.data
  sender := sender

theorem decodeInt_intItem (number : Nat) : decodeInt (intItem number) = some number := by
  have canonical : (BigEndian.minimal number).head? ≠ some 0 := BigEndian.minimal_minimal number
  rw [intItem, decodeInt, if_neg canonical, BigEndian.value_minimal]

theorem decodeInt_half (half : Vector UInt8 32) :
    decodeInt (.bytes half.toList) = if half.head ≠ 0 then some (BigEndian.value half.toList) else none := by
  have canonical := minimal_vector half
  rw [BigEndian.Minimal, ne_eq] at canonical
  rw [decodeInt]
  by_cases zero : half.toList.head? = some 0
  · rw [if_pos zero, if_neg fun nonzero => canonical.mpr nonzero zero]
  · rw [if_neg zero, if_pos (canonical.mp zero)]

theorem decodeTransaction_signed {SigningKey : Type} {crypto : Crypto SigningKey}
    {recover : Vector UInt8 32 → Nat → Nat → Nat → Option (Vector UInt8 64)} (recovers : Recovers crypto recover)
    {signingKey : SigningKey} {tx : TxParams} {signature : Signature}
    (signed : crypto.signPrehashRecoverable signingKey (crypto.keccak256 (signingInput tx)) = some signature) :
    decodeTransaction crypto.keccak256 recover (0x02 :: rlpList (signedFields tx signature)) =
      if signature.Accepted then some (tx.message (addressOf crypto.keccak256 (crypto.publicKey signingKey)))
      else none := by
  have decoded := decode_signed tx signature
  have found := recovers signingKey _ signature signed
  have input := signingInput_eq tx
  have size : tx.toAddress.toList.length = 20 := tx.toAddress.length_toList
  rw [input] at found
  rw [unsignedItems] at found
  simp only [decodeTransaction, decoded, Option.bind_eq_bind, Option.bind_some, unsignedItems, signatureItems,
    List.cons_append, List.nil_append, decodeInt_intItem, decodeInt_half, size]
  by_cases r : signature.r.head ≠ 0
  · by_cases s : signature.s.head ≠ 0
    · by_cases parity : signature.recoveryId ≤ 1
      · have low : signature.recoveryId.toNat ≤ 1 := parity
        have accepted : signature.Accepted := ⟨r, s, parity⟩
        simp only [if_pos r, if_pos s, low, and_self, if_true, Option.bind_some, found, if_pos accepted]
        rfl
      · have high : ¬signature.recoveryId.toNat ≤ 1 := parity
        have refused : ¬signature.Accepted := fun accepted => parity accepted.2.2
        simp only [if_pos r, if_pos s, high, and_false, if_false, Option.bind_some, Option.bind_none, if_neg refused]
    · have refused : ¬signature.Accepted := fun accepted => s accepted.2.1
      simp only [if_pos r, if_neg s, Option.bind_some, Option.bind_none, if_neg refused]
  · have refused : ¬signature.Accepted := fun accepted => r accepted.1
    simp only [if_neg r, Option.bind_none, if_neg refused]

section

variable {SigningKey : Type} {config : EvmConfig} {crypto : Crypto SigningKey} {rpc : Rpc}

theorem map_ok {First Second : Type} {answer : Except Failure First} {change : First → Second} {result : Second}
    (found : answer.map change = .ok result) : ∃ value, answer = .ok value ∧ change value = result := by
  cases answer with
  | error failure => cases found
  | ok value => exact ⟨value, rfl, Except.ok.inj found⟩

theorem encode_word (only : BitVec 256) : AbiFormat.encode [.uint256 only] = AbiFormat.word only.toNat := by
  simp [AbiFormat.encode, AbiFormat.heads, AbiFormat.head, AbiFormat.tail]

theorem encode_words (first second : BitVec 256) :
    AbiFormat.encode [.uint256 first, .uint256 second] = AbiFormat.word first.toNat ++ AbiFormat.word second.toNat := by
  simp [AbiFormat.encode, AbiFormat.heads, AbiFormat.head, AbiFormat.tail]

theorem lockCalldata_eq (keccak256 : List UInt8 → Vector UInt8 32) (requestId : RequestId) (node : Vector UInt8 20) :
    (lockCalldata keccak256 requestId node).val =
      (ContractCall.lockEscrow (bytes32 requestId.bytes.toList) node).encode keccak256 := by
  simp [lockCalldata, abiCall, ContractCall.encode, ContractCall.signature, ContractCall.values, AbiFormat.encode,
    AbiFormat.heads, AbiFormat.head, AbiFormat.tail, word_bytes32, abiBytes32_uuid, abiAddress, zeros]

theorem releaseCalldata_eq (keccak256 : List UInt8 → Vector UInt8 32) (id : UInt64) (proofHash : Vector UInt8 32) :
    (releaseCalldata keccak256 id proofHash).val =
      (ContractCall.releaseEscrow (BitVec.ofNat 256 id.toNat) (bytes32 proofHash.toList)).encode keccak256 := by
  rw [ContractCall.encode, ContractCall.values, encode_words, word_uint64, word_bytes32]
  simp [releaseCalldata, abiCall, ContractCall.signature]

theorem refundCalldata_eq (keccak256 : List UInt8 → Vector UInt8 32) (id : UInt64) :
    (refundCalldata keccak256 id).val =
      (ContractCall.refundEscrow (BitVec.ofNat 256 id.toNat)).encode keccak256 := by
  rw [ContractCall.encode, ContractCall.values, encode_word, word_uint64]
  simp [refundCalldata, abiCall, ContractCall.signature]

theorem anchorCalldata_eq (keccak256 : List UInt8 → Vector UInt8 32) (root : Vector UInt8 32) (label : List UInt8) :
    (anchorCalldata keccak256 root label).val =
      (ContractCall.anchorRoot (bytes32 root.toList) (bytes32 (label.take 32))).encode keccak256 := by
  have padded := abiBytes32_of_length (length_abiBytes32 label)
  rw [ContractCall.encode, ContractCall.values, encode_words, word_bytes32, word_bytes32, abiBytes32_take]
  simp [anchorCalldata, abiCall, ContractCall.signature, padded]

theorem Operation.calldata_ok {operation : Operation} {data : Calldata}
    (built : operation.calldata config crypto = .ok data) :
    ∃ call, operation.meaning config crypto = .ok call ∧ data.val = call.encode crypto.keccak256 ∧
      call.pays operation.amount.toNat := by
  cases operation with
  | lockFunds params =>
      obtain ⟨node, resolved, rfl⟩ := map_ok built
      refine ⟨_, ?_, lockCalldata_eq crypto.keccak256 params.requestId node, trivial⟩
      rw [meaning, resolved, Except.map]
  | releaseFunds handle proofHash =>
      obtain ⟨id, found, rfl⟩ := map_ok built
      refine ⟨_, ?_, releaseCalldata_eq crypto.keccak256 id proofHash, rfl⟩
      rw [meaning, found, Except.map]
  | refundFunds handle =>
      obtain ⟨id, found, rfl⟩ := map_ok built
      refine ⟨_, ?_, refundCalldata_eq crypto.keccak256 id, rfl⟩
      rw [meaning, found, Except.map]
  | anchorHash hash label =>
      cases built
      exact ⟨_, rfl, anchorCalldata_eq crypto.keccak256 hash _, rfl⟩

theorem signTx_ok {data : Calldata} {value : UInt64} {raw : List UInt8}
    (signed : signTx config crypto rpc data value = .ok raw) :
    ∃ seed signingKey signature tx, config.seed = .ok seed ∧ crypto.fromBytes seed = some signingKey ∧
      parseAddr config.contractAddress = .ok tx.toAddress ∧ tx.chainId = config.chainId ∧ rpc.nonce = .ok tx.nonce ∧
      rpc.fees = .ok (tx.maxPriorityFee, tx.maxFee) ∧ tx.gasLimit = rpc.gas.getD 300000 ∧ tx.value = value ∧
      tx.data = data.val ∧
      crypto.signPrehashRecoverable signingKey (crypto.keccak256 (signingInput tx)) = some signature ∧
      raw = 0x02 :: rlpList (signedFields tx signature) := by
  unfold signTx at signed
  obtain ⟨seed, found, signed⟩ := bind_ok signed
  obtain ⟨_, -, signed⟩ := bind_ok signed
  obtain ⟨address, parsed, signed⟩ := bind_ok signed
  obtain ⟨nonce, counted, signed⟩ := bind_ok signed
  obtain ⟨⟨maxPriorityFee, maxFee⟩, priced, signed⟩ := bind_ok signed
  cases key : crypto.fromBytes seed with
  | none => simp [signEip1559, key, Except.mapError] at signed
  | some signingKey =>
      simp only [signEip1559, key] at signed
      split at signed
      · cases signed
      · rename_i signature answer
        exact ⟨seed, signingKey, signature, _, found, key, withContext_ok parsed, rfl, counted, priced, rfl, rfl, rfl,
          answer, (Except.ok.inj signed).symm⟩

/-- The node gets the transaction, when there is one, and nothing else. -/
def Sends {Result : Type} (call : Sending Result) (built : Except Failure (List UInt8)) : Prop :=
  call.submitted = built.toOption.toList

section

variable {First Next Result : Type} {call : Sending Result} {built : Except Failure (List UInt8)}

theorem Sends.bind (sends : Sends call built) {next : Result → Sending Next}
    (quiet : ∀ value, (next value).submitted = []) : Sends (call >>= next) built := by
  rw [Sends, Sending.bind_submitted quiet]
  exact sends

theorem Sends.withContext (sends : Sends call built) (message : String) :
    Sends (call.withContext message) built := sends

theorem Sends.after {first : Except Failure First} {later : First → Sending Result}
    {builds : First → Except Failure (List UInt8)} (sends : ∀ value, Sends (later value) (builds value)) :
    Sends (liftM first >>= later) (first >>= builds) := by
  cases first with
  | ok value => exact sends value
  | error failure => rfl

theorem Sends.last (built : Except Failure (List UInt8)) (message : String) {next : Option String → Sending Result}
    (quiet : ∀ answer, (next answer).submitted = []) :
    Sends (liftM built >>= fun raw => (rpc.submit raw).withContext message >>= next) built := by
  cases built with
  | error failure => rfl
  | ok raw =>
      have submitted : Sends ((rpc.submit raw).withContext message) (.ok raw) := rfl
      exact submitted.bind quiet

end

theorem sends_sendTx (data : Calldata) (value : UInt64) :
    Sends (sendTx config crypto rpc data value) (signTx config crypto rpc data value) := by
  refine Sends.after fun seed => Sends.after fun _ => Sends.after fun address => Sends.after fun nonce =>
    Sends.after fun fees => ?_
  refine Sends.last _ _ ?_
  intro answer
  cases answer with
  | none => rfl
  | some txHash => rfl

theorem map_bind {First Second Third : Type} (first : Except Failure First) (change : First → Second)
    (next : Second → Except Failure Third) :
    (first.map change >>= next) = first >>= fun value => next (change value) := by
  cases first <;> rfl

theorem sends_run (operation : Operation) :
    Sends (operation.run config crypto rpc) (operation.submits config crypto rpc) := by
  have settled : ∀ _ : Unit, (pure Answer.settled : Sending Answer).submitted = [] := fun _ => rfl
  cases operation with
  | lockFunds params =>
      refine Sends.bind ?_ fun _ => rfl
      rw [Operation.submits, Operation.calldata, map_bind]
      refine Sends.after fun node => ?_
      refine ((sends_sendTx _ _).withContext _).bind ?_
      intro txHash
      split
      · rfl
      · rfl
  | releaseFunds handle proofHash =>
      refine Sends.bind (Sends.after fun data => ?_) settled
      exact ((sends_sendTx _ _).withContext _).bind fun _ => rfl
  | refundFunds handle =>
      refine Sends.bind (Sends.after fun data => ?_) settled
      exact ((sends_sendTx _ _).withContext _).bind fun _ => rfl
  | anchorHash hash label =>
      refine Sends.bind ?_ fun _ => rfl
      exact ((sends_sendTx _ _).withContext _).bind fun _ => rfl

end

/-- The node gets one transaction from an operation, or none. When its integers are canonical, the node reads from
it the sender's own address, the amount, and a call of the contract that is what the operation means. -/
theorem evm_calls {SigningKey : Type} (config : EvmConfig) (crypto : Crypto SigningKey) (rpc : Rpc)
    (recover : Vector UInt8 32 → Nat → Nat → Nat → Option (Vector UInt8 64)) (recovers : Recovers crypto recover)
    (separate : Separate crypto.keccak256) (operation : Operation) :
    (operation.run config crypto rpc).submitted = (operation.submits config crypto rpc).toOption.toList ∧
      ∀ raw, operation.submits config crypto rpc = .ok raw →
        ∃ call seed sender tx signature, operation.meaning config crypto = .ok call ∧ config.seed = .ok seed ∧
          ethAddress crypto seed = .ok sender ∧ signatureOf crypto tx seed = some signature ∧
          decodeTransaction crypto.keccak256 recover raw =
            (if signature.Accepted then some (tx.message sender) else none) ∧
          tx.chainId = config.chainId ∧ rpc.nonce = .ok tx.nonce ∧ rpc.fees = .ok (tx.maxPriorityFee, tx.maxFee) ∧
          tx.gasLimit = rpc.gas.getD 300000 ∧ parseAddr config.contractAddress = .ok tx.toAddress ∧
          tx.value = operation.amount ∧ dispatch crypto.keccak256 tx.value.toNat tx.data = some call := by
  refine ⟨sends_run operation, ?_⟩
  intro raw submitted
  obtain ⟨data, built, signed⟩ := bind_ok submitted
  obtain ⟨call, meaning, bytes, pays⟩ := operation.calldata_ok built
  obtain ⟨seed, signingKey, signature, tx, found, key, address, chainId, nonce, fees, gas, value, content, answer,
    rfl⟩ := signTx_ok signed
  refine ⟨call, seed, addressOf crypto.keccak256 (crypto.publicKey signingKey), tx, signature, meaning, found, ?_, ?_,
    decodeTransaction_signed recovers answer, chainId, nonce, fees, gas, address, value, ?_⟩
  · rw [ethAddress, key]
    rfl
  · rw [signatureOf, key]
    exact answer
  · rw [content, bytes, value]
    exact dispatch_encode separate call pays

def releaseSelectorHash : Vector UInt8 32 :=
  #v[160, 150, 141, 105, 105, 96, 1, 124, 18, 196, 74, 190, 179, 204, 183, 93, 59, 145, 52, 153, 90, 57, 186, 156,
  143, 148, 29, 43, 82, 107, 137, 139]

def refundSelectorHash : Vector UInt8 32 :=
  #v[53, 111, 157, 253, 114, 1, 112, 17, 235, 239, 217, 23, 249, 240, 10, 123, 23, 207, 65, 206, 225, 143, 205,
  73, 87, 150, 195, 73, 223, 121, 226, 155]

def anchorSelectorHash : Vector UInt8 32 :=
  #v[121, 237, 205, 26, 152, 226, 52, 195, 165, 143, 58, 235, 236, 23, 232, 75, 69, 68, 56, 117, 68, 134, 211, 92,
  17, 24, 103, 207, 203, 174, 91, 125]

def callCrypto : Crypto Unit where
  keccak256 := fun input =>
    if input.length = 64 then ownAddressHash
    else if input.length = 30 then releaseSelectorHash
    else if input.length = 21 then refundSelectorHash
    else if input.head? = some 97 then anchorSelectorHash
    else if input.length = 27 then lockSelectorHash
    else firstSigningHash
  fromBytes := fun _ => some ()
  publicKey := fun _ => testPublicKey
  signPrehashRecoverable := fun _ hash => if hash = firstSigningHash then some firstLockSignature else none

def recoverFirst (hash : Vector UInt8 32) (v r s : Nat) : Option (Vector UInt8 64) :=
  if hash = firstSigningHash ∧ v = 0 ∧ r = BigEndian.value firstLockSignature.r.toList ∧
    s = BigEndian.value firstLockSignature.s.toList then some testPublicKey
  else none

theorem evm_calls_first :
    ∃ raw message, (Operation.lockFunds firstParams).submits firstConfig callCrypto firstNode.rpc = .ok raw ∧
      decodeTransaction callCrypto.keccak256 recoverFirst raw = some message ∧ message.value = 1000 ∧
      dispatch callCrypto.keccak256 message.value message.data =
        some (.lockEscrow (bytes32 (List.replicate 16 7)) message.sender) := by
  have recovers : Recovers callCrypto recoverFirst := by
    intro signingKey hash signature signed
    simp only [callCrypto, Option.ite_none_right_eq_some, Option.some.injEq] at signed
    obtain ⟨rfl, rfl⟩ := signed
    exact if_pos ⟨rfl, rfl, rfl, rfl⟩
  have separate : Separate callCrypto.keccak256 := by
    unfold Separate
    decide +kernel
  obtain ⟨-, means⟩ := evm_calls firstConfig callCrypto firstNode.rpc recoverFirst recovers separate
    (.lockFunds firstParams)
  have resolved : resolveNode firstConfig callCrypto firstParams =
      .ok (addressOf callCrypto.keccak256 testPublicKey) := by
    decide +kernel
  obtain ⟨raw, submitted⟩ : ∃ raw, (Operation.lockFunds firstParams).submits firstConfig callCrypto firstNode.rpc =
      .ok raw := by
    have sent : ((Operation.lockFunds firstParams).submits firstConfig callCrypto firstNode.rpc).toBool = true := by
      decide +kernel
    cases result : (Operation.lockFunds firstParams).submits firstConfig callCrypto firstNode.rpc with
    | ok raw => exact ⟨raw, rfl⟩
    | error failure =>
        rw [result] at sent
        cases sent
  obtain ⟨call, seed, sender, tx, signature, meaning, -, own, signed, decoded, -, -, -, -, -, value, called⟩ :=
    means raw submitted
  have accepted : signature.Accepted := by
    obtain ⟨_, -, answer⟩ := Option.bind_eq_some_iff.mp signed
    simp only [callCrypto, Option.ite_none_right_eq_some, Option.some.injEq] at answer
    rw [← answer.2]
    decide
  rw [if_pos accepted] at decoded
  rw [Operation.meaning, resolved] at meaning
  refine ⟨raw, _, submitted, decoded, ?_, ?_⟩
  · rw [TxParams.message, value]
    rfl
  · rw [TxParams.message, called, ← Except.ok.inj meaning, ← Except.ok.inj own]
    rfl

end Pinaivu.Evm
