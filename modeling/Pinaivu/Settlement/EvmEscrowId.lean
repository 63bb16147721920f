import Pinaivu.Contracts.DeAIEscrowCore
import Pinaivu.Settlement.EvmCore

/-!
The adapter beside the contract it calls. The node answers a lock with the hash of
the transaction; the contract assigns the escrow id later, when the transaction is
mined, and other users' transactions come in between. The two ids are compared.
-/

namespace Pinaivu.Evm

open Settlement

def hashText (hash : Vector UInt8 32) : String :=
  String.ofList ('0' :: 'x' :: Hex.encode hash.toList)

structure Node where
  nonce : Except Failure UInt64
  fees : Except Failure (UInt64 × UInt64)
  gas : Option UInt64
  hash : Except Failure (Vector UInt8 32)

def Node.rpc (node : Node) : Rpc where
  nonce := node.nonce
  fees := node.fees
  gas := node.gas
  sendRawTransaction := fun _ => node.hash.map fun hash => some (hashText hash)

inductive Outcome where
  | pending
  | assigned (escrowId : Nat)
  | reverted
  deriving DecidableEq

def wordArgument (calldata : Calldata) (position : Nat) : Nat :=
  BigEndian.value ((calldata.val.drop (4 + 32 * position)).take 32)

section

variable {SigningKey : Type} (config : EvmConfig) (crypto : Crypto SigningKey)

/-- A successful call of `lock_funds` and what became of its transaction. -/
structure Lock where
  params : EscrowParams
  node : Node
  hash : Vector UInt8 32
  answered : node.hash = .ok hash
  handle : EscrowHandle
  returned : (lockFunds config crypto node.rpc params).result = .ok handle
  outcome : Outcome

structure System where
  contract : DeAIEscrow.State
  locks : List (Lock config crypto)

end

variable {SigningKey : Type} {config : EvmConfig} {crypto : Crypto SigningKey}
  {contract : DeAIEscrow.Address}

def Lock.resolve (lock : Lock config crypto) (outcome : Outcome) : Lock config crypto :=
  { lock with outcome := outcome }

def Lock.execute (lock : Lock config crypto) (now : Nat) (sender : DeAIEscrow.Sender contract)
    (state : DeAIEscrow.State) : Except DeAIEscrow.Error (Nat × DeAIEscrow.State) :=
  match resolveNode config crypto lock.params with
  | .error _ => .error .invalidNode
  | .ok address =>
      let calldata := lockCalldata crypto.keccak256 lock.params.requestId address
      DeAIEscrow.lockEscrow contract now sender lock.params.amountNanox.toNat
        (BitVec.ofNat 256 (wordArgument calldata 0)) (BitVec.ofNat 160 (wordArgument calldata 1))
        state

inductive Step (contract : DeAIEscrow.Address) where
  | others (now : Nat) (script : DeAIEscrow.Script contract)
  | lockFunds (node : Node) (params : EscrowParams)
  | mine (index now : Nat)

def System.lockFunds (system : System config crypto) (node : Node) (params : EscrowParams) :
    System config crypto :=
  match answered : node.hash, returned : (Evm.lockFunds config crypto node.rpc params).result with
  | .ok hash, .ok handle =>
      ⟨system.contract,
        system.locks ++ [⟨params, node, hash, answered, handle, returned, .pending⟩]⟩
  | _, _ => system

def step (sender : DeAIEscrow.Sender contract) (system : System config crypto) :
    Step contract → System config crypto
  | .others now script => ⟨DeAIEscrow.transaction system.contract (now, script), system.locks⟩
  | .lockFunds node params => system.lockFunds node params
  | .mine index now =>
      match system.locks[index]? with
      | none => system
      | some lock =>
          if lock.outcome = .pending then
            match lock.execute now sender system.contract with
            | .ok (escrowId, after) =>
                ⟨after, system.locks.set index (lock.resolve (.assigned escrowId))⟩
            | .error _ => ⟨system.contract, system.locks.set index (lock.resolve .reverted)⟩
          else system

/-- The calls that the adapter makes for the handle carry the id that the contract
assigned to the lock. -/
def Lock.Agrees (lock : Lock config crypto) : Prop :=
  ∀ escrowId, lock.outcome = .assigned escrowId →
    (∀ proofHash, ∃ calldata, releaseCall crypto lock.handle proofHash = .ok calldata ∧
      wordArgument calldata 0 = escrowId) ∧
    ∃ calldata, refundCall crypto lock.handle = .ok calldata ∧ wordArgument calldata 0 = escrowId

def leadingNumber (hash : Vector UInt8 32) : Nat := BigEndian.value (hash.toList.take 8)

/-- A lock that is mined with success has a transaction hash that starts with the
contract's counter. -/
def Matches (sender : DeAIEscrow.Sender contract) (system : System config crypto) :
    Step contract → Prop
  | .mine index now => ∀ lock, system.locks[index]? = some lock → lock.outcome = .pending →
      (lock.execute now sender system.contract).isOk = true →
      leadingNumber lock.hash = system.contract.nextId
  | _ => True

theorem bytePrefix_ascii (text : List Char) (ascii : ∀ char ∈ text, char.utf8Size = 1)
    (limit : Nat) : bytePrefix limit text = some (text.take limit) := by
  induction text generalizing limit with
  | nil => simp [bytePrefix]
  | cons char rest ih =>
      have size := ascii char (List.mem_cons_self ..)
      have later := ih fun other member => ascii other (List.mem_cons_of_mem _ member)
      cases limit with
      | zero => simp [bytePrefix]
      | succ limit => simp [bytePrefix, size, later]

theorem utf8Size_encode {bytes : List UInt8} {char : Char} (member : char ∈ Hex.encode bytes) :
    char.utf8Size = 1 := by
  obtain ⟨value, bound, rfl⟩ := Hex.mem_encode member
  have sizes : ∀ value < 16, (Hex.digit value).utf8Size = 1 := by decide
  exact sizes value bound

theorem txHashToEscrowId_hashText (hash : Vector UInt8 32) :
    txHashToEscrowId (hashText hash) = some (UInt64.ofNat (leadingNumber hash)) := by
  have sliced := bytePrefix_ascii (Hex.encode hash.toList) (fun _ member => utf8Size_encode member)
    16
  have nibbles := Hex.take_encode hash.toList 8
  have length : (hash.toList.take 8).length = 8 := by simp
  simp only [txHashToEscrowId, hashText, String.toList_ofList, stripHex, sliced, Option.map_some]
  rw [nibbles, Hex.decode_encode]
  simp [leadingNumber, zeros, List.take_take]

theorem leadingNumber_lt (hash : Vector UInt8 32) : leadingNumber hash < 2 ^ 64 := by
  have bound := BigEndian.value_lt (hash.toList.take 8)
  have length : (hash.toList.take 8).length = 8 := by simp
  rwa [length] at bound

theorem sendTx_ok {rpc : Rpc} {calldata : Calldata} {value : UInt64} {txHash : String}
    (sent : (sendTx config crypto rpc calldata value).result = .ok txHash) :
    ∃ raw, rpc.sendRawTransaction raw = .ok (some txHash) := by
  unfold sendTx at sent
  obtain ⟨_, -, sent⟩ := Sending.bind_ok sent
  obtain ⟨_, -, sent⟩ := Sending.bind_ok sent
  obtain ⟨_, -, sent⟩ := Sending.bind_ok sent
  obtain ⟨_, -, sent⟩ := Sending.bind_ok sent
  obtain ⟨_, -, sent⟩ := Sending.bind_ok sent
  obtain ⟨raw, -, sent⟩ := Sending.bind_ok sent
  obtain ⟨answer, answered, sent⟩ := Sending.bind_ok sent
  refine ⟨raw, (Sending.withContext_ok answered).trans ?_⟩
  cases answer with
  | none => cases sent
  | some text => rw [Except.ok.inj sent]

theorem lockFunds_ok {rpc : Rpc} {params : EscrowParams} {handle : EscrowHandle}
    (locked : (lockFunds config crypto rpc params).result = .ok handle) :
    ∃ raw txHash escrowId, rpc.sendRawTransaction raw = .ok (some txHash) ∧
      txHashToEscrowId txHash = some escrowId ∧ handleEscrowId handle = .ok escrowId := by
  unfold lockFunds at locked
  obtain ⟨_, -, locked⟩ := Sending.bind_ok locked
  obtain ⟨txHash, sent, locked⟩ := Sending.bind_ok locked
  obtain ⟨raw, answered⟩ := sendTx_ok (Sending.withContext_ok sent)
  cases mapped : txHashToEscrowId txHash with
  | none =>
      rw [mapped] at locked
      cases locked
  | some escrowId =>
      rw [mapped] at locked
      refine ⟨raw, txHash, escrowId, answered, mapped, ?_⟩
      rw [← Except.ok.inj locked]
      rfl

theorem Lock.escrowId (lock : Lock config crypto) :
    handleEscrowId lock.handle = .ok (UInt64.ofNat (leadingNumber lock.hash)) := by
  obtain ⟨raw, txHash, escrowId, answered, mapped, handled⟩ := lockFunds_ok lock.returned
  simp only [Node.rpc, lock.answered, Except.map, Except.ok.injEq, Option.some.injEq] at answered
  rw [← answered, txHashToEscrowId_hashText] at mapped
  rw [handled, Option.some.inj mapped]

theorem value_abiUint256 (number : UInt64) : BigEndian.value (abiUint256 number) = number.toNat := by
  have bound : number.toNat < 256 ^ 8 := number.toNat_lt
  rw [abiUint256, zeros, BigEndian.value_append, BigEndian.value_zeros, BigEndian.value_bytes,
    Nat.mod_eq_of_lt bound, Nat.zero_mul, Nat.zero_add]

theorem wordArgument_abiUint256 (keccak256 : List UInt8 → Vector UInt8 32) (sig : String)
    (number : UInt64) (words : List (List UInt8)) {calldata : Calldata}
    (bytes : calldata.val = abiCall (abiSelector keccak256 sig) (abiUint256 number :: words)) :
    wordArgument calldata 0 = number.toNat := by
  have selector : (abiSelector keccak256 sig).length = 4 := by simp [abiSelector]
  have word : (abiUint256 number).length = 32 := by simp [abiUint256, zeros]
  rw [wordArgument, bytes, abiCall, Nat.mul_zero, Nat.add_zero, List.drop_left' selector,
    List.flatten_cons, List.take_left' word, value_abiUint256]

theorem Lock.agrees_assigned {lock : Lock config crypto} {escrowId : Nat}
    (outcome : lock.outcome = .assigned escrowId) :
    lock.Agrees ↔ leadingNumber lock.hash = escrowId := by
  have number : (UInt64.ofNat (leadingNumber lock.hash)).toNat = leadingNumber lock.hash :=
    UInt64.toNat_ofNat_of_lt' (leadingNumber_lt lock.hash)
  have refund : refundCall crypto lock.handle =
      .ok (refundCalldata crypto.keccak256 (UInt64.ofNat (leadingNumber lock.hash))) := by
    rw [refundCall, lock.escrowId, Except.map]
  constructor
  · intro agrees
    obtain ⟨-, calldata, called, word⟩ := agrees escrowId outcome
    rw [refund] at called
    rw [← word, ← Except.ok.inj called, wordArgument_abiUint256 _ _ _ [] rfl, number]
  · intro same other assigned
    rw [outcome] at assigned
    obtain rfl := Outcome.assigned.inj assigned
    constructor
    · intro proofHash
      refine ⟨_, by rw [releaseCall, lock.escrowId, Except.map], ?_⟩
      rw [wordArgument_abiUint256 _ _ _ [abiBytes32 proofHash.toList] rfl, number, same]
    · refine ⟨_, refund, ?_⟩
      rw [wordArgument_abiUint256 _ _ _ [] rfl, number, same]

theorem Lock.agrees_of_unassigned {lock : Lock config crypto}
    (outcome : ∀ escrowId, lock.outcome ≠ .assigned escrowId) : lock.Agrees := by
  intro escrowId assigned
  exact absurd assigned (outcome escrowId)

def System.Agrees (system : System config crypto) : Prop := ∀ lock ∈ system.locks, lock.Agrees

theorem agrees_set {locks : List (Lock config crypto)} {index : Nat}
    {before after : Lock config crypto} (found : locks[index]? = some before)
    (agreed : before.Agrees) :
    (∀ lock ∈ locks.set index after, lock.Agrees) ↔
      (∀ lock ∈ locks, lock.Agrees) ∧ after.Agrees := by
  obtain ⟨inside, -⟩ := List.getElem?_eq_some_iff.mp found
  constructor
  · intro all
    constructor
    · intro lock member
      obtain ⟨position, present⟩ := List.mem_iff_getElem?.mp member
      by_cases same : index = position
      · subst same
        rw [found] at present
        rwa [← Option.some.inj present]
      · apply all lock
        rw [List.mem_iff_getElem?]
        exact ⟨position, by rw [List.getElem?_set_ne same, present]⟩
    · apply all after
      rw [List.mem_iff_getElem?]
      exact ⟨index, List.getElem?_set_self inside⟩
  · rintro ⟨all, new⟩ lock member
    rcases List.mem_or_eq_of_mem_set member with old | rfl
    · exact all lock old
    · exact new

theorem Lock.execute_id {lock : Lock config crypto} {now : Nat} {sender : DeAIEscrow.Sender contract}
    {state after : DeAIEscrow.State} {escrowId : Nat}
    (executed : lock.execute now sender state = .ok (escrowId, after)) :
    escrowId = state.nextId := by
  unfold Lock.execute at executed
  split at executed
  · cases executed
  · exact (DeAIEscrow.lockEscrow_ok executed).1

theorem mine_agrees_iff (sender : DeAIEscrow.Sender contract) (system : System config crypto)
    (index now : Nat) : (step sender system (.mine index now)).Agrees ↔
      system.Agrees ∧ Matches sender system (.mine index now) := by
  cases found : system.locks[index]? with
  | none => simp [step, Matches, found]
  | some lock =>
      by_cases pending : lock.outcome = .pending
      · have agreed : lock.Agrees := by
          apply Lock.agrees_of_unassigned
          simp [pending]
        cases executed : lock.execute now sender system.contract with
        | error reason =>
            have kept : (lock.resolve .reverted).Agrees := by
              apply Lock.agrees_of_unassigned
              simp [Lock.resolve]
            simp [step, Matches, found, pending, executed, System.Agrees, agrees_set found agreed,
              kept, Except.isOk, Except.toBool]
        | ok answer =>
            obtain ⟨escrowId, after⟩ := answer
            have assigned : (lock.resolve (.assigned escrowId)).Agrees ↔
                leadingNumber lock.hash = escrowId := Lock.agrees_assigned rfl
            obtain rfl := Lock.execute_id executed
            simp [step, Matches, found, pending, executed, System.Agrees, agrees_set found agreed,
              assigned, Except.isOk, Except.toBool]
      · simp [step, Matches, found, pending]

theorem lockFunds_agrees_iff (system : System config crypto) (node : Node) (params : EscrowParams) :
    (system.lockFunds node params).Agrees ↔ system.Agrees := by
  unfold System.lockFunds
  split
  · rw [System.Agrees, List.forall_mem_append, List.forall_mem_singleton]
    apply and_iff_left
    apply Lock.agrees_of_unassigned
    simp
  · exact Iff.rfl

theorem step_agrees_iff (sender : DeAIEscrow.Sender contract) (system : System config crypto)
    (next : Step contract) :
    (step sender system next).Agrees ↔ system.Agrees ∧ Matches sender system next := by
  cases next with
  | others now script => simp [step, Matches, System.Agrees]
  | lockFunds node params =>
      simp [step, Matches, lockFunds_agrees_iff]
  | mine index now => exact mine_agrees_iff sender system index now

/-- After any history of the chain and the adapter, every lock's handle names the
id that the contract assigned to it exactly when each lock that was mined had a
transaction hash that starts with the contract's counter. -/
theorem escrowId_agrees_iff (sender : DeAIEscrow.Sender contract) (start : DeAIEscrow.State)
    (history : List (Step contract)) :
    (Runs.run (step sender) (⟨start, []⟩ : System config crypto) history).Agrees ↔
      Runs.Always (step sender) (Matches sender) (⟨start, []⟩ : System config crypto) history := by
  rw [Runs.property_run_iff (fun _ => True) System.Agrees (Matches sender) (fun _ _ _ => trivial)
    (fun system next _ => step_agrees_iff sender system next) _ _ trivial]
  simp [System.Agrees]

def firstConfig : EvmConfig where
  id := "evm-8453"
  contractAddress := "0xabababababababababababababababababababab"
  chainId := 8453
  signerSeed := some testSeed

def lockSelectorHash : Vector UInt8 32 :=
  #v[53, 247, 16, 147, 152, 243, 53, 122, 149, 3, 57, 219, 125, 131, 205, 155, 101, 169, 16, 132,
  23, 148, 183, 199, 25, 145, 1, 90, 243, 123, 156, 151]

def firstSigningHash : Vector UInt8 32 :=
  #v[135, 190, 127, 242, 70, 245, 228, 72, 101, 133, 141, 172, 65, 215, 202, 142, 127, 150, 233,
  231, 175, 89, 52, 252, 174, 92, 79, 238, 252, 150, 186, 2]

def firstLockSignature : Signature where
  r :=
    #v[116, 38, 56, 94, 175, 57, 97, 240, 216, 222, 245, 91, 99, 247, 217, 233, 147, 201, 64, 115,
    225, 53, 128, 218, 171, 171, 94, 94, 39, 157, 128, 226]
  s :=
    #v[83, 119, 159, 18, 108, 200, 212, 154, 59, 106, 103, 86, 151, 226, 16, 246, 157, 224, 19, 16,
    17, 201, 104, 119, 167, 240, 149, 186, 5, 166, 199, 221]
  recoveryId := 0

def firstCrypto : Crypto Unit where
  keccak256 := fun input =>
    if input.length = 64 then ownAddressHash
    else if input.length = 27 then lockSelectorHash
    else firstSigningHash
  fromBytes := fun _ => some ()
  publicKey := fun _ => testPublicKey
  signPrehashRecoverable := fun _ _ => some firstLockSignature

def firstNode : Node where
  nonce := .ok 0
  fees := .ok (1000000000, 3000000000)
  gas := none
  hash := .ok
    #v[56, 114, 223, 66, 116, 221, 28, 86, 95, 142, 146, 196, 139, 79, 205, 17, 143, 47, 161, 93,
    232, 196, 233, 36, 131, 19, 112, 186, 80, 234, 99, 18]

def firstParams : EscrowParams where
  requestId := ⟨Vector.replicate 16 7⟩
  amountNanox := 1000
  clientAddress := "0xClient"
  nodeAddress := "peer_node"
  tokenId := "native"

def firstContract : DeAIEscrow.Address := 0xabababababababababababababababababababab

def firstSender : DeAIEscrow.Sender firstContract where
  address := 0xb0e5863d0ddf7e105e409fee0ecc0123a362e14b
  nonzero := by decide
  external := by decide

def firstRun : System firstConfig firstCrypto :=
  Runs.run (step firstSender) ⟨DeAIEscrow.State.deployed firstContract fun _ => 1000000000000000000, []⟩
    [.lockFunds firstNode firstParams, .mine 0 1700000000]

theorem escrowId_disagrees :
    firstRun.locks.map Lock.outcome = [.assigned 1] ∧ ¬firstRun.Agrees := by
  have outcomes : firstRun.locks.map Lock.outcome = [.assigned 1] := by decide +kernel
  have numbers : firstRun.locks.map (fun lock => leadingNumber lock.hash) = [4067558889990462550] := by
    decide +kernel
  refine ⟨outcomes, ?_⟩
  intro agrees
  obtain ⟨lock, single, outcome⟩ := List.map_eq_singleton_iff.mp outcomes
  have number := (Lock.agrees_assigned outcome).mp (agrees lock (by simp [single]))
  simp [single, number] at numbers

end Pinaivu.Evm
