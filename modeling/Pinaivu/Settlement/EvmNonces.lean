import Mathlib.Data.List.Nodup
import Pinaivu.Lib.Tickets
import Pinaivu.Settlement.EvmCore

/-!
Concurrent sends of one signer. A send takes a step for each of its calls to the node: it fetches
the nonce, the fees and the gas estimate, and submits what it has signed.
-/

namespace Pinaivu.Evm

/-- `send_tx` sends to the escrow contract, `send_transaction` to any address. -/
inductive Destination where
  | contract
  | address (text : String)

/-- A send with the node's answers to it, apart from the pending count. A transaction that the node
takes may still be answered with a failure. -/
structure Send where
  destination : Destination
  calldata : Calldata
  value : UInt64
  nonceFailure : Option Failure
  fees : Except Failure (UInt64 × UInt64)
  gas : Option UInt64
  takes : List UInt8 → Bool
  sendRawTransaction : List UInt8 → Except Failure (Option String)

inductive Phase where
  | begun
  | fetched (nonce : UInt64)
  | priced (nonce maxPriorityFee maxFee : UInt64)
  | estimated (nonce maxPriorityFee maxFee gasLimit : UInt64)
  | finished (result : Except Failure String)

def Phase.nonce : Phase → Option UInt64
  | .fetched nonce => some nonce
  | .priced nonce _ _ => some nonce
  | .estimated nonce _ _ _ => some nonce
  | _ => none

structure Chain (Caller : Type) where
  pending : Nat
  submitted : List TxParams
  phase : Caller → Phase

def pendingNonce (pending : Nat) : Except Failure UInt64 :=
  if pending < 18446744073709551616 then .ok (UInt64.ofNat pending) else .error (.error ["parse hex u64"])

def Destination.submitContext : Destination → String
  | .contract => "EvmSettlement: eth_sendRawTransaction failed"
  | .address _ => "send_transaction: eth_sendRawTransaction failed"

section

variable {SigningKey : Type} (config : EvmConfig) (crypto : Crypto SigningKey)

def Destination.resolve : Destination → Except Failure (Vector UInt8 20)
  | .contract => withContext "EvmSettlement: invalid contract_address" (parseAddr config.contractAddress)
  | .address text => withContext "send_transaction: invalid 'to' address" (parseAddr text)

def Send.prepare (send : Send) : Except Failure (Vector UInt8 32 × Vector UInt8 20) := do
  let seed ← config.seed
  let _ ← ethAddress crypto seed
  let address ← send.destination.resolve config
  return (seed, address)

def Send.getNonce (send : Send) (pending : Nat) : Except Failure UInt64 :=
  match send.nonceFailure with
  | some failure => .error failure
  | none => pendingNonce pending

def Send.transaction (send : Send) (address : Vector UInt8 20) (nonce maxPriorityFee maxFee gasLimit : UInt64) :
    TxParams :=
  ⟨config.chainId, nonce, maxPriorityFee, maxFee, gasLimit, address, send.value, send.calldata.val,
    send.calldata.property⟩

def Send.sign (send : Send) (nonce maxPriorityFee maxFee gasLimit : UInt64) :
    Except Failure (TxParams × List UInt8) := do
  let (seed, address) ← send.prepare config crypto
  let tx := send.transaction config address nonce maxPriorityFee maxFee gasLimit
  let raw ← (signEip1559 crypto tx seed).mapError fun failed => .error [failed.text]
  return (tx, raw)

def Send.submits (send : Send) (nonce maxPriorityFee maxFee gasLimit : UInt64) : Bool :=
  match send.sign config crypto nonce maxPriorityFee maxFee gasLimit with
  | .error _ => false
  | .ok (_, raw) => send.takes raw

def Send.answer (send : Send) (raw : List UInt8) : Except Failure String := do
  let answer ← withContext send.destination.submitContext (send.sendRawTransaction raw)
  match answer with
  | none => .error (.error ["eth_sendRawTransaction: non-string result"])
  | some txHash => .ok txHash

variable {Caller : Type} [DecidableEq Caller] (sends : Caller → Send)

def Chain.become (chain : Chain Caller) (who : Caller) (phase : Phase) : Chain Caller :=
  { chain with phase := Function.update chain.phase who phase }

def Chain.submit (chain : Chain Caller) (tx : TxParams) : Chain Caller :=
  { chain with pending := chain.pending + 1, submitted := chain.submitted ++ [tx] }

def Chain.step (chain : Chain Caller) (who : Caller) : Chain Caller :=
  match chain.phase who with
  | .begun =>
      match (sends who).prepare config crypto, (sends who).getNonce chain.pending with
      | .error failure, _ => chain.become who (.finished (.error failure))
      | .ok _, .error failure => chain.become who (.finished (.error failure))
      | .ok _, .ok nonce => chain.become who (.fetched nonce)
  | .fetched nonce =>
      match (sends who).fees with
      | .error failure => chain.become who (.finished (.error failure))
      | .ok (maxPriorityFee, maxFee) => chain.become who (.priced nonce maxPriorityFee maxFee)
  | .priced nonce maxPriorityFee maxFee =>
      chain.become who (.estimated nonce maxPriorityFee maxFee ((sends who).gas.getD 300000))
  | .estimated nonce maxPriorityFee maxFee gasLimit =>
      match (sends who).sign config crypto nonce maxPriorityFee maxFee gasLimit with
      | .error failure => chain.become who (.finished (.error failure))
      | .ok (tx, raw) =>
          (if (sends who).takes raw then chain.submit tx else chain).become who (.finished ((sends who).answer raw))
  | .finished _ => chain

def Chain.start (pending : Nat) : Chain Caller := ⟨pending, [], fun _ => .begun⟩

/-- A transaction goes out only with the nonce that the chain expects next. -/
def SubmitsNext (chain : Chain Caller) (who : Caller) : Prop :=
  ∀ nonce maxPriorityFee maxFee gasLimit, chain.phase who = .estimated nonce maxPriorityFee maxFee gasLimit →
    (sends who).submits config crypto nonce maxPriorityFee maxFee gasLimit = true →
    nonce.toNat = chain.pending

@[simp] theorem become_phase (chain : Chain Caller) (who : Caller) (phase : Phase) :
    (chain.become who phase).phase who = phase := by
  simp [Chain.become]

/-- The chain as a counter, and the nonces as tickets drawn from it. -/
def Chain.tickets (chain : Chain Caller) : Tickets.State Caller :=
  ⟨chain.pending, chain.submitted.map fun tx => tx.nonce.toNat,
    fun who => (chain.phase who).nonce.map UInt64.toNat⟩

def Chain.moves (chain : Chain Caller) (who : Caller) : List (Tickets.Move Caller) :=
  match chain.phase who with
  | .begun =>
      match (sends who).prepare config crypto, (sends who).getNonce chain.pending with
      | .ok _, .ok _ => [.take who]
      | _, _ => [.drop who]
  | .fetched _ =>
      match (sends who).fees with
      | .error _ => [.drop who]
      | .ok _ => []
  | .priced _ _ _ => []
  | .estimated nonce maxPriorityFee maxFee gasLimit =>
      if (sends who).submits config crypto nonce maxPriorityFee maxFee gasLimit then [.use who] else [.drop who]
  | .finished _ => []

theorem Send.getNonce_ok {send : Send} {pending : Nat} {nonce : UInt64}
    (fetched : send.getNonce pending = .ok nonce) : nonce.toNat = pending := by
  unfold Send.getNonce at fetched
  split at fetched
  · contradiction
  · unfold pendingNonce at fetched
    split at fetched
    · next small =>
        obtain rfl := Except.ok.inj fetched
        exact UInt64.toNat_ofNat_of_lt small
    · contradiction

theorem Send.sign_ok {config : EvmConfig} {crypto : Crypto SigningKey} {send : Send}
    {nonce maxPriorityFee maxFee gasLimit : UInt64} {tx : TxParams} {raw : List UInt8}
    (signed : send.sign config crypto nonce maxPriorityFee maxFee gasLimit = .ok (tx, raw)) : tx.nonce = nonce := by
  unfold Send.sign at signed
  obtain ⟨⟨seed, address⟩, -, signed⟩ := bind_ok signed
  obtain ⟨bytes, -, signed⟩ := bind_ok signed
  obtain ⟨rfl, -⟩ := Prod.mk.inj (Except.ok.inj signed)
  rfl

theorem Send.submits_ok {config : EvmConfig} {crypto : Crypto SigningKey} {send : Send}
    {nonce maxPriorityFee maxFee gasLimit : UInt64} {tx : TxParams} {raw : List UInt8}
    (signed : send.sign config crypto nonce maxPriorityFee maxFee gasLimit = .ok (tx, raw)) :
    send.submits config crypto nonce maxPriorityFee maxFee gasLimit = send.takes raw := by
  rw [Send.submits, signed]

theorem Send.submits_error {config : EvmConfig} {crypto : Crypto SigningKey} {send : Send}
    {nonce maxPriorityFee maxFee gasLimit : UInt64} {failure : Failure}
    (failed : send.sign config crypto nonce maxPriorityFee maxFee gasLimit = .error failure) :
    send.submits config crypto nonce maxPriorityFee maxFee gasLimit = false := by
  rw [Send.submits, failed]

theorem tickets_become (chain : Chain Caller) (who : Caller) (phase : Phase) :
    (chain.become who phase).tickets =
      { chain.tickets with held := Function.update chain.tickets.held who (phase.nonce.map UInt64.toNat) } := by
  simp only [Chain.tickets, Chain.become, Tickets.State.mk.injEq, true_and]
  funext other
  simp only [Function.update_apply]
  split
  · rfl
  · rfl

theorem tickets_dropped (chain : Chain Caller) (who : Caller) {phase : Phase} (none : phase.nonce = none) :
    (chain.become who phase).tickets = Tickets.step chain.tickets (.drop who) := by
  rw [tickets_become, none]
  rfl

theorem tickets_kept (chain : Chain Caller) (who : Caller) {phase : Phase}
    (same : phase.nonce = (chain.phase who).nonce) : (chain.become who phase).tickets = chain.tickets := by
  have held : Function.update chain.tickets.held who (phase.nonce.map UInt64.toNat) = chain.tickets.held := by
    rw [same]
    exact Function.update_eq_self who chain.tickets.held
  rw [tickets_become, held]

theorem tickets_step (chain : Chain Caller) (who : Caller) :
    (chain.step config crypto sends who).tickets =
      Runs.run Tickets.step chain.tickets (chain.moves config crypto sends who) := by
  unfold Chain.step Chain.moves
  cases phase : chain.phase who with
  | begun =>
      cases prepared : (sends who).prepare config crypto with
      | error failure => exact tickets_dropped chain who rfl
      | ok signer =>
          cases fetched : (sends who).getNonce chain.pending with
          | error failure => exact tickets_dropped chain who rfl
          | ok nonce =>
              have taken : (Phase.fetched nonce).nonce.map UInt64.toNat = some chain.pending :=
                congrArg some (Send.getNonce_ok fetched)
              rw [tickets_become, taken]
              rfl
  | fetched nonce =>
      cases (sends who).fees with
      | error failure => exact tickets_dropped chain who rfl
      | ok fees => exact tickets_kept chain who (by rw [phase]; rfl)
  | priced nonce maxPriorityFee maxFee => exact tickets_kept chain who (by rw [phase]; rfl)
  | estimated nonce maxPriorityFee maxFee gasLimit =>
      have held : chain.tickets.held who = some nonce.toNat := by
        simp only [Chain.tickets, phase, Phase.nonce, Option.map_some]
      dsimp only
      cases signed : (sends who).sign config crypto nonce maxPriorityFee maxFee gasLimit with
      | error failure =>
          rw [Send.submits_error signed]
          exact tickets_dropped chain who rfl
      | ok taken =>
          obtain ⟨tx, raw⟩ := taken
          rw [Send.submits_ok signed]
          dsimp only
          split
          · simp only [Runs.run_cons, Runs.run_nil, Tickets.step, held]
            rw [tickets_become]
            simp only [Chain.tickets, Chain.submit, List.map_append, List.map_cons, List.map_nil,
              Send.sign_ok signed, Phase.nonce, Option.map_none]
          · exact tickets_dropped chain who rfl
  | finished result => rfl

omit [DecidableEq Caller] in
theorem submitsNext_other {config : EvmConfig} {crypto : Crypto SigningKey} {sends : Caller → Send}
    {chain : Chain Caller} {who : Caller}
    (other : ∀ nonce maxPriorityFee maxFee gasLimit,
      chain.phase who ≠ .estimated nonce maxPriorityFee maxFee gasLimit) :
    SubmitsNext config crypto sends chain who := by
  intro nonce maxPriorityFee maxFee gasLimit estimated
  exact absurd estimated (other nonce maxPriorityFee maxFee gasLimit)

theorem submitsNext_iff (chain : Chain Caller) (who : Caller) :
    SubmitsNext config crypto sends chain who ↔
      Runs.Always Tickets.step Tickets.Fresh chain.tickets (chain.moves config crypto sends who) := by
  unfold Chain.moves
  cases phase : chain.phase who with
  | begun =>
      refine iff_of_true (submitsNext_other (by simp [phase])) ?_
      dsimp only
      split
      · exact ⟨trivial, trivial⟩
      · exact ⟨trivial, trivial⟩
  | fetched nonce =>
      refine iff_of_true (submitsNext_other (by simp [phase])) ?_
      dsimp only
      split
      · exact ⟨trivial, trivial⟩
      · trivial
  | priced nonce maxPriorityFee maxFee => exact iff_of_true (submitsNext_other (by simp [phase])) trivial
  | estimated nonce maxPriorityFee maxFee gasLimit =>
      have held : chain.tickets.held who = some nonce.toNat := by
        simp only [Chain.tickets, phase, Phase.nonce, Option.map_some]
      dsimp only
      cases submits : (sends who).submits config crypto nonce maxPriorityFee maxFee gasLimit with
      | true =>
          constructor
          · intro next
            refine ⟨?_, trivial⟩
            intro ticket carried
            obtain rfl := Option.some.inj (held.symm.trans carried)
            exact next nonce maxPriorityFee maxFee gasLimit phase submits
          · rintro ⟨fresh, -⟩ _ _ _ _ same -
            obtain ⟨rfl, -, -, -⟩ := Phase.estimated.inj (phase.symm.trans same)
            exact fresh nonce.toNat held
      | false =>
          refine iff_of_true ?_ ⟨trivial, trivial⟩
          rintro _ _ _ _ same taken
          obtain ⟨rfl, rfl, rfl, rfl⟩ := Phase.estimated.inj (phase.symm.trans same)
          rw [submits] at taken
          contradiction
  | finished result => exact iff_of_true (submitsNext_other (by simp [phase])) trivial

/-- No nonce goes out twice exactly when each send submits while the count it fetched still stands. -/
theorem nonces_distinct_iff (pending : Nat) (schedule : List Caller) :
    ((Runs.run (Chain.step config crypto sends) (Chain.start pending) schedule).submitted.map TxParams.nonce).Nodup ↔
      Runs.Always (Chain.step config crypto sends) (SubmitsNext config crypto sends)
        (Chain.start pending) schedule := by
  have used (chain : Chain Caller) :
      chain.tickets.used.Nodup ↔ (chain.submitted.map TxParams.nonce).Nodup := by
    have mapped : chain.tickets.used = (chain.submitted.map TxParams.nonce).map UInt64.toNat := by
      simp only [Chain.tickets, List.map_map]
      rfl
    rw [mapped]
    exact List.nodup_map_iff fun _ _ => UInt64.toNat_inj.mp
  rw [← used, Runs.abstract_run (tickets_step config crypto sends),
    Runs.abstract_always (tickets_step config crypto sends) (submitsNext_iff config crypto sends)]
  exact Tickets.used_nodup_iff pending _

def Send.rpc (send : Send) (pending : Nat) : Rpc :=
  ⟨send.getNonce pending, send.fees, send.gas, send.sendRawTransaction⟩

theorem sendTx_prepared (send : Send) (pending : Nat) (contract : send.destination = .contract) :
    (sendTx config crypto (send.rpc pending) send.calldata send.value).result = (do
      let (seed, address) ← send.prepare config crypto
      let nonce ← send.getNonce pending
      let (maxPriorityFee, maxFee) ← send.fees
      let tx := send.transaction config address nonce maxPriorityFee maxFee (send.gas.getD 300000)
      let raw ← (signEip1559 crypto tx seed).mapError fun failed => .error [failed.text]
      send.answer raw) := by
  simp only [sendTx, Send.prepare, Send.answer, contract, Destination.resolve, Destination.submitContext, bind_assoc,
    pure_bind, Sending.bind_result]
  refine bind_congr fun seed => bind_congr fun _ => bind_congr fun address => bind_congr fun nonce => ?_
  refine bind_congr fun fees => bind_congr fun raw => bind_congr fun answer => ?_
  cases answer with
  | none => rfl
  | some txHash => rfl

theorem Send.sign_prepared {config : EvmConfig} {crypto : Crypto SigningKey} {send : Send}
    {seed : Vector UInt8 32} {address : Vector UInt8 20}
    (prepared : send.prepare config crypto = .ok (seed, address)) (nonce maxPriorityFee maxFee gasLimit : UInt64) :
    send.sign config crypto nonce maxPriorityFee maxFee gasLimit = (do
      let tx := send.transaction config address nonce maxPriorityFee maxFee gasLimit
      let raw ← (signEip1559 crypto tx seed).mapError fun failed => .error [failed.text]
      return (tx, raw)) := by
  rw [Send.sign, prepared]
  rfl

theorem sendTx_eq (send : Send) (pending : Nat) (contract : send.destination = .contract) :
    (sendTx config crypto (send.rpc pending) send.calldata send.value).result = (do
      let _ ← send.prepare config crypto
      let nonce ← send.getNonce pending
      let (maxPriorityFee, maxFee) ← send.fees
      let (_, raw) ← send.sign config crypto nonce maxPriorityFee maxFee (send.gas.getD 300000)
      send.answer raw) := by
  rw [sendTx_prepared config crypto send pending contract]
  cases prepared : send.prepare config crypto with
  | error failure => rfl
  | ok signer =>
      have signs := Send.sign_prepared prepared
      simp only [ok_bind, signs, bind_assoc, pure_bind]

/-- A send to the contract that runs alone does what `sendTx` does. -/
theorem sendTx_alone (chain : Chain Caller) (who : Caller) (begun : chain.phase who = .begun)
    (contract : (sends who).destination = .contract) :
    (Runs.run (Chain.step config crypto sends) chain [who, who, who, who]).phase who =
      .finished
        (sendTx config crypto ((sends who).rpc chain.pending) (sends who).calldata (sends who).value).result := by
  rw [sendTx_eq config crypto (sends who) chain.pending contract]
  simp only [Runs.run_cons, Runs.run_nil, bind, Except.bind]
  cases prepared : (sends who).prepare config crypto with
  | error failure => simp [Chain.step, begun, prepared]
  | ok signer =>
      cases fetched : (sends who).getNonce chain.pending with
      | error failure => simp [Chain.step, begun, prepared, fetched]
      | ok nonce =>
          cases priced : (sends who).fees with
          | error failure => simp [Chain.step, begun, prepared, fetched, priced]
          | ok fees =>
              obtain ⟨maxPriorityFee, maxFee⟩ := fees
              cases signed : (sends who).sign config crypto nonce maxPriorityFee maxFee
                  ((sends who).gas.getD 300000) with
              | error failure => simp [Chain.step, begun, prepared, fetched, priced, signed]
              | ok taken => simp [Chain.step, begun, prepared, fetched, priced, signed]

end

def transferConfig : EvmConfig where
  id := "evm-1"
  contractAddress := "0xabababababababababababababababababababab"
  chainId := 1
  signerSeed := some testSeed

def cheapTransferHash : Vector UInt8 32 :=
  #v[227, 108, 110, 166, 85, 82, 102, 124, 220, 243, 149, 218, 111, 254, 46, 250, 218, 175, 233,
  207, 70, 49, 139, 234, 199, 239, 212, 176, 148, 57, 210, 12]

def cheapTransferSignature : Signature where
  r :=
    #v[251, 212, 119, 120, 194, 195, 12, 84, 124, 129, 145, 10, 199, 67, 237, 13, 248, 57, 247, 86,
    86, 185, 142, 27, 112, 67, 231, 251, 185, 178, 126, 69]
  s :=
    #v[53, 104, 213, 222, 135, 73, 98, 127, 222, 76, 31, 98, 102, 76, 187, 95, 21, 14, 218, 77, 126,
    183, 163, 240, 244, 177, 34, 68, 192, 237, 200, 157]
  recoveryId := 0

def dearTransferHash : Vector UInt8 32 :=
  #v[8, 196, 37, 151, 92, 209, 123, 146, 222, 195, 193, 67, 25, 17, 13, 164, 181, 194, 64, 216, 77,
  227, 91, 157, 100, 238, 219, 85, 47, 11, 248, 139]

def dearTransferSignature : Signature where
  r :=
    #v[111, 93, 74, 180, 107, 196, 107, 80, 134, 167, 3, 230, 140, 6, 220, 71, 166, 224, 67, 170,
    214, 231, 57, 140, 41, 1, 84, 120, 52, 64, 50, 91]
  s :=
    #v[42, 143, 22, 143, 41, 121, 94, 187, 82, 100, 153, 32, 198, 10, 195, 102, 47, 153, 92, 47,
    146, 110, 246, 11, 45, 60, 183, 81, 230, 133, 60, 150]
  recoveryId := 0

def transferCrypto : Crypto Unit where
  keccak256 := fun input =>
    if input.length = 64 then ownAddressHash
    else if input.length = 41 then cheapTransferHash
    else dearTransferHash
  fromBytes := fun _ => some ()
  publicKey := fun _ => testPublicKey
  signPrehashRecoverable := fun _ hash =>
    some (if hash = cheapTransferHash then cheapTransferSignature else dearTransferSignature)

def transfers (dear : Bool) : Send where
  destination := .address "0xabababababababababababababababababababab"
  calldata := ⟨[], by decide⟩
  value := if dear then 1 else 0
  nonceFailure := none
  fees := .ok (if dear then (2000000000, 6000000000) else (1000000000, 2000000000))
  gas := some 25200
  takes := fun _ => true
  sendRawTransaction := fun _ => .ok (some
    (if dear then "0x050d4144b7ba65c7e845f70df4b2d8eb32f6d6c456e52ab85d79668ab5f46992"
    else "0xaebebb238a5bef99c4807970ffa0e50fa2cd8bdbfd407fc7b7f37eeffb90ba7a"))

/-- Both transfers fetch the count before either of them submits. -/
def racedTransfers : Chain Bool :=
  Runs.run (Chain.step transferConfig transferCrypto transfers) (Chain.start 0)
    [false, true, false, false, false, true, true, true]

theorem nonce_used_twice :
    racedTransfers.submitted.map TxParams.value = [0, 1] ∧ ¬(racedTransfers.submitted.map TxParams.nonce).Nodup := by
  have values : racedTransfers.submitted.map TxParams.value = [0, 1] := by decide +kernel
  have nonces : racedTransfers.submitted.map TxParams.nonce = [0, 0] := by decide +kernel
  refine ⟨values, ?_⟩
  rw [nonces]
  decide

end Pinaivu.Evm
