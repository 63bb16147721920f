import Pinaivu.Lib.Runs
import Pinaivu.Settlement.ChannelConservation
import Pinaivu.Settlement.EvmCore

/-!
`PaymentChannel` of `settlement/channel.rs` with a chain configuration: each operation also sends a transaction to
the escrow contract, under the same lock. A channel is opened on chain first, and settled in memory first.
-/

namespace Pinaivu.Channel

open Settlement Evm

structure ChannelChainConfig where
  contractAddress : String
  chainId : UInt64
  signerSeed : Vector UInt8 32

def channelIdFromUuid (id : Uuid) : Vector UInt8 32 := id.bytes ++ Vector.replicate 16 (0 : UInt8)

inductive ChainCall where
  | openChannel (channelId : Vector UInt8 32) (node : Vector UInt8 20) (amount : NanoX)
  | closeChannel (channelId : Vector UInt8 32) (nodeBalance : NanoX)
  | refundChannel (channelId : Vector UInt8 32)
  deriving DecidableEq

def ChainCall.channelId : ChainCall → Vector UInt8 32
  | .openChannel channelId _ _ | .closeChannel channelId _ | .refundChannel channelId => channelId

def ChainCall.value : ChainCall → NanoX
  | .openChannel _ _ amount => amount
  | _ => 0

def ChainCall.calldata (keccak256 : List UInt8 → Vector UInt8 32) : ChainCall → Calldata
  | .openChannel channelId node _ => {
      val := abiCall (abiSelector keccak256 "openChannel(bytes32,address)")
        [abiBytes32 channelId.toList, abiAddress node]
      property := by simp [abiCall, abiSelector, abiBytes32, abiAddress, zeros] }
  | .closeChannel channelId nodeBalance => {
      val := abiCall (abiSelector keccak256 "closeChannel(bytes32,uint256)")
        [abiBytes32 channelId.toList, abiUint256 nodeBalance]
      property := by simp [abiCall, abiSelector, abiBytes32, abiUint256, zeros] }
  | .refundChannel channelId => {
      val := abiCall (abiSelector keccak256 "refundChannel(bytes32)") [abiBytes32 channelId.toList]
      property := by simp [abiCall, abiSelector, abiBytes32, zeros] }

/-- A call to the contract, and whether the node got the hash of its transaction. -/
structure Submission where
  call : ChainCall
  accepted : Bool
  deriving DecidableEq

inductive ChainError where
  | channel (error : Error)
  | chain (failure : Failure)

section

variable {SigningKey : Type} (config : ChannelChainConfig) (crypto : Crypto SigningKey)

def sendTx (rpc : Rpc) (call : ChainCall) : Except Failure String := do
  let calldata := call.calldata crypto.keccak256
  let _ ← ethAddress crypto config.signerSeed
  let address ← withContext "ChannelChain: invalid contract_address" (parseAddr config.contractAddress)
  let nonce ← rpc.nonce
  let (maxPriorityFee, maxFee) ← rpc.fees
  let gasLimit := rpc.gas.getD 300000
  let raw ← (signEip1559 crypto ⟨config.chainId, nonce, maxPriorityFee, maxFee, gasLimit, address, call.value,
    calldata.val, calldata.property⟩ config.signerSeed).mapError fun failed => .error [failed.text]
  let answer ← withContext "ChannelChain: eth_sendRawTransaction failed" (rpc.sendRawTransaction raw)
  match answer with
  | none => .error (.error ["eth_sendRawTransaction: non-string result"])
  | some txHash => .ok txHash

def resolveNode (params : EscrowParams) : Except Failure (Vector UInt8 20) :=
  match parseAddr params.nodeAddress with
  | .ok node => .ok node
  | .error _ =>
      withContext "PaymentChannel: cannot resolve node address" (ethAddress crypto config.signerSeed)

def submit (rpc : Rpc) (call : ChainCall) : Submission := ⟨call, (sendTx config crypto rpc call).isOk⟩

/-- Nothing is kept of a channel whose `openChannel` was not answered with a transaction hash. -/
def lockFundsOnChain (rpc : Rpc) (openedAt : UInt64) (params : EscrowParams) (channel : PaymentChannel) :
    Except ChainError EscrowHandle × PaymentChannel × List Submission :=
  let key := params.requestId.toText
  if key ∈ channel.channels then (.error (.channel .alreadyOpen), channel, [])
  else
    match resolveNode config crypto params with
    | .error failure => (.error (.chain failure), channel, [])
    | .ok node =>
        let channelId := channelIdFromUuid params.requestId
        let call := ChainCall.openChannel channelId node params.amountNanox
        match withContext ("PaymentChannel: openChannel failed for " ++ params.requestId.toText)
            (sendTx config crypto rpc call) with
        | .error failure => (.error (.chain failure), channel, [⟨call, false⟩])
        | .ok txHash =>
            let payload := Json.object
              [("client", .string params.clientAddress), ("node", .string params.nodeAddress), ("seq", .number 0),
                ("channel_id", .string (String.ofList (Hex.encode channelId.toList))), ("tx_hash", .string txHash),
                ("chain_id", .number config.chainId)]
            let state : ChannelState := ⟨params.requestId, params.amountNanox, 0, 0, openedAt, false⟩
            (.ok ⟨"channel", params.requestId, params.amountNanox, some txHash, payload⟩,
              ⟨channel.channels.insert key state, channel.totalSettledNanox⟩, [⟨call, true⟩])

/-- A transaction that fails is only logged. -/
def releaseFundsOnChain (rpc : Rpc) (handle : EscrowHandle) (proof : ProofOfInference) (channel : PaymentChannel) :
    Except Error Unit × PaymentChannel × List Submission :=
  let key := handle.requestId.toText
  match channel.channels.lookup key with
  | none => (.error (.noOpenChannel handle.requestId), channel, [])
  | some state =>
      if state.settled then (.ok (), channel, [])
      else
        let cost := proof.pricePaidNanox
        if state.balanceClient < cost then (.error (.costExceedsBalance cost state.balanceClient), channel, [])
        else
          let next := state.pay cost
          (.ok (), ⟨channel.channels.insert key next, channel.totalSettledNanox + cost⟩,
            [submit config crypto rpc (.closeChannel (channelIdFromUuid handle.requestId) next.balanceNode)])

def refundFundsOnChain (rpc : Rpc) (handle : EscrowHandle) (channel : PaymentChannel) :
    Except Error Unit × PaymentChannel × List Submission :=
  let key := handle.requestId.toText
  match channel.channels.lookup key with
  | none => (.error (.noChannelToRefund handle.requestId), channel, [])
  | some state =>
      if state.settled then (.ok (), channel, [])
      else
        (.ok (), ⟨channel.channels.insert key state.close, channel.totalSettledNanox⟩,
          [submit config crypto rpc (.refundChannel (channelIdFromUuid handle.requestId))])

structure ChainEvent where
  call : Call
  rpc : Rpc

def performOnChain (channel : PaymentChannel) (event : ChainEvent) : PaymentChannel × List Submission :=
  match event.call with
  | .lockFunds openedAt params => (lockFundsOnChain config crypto event.rpc openedAt params channel).2
  | .releaseFunds handle proof => (releaseFundsOnChain config crypto event.rpc handle proof channel).2
  | .refundFunds handle => (refundFundsOnChain config crypto event.rpc handle channel).2

def stepOnChain (channel : PaymentChannel) (event : ChainEvent) : PaymentChannel :=
  (performOnChain config crypto channel event).1

def submissions (channel : PaymentChannel) (event : ChainEvent) : List Submission :=
  (performOnChain config crypto channel event).2

def ChainEvent.takes (event : ChainEvent) : Bool :=
  match event.call with
  | .lockFunds _ params =>
      match resolveNode config crypto params with
      | .error _ => false
      | .ok node =>
          (submit config crypto event.rpc
            (.openChannel (channelIdFromUuid params.requestId) node params.amountNanox)).accepted
  | _ => true

/-- The calls that the same channel would have got without a chain. -/
def offChain (events : List ChainEvent) : List Call :=
  (events.filter (ChainEvent.takes config crypto)).map ChainEvent.call

def submissionsFor (requestId : RequestId) (events : List ChainEvent) : List Submission :=
  (Runs.outputs (stepOnChain config crypto) (submissions config crypto) .new events).filter
    (·.call.channelId = channelIdFromUuid requestId)

end

/-- What the contract has been sent for a channel, from the `openChannel` that was answered with a hash. -/
def Phase.submitted (channelId : Vector UInt8 32) : Phase → List Submission → Prop
  | .unopened, sent => sent = []
  | .opened amount, sent => ∃ node, sent = [⟨.openChannel channelId node amount, true⟩]
  | .released amount cost _, sent => ∃ node accepted,
      sent = [⟨.openChannel channelId node amount, true⟩, ⟨.closeChannel channelId cost, accepted⟩]
  | .refunded amount, sent => ∃ node accepted,
      sent = [⟨.openChannel channelId node amount, true⟩, ⟨.refundChannel channelId, accepted⟩]

/-- Before that there are only calls to open it that were not answered so. -/
def Disciplined (channelId : Vector UInt8 32) (phase : Phase) (log : List Submission) : Prop :=
  ∃ refused sent, log = refused ++ sent ∧ phase.submitted channelId sent ∧
    ∀ submission ∈ refused, submission.accepted = false ∧
      ∃ node amount, submission.call = .openChannel channelId node amount

theorem channelIdFromUuid_injective : Function.Injective channelIdFromUuid := by
  intro first second same
  have lists := congrArg Vector.toList same
  simp only [channelIdFromUuid, Vector.toList_append] at lists
  have bytes := Vector.toList_inj.mp (List.append_cancel_right lists)
  cases first
  cases second
  congr

section

variable {SigningKey : Type} {config : ChannelChainConfig} {crypto : Crypto SigningKey}

theorem withContext_isOk {Result : Type} (message : String) (answer : Except Failure Result) :
    (withContext message answer).isOk = answer.isOk := by
  cases answer with
  | ok result => rfl
  | error failure => cases failure <;> rfl

theorem takes_lockFunds (openedAt : UInt64) (params : EscrowParams) (rpc : Rpc) {node : Vector UInt8 20}
    (resolved : resolveNode config crypto params = .ok node) :
    (ChainEvent.mk (.lockFunds openedAt params) rpc).takes config crypto =
      (sendTx config crypto rpc
        (.openChannel (channelIdFromUuid params.requestId) node params.amountNanox)).isOk := by
  simp only [ChainEvent.takes, resolved, submit]

theorem lockFundsOnChain_absent (rpc : Rpc) (openedAt : UInt64) {params : EscrowParams} {channel : PaymentChannel}
    (found : channel.state? params.requestId = none) :
    let after := lockFundsOnChain config crypto rpc openedAt params channel
    let event : ChainEvent := ⟨.lockFunds openedAt params, rpc⟩
    (event.takes config crypto = false ∧ after.2.1 = channel ∧ ∀ submission ∈ after.2.2,
        submission.accepted = false ∧
          ∃ node, submission.call = .openChannel (channelIdFromUuid params.requestId) node params.amountNanox) ∨
      (event.takes config crypto = true ∧ after.2.1 = (lockFunds openedAt params channel).2 ∧
        ∃ node, after.2.2 = [⟨.openChannel (channelIdFromUuid params.requestId) node params.amountNanox, true⟩]) := by
  have absent : params.requestId.toText ∉ channel.channels := AList.lookup_eq_none.mp found
  intro after event
  simp only [after, event, lockFundsOnChain, lockFunds, absent, if_false]
  cases resolved : resolveNode config crypto params with
  | error failure =>
      left
      exact ⟨by simp only [ChainEvent.takes, resolved], rfl, fun _ member => absurd member List.not_mem_nil⟩
  | ok node =>
      have message := withContext_isOk ("PaymentChannel: openChannel failed for " ++ params.requestId.toText)
        (sendTx config crypto rpc (.openChannel (channelIdFromUuid params.requestId) node params.amountNanox))
      rw [takes_lockFunds openedAt params rpc resolved, ← message]
      dsimp only
      generalize withContext _ (sendTx config crypto rpc _) = answer
      cases answer with
      | error failure =>
          left
          refine ⟨rfl, rfl, ?_⟩
          intro submission member
          rw [List.mem_singleton.mp member]
          exact ⟨rfl, node, rfl⟩
      | ok txHash => exact Or.inr ⟨rfl, rfl, node, rfl⟩

theorem lockFundsOnChain_present (rpc : Rpc) (openedAt : UInt64) {params : EscrowParams} {channel : PaymentChannel}
    {state : ChannelState} (found : channel.state? params.requestId = some state) :
    lockFundsOnChain config crypto rpc openedAt params channel = (.error (.channel .alreadyOpen), channel, []) := by
  have present : params.requestId.toText ∈ channel.channels :=
    AList.lookup_isSome.mp (Option.isSome_iff_exists.mpr ⟨state, found⟩)
  rw [lockFundsOnChain, if_pos present]

theorem releaseFundsOnChain_channel (rpc : Rpc) (handle : EscrowHandle) (proof : ProofOfInference)
    (channel : PaymentChannel) :
    (releaseFundsOnChain config crypto rpc handle proof channel).2.1 = (releaseFunds handle proof channel).2 := by
  cases found : channel.channels.lookup handle.requestId.toText with
  | none => simp only [releaseFundsOnChain, releaseFunds, found]
  | some state =>
      simp only [releaseFundsOnChain, releaseFunds, found]
      split
      · rfl
      · split <;> rfl

theorem refundFundsOnChain_channel (rpc : Rpc) (handle : EscrowHandle) (channel : PaymentChannel) :
    (refundFundsOnChain config crypto rpc handle channel).2.1 = (refundFunds handle channel).2 := by
  cases found : channel.channels.lookup handle.requestId.toText with
  | none => simp only [refundFundsOnChain, refundFunds, found]
  | some state =>
      simp only [refundFundsOnChain, refundFunds, found]
      split <;> rfl

theorem releaseFundsOnChain_silent (rpc : Rpc) {handle : EscrowHandle} {proof : ProofOfInference}
    {channel : PaymentChannel} (unpaid : ∀ state, channel.state? handle.requestId = some state →
      state.settled = false → state.balanceClient < proof.pricePaidNanox) :
    (releaseFundsOnChain config crypto rpc handle proof channel).2.2 = [] := by
  rw [PaymentChannel.state?] at unpaid
  cases found : channel.channels.lookup handle.requestId.toText with
  | none => simp only [releaseFundsOnChain, found]
  | some state =>
      cases settled : state.settled with
      | true => simp only [releaseFundsOnChain, found, settled, if_true]
      | false =>
          have short := unpaid state found settled
          simp only [releaseFundsOnChain, found, settled, short, if_true, Bool.false_eq_true, if_false]

theorem releaseFundsOnChain_pays (rpc : Rpc) {handle : EscrowHandle} {proof : ProofOfInference}
    {channel : PaymentChannel} {state : ChannelState} (found : channel.state? handle.requestId = some state)
    (unsettled : state.settled = false) (covered : ¬state.balanceClient < proof.pricePaidNanox) :
    (releaseFundsOnChain config crypto rpc handle proof channel).2.2 =
      [submit config crypto rpc (.closeChannel (channelIdFromUuid handle.requestId)
        (state.balanceNode + proof.pricePaidNanox))] := by
  rw [PaymentChannel.state?] at found
  simp only [releaseFundsOnChain, found, unsettled, covered, Bool.false_eq_true, if_false, ChannelState.pay]

theorem refundFundsOnChain_silent (rpc : Rpc) {handle : EscrowHandle} {channel : PaymentChannel}
    (closed : ∀ state, channel.state? handle.requestId = some state → state.settled = true) :
    (refundFundsOnChain config crypto rpc handle channel).2.2 = [] := by
  rw [PaymentChannel.state?] at closed
  cases found : channel.channels.lookup handle.requestId.toText with
  | none => simp only [refundFundsOnChain, found]
  | some state => simp only [refundFundsOnChain, found, closed state found, if_true]

theorem refundFundsOnChain_pays (rpc : Rpc) {handle : EscrowHandle} {channel : PaymentChannel}
    {state : ChannelState} (found : channel.state? handle.requestId = some state) (unsettled : state.settled = false) :
    (refundFundsOnChain config crypto rpc handle channel).2.2 =
      [submit config crypto rpc (.refundChannel (channelIdFromUuid handle.requestId))] := by
  rw [PaymentChannel.state?] at found
  simp only [refundFundsOnChain, found, unsettled, Bool.false_eq_true, if_false]

/-- What the channel keeps is what it would keep without a chain, when it had not got the locks that brought
no transaction hash. -/
theorem stepOnChain_eq (channel : PaymentChannel) (event : ChainEvent) :
    stepOnChain config crypto channel event =
      if event.takes config crypto then step channel event.call else channel := by
  obtain ⟨call, rpc⟩ := event
  cases call with
  | lockFunds openedAt params =>
      show (lockFundsOnChain config crypto rpc openedAt params channel).2.1 = _
      cases found : channel.state? params.requestId with
      | none =>
          rcases @lockFundsOnChain_absent _ config crypto rpc openedAt params channel found with
            ⟨takes, kept, -⟩ | ⟨takes, kept, -⟩
          · simp only [takes, Bool.false_eq_true, if_false]
            exact kept
          · simp only [takes, if_true]
            exact kept
      | some state =>
          have unchanged : step channel (.lockFunds openedAt params) = channel :=
            congrArg Prod.snd (lockFunds_present openedAt found)
          rw [lockFundsOnChain_present rpc openedAt found, unchanged, ite_self]
  | releaseFunds handle proof => exact releaseFundsOnChain_channel rpc handle proof channel
  | refundFunds handle => exact refundFundsOnChain_channel rpc handle channel

theorem run_onChain (channel : PaymentChannel) (events : List ChainEvent) :
    Runs.run (stepOnChain config crypto) channel events = Runs.run step channel (offChain config crypto events) := by
  induction events generalizing channel with
  | nil => rfl
  | cons event rest ih =>
      rw [Runs.run_cons, ih, stepOnChain_eq, offChain, offChain, List.filter_cons]
      split <;> rfl

theorem Disciplined.extend {channelId : Vector UInt8 32} {phase next : Phase} {log sent : List Submission}
    (disciplined : Disciplined channelId phase log)
    (extends' : ∀ before, phase.submitted channelId before → next.submitted channelId (before ++ sent)) :
    Disciplined channelId next (log ++ sent) := by
  obtain ⟨refused, before, rfl, submitted, opens⟩ := disciplined
  exact ⟨refused, before ++ sent, List.append_assoc refused before sent, extends' before submitted, opens⟩

theorem Disciplined.stay {channelId : Vector UInt8 32} {phase : Phase} {log sent : List Submission}
    (disciplined : Disciplined channelId phase log) (silent : sent = []) :
    Disciplined channelId phase (log ++ sent) := by
  rwa [silent, List.append_nil]

theorem Disciplined.refuse {channelId : Vector UInt8 32} {log sent : List Submission}
    (disciplined : Disciplined channelId .unopened log)
    (opens : ∀ submission ∈ sent, submission.accepted = false ∧
      ∃ node amount, submission.call = .openChannel channelId node amount) :
    Disciplined channelId .unopened (log ++ sent) := by
  obtain ⟨refused, before, rfl, rfl, others⟩ := disciplined
  refine ⟨refused ++ sent, [], by simp, rfl, ?_⟩
  intro submission member
  rcases List.mem_append.mp member with member | member
  · exact others submission member
  · exact opens submission member

theorem lockFunds_disciplined {channel : PaymentChannel} {phase : Phase} {log : List Submission} (rpc : Rpc)
    (openedAt : UInt64) (params : EscrowParams)
    (agrees : (channel.state? params.requestId).map ChannelState.account = phase.account)
    (disciplined : Disciplined (channelIdFromUuid params.requestId) phase log) :
    let event : ChainEvent := ⟨.lockFunds openedAt params, rpc⟩
    Disciplined (channelIdFromUuid params.requestId)
      (if event.takes config crypto then phase.next event.call else phase)
      (log ++ submissions config crypto channel event) := by
  intro event
  show Disciplined _ _ (log ++ (lockFundsOnChain config crypto rpc openedAt params channel).2.2)
  cases found : channel.state? params.requestId with
  | none =>
      rw [found] at agrees
      obtain rfl := Phase.eq_unopened agrees
      rcases @lockFundsOnChain_absent _ config crypto rpc openedAt params channel found with
        ⟨takes, -, opens⟩ | ⟨takes, -, node, sent⟩
      · rw [if_neg (by simp [event, takes])]
        apply disciplined.refuse
        intro submission member
        obtain ⟨refused, node, call⟩ := opens submission member
        exact ⟨refused, node, params.amountNanox, call⟩
      · rw [if_pos takes, sent]
        apply disciplined.extend
        rintro before rfl
        exact ⟨node, rfl⟩
  | some state =>
      rw [found] at agrees
      rw [lockFundsOnChain_present rpc openedAt found]
      have same : phase.next event.call = phase := Phase.next_lockFunds openedAt params agrees
      rw [same, ite_self]
      exact disciplined.stay rfl

theorem releaseFunds_disciplined {channel : PaymentChannel} {phase : Phase} {log : List Submission} (rpc : Rpc)
    (handle : EscrowHandle) (proof : ProofOfInference)
    (agrees : (channel.state? handle.requestId).map ChannelState.account = phase.account)
    (disciplined : Disciplined (channelIdFromUuid handle.requestId) phase log) :
    Disciplined (channelIdFromUuid handle.requestId) (phase.next (.releaseFunds handle proof))
      (log ++ (releaseFundsOnChain config crypto rpc handle proof channel).2.2) := by
  cases found : channel.state? handle.requestId with
  | none =>
      rw [found] at agrees
      obtain rfl := Phase.eq_unopened agrees
      exact disciplined.stay (releaseFundsOnChain_silent rpc fun state present => by simp [found] at present)
  | some state =>
      rw [found] at agrees
      cases settled : state.settled with
      | true =>
          rw [Phase.next_of_settled _ agrees settled]
          apply disciplined.stay
          apply releaseFundsOnChain_silent
          intro other present unsettled
          rw [found, Option.some.injEq] at present
          simp [← present, settled] at unsettled
      | false =>
          obtain ⟨rfl, node, -⟩ := Phase.eq_opened agrees settled
          by_cases covered : proof.pricePaidNanox ≤ state.balanceClient
          · rw [releaseFundsOnChain_pays rpc found settled (UInt64.not_lt.mpr covered), Phase.next, dif_pos covered,
              node, UInt64.zero_add]
            apply disciplined.extend
            rintro before ⟨payee, rfl⟩
            exact ⟨payee, _, rfl⟩
          · rw [Phase.next, dif_neg covered]
            apply disciplined.stay
            apply releaseFundsOnChain_silent
            intro other present _
            rw [found, Option.some.injEq] at present
            rw [← present]
            exact UInt64.not_le.mp covered

theorem refundFunds_disciplined {channel : PaymentChannel} {phase : Phase} {log : List Submission} (rpc : Rpc)
    (handle : EscrowHandle) (agrees : (channel.state? handle.requestId).map ChannelState.account = phase.account)
    (disciplined : Disciplined (channelIdFromUuid handle.requestId) phase log) :
    Disciplined (channelIdFromUuid handle.requestId) (phase.next (.refundFunds handle))
      (log ++ (refundFundsOnChain config crypto rpc handle channel).2.2) := by
  cases found : channel.state? handle.requestId with
  | none =>
      rw [found] at agrees
      obtain rfl := Phase.eq_unopened agrees
      exact disciplined.stay (refundFundsOnChain_silent rpc fun state present => by simp [found] at present)
  | some state =>
      rw [found] at agrees
      cases settled : state.settled with
      | true =>
          rw [Phase.next_of_settled _ agrees settled]
          apply disciplined.stay
          apply refundFundsOnChain_silent
          intro other present
          rw [found, Option.some.injEq] at present
          rw [← present, settled]
      | false =>
          obtain ⟨rfl, -, -⟩ := Phase.eq_opened agrees settled
          rw [refundFundsOnChain_pays rpc found settled]
          apply disciplined.extend
          rintro before ⟨payee, rfl⟩
          exact ⟨payee, _, rfl⟩

theorem submissions_disciplined {channel : PaymentChannel} {phase : Phase} {log : List Submission}
    (event : ChainEvent)
    (agrees : (channel.state? event.call.requestId).map ChannelState.account = phase.account)
    (disciplined : Disciplined (channelIdFromUuid event.call.requestId) phase log) :
    Disciplined (channelIdFromUuid event.call.requestId)
      (if event.takes config crypto then phase.next event.call else phase)
      (log ++ submissions config crypto channel event) := by
  obtain ⟨call, rpc⟩ := event
  cases call with
  | lockFunds openedAt params => exact lockFunds_disciplined rpc openedAt params agrees disciplined
  | releaseFunds handle proof => exact releaseFunds_disciplined rpc handle proof agrees disciplined
  | refundFunds handle => exact refundFunds_disciplined rpc handle agrees disciplined

theorem mem_submissions {channel : PaymentChannel} {event : ChainEvent} {submission : Submission}
    (member : submission ∈ submissions config crypto channel event) :
    submission.call.channelId = channelIdFromUuid event.call.requestId := by
  obtain ⟨call, rpc⟩ := event
  cases call with
  | lockFunds openedAt params =>
      simp only [submissions, performOnChain] at member
      cases found : channel.state? params.requestId with
      | none =>
          rcases @lockFundsOnChain_absent _ config crypto rpc openedAt params channel found with
            ⟨-, -, opens⟩ | ⟨-, -, node, sent⟩
          · obtain ⟨-, node, call⟩ := opens submission member
            rw [call]
            rfl
          · rw [sent, List.mem_singleton] at member
            rw [member]
            rfl
      | some state =>
          rw [lockFundsOnChain_present rpc openedAt found] at member
          exact absurd member List.not_mem_nil
  | releaseFunds handle proof =>
      simp only [submissions, performOnChain, releaseFundsOnChain] at member
      split at member
      · exact absurd member List.not_mem_nil
      · split at member
        · exact absurd member List.not_mem_nil
        · split at member
          · exact absurd member List.not_mem_nil
          · rw [List.mem_singleton.mp member]
            rfl
  | refundFunds handle =>
      simp only [submissions, performOnChain, refundFundsOnChain] at member
      split at member
      · exact absurd member List.not_mem_nil
      · split at member
        · exact absurd member List.not_mem_nil
        · rw [List.mem_singleton.mp member]
          rfl

theorem follows_phasesAfter (history : List Call) : Follows (Runs.run step .new history) (phasesAfter history) := by
  have start : Follows .new fun _ => .unopened := fun _ => rfl
  have keep : ∀ channel phases call, Follows channel phases → Follows (step channel call) (advance phases call) := by
    intro channel phases call follows
    exact step_follows follows call
  exact Runs.related_run keep start history

theorem offChain_concat (events : List ChainEvent) (last : ChainEvent) (requestId : RequestId) :
    phasesAfter (offChain config crypto (events ++ [last])) requestId =
      if last.call.requestId = requestId then
        if last.takes config crypto then (phasesAfter (offChain config crypto events) requestId).next last.call
        else phasesAfter (offChain config crypto events) requestId
      else phasesAfter (offChain config crypto events) requestId := by
  unfold offChain
  rw [List.filter_append, List.map_append]
  cases takes : last.takes config crypto with
  | false => simp [takes]
  | true =>
      simp only [takes, List.filter_cons_of_pos, List.filter_nil, List.map_cons, List.map_nil, if_true]
      rw [phasesAfter, List.foldl_append, List.foldl_cons, List.foldl_nil, advance]
      by_cases same : last.call.requestId = requestId
      · subst same
        rw [if_pos rfl, Function.update_self]
        rfl
      · rw [if_neg same, Function.update_of_ne (Ne.symm same)]
        rfl

theorem submissionsFor_concat (events : List ChainEvent) (last : ChainEvent) (requestId : RequestId) :
    submissionsFor config crypto requestId (events ++ [last]) =
      submissionsFor config crypto requestId events ++
        if last.call.requestId = requestId then
          submissions config crypto (Runs.run step .new (offChain config crypto events)) last
        else [] := by
  unfold submissionsFor
  rw [Runs.outputs_append, run_onChain, List.filter_append, Runs.outputs, Runs.outputs, List.append_nil]
  congr 1
  split
  · next same =>
      rw [List.filter_eq_self]
      intro submission member
      rw [mem_submissions member, same]
      exact decide_eq_true rfl
  · next differs =>
      rw [List.filter_eq_nil_iff]
      intro submission member same
      rw [mem_submissions member, decide_eq_true_eq] at same
      exact differs (channelIdFromUuid_injective same)

/-- Whatever the calls and however the chain answers: the channels are those of a node without a chain that had not
got the locks whose `openChannel` was not answered with a transaction hash; and for each request the contract is sent
calls to open its channel until one is answered so, and after that at most one call, which closes the channel with no
more than was locked or refunds it, and which is not repeated when it fails. -/
theorem chain_submissions (events : List ChainEvent) (requestId : RequestId) :
    Runs.run (stepOnChain config crypto) .new events = Runs.run step .new (offChain config crypto events) ∧
      Disciplined (channelIdFromUuid requestId) (phasesAfter (offChain config crypto events) requestId)
        (submissionsFor config crypto requestId events) := by
  refine ⟨run_onChain .new events, ?_⟩
  induction events using List.reverseRecOn with
  | nil => exact ⟨[], [], rfl, rfl, fun _ member => absurd member List.not_mem_nil⟩
  | append_singleton events last ih =>
      rw [offChain_concat, submissionsFor_concat]
      by_cases same : last.call.requestId = requestId
      · subst same
        rw [if_pos rfl, if_pos rfl]
        exact submissions_disciplined last (follows_phasesAfter _ _) ih
      · rw [if_neg same, if_neg same, List.append_nil]
        exact ih

end

end Pinaivu.Channel
