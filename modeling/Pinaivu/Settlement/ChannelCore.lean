import Mathlib.Data.List.AList
import Pinaivu.Lib.Runs
import Pinaivu.Settlement.Adapter

/-!
`PaymentChannel` of `settlement/channel.rs` without a chain configuration: every
call takes the lock on the map of channels, so that it is one atomic step. Each
operation returns its result beside the state that its writes leave behind.
-/

namespace Pinaivu.Channel

open Settlement

structure ChannelState where
  requestId : RequestId
  balanceClient : NanoX
  balanceNode : NanoX
  seq : UInt64
  openedAt : UInt64
  settled : Bool
  deriving DecidableEq, Repr

/-- The map is keyed by the text of the request id. -/
structure PaymentChannel where
  channels : AList (fun _ : String => ChannelState)
  totalSettledNanox : NanoX

def PaymentChannel.new : PaymentChannel := ⟨∅, 0⟩

def PaymentChannel.state? (channel : PaymentChannel) (requestId : RequestId) : Option ChannelState :=
  channel.channels.lookup requestId.toText

inductive Error where
  | alreadyOpen
  | noOpenChannel (requestId : RequestId)
  | costExceedsBalance (cost balanceClient : NanoX)
  | noChannelToRefund (requestId : RequestId)
  deriving DecidableEq, Repr

def Error.text : Error → String
  | .alreadyOpen => "channel: request_id already has an open channel"
  | .noOpenChannel requestId => "channel: no open channel for request_id " ++ requestId.toText
  | .costExceedsBalance cost balanceClient =>
      "channel: cost (" ++ toString cost ++ ") exceeds client balance (" ++
        toString balanceClient ++ ")"
  | .noChannelToRefund requestId => "channel: no open channel to refund for " ++ requestId.toText

def lockFunds (openedAt : UInt64) (params : EscrowParams) (channel : PaymentChannel) :
    Except Error EscrowHandle × PaymentChannel :=
  let key := params.requestId.toText
  if key ∈ channel.channels then (.error .alreadyOpen, channel)
  else
    let payload := Json.object
      [("client", .string params.clientAddress), ("node", .string params.nodeAddress),
        ("seq", .number 0)]
    let state : ChannelState := ⟨params.requestId, params.amountNanox, 0, 0, openedAt, false⟩
    (.ok ⟨"channel", params.requestId, params.amountNanox, none, payload⟩,
      ⟨channel.channels.insert key state, channel.totalSettledNanox⟩)

def ChannelState.pay (state : ChannelState) (cost : NanoX) : ChannelState :=
  { state with
    balanceClient := state.balanceClient - cost
    balanceNode := state.balanceNode + cost
    seq := state.seq + 1
    settled := true }

/-- The additions wrap around, as in a build without overflow checks. -/
def releaseFunds (handle : EscrowHandle) (proof : ProofOfInference) (channel : PaymentChannel) :
    Except Error Unit × PaymentChannel :=
  let key := handle.requestId.toText
  match channel.channels.lookup key with
  | none => (.error (.noOpenChannel handle.requestId), channel)
  | some state =>
      if state.settled then (.ok (), channel)
      else
        let cost := proof.pricePaidNanox
        if state.balanceClient < cost then
          (.error (.costExceedsBalance cost state.balanceClient), channel)
        else
          (.ok (), ⟨channel.channels.insert key (state.pay cost), channel.totalSettledNanox + cost⟩)

def ChannelState.close (state : ChannelState) : ChannelState := { state with settled := true }

def refundFunds (handle : EscrowHandle) (channel : PaymentChannel) :
    Except Error Unit × PaymentChannel :=
  let key := handle.requestId.toText
  match channel.channels.lookup key with
  | none => (.error (.noChannelToRefund handle.requestId), channel)
  | some state =>
      if state.settled then (.ok (), channel)
      else (.ok (), ⟨channel.channels.insert key state.close, channel.totalSettledNanox⟩)

inductive Call where
  | lockFunds (openedAt : UInt64) (params : EscrowParams)
  | releaseFunds (handle : EscrowHandle) (proof : ProofOfInference)
  | refundFunds (handle : EscrowHandle)

def Call.requestId : Call → RequestId
  | .lockFunds _ params => params.requestId
  | .releaseFunds handle _ => handle.requestId
  | .refundFunds handle => handle.requestId

def Call.closes : Call → Bool
  | .lockFunds _ _ => false
  | .releaseFunds _ _ => true
  | .refundFunds _ => true

def perform (channel : PaymentChannel) : Call → Except Error (Option EscrowHandle) × PaymentChannel
  | .lockFunds openedAt params => (lockFunds openedAt params channel).map (·.map some) id
  | .releaseFunds handle proof =>
      (releaseFunds handle proof channel).map (·.map fun _ => none) id
  | .refundFunds handle => (refundFunds handle channel).map (·.map fun _ => none) id

def step (channel : PaymentChannel) (call : Call) : PaymentChannel := (perform channel call).2

def PaymentChannel.isSettled (channel : PaymentChannel) (requestId : RequestId) : Bool :=
  ((channel.state? requestId).map ChannelState.settled).getD false

def releaseOf (channel : PaymentChannel) (call : Call) : Option RequestId :=
  match call with
  | .releaseFunds handle _ =>
      if channel.isSettled handle.requestId = false ∧
          (step channel call).isSettled handle.requestId = true then some handle.requestId
      else none
  | _ => none

def releases (channel : PaymentChannel) : List Call → List RequestId
  | [] => []
  | call :: rest => (releaseOf channel call).toList ++ releases (step channel call) rest

def PaymentChannel.nodeBalance (channel : PaymentChannel) (requestId : RequestId) : Nat :=
  ((channel.state? requestId).map fun state => state.balanceNode.toNat).getD 0

end Pinaivu.Channel
