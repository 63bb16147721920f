import Mathlib.Logic.Function.Basic
import Pinaivu.Lib.Runs
import Pinaivu.P2P.Payloads

/-!
A targeted request on its way through the network: it is published on two topics, gossip accepts a
message once at each node, the swarm task dispatches what was accepted, and the event loop of the
daemon starts the inference or considers a bid.
-/

namespace Pinaivu.P2P

open JsonText

def requestMessage (topic : String) (request : InferenceRequest) : GossipMessage := ⟨topic, toBytes request.toJson⟩

/-- How a `publish` ends; `tolerated` are the errors that the model topic may give. -/
inductive Publish where
  | accepted
  | tolerated
  | failed

def Publish.sent (message : GossipMessage) : Publish → List GossipMessage
  | .accepted => [message]
  | _ => []

def broadcastInferenceRequest (request : InferenceRequest) (modelTopic anyTopic : Publish) : List GossipMessage :=
  modelTopic.sent (requestMessage ("inference/" ++ request.modelPreference) request) ++
    match modelTopic with
    | .failed => []
    | _ => anyTopic.sent (requestMessage "inference/any" request)

inductive Launch where
  | executeP2pInference (request : InferenceRequest)
  | handleInferenceRequest (request : InferenceRequest)

def Launch.request : Launch → InferenceRequest
  | .executeP2pInference request => request
  | .handleInferenceRequest request => request

/-- What the event loop starts; bids and chunks go to their collectors. -/
def launch (own : String) : P2PEvent → Option Launch
  | .inferenceRequestReceived request =>
      match request.targetPeerId with
      | some target => if target = own then some (.executeP2pInference request) else none
      | none => some (.handleInferenceRequest request)
  | _ => none

structure Peer where
  seen : List MessageId
  subscribed : List String
  events : List P2PEvent

structure Network (Who : Type) where
  published : List GossipMessage
  peers : Who → Peer
  launched : List (Who × Launch)

def Network.start {Who : Type} : Network Who := ⟨[], fun _ => ⟨[], [], []⟩, []⟩

inductive Traffic (Who : Type) where
  | broadcast (request : InferenceRequest) (modelTopic anyTopic : Publish)
  | publish (message : GossipMessage)
  | deliver (who : Who) (index : Nat)
  | nextEvent (who : Who)
  | subscribe (who : Who) (responseId : String)
  | unsubscribe (who : Who) (responseId : String)

section

variable {Who : Type} [DecidableEq Who] (floats : FloatReader) (hash : String → ByteArray → UInt64)

/-- A message whose id was seen before is dropped. -/
def Peer.receive (peer : Peer) (message : GossipMessage) : Peer :=
  if messageId hash message ∈ peer.seen then peer
  else
    { peer with
      seen := messageId hash message :: peer.seen
      events := peer.events ++
        (dispatchGossipsubMessage floats (responseTopics peer.subscribed) message).toList }

def Network.update (network : Network Who) (who : Who) (peer : Peer) : Network Who :=
  { network with peers := Function.update network.peers who peer }

variable (swarm : Who → Option String)

/-- `swarm` is a node's peer id if its swarm task runs: the task delivers the messages, and answers
`local_peer_id`. -/
def Network.step (network : Network Who) : Traffic Who → Network Who
  | .broadcast request modelTopic anyTopic =>
      { network with published := network.published ++ broadcastInferenceRequest request modelTopic anyTopic }
  | .publish message => { network with published := network.published ++ [message] }
  | .deliver who index =>
      match swarm who, network.published[index]? with
      | some _, some message => network.update who ((network.peers who).receive floats hash message)
      | _, _ => network
  | .nextEvent who =>
      match (network.peers who).events with
      | [] => network
      | event :: rest =>
          { network.update who { network.peers who with events := rest } with
            launched := network.launched ++ ((launch ((swarm who).getD "") event).map (who, ·)).toList }
  | .subscribe who responseId =>
      network.update who
        { network.peers who with subscribed := responseId :: (network.peers who).subscribed }
  | .unsubscribe who responseId =>
      network.update who
        { network.peers who with subscribed := (network.peers who).subscribed.filter (· ≠ responseId) }

end

def Traffic.Foreign {Who : Type} (floats : FloatReader) (id : RequestId) : Traffic Who → Prop
  | .broadcast request _ _ => request.requestId ≠ id
  | .publish message =>
      ∀ request, fromSlice (decodeRequest floats.single) message.data = some request → request.requestId ≠ id
  | _ => True

theorem inferenceAny_of_known {topic : String} (known : KnownTopic.fromHash topic = .inferenceAny) :
    topic = "inference/any" := by
  unfold KnownTopic.fromHash at known
  split_ifs at known with announce health reputation any
  exact any

theorem not_known_model {topic model : String} : KnownTopic.fromHash topic ≠ .inferenceModel model := by
  unfold KnownTopic.fromHash
  split_ifs <;> simp

/-- Only the catch-all topic gives requests to the event loop. -/
theorem dispatch_request {floats : FloatReader} {subscribed : String → Option String} {message : GossipMessage}
    {request : InferenceRequest}
    (received : dispatchGossipsubMessage floats subscribed message = some (.inferenceRequestReceived request)) :
    message.topic = "inference/any" ∧ fromSlice (decodeRequest floats.single) message.data = some request := by
  unfold dispatchGossipsubMessage at received
  split at received
  · simp at received
  · split at received
    · next known =>
        refine ⟨inferenceAny_of_known known, ?_⟩
        split at received
        · simp at received
        · split at received
          · simp at received; subst received; assumption
          · simp at received
    · next known => exact absurd known not_known_model
    · simp at received

theorem launch_request {own : String} {event : P2PEvent} {started : Launch}
    (launched : launch own event = some started) :
    event = .inferenceRequestReceived started.request := by
  unfold launch at launched
  split at launched
  · split at launched
    · split at launched
      · obtain rfl := Option.some.inj launched
        rfl
      · contradiction
    · obtain rfl := Option.some.inj launched
      rfl
  · contradiction

theorem launch_targeted {own target : String} {request : InferenceRequest} {started : Launch}
    (targeted : request.targetPeerId = some target)
    (launched : launch own (.inferenceRequestReceived request) = some started) :
    started = .executeP2pInference request ∧ target = own := by
  simp only [launch, targeted] at launched
  split at launched
  · next same => exact ⟨(Option.some.inj launched).symm, same⟩
  · contradiction

theorem Publish.mem_sent {outcome : Publish} {message sent : GossipMessage} (member : message ∈ outcome.sent sent) :
    message = sent := by
  cases outcome with
  | accepted => exact List.mem_singleton.mp member
  | tolerated => contradiction
  | failed => contradiction

theorem mem_broadcast {request : InferenceRequest} {modelTopic anyTopic : Publish} {message : GossipMessage}
    (member : message ∈ broadcastInferenceRequest request modelTopic anyTopic) :
    message = requestMessage ("inference/" ++ request.modelPreference) request ∨
      message = requestMessage "inference/any" request := by
  rcases List.mem_append.mp member with model | other
  · exact Or.inl (Publish.mem_sent model)
  · right
    cases modelTopic with
    | failed => contradiction
    | accepted => exact Publish.mem_sent other
    | tolerated => exact Publish.mem_sent other

theorem decode_requestMessage {readSingle : Decimal → Option Decimal} {topic : String}
    {request found : InferenceRequest}
    (decoded : fromSlice (decodeRequest readSingle) (requestMessage topic request).data = some found) :
    request.reread readSingle = some found := by
  have data : (requestMessage topic request).data = toBytes request.toJson := by
    rw [requestMessage]
  rw [data, fromSlice_toBytes, decodeRequest_toJson] at decoded
  exact decoded

theorem decode_broadcast {readSingle : Decimal → Option Decimal} {request found : InferenceRequest}
    {modelTopic anyTopic : Publish} {message : GossipMessage}
    (member : message ∈ broadcastInferenceRequest request modelTopic anyTopic)
    (decoded : fromSlice (decodeRequest readSingle) message.data = some found) :
    request.reread readSingle = some found := by
  rcases mem_broadcast member with modelMessage | anyMessage
  · rw [modelMessage] at decoded
    exact decode_requestMessage decoded
  · rw [anyMessage] at decoded
    exact decode_requestMessage decoded

theorem InferenceRequest.reread_address {readSingle : Decimal → Option Decimal} {request found : InferenceRequest}
    (read : request.reread readSingle = some found) :
    found.requestId = request.requestId ∧ found.targetPeerId = request.targetPeerId := by
  obtain ⟨temperature, -, rfl⟩ := Option.map_eq_some_iff.mp read
  exact ⟨rfl, rfl⟩

def P2PEvent.requests (id : RequestId) : P2PEvent → Bool
  | .inferenceRequestReceived request => request.requestId = id
  | _ => false

def unseen (id : MessageId) (seen : List MessageId) : Nat := if id ∈ seen then 0 else 1

theorem unseen_cons (id other : MessageId) (seen : List MessageId) : unseen id (other :: seen) ≤ unseen id seen := by
  unfold unseen
  by_cases member : id ∈ seen
  · simp [member]
  · rw [if_neg member]
    split
    · exact Nat.zero_le 1
    · exact le_rfl

section

variable {Who : Type} [DecidableEq Who] (floats : FloatReader) (hash : String → ByteArray → UInt64)
  (swarm : Who → Option String) (request : InferenceRequest)

def Peer.load (peer : Peer) : Nat :=
  peer.events.countP (P2PEvent.requests request.requestId) +
    unseen (messageId hash (requestMessage "inference/any" request)) peer.seen

def Network.count (network : Network Who) (who : Who) : Nat :=
  network.launched.countP fun entry => entry.1 = who ∧ entry.2.request.requestId = request.requestId

/-- A message that carries the request is the one message of the catch-all topic. -/
def Sole (message : GossipMessage) : Prop :=
  message.topic = "inference/any" → ∀ found,
    fromSlice (decodeRequest floats.single) message.data = some found →
    found.requestId = request.requestId → message = requestMessage "inference/any" request

structure Network.Targeted (network : Network Who) : Prop where
  published : ∀ message ∈ network.published, Sole floats request message
  queued : ∀ who found, .inferenceRequestReceived found ∈ (network.peers who).events →
    found.requestId = request.requestId →
      request.reread floats.single = some found ∧ (swarm who).isSome = true
  launched : ∀ entry ∈ network.launched, entry.2.request.requestId = request.requestId →
    (∃ found, request.reread floats.single = some found ∧ entry.2 = .executeP2pInference found) ∧
      swarm entry.1 = request.targetPeerId
  once : ∀ who, network.count request who + (network.peers who).load hash request ≤ 1

theorem targeted_start : (Network.start : Network Who).Targeted floats hash swarm request := by
  refine ⟨?_, ?_, ?_, ?_⟩
  · simp [Network.start]
  · simp [Network.start]
  · simp [Network.start]
  · intro who
    simp [Network.count, Peer.load, Network.start, unseen]

variable {floats hash swarm request}

theorem sole_broadcast (model : request.modelPreference ≠ "any") {modelTopic anyTopic : Publish}
    {message : GossipMessage} (member : message ∈ broadcastInferenceRequest request modelTopic anyTopic) :
    Sole floats request message := by
  intro topic found decoded same
  rcases mem_broadcast member with modelMessage | anyMessage
  · rw [modelMessage, requestMessage] at topic
    have split : ("inference/any" : String).toList = ("inference/" : String).toList ++ ("any" : String).toList := by
      decide
    have letters := congrArg String.toList topic
    rw [String.toList_append, split] at letters
    exact absurd (String.toList_inj.mp (List.append_cancel_left letters)) model
  · exact anyMessage

theorem sole_received {subscribed : String → Option String} {message : GossipMessage} {found : InferenceRequest}
    (sole : Sole floats request message)
    (received : dispatchGossipsubMessage floats subscribed message = some (.inferenceRequestReceived found))
    (same : found.requestId = request.requestId) :
    request.reread floats.single = some found ∧ message = requestMessage "inference/any" request := by
  obtain ⟨topic, decoded⟩ := dispatch_request received
  have only := sole topic found decoded same
  rw [only] at decoded
  exact ⟨decode_requestMessage decoded, only⟩

theorem sole_carried {subscribed : String → Option String} {message : GossipMessage} {event : P2PEvent}
    (sole : Sole floats request message) (received : dispatchGossipsubMessage floats subscribed message = some event)
    (carries : event.requests request.requestId = true) :
    message = requestMessage "inference/any" request := by
  cases event with
  | inferenceRequestReceived found => exact (sole_received sole received (of_decide_eq_true carries)).2
  | bidReceived bid => contradiction
  | inferenceChunkReceived responseId chunk => contradiction

theorem Peer.load_receive {message : GossipMessage} (sole : Sole floats request message) (peer : Peer) :
    (peer.receive floats hash message).load hash request ≤ peer.load hash request := by
  unfold Peer.receive
  split
  · exact le_rfl
  · next first =>
      have later := unseen_cons (messageId hash (requestMessage "inference/any" request)) (messageId hash message)
        peer.seen
      unfold Peer.load
      rw [List.countP_append]
      cases received : dispatchGossipsubMessage floats (responseTopics peer.subscribed) message with
      | none =>
          simp only [Option.toList_none, List.countP_nil]
          omega
      | some event =>
          cases carries : event.requests request.requestId with
          | false =>
              simp only [Option.toList_some, List.countP_singleton, carries, Bool.false_eq_true, if_false]
              omega
          | true =>
              have only := sole_carried sole received carries
              rw [only] at first ⊢
              simp only [Option.toList_some, List.countP_singleton, carries, if_true, unseen, List.mem_cons_self,
                if_neg first]
              omega

theorem Peer.queued_receive {message : GossipMessage} (sole : Sole floats request message) {peer : Peer}
    {found : InferenceRequest} (same : found.requestId = request.requestId)
    (member : .inferenceRequestReceived found ∈ (peer.receive floats hash message).events) :
    .inferenceRequestReceived found ∈ peer.events ∨ request.reread floats.single = some found := by
  unfold Peer.receive at member
  split at member
  · exact Or.inl member
  · rcases List.mem_append.mp member with before | now
    · exact Or.inl before
    · exact Or.inr (sole_received sole (Option.mem_toList.mp now) same).1

theorem targeted_publish {network : Network Who} (targeted : network.Targeted floats hash swarm request)
    {more : List GossipMessage} (sole : ∀ message ∈ more, Sole floats request message) :
    Network.Targeted floats hash swarm request { network with published := network.published ++ more } := by
  refine ⟨?_, targeted.queued, targeted.launched, targeted.once⟩
  intro message member
  rcases List.mem_append.mp member with before | now
  · exact targeted.published message before
  · exact sole message now

theorem targeted_update {network : Network Who} (targeted : network.Targeted floats hash swarm request) {who : Who}
    {peer : Peer}
    (queued : ∀ found, .inferenceRequestReceived found ∈ peer.events → found.requestId = request.requestId →
      request.reread floats.single = some found ∧ (swarm who).isSome = true)
    (load : peer.load hash request ≤ (network.peers who).load hash request) :
    (network.update who peer).Targeted floats hash swarm request := by
  refine ⟨targeted.published, ?_, targeted.launched, ?_⟩
  · intro other found member same
    simp only [Network.update, Function.update_apply] at member
    split at member
    · next here =>
        subst here
        exact queued found member same
    · exact targeted.queued other found member same
  · intro other
    have once := targeted.once other
    simp only [Network.update, Function.update_apply, Network.count] at once ⊢
    split
    · next here =>
        subst here
        omega
    · exact once

theorem targeted_deliver {network : Network Who} (targeted : network.Targeted floats hash swarm request) {who : Who}
    {message : GossipMessage} (member : message ∈ network.published) (alive : (swarm who).isSome = true) :
    (network.update who ((network.peers who).receive floats hash message)).Targeted floats hash swarm request := by
  have sole := targeted.published message member
  refine targeted_update targeted ?_ (Peer.load_receive sole _)
  intro found queued same
  rcases Peer.queued_receive sole same queued with before | now
  · exact targeted.queued who found before same
  · exact ⟨now, alive⟩

omit [DecidableEq Who] in
theorem launched_mem {own : String} {event : P2PEvent} {who : Who} {entry : Who × Launch}
    (member : entry ∈ ((launch own event).map (who, ·)).toList) :
    entry.1 = who ∧ launch own event = some entry.2 := by
  obtain ⟨started, launched, rfl⟩ := Option.map_eq_some_iff.mp (Option.mem_toList.mp member)
  exact ⟨rfl, launched⟩

theorem launched_count (own : String) (event : P2PEvent) (who other : Who) (id : RequestId) :
    ((launch own event).map (who, ·)).toList.countP
        (fun entry => entry.1 = other ∧ entry.2.request.requestId = id) ≤
      if who = other ∧ event.requests id = true then 1 else 0 := by
  cases launched : launch own event with
  | none => exact Nat.zero_le _
  | some started =>
      have event := launch_request launched
      subst event
      simp only [Option.map_some, Option.toList_some, List.countP_singleton, decide_eq_true_eq, P2PEvent.requests,
        le_refl]

theorem targeted_launched {network : Network Who} (targeted : network.Targeted floats hash swarm request)
    {target : String}
    (addressed : request.targetPeerId = some target) {who : Who} {event : P2PEvent}
    (queued : event ∈ (network.peers who).events) {entry : Who × Launch}
    (member : entry ∈ ((launch ((swarm who).getD "") event).map (who, ·)).toList)
    (same : entry.2.request.requestId = request.requestId) :
    (∃ found, request.reread floats.single = some found ∧ entry.2 = .executeP2pInference found) ∧
      swarm entry.1 = request.targetPeerId := by
  obtain ⟨here, launched⟩ := launched_mem member
  have asked := launch_request launched
  rw [asked] at queued launched
  obtain ⟨read, alive⟩ := targeted.queued who entry.2.request queued same
  obtain ⟨executed, own⟩ := launch_targeted ((InferenceRequest.reread_address read).2.trans addressed) launched
  obtain ⟨peerId, running⟩ := Option.isSome_iff_exists.mp alive
  rw [running, Option.getD_some] at own
  refine ⟨⟨entry.2.request, read, executed⟩, ?_⟩
  rw [here, running, addressed, own]

theorem targeted_nextEvent {network : Network Who} (targeted : network.Targeted floats hash swarm request)
    {target : String}
    (addressed : request.targetPeerId = some target) {who : Who} {event : P2PEvent} {rest : List P2PEvent}
    (events : (network.peers who).events = event :: rest) :
    Network.Targeted floats hash swarm request
      { network.update who { network.peers who with events := rest } with
        launched := network.launched ++ ((launch ((swarm who).getD "") event).map (who, ·)).toList } := by
  refine ⟨targeted.published, ?_, ?_, ?_⟩
  · intro other found member same
    simp only [Network.update, Function.update_apply] at member
    split at member
    · next here =>
        subst here
        exact targeted.queued other found (events ▸ List.mem_cons_of_mem event member) same
    · exact targeted.queued other found member same
  · intro entry member same
    rcases List.mem_append.mp member with before | now
    · exact targeted.launched entry before same
    · exact targeted_launched targeted addressed (events ▸ List.mem_cons_self) now same
  · intro other
    have once := targeted.once other
    have more := launched_count ((swarm who).getD "") event who other request.requestId
    simp only [Network.update, Function.update_apply, Network.count, List.countP_append, Peer.load] at once ⊢
    split
    · next here =>
        subst here
        rw [events, List.countP_cons] at once
        simp only [true_and] at more
        dsimp only
        omega
    · next away =>
        rw [if_neg (fun both => away both.1.symm)] at more
        omega

theorem targeted_step (model : request.modelPreference ≠ "any") {target : String}
    (addressed : request.targetPeerId = some target) {network : Network Who}
    (targeted : network.Targeted floats hash swarm request) {event : Traffic Who}
    (allowed : event.Foreign floats request.requestId ∨
      ∃ modelTopic anyTopic, event = .broadcast request modelTopic anyTopic) :
    (network.step floats hash swarm event).Targeted floats hash swarm request := by
  rcases allowed with foreign | ⟨modelTopic, anyTopic, rfl⟩
  · cases event with
    | broadcast other modelTopic anyTopic =>
        refine targeted_publish targeted ?_
        intro message member topic found decoded same
        have sent := (InferenceRequest.reread_address (decode_broadcast member decoded)).1
        exact absurd (sent.symm.trans same) foreign
    | publish message =>
        refine targeted_publish targeted ?_
        intro sent member topic found decoded same
        obtain rfl := List.mem_singleton.mp member
        exact absurd same (foreign found decoded)
    | deliver who index =>
        dsimp only [Network.step]
        split
        · next peerId message running published =>
            exact targeted_deliver targeted (List.mem_of_getElem? published) (by rw [running]; rfl)
        · exact targeted
    | nextEvent who =>
        cases events : (network.peers who).events with
        | nil => simpa only [Network.step, events] using targeted
        | cons event rest => simpa only [Network.step, events] using targeted_nextEvent targeted addressed events
    | subscribe who responseId => exact targeted_update targeted (targeted.queued who) le_rfl
    | unsubscribe who responseId => exact targeted_update targeted (targeted.queued who) le_rfl
  · exact targeted_publish targeted fun message member => sole_broadcast model member

theorem targeted_run (model : request.modelPreference ≠ "any") {target : String}
    (addressed : request.targetPeerId = some target) {start : Network Who}
    (targeted : start.Targeted floats hash swarm request)
    (events : List (Traffic Who))
    (allowed : ∀ event ∈ events, event.Foreign floats request.requestId ∨
      ∃ modelTopic anyTopic, event = .broadcast request modelTopic anyTopic) :
    (Runs.run (Network.step floats hash swarm) start events).Targeted floats hash swarm request := by
  induction events generalizing start with
  | nil => exact targeted
  | cons event rest ih =>
      have now := targeted_step model addressed targeted (allowed event List.mem_cons_self)
      exact ih now fun later member => allowed later (List.mem_cons_of_mem event member)

end

/-- A node goes by its peer id, which its swarm task tells if it runs. -/
def ownPeerId (runs : NodePeerId → Bool) (node : NodePeerId) : Option String :=
  if runs node then some node else none

def Network.launchedFor {Who : Type} (network : Network Who) (id : RequestId) : List (Who × Launch) :=
  network.launched.filter fun entry => entry.2.request.requestId = id

theorem launchedFor_targeted {floats : FloatReader} {hash : String → ByteArray → UInt64} {runs : NodePeerId → Bool}
    {request : InferenceRequest} {target : String} (addressed : request.targetPeerId = some target)
    {network : Network NodePeerId} (targeted : network.Targeted floats hash (ownPeerId runs) request) :
    (network.launchedFor request.requestId).length ≤ 1 ∧
      ∀ entry ∈ network.launchedFor request.requestId, ∃ found,
        request.reread floats.single = some found ∧ entry = (target, .executeP2pInference found) := by
  have named : ∀ entry ∈ network.launched, entry.2.request.requestId = request.requestId → ∃ found,
      request.reread floats.single = some found ∧ entry = (target, .executeP2pInference found) := by
    intro entry member same
    obtain ⟨⟨found, read, executed⟩, own⟩ := targeted.launched entry member same
    refine ⟨found, read, ?_⟩
    unfold ownPeerId at own
    split at own
    · rw [addressed, Option.some.injEq] at own
      exact Prod.ext own executed
    · rw [addressed] at own
      contradiction
  constructor
  · have once := targeted.once target
    have counted : network.launchedFor request.requestId =
        network.launched.filter fun entry => entry.1 = target ∧ entry.2.request.requestId = request.requestId := by
      refine List.filter_congr ?_
      intro entry member
      simp only [decide_eq_decide]
      refine ⟨fun same => ⟨?_, same⟩, And.right⟩
      obtain ⟨found, -, rfl⟩ := named entry member same
      rfl
    rw [counted, ← List.countP_eq_length_filter]
    unfold Network.count at once
    omega
  · intro entry member
    obtain ⟨launched, same⟩ := List.mem_filter.mp member
    exact named entry launched (of_decide_eq_true same)

def broadcastOnce (floats : FloatReader) (hash : String → ByteArray → UInt64) (runs : NodePeerId → Bool)
    (request : InferenceRequest) (modelTopic anyTopic : Publish) (before after : List (Traffic NodePeerId)) :
    Network NodePeerId :=
  Runs.run (Network.step floats hash (ownPeerId runs)) Network.start
    (before ++ .broadcast request modelTopic anyTopic :: after)

/-- A targeted request that is broadcast once, amid any traffic without its id, is executed at most once over
all nodes and only at its target, and no node considers a bid for it. -/
theorem targeted_request_once (floats : FloatReader) (hash : String → ByteArray → UInt64) (runs : NodePeerId → Bool)
    (request : InferenceRequest) (target : String) (addressed : request.targetPeerId = some target)
    (model : request.modelPreference ≠ "any") (modelTopic anyTopic : Publish)
    (before after : List (Traffic NodePeerId))
    (fresh : ∀ event ∈ before ++ after, event.Foreign floats request.requestId) :
    (broadcastOnce floats hash runs request modelTopic anyTopic before after).launchedFor request.requestId = [] ∨
      ∃ read, request.reread floats.single = some read ∧
        (broadcastOnce floats hash runs request modelTopic anyTopic before after).launchedFor request.requestId =
          [(target, .executeP2pInference read)] := by
  have targeted : (broadcastOnce floats hash runs request modelTopic anyTopic before after).Targeted floats hash
      (ownPeerId runs) request := by
    refine targeted_run model addressed (targeted_start floats hash (ownPeerId runs) request) _ ?_
    intro event member
    rcases List.mem_append.mp member with early | late
    · exact Or.inl (fresh event (List.mem_append_left after early))
    · rcases List.mem_cons.mp late with rfl | later
      · exact Or.inr ⟨modelTopic, anyTopic, rfl⟩
      · exact Or.inl (fresh event (List.mem_append_right before later))
  obtain ⟨once, named⟩ := launchedFor_targeted addressed targeted
  cases launched :
      (broadcastOnce floats hash runs request modelTopic anyTopic before after).launchedFor request.requestId with
  | nil => exact Or.inl rfl
  | cons entry rest =>
      rw [launched, List.length_cons] at once
      have alone : rest = [] := List.length_eq_zero_iff.mp (by omega)
      obtain ⟨read, sent, rfl⟩ := named entry (launched ▸ List.mem_cons_self)
      exact Or.inr ⟨read, sent, by rw [alone]⟩

def targetedSample : InferenceRequest where
  requestId := ⟨Vector.replicate 16 5⟩
  sessionId := ⟨Vector.replicate 16 6⟩
  modelPreference := "llama3"
  contextBlobId := none
  promptEncrypted := []
  promptNonce := []
  maxTokens := 64
  temperature := unitFloat
  escrowTxId := ""
  budgetNanox := 0
  timestamp := 1700000000
  clientPeerId := "client"
  privacyLevel := .standard
  acceptedSettlements := []
  targetPeerId := some "12D3KooWWorker"
  responseTopic := some "answers"
  promptPlain := some "hello"

def targetedSampleRun : Network NodePeerId :=
  broadcastOnce roundingReader (fun topic data => UInt64.ofNat (topic.length + data.size))
    (fun _ => true) targetedSample
    .accepted .accepted [.subscribe "12D3KooWOther" "answers"]
    [.deliver "12D3KooWOther" 0, .deliver "12D3KooWWorker" 0, .deliver "12D3KooWWorker" 1,
      .deliver "12D3KooWOther" 1, .deliver "12D3KooWWorker" 1, .nextEvent "12D3KooWOther",
      .nextEvent "12D3KooWWorker", .nextEvent "12D3KooWWorker"]

theorem targeted_sample_once :
    targetedSampleRun.launchedFor targetedSample.requestId = [] ∨
      targetedSampleRun.launchedFor targetedSample.requestId =
        [("12D3KooWWorker", .executeP2pInference targetedSample)] := by
  refine (targeted_request_once roundingReader _ _ targetedSample "12D3KooWWorker" rfl (by decide) .accepted
    .accepted _ _ ?_).imp_right ?_
  · intro event member
    simp only [List.cons_append, List.nil_append, List.mem_cons, List.not_mem_nil, or_false] at member
    rcases member with rfl | rfl | rfl | rfl | rfl | rfl | rfl | rfl | rfl
    all_goals trivial
  · rintro ⟨read, same, launched⟩
    rwa [← Option.some.inj same] at launched

end Pinaivu.P2P
