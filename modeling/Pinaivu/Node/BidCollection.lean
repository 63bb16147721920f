import Mathlib.Order.Defs.LinearOrder
import Pinaivu.Lib.Mailboxes
import Pinaivu.Lib.Ranked
import Pinaivu.Node.AdapterLoading

/-!
`marketplace_request_handler` of `crates/node/src/api/mod.rs` and the bids that the daemon's event loop passes
on: any number of handlers register a collector under a request id of their own, and the loop looks up a
collector and then sends to it without waiting.
-/

namespace Pinaivu.Api

open P2P Node Mailboxes

structure SettlementOfferResp where
  settlementId : String
  pricePer1k : UInt64
  tokenId : String
  deriving DecidableEq

structure BidResponse where
  nodePeerId : String
  apiUrl : Option String
  estimatedLatencyMs : UInt32
  currentLoadPct : UInt8
  modelId : String
  reputationScore : Decimal
  acceptedSettlements : List SettlementOfferResp
  deriving DecidableEq

/-- The peers are collected into a map from peer id to URL, in which a later entry replaces an earlier one. -/
def apiUrls (peers : List NodeCapabilities) (peerId : NodePeerId) : Option String :=
  (peers.reverse.find? fun caps => caps.peerId = peerId).bind NodeCapabilities.apiUrl

def bidResponse (peers : List NodeCapabilities) (bid : InferenceBid) : BidResponse where
  nodePeerId := bid.nodePeerId
  apiUrl := apiUrls peers bid.nodePeerId
  estimatedLatencyMs := bid.estimatedLatencyMs
  currentLoadPct := bid.currentLoadPct
  modelId := bid.modelId
  reputationScore := bid.reputation.value
  acceptedSettlements :=
    bid.acceptedSettlements.map fun offer => ⟨offer.settlementId, offer.pricePer1k, offer.tokenId⟩

/-- `cmp` of integers, and `partial_cmp` of floats other than NaN, which JSON does not have. -/
def cmp {Value : Type} [LT Value] [DecidableLT Value] (first second : Value) : Ordering :=
  if first < second then .lt else if second < first then .gt else .eq

section

-- the double that serde_json reads from the text of a number
variable (double : Decimal → Rat)

def compareBids (first second : BidResponse) : Ordering :=
  (cmp (double second.reputationScore) (double first.reputationScore)).then
    (cmp first.estimatedLatencyMs second.estimatedLatencyMs)

/-- `sort_by` is stable. -/
def marketplaceReply (peers : List NodeCapabilities) (bids : List InferenceBid) : List BidResponse :=
  (bids.map (bidResponse peers)).mergeSort fun first second => (compareBids double first second).isLE

end

section

variable {double : Decimal → Rat}

theorem compareBids_isLE (first second : BidResponse) :
    (compareBids double first second).isLE = true ↔
      double second.reputationScore < double first.reputationScore ∨
        double second.reputationScore = double first.reputationScore ∧
          first.estimatedLatencyMs ≤ second.estimatedLatencyMs := by
  rcases lt_trichotomy (double second.reputationScore) (double first.reputationScore) with better | same | worse
  · simp [compareBids, cmp, better]
  · rw [compareBids, cmp, same]
    by_cases slower : second.estimatedLatencyMs < first.estimatedLatencyMs
    · simp [cmp, slower, UInt32.lt_asymm slower]
    · by_cases faster : first.estimatedLatencyMs < second.estimatedLatencyMs
      · simp [cmp, faster, UInt32.le_of_lt faster]
      · simp [cmp, slower, faster, UInt32.not_lt.mp slower]
  · simp [compareBids, cmp, worse, lt_asymm worse, ne_of_gt worse]

theorem compareBids_trans (first second third : BidResponse) (left : (compareBids double first second).isLE)
    (right : (compareBids double second third).isLE) : (compareBids double first third).isLE := by
  rw [compareBids_isLE] at left right ⊢
  rcases left with better | ⟨same, faster⟩
  · rcases right with best | ⟨equal, -⟩
    · exact Or.inl (lt_trans best better)
    · exact Or.inl (equal ▸ better)
  · rcases right with best | ⟨equal, fastest⟩
    · exact Or.inl (same ▸ best)
    · exact Or.inr ⟨equal.trans same, UInt32.le_trans faster fastest⟩

theorem compareBids_total (first second : BidResponse) :
    (compareBids double first second).isLE || (compareBids double second first).isLE := by
  rw [Bool.or_eq_true, compareBids_isLE, compareBids_isLE]
  rcases lt_trichotomy (double second.reputationScore) (double first.reputationScore) with better | same | worse
  · exact Or.inl (Or.inl better)
  · rcases UInt32.le_total first.estimatedLatencyMs second.estimatedLatencyMs with faster | slower
    · exact Or.inl (Or.inr ⟨same, faster⟩)
    · exact Or.inr (Or.inr ⟨same.symm, slower⟩)
  · exact Or.inr (Or.inl worse)

end

section

variable {Handler : Type} [DecidableEq Handler] (requestId : Handler → RequestId)

def bidCollectors : Office Handler RequestId InferenceBid := ⟨requestId, InferenceBid.requestId, 64⟩

def receivedBids (events : List (Event Handler InferenceBid)) : List InferenceBid :=
  Mail.received (bidCollectors requestId) Mail.start events

def collectedBids (events : List (Event Handler InferenceBid)) (handler : Handler) : List InferenceBid :=
  ((Mail.after (bidCollectors requestId) events).box handler).read

variable {requestId}

theorem collectedBids_sublist (distinct : Function.Injective requestId) (events : List (Event Handler InferenceBid))
    (handler : Handler) :
    (collectedBids requestId events handler).Sublist
      ((receivedBids requestId events).filter fun bid => bid.requestId = requestId handler) := by
  have reached := @Mail.reached_sublist _ _ _ _ _ (bidCollectors requestId) distinct handler events
  apply List.Sublist.trans _ reached
  rw [Mail.reached, Slot.reached, List.append_assoc]
  exact List.sublist_append_left _ _

def handlerA : RequestId := ⟨Vector.replicate 16 1⟩

def handlerB : RequestId := ⟨Vector.replicate 16 2⟩

def offeredBid (requestId : RequestId) (nodePeerId : NodePeerId) : InferenceBid where
  requestId
  nodePeerId
  estimatedLatencyMs := 200
  currentLoadPct := 10
  modelId := "llama3.1:8b"
  maxContextLen := 8192
  hasTee := false
  reputation := ⟨.ofNat 1, 3, .ofNat 1, .ofNat 150, 3, 1700000000, Vector.replicate 32 0⟩
  acceptedSettlements := [⟨"free", 0, "native"⟩]

/-- A bid for each of two handlers, of which one has registered. -/
def bidTraffic : List (Event RequestId InferenceBid) :=
  [.look (offeredBid handlerB "north"), .forward, .look (offeredBid handlerA "south"), .forward, .receive handlerA]

variable {double : Decimal → Rat}

/-- The reply of a handler has its bids by falling reputation, those of equal reputation by growing latency, and
those of equal reputation and latency in the order in which the node received them. -/
theorem marketplace_reply (distinct : Function.Injective requestId) (events : List (Event Handler InferenceBid))
    (handler : Handler) (peers : List NodeCapabilities) :
    let reply := marketplaceReply double peers (collectedBids requestId events handler)
    reply.Perm ((collectedBids requestId events handler).map (bidResponse peers)) ∧
      (reply.Pairwise fun first second => double second.reputationScore < double first.reputationScore ∨
        double second.reputationScore = double first.reputationScore ∧
          first.estimatedLatencyMs ≤ second.estimatedLatencyMs) ∧
      ∀ reputation latency,
        (reply.filter fun entry =>
            double entry.reputationScore = reputation ∧ entry.estimatedLatencyMs = latency).Sublist
          (((receivedBids requestId events).filter fun bid => bid.requestId = requestId handler).map
            (bidResponse peers)) := by
  intro reply
  refine ⟨List.mergeSort_perm _ _, ?_, ?_⟩
  · have pairs := List.pairwise_mergeSort (@compareBids_trans double) compareBids_total
      ((collectedBids requestId events handler).map (bidResponse peers))
    exact pairs.imp fun ordered => (compareBids_isLE _ _).mp ordered
  · intro reputation latency
    have sorted : reply.filter (fun entry => decide
          (double entry.reputationScore = reputation ∧ entry.estimatedLatencyMs = latency)) =
        ((collectedBids requestId events handler).map (bidResponse peers)).filter (fun entry => decide
          (double entry.reputationScore = reputation ∧ entry.estimatedLatencyMs = latency)) := by
      apply Ranked.filter_mergeSort compareBids_trans compareBids_total
      intro first second firstLevel secondLevel
      obtain ⟨firstRank, firstLatency⟩ := of_decide_eq_true firstLevel
      obtain ⟨secondRank, secondLatency⟩ := of_decide_eq_true secondLevel
      rw [compareBids_isLE, firstRank, secondRank, firstLatency, secondLatency]
      exact Or.inr ⟨rfl, UInt32.le_refl _⟩
    rw [sorted]
    exact List.filter_sublist.trans ((collectedBids_sublist distinct events handler).map _)

def integerDouble (token : Decimal) : Rat := Nat.ofDigitChars 10 token.text 0

def quickBid : InferenceBid := { offeredBid handlerA "west" with estimatedLatencyMs := 100 }

theorem marketplace_reply_sample :
    let bids := collectedBids id (.register handlerA :: bidTraffic ++ [.look quickBid, .forward, .receive handlerA])
      handlerA
    bids = [offeredBid handlerA "south", quickBid] ∧ (marketplaceReply integerDouble [] bids).length = 2 ∧
      (marketplaceReply integerDouble [] bids).Pairwise fun first second =>
        integerDouble second.reputationScore < integerDouble first.reputationScore ∨
          integerDouble second.reputationScore = integerDouble first.reputationScore ∧
            first.estimatedLatencyMs ≤ second.estimatedLatencyMs := by
  intro bids
  have two : bids = [offeredBid handlerA "south", quickBid] := by decide
  obtain ⟨same, ordered, -⟩ := @marketplace_reply _ _ id integerDouble Function.injective_id
    (.register handlerA :: bidTraffic ++ [.look quickBid, .forward, .receive handlerA]) handlerA []
  exact ⟨two, same.length_eq.trans (by rw [List.length_map]; exact congrArg List.length two), ordered⟩

end

end Pinaivu.Api
