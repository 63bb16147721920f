import Pinaivu.Common.Config
import Pinaivu.P2P.WireCore

/-!
`BidDecisionEngine` of `inference/bid.rs`. The engine's model list, the scheduler's
counters and the clock are arguments; integers are 64 bits wide and wrap, as they do
without overflow checks.
-/

namespace Pinaivu.Inference

open P2P

structure Load where
  activeCount : UInt64
  queueDepth : UInt64

/-- `recentWins` are the instants of wins in nanoseconds, the oldest first. -/
structure BidDecisionEngine where
  config : NodeConfig
  recentWins : List Int

def modelMatches (preference name : String) : Bool :=
  name == preference || (preference ++ ":").toList.isPrefixOf name.toList

def haveModel (available : Except String (List String)) (preference : String) : Bool :=
  (available.toOption.getD []).any (modelMatches preference)

def saturatingMul (left right : UInt64) : UInt64 :=
  UInt64.ofNat (min (left.toNat * right.toNat) 18446744073709551615)

def minCost (config : NodeConfig) : NanoX := saturatingMul config.pricing.pricePer1kTokens 100 / 1000

def throttleWindow : Int := 60000000000

namespace BidDecisionEngine

/-- Forgets the wins before the window and counts the others. -/
def throttleCheck (engine : BidDecisionEngine) (now : Int) : Bool × BidDecisionEngine :=
  let maxWins := engine.config.gpu.concurrentJobs * 4
  let wins := engine.recentWins.dropWhile (· < now - throttleWindow)
  (wins.length < maxWins.toNat, { engine with recentWins := wins })

def shouldBid (engine : BidDecisionEngine) (available : Except String (List String)) (load : Load)
    (now : Int) (request : InferenceRequest) : Bool × BidDecisionEngine :=
  let config := engine.config
  if !haveModel available request.modelPreference then (false, engine)
  else if load.activeCount ≥ config.gpu.concurrentJobs then (false, engine)
  else if load.queueDepth > config.gpu.concurrentJobs * 2 then (false, engine)
  else if request.budgetNanox < max (minCost config) config.pricing.minEscrow then (false, engine)
  else if request.privacyLevel = .maximum ∧ ¬config.privacy.teeEnabled then (false, engine)
  else engine.throttleCheck now

def recordWin (engine : BidDecisionEngine) (now : Int) : BidDecisionEngine :=
  { engine with recentWins := engine.recentWins ++ [now] }

end BidDecisionEngine

/-- The price of adapters that have none of their own: the configured one, or 80% of
the budget for 100 tokens. -/
def pricePer1k (config : NodeConfig) (request : InferenceRequest) : NanoX :=
  if config.pricing.autoPricing then max (request.budgetNanox * 800 / 1000 / 100) 1
  else config.pricing.pricePer1kTokens

def settlementOffer (price : NanoX) (adapter : SettlementAdapterConfig) : SettlementOffer where
  settlementId := adapter.id
  pricePer1k := if adapter.pricePer1k > 0 then adapter.pricePer1k else price
  tokenId := adapter.tokenId

def loadPct (config : NodeConfig) (load : Load) : UInt8 :=
  let cap := max config.gpu.concurrentJobs 1
  (min ((load.activeCount + load.queueDepth) * 100 / (cap * 3)) 100).toUInt8

def zeroDecimal : Decimal where
  text := ['0', '.', '0']
  chars := List.all_eq_true.mp (by decide)
  valid := by decide

def defaultReputation : ReputationScore where
  value := zeroDecimal
  totalJobs := 0
  successRate := zeroDecimal
  avgLatencyMs := zeroDecimal
  verifiedProofs := 0
  lastUpdated := 0
  merkleRoot := Vector.replicate 32 0

def buildBid (config : NodeConfig) (load : Load) (request : InferenceRequest) (peerId : String) :
    InferenceBid where
  requestId := request.requestId
  nodePeerId := peerId
  estimatedLatencyMs := 200 + load.activeCount.toUInt32 * 100
  currentLoadPct := loadPct config load
  modelId := request.modelPreference
  maxContextLen := config.inference.maxContextLength
  hasTee := config.privacy.teeEnabled
  reputation := defaultReputation
  acceptedSettlements :=
    config.settlement.adapters.map (settlementOffer (pricePer1k config request))

end Pinaivu.Inference
