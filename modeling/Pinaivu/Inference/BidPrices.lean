import Pinaivu.Inference.BidCore

/-!
The prices of a bid against the budget of its request: the decision looks at the global
price, an offer may carry the price of its adapter.
-/

namespace Pinaivu.Inference

open P2P

theorem toNat_saturatingMul (left right : UInt64) :
    (saturatingMul left right).toNat = min (left.toNat * right.toNat) 18446744073709551615 := by
  rw [saturatingMul, UInt64.toNat_ofNat']
  apply Nat.mod_eq_of_lt
  omega

theorem toNat_minCost (config : NodeConfig) :
    (minCost config).toNat =
      min (config.pricing.pricePer1kTokens.toNat * 100) 18446744073709551615 / 1000 := by
  rw [minCost, UInt64.toNat_div, toNat_saturatingMul]
  rfl

theorem toNat_max (left right : UInt64) : (max left right).toNat = max left.toNat right.toNat := by
  have unfolded : max left right = if left ≤ right then right else left := rfl
  rw [unfolded, Nat.max_def]
  simp only [UInt64.le_iff_toNat_le]
  split <;> rfl

theorem shouldBid_iff (engine : BidDecisionEngine) (available : Except String (List String)) (load : Load)
    (now : Int) (request : InferenceRequest) :
    (engine.shouldBid available load now request).1 = true ↔
      haveModel available request.modelPreference = true ∧
      load.activeCount < engine.config.gpu.concurrentJobs ∧
      load.queueDepth ≤ engine.config.gpu.concurrentJobs * 2 ∧
      max (minCost engine.config) engine.config.pricing.minEscrow ≤ request.budgetNanox ∧
      (request.privacyLevel = .maximum → engine.config.privacy.teeEnabled = true) ∧
      (engine.throttleCheck now).1 = true := by
  simp only [BidDecisionEngine.shouldBid]
  split_ifs with model slots queue budget privacy <;> simp_all

theorem minCost_le_of_shouldBid {engine : BidDecisionEngine} {available : Except String (List String)}
    {load : Load} {now : Int} {request : InferenceRequest}
    (bids : (engine.shouldBid available load now request).1 = true) :
    min (engine.config.pricing.pricePer1kTokens.toNat * 100) 18446744073709551615 / 1000 ≤
      request.budgetNanox.toNat := by
  obtain ⟨_, _, _, covered, _⟩ := (shouldBid_iff _ _ _ _ _).mp bids
  rw [UInt64.le_iff_toNat_le, toNat_max, toNat_minCost] at covered
  omega

/-- Also where the product with 800 wraps. -/
theorem autoPrice_affordable (budget : NanoX) :
    (max (budget * 800 / 1000 / 100) 1).toNat * 100 / 1000 ≤ budget.toNat := by
  have scaled : (budget * 800 / 1000 / 100).toNat = budget.toNat * 800 % 18446744073709551616 / 1000 / 100 := by
    rw [UInt64.toNat_div, UInt64.toNat_div, UInt64.toNat_mul]
    rfl
  have one : (1 : UInt64).toNat = 1 := rfl
  have wrapped := Nat.mod_le (budget.toNat * 800) 18446744073709551616
  rw [toNat_max, scaled, one]
  omega

def Affordable (price budget : NanoX) : Prop := price.toNat * 100 / 1000 ≤ budget.toNat

/-- The adapter's own price, or else the price that the decision has checked, unless
its product with 100 was cut off at the limit of `u64`. -/
def PriceChecked (config : NodeConfig) (budget : NanoX) (adapter : SettlementAdapterConfig) : Prop :=
  if adapter.pricePer1k > 0 then Affordable adapter.pricePer1k budget
  else
    config.pricing.autoPricing = true ∨ config.pricing.pricePer1kTokens.toNat ≤ 184467440737095516 ∨
      Affordable config.pricing.pricePer1kTokens budget

theorem offer_affordable_iff {engine : BidDecisionEngine} {available : Except String (List String)}
    {load : Load} {now : Int} {request : InferenceRequest}
    (bids : (engine.shouldBid available load now request).1 = true) (adapter : SettlementAdapterConfig) :
    Affordable (settlementOffer (pricePer1k engine.config request) adapter).pricePer1k request.budgetNanox ↔
      PriceChecked engine.config request.budgetNanox adapter := by
  have checked := minCost_le_of_shouldBid bids
  by_cases own : adapter.pricePer1k > 0
  · simp only [settlementOffer, PriceChecked, if_pos own]
  · simp only [settlementOffer, PriceChecked, if_neg own, pricePer1k]
    by_cases auto : engine.config.pricing.autoPricing = true
    · simp only [auto, if_true, true_or, iff_true]
      exact autoPrice_affordable request.budgetNanox
    · simp only [auto, Bool.false_eq_true, if_false, false_or, Affordable]
      omega

/-- The offers of a bid are affordable exactly when the price of each adapter was one
that the decision looks at. -/
theorem bids_affordable_iff (engine : BidDecisionEngine) (available : Except String (List String))
    (load later : Load) (now : Int) (request : InferenceRequest) (peerId : String)
    (bids : (engine.shouldBid available load now request).1 = true) :
    (∀ offer ∈ (buildBid engine.config later request peerId).acceptedSettlements,
      offer.pricePer1k.toNat * 100 / 1000 ≤ request.budgetNanox.toNat) ↔
      ∀ adapter ∈ engine.config.settlement.adapters,
        PriceChecked engine.config request.budgetNanox adapter := by
  simp only [buildBid, List.mem_map, forall_exists_index, and_imp, forall_apply_eq_imp_iff₂]
  constructor
  · intro affordable adapter member
    exact (offer_affordable_iff bids adapter).mp (affordable adapter member)
  · intro covered adapter member
    exact (offer_affordable_iff bids adapter).mpr (covered adapter member)

def requestFor (model : String) (budget : NanoX) : InferenceRequest where
  requestId := ⟨Vector.replicate 16 5⟩
  sessionId := ⟨Vector.replicate 16 6⟩
  modelPreference := model
  contextBlobId := none
  promptEncrypted := []
  promptNonce := []
  maxTokens := 256
  temperature := .ofNat 1
  escrowTxId := "mock_tx"
  budgetNanox := budget
  timestamp := 0
  clientPeerId := "peer_client"
  privacyLevel := .standard
  acceptedSettlements := ["evm-8453"]
  targetPeerId := none
  responseTopic := none
  promptPlain := some "hello"

def bidderWith (adapterPrice : NanoX) : BidDecisionEngine where
  config := {
    gpu := ⟨1⟩
    inference := ⟨8192⟩
    pricing := ⟨10, 100, false⟩
    privacy := ⟨false⟩
    health := ⟨none⟩
    settlement := ⟨[{
      id := "evm-8453"
      pricePer1k := adapterPrice
      tokenId := "native"
      rpcUrl := some "https://mainnet.base.org"
      contractAddress := some "0x5fbdb2315678afecb367f032d93f642f64180aa3"
      packageId := none
      chainId := some 8453
      signerKeyHex := none
      nodePubkeyHex := none
      circleApiKey := none }]⟩ }
  recentWins := []

theorem bids_affordable_inherited :
    ⟨"evm-8453", 10, "native"⟩ ∈ (buildBid (bidderWith 0).config ⟨0, 0⟩ (requestFor "m" 100)
        "node").acceptedSettlements ∧
      (10 : NanoX).toNat * 100 / 1000 ≤ (requestFor "m" 100).budgetNanox.toNat := by
  have offered : ⟨"evm-8453", 10, "native"⟩ ∈ (buildBid (bidderWith 0).config ⟨0, 0⟩ (requestFor "m" 100)
      "node").acceptedSettlements := List.mem_singleton.mpr rfl
  refine ⟨offered, ?_⟩
  refine (bids_affordable_iff (bidderWith 0) (.ok ["m"]) ⟨0, 0⟩ ⟨0, 0⟩ 0 (requestFor "m" 100) "node"
    (by decide)).mpr ?_ _ offered
  intro adapter member
  obtain rfl := List.mem_singleton.mp member
  rw [PriceChecked, if_neg (by decide)]
  exact .inr (.inl (by decide))

/-- A price of 1,000,000 on the adapter against a budget of 10,000. -/
theorem unaffordable_bid :
    ((bidderWith 1000000).shouldBid (.ok ["m"]) ⟨0, 0⟩ 0 (requestFor "m" 10000)).1 = true ∧
    ¬∀ offer ∈ (buildBid (bidderWith 1000000).config ⟨0, 0⟩ (requestFor "m" 10000) "node").acceptedSettlements,
      offer.pricePer1k.toNat * 100 / 1000 ≤ (requestFor "m" 10000).budgetNanox.toNat := by
  refine ⟨by decide, ?_⟩
  intro affordable
  have offered := affordable ⟨"evm-8453", 1000000, "native"⟩ (List.mem_singleton.mpr rfl)
  exact absurd offered (by decide)

end Pinaivu.Inference
