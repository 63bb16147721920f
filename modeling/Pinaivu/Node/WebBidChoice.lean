import Mathlib.Algebra.Order.Field.Rat
import Mathlib.Tactic.Linarith
import Mathlib.Tactic.NormNum
import Pinaivu.Lib.BestPick

/-!
How the web chat chooses a node: `fetchMarketplaceBids` and `pickBestBid` of `web/lib/daemon.ts`, in exact
arithmetic. A price or a load may be missing.
-/

namespace Pinaivu.Web

structure SettlementOffer where
  settlementId : String
  pricePer1k : Nat
  tokenId : String
  deriving DecidableEq, Repr

structure MarketplaceBid where
  nodePeerId : String
  apiUrl : Option String
  estimatedLatencyMs : Rat
  currentLoadPct : Option Rat
  modelId : String
  reputationScore : Rat
  acceptedSettlements : List SettlementOffer
  deriving DecidableEq, Repr

inductive MarketplaceReply where
  | ok (bids : List MarketplaceBid)
  | failed (status : Nat) (body : String)

/-- The price of the first settlement, or `Infinity`. -/
def firstPrice (bid : MarketplaceBid) : WithTop Nat :=
  match bid.acceptedSettlements.head? with
  | some offer => offer.pricePer1k
  | none => ⊤

def load (bid : MarketplaceBid) : Rat := bid.currentLoadPct.getD 0

/-- The sort is stable; the difference of two infinite prices counts as zero. -/
def fetchMarketplaceBids : MarketplaceReply → Except String (List MarketplaceBid)
  | .failed status body => .error s!"marketplace error {status}: {body}"
  | .ok bids => .ok (bids.mergeSort fun first second => firstPrice first ≤ firstPrice second)

def maxRep (bids : List MarketplaceBid) : Rat := (bids.map MarketplaceBid.reputationScore).foldl max (1 / 1000000000)

def lower (first second : WithTop Nat) : WithTop Nat := if first ≤ second then first else second

def minPrice (bids : List MarketplaceBid) : WithTop Nat :=
  ((bids.map firstPrice).filter fun price => price ≠ ⊤).foldl lower ⊤

def repScore (bids : List MarketplaceBid) (bid : MarketplaceBid) : Rat := bid.reputationScore / maxRep bids

def priceScore (bids : List MarketplaceBid) (bid : MarketplaceBid) : Rat :=
  if firstPrice bid ≠ ⊤ ∧ 0 < minPrice bids then (minPrice bids).untopD 0 / (firstPrice bid).untopD 0 else 0

def loadScore (bid : MarketplaceBid) : Rat := (100 - min (load bid) 100) / 100

def score (bids : List MarketplaceBid) (bid : MarketplaceBid) : Rat :=
  repScore bids bid * (5 / 10) + priceScore bids bid * (3 / 10) + loadScore bid * (2 / 10)

def pickBestBid : List MarketplaceBid → Option MarketplaceBid
  | [] => none
  | [bid] => some bid
  | first :: rest => some (BestPick.scan (score (first :: rest)) (first, ⊥) (first :: rest)).1

structure MarketplaceBid.Valid (bid : MarketplaceBid) : Prop where
  reputation : 0 ≤ bid.reputationScore
  load : 0 ≤ load bid ∧ load bid ≤ 100

/-- As good in every respect and better in one. -/
structure Dominates (other bid : MarketplaceBid) : Prop where
  reputation : bid.reputationScore ≤ other.reputationScore
  price : firstPrice other ≤ firstPrice bid
  load : load other ≤ load bid
  strict : bid.reputationScore < other.reputationScore ∨ firstPrice other < firstPrice bid ∨
    Web.load other < Web.load bid

theorem le_foldl_max (scores : List Rat) (start : Rat) : start ≤ scores.foldl max start := by
  induction scores generalizing start with
  | nil => exact le_rfl
  | cons first rest ih => exact (le_max_left start first).trans (ih (max start first))

theorem maxRep_pos (bids : List MarketplaceBid) : 0 < maxRep bids := by
  have least : (0 : Rat) < 1 / 1000000000 := by norm_num
  exact least.trans_le (le_foldl_max _ _)

theorem lower_le (first second : WithTop Nat) : lower first second ≤ first ∧ lower first second ≤ second := by
  unfold lower
  split
  · next order => exact ⟨le_rfl, order⟩
  · next order => exact ⟨(not_le.mp order).le, le_rfl⟩

theorem foldl_lower_le {prices : List (WithTop Nat)} {start price : WithTop Nat}
    (among : price = start ∨ price ∈ prices) : prices.foldl lower start ≤ price := by
  induction prices generalizing start price with
  | nil =>
      rcases among with rfl | member
      · exact le_rfl
      · exact absurd member List.not_mem_nil
  | cons first rest ih =>
      rw [List.foldl_cons]
      have started : rest.foldl lower (lower start first) ≤ lower start first := ih (Or.inl rfl)
      rcases among with rfl | member
      · exact started.trans (lower_le _ _).1
      · rcases List.mem_cons.mp member with rfl | member
        · exact started.trans (lower_le _ _).2
        · exact ih (Or.inr member)

theorem minPrice_le {bids : List MarketplaceBid} {bid : MarketplaceBid} (member : bid ∈ bids) :
    minPrice bids ≤ firstPrice bid := by
  by_cases missing : firstPrice bid = ⊤
  · rw [missing]
    exact le_top
  · apply foldl_lower_le
    exact Or.inr (List.mem_filter.mpr ⟨List.mem_map_of_mem member, by simp [missing]⟩)

theorem priceScore_nonneg (bids : List MarketplaceBid) (bid : MarketplaceBid) : 0 ≤ priceScore bids bid := by
  unfold priceScore
  split
  · exact div_nonneg (Nat.cast_nonneg _) (Nat.cast_nonneg _)
  · exact le_rfl

/-- A lower price never lowers the score; when a bid is free, no price raises it. -/
theorem priceScore_anti {bids : List MarketplaceBid} {other bid : MarketplaceBid} (member : other ∈ bids)
    (cheaper : firstPrice other ≤ firstPrice bid) : priceScore bids bid ≤ priceScore bids other := by
  by_cases shown : firstPrice bid ≠ ⊤ ∧ 0 < minPrice bids
  · have least := minPrice_le member
    have otherShown : firstPrice other ≠ ⊤ ∧ 0 < minPrice bids :=
      ⟨ne_top_of_le_ne_top shown.1 cheaper, shown.2⟩
    obtain ⟨price, priced⟩ := WithTop.ne_top_iff_exists.mp shown.1
    obtain ⟨otherPrice, otherPriced⟩ := WithTop.ne_top_iff_exists.mp otherShown.1
    rw [priceScore, priceScore, if_pos shown, if_pos otherShown]
    rw [← priced, ← otherPriced] at cheaper
    rw [← otherPriced] at least
    have positive : 0 < otherPrice := WithTop.coe_pos.mp (shown.2.trans_le least)
    rw [← priced, ← otherPriced, WithTop.untopD_coe, WithTop.untopD_coe]
    apply div_le_div_of_nonneg_left (Nat.cast_nonneg _)
    · exact_mod_cast positive
    · exact_mod_cast cheaper
  · rw [priceScore, if_neg shown]
    exact priceScore_nonneg bids other

theorem score_of_dominates {bids : List MarketplaceBid} {other bid : MarketplaceBid} (valid : bid.Valid)
    (member : other ∈ bids) (dominates : Dominates other bid) :
    score bids bid ≤ score bids other ∧ (score bids bid < score bids other ∨ firstPrice other < firstPrice bid) := by
  have positive := maxRep_pos bids
  have prices := priceScore_anti member dominates.price
  have reputations : repScore bids bid ≤ repScore bids other :=
    div_le_div_of_nonneg_right dominates.reputation positive.le
  have capped : min (load bid) 100 = load bid := min_eq_left valid.load.2
  have otherCapped : min (load other) 100 = load other := min_eq_left (dominates.load.trans valid.load.2)
  have loads : loadScore bid ≤ loadScore other := by
    have order := dominates.load
    rw [loadScore, loadScore, capped, otherCapped]
    linarith
  refine ⟨by unfold score; linarith, ?_⟩
  rcases dominates.strict with better | cheaper | free
  · left
    have strict : repScore bids bid < repScore bids other := div_lt_div_of_pos_right better positive
    unfold score
    linarith
  · exact Or.inr cheaper
  · left
    have strict : loadScore bid < loadScore other := by
      rw [loadScore, loadScore, capped, otherCapped]
      linarith
    unfold score
    linarith

theorem pickBestBid_none_iff (bids : List MarketplaceBid) : pickBestBid bids = none ↔ bids = [] := by
  match bids with
  | [] => simp [pickBestBid]
  | [_] => simp [pickBestBid]
  | _ :: _ :: _ => simp [pickBestBid]

theorem pickBestBid_first {bids : List MarketplaceBid} {best : MarketplaceBid} (picked : pickBestBid bids = some best) :
    BestPick.IsFirstBest (score bids) bids best := by
  match bids with
  | [] => contradiction
  | [bid] =>
      cases picked
      exact ⟨[], [], rfl, by simp, by simp⟩
  | first :: second :: rest =>
      rw [pickBestBid, BestPick.scan_bot] at picked
      · cases picked
        exact BestPick.isFirstBest_firstBest _ first (second :: rest)
      · simp

/-- The bid chosen from the sorted list is one of the bids, and no other is as good in every respect
and better in one. -/
theorem picked_bid_undominated (bids : List MarketplaceBid) (valid : ∀ bid ∈ bids, bid.Valid) :
    ∃ sorted, fetchMarketplaceBids (.ok bids) = .ok sorted ∧ (pickBestBid sorted = none ↔ bids = []) ∧
      ∀ best, pickBestBid sorted = some best → best ∈ bids ∧ ∀ other ∈ bids, ¬Dominates other best := by
  let order : MarketplaceBid → MarketplaceBid → Bool := fun first second => firstPrice first ≤ firstPrice second
  have same : ∀ bid, bid ∈ bids.mergeSort order ↔ bid ∈ bids := fun bid => List.mem_mergeSort
  have sorted : (bids.mergeSort order).Pairwise fun first second => firstPrice first ≤ firstPrice second := by
    have pairs : (bids.mergeSort order).Pairwise fun first second => order first second = true := by
      apply List.pairwise_mergeSort
      · intro first second third
        simp only [order, decide_eq_true_eq]
        exact le_trans
      · intro first second
        simp only [order, Bool.or_eq_true, decide_eq_true_eq]
        exact le_total _ _
    exact pairs.imp of_decide_eq_true
  refine ⟨bids.mergeSort order, rfl, ?_, ?_⟩
  · rw [pickBestBid_none_iff, ← List.length_eq_zero_iff, List.length_mergeSort, List.length_eq_zero_iff]
  · intro best picked
    have isBest := pickBestBid_first picked
    refine ⟨(same best).mp isBest.mem, ?_⟩
    intro other member dominates
    have inside := (same other).mpr member
    have scores := score_of_dominates (valid best ((same best).mp isBest.mem)) inside dominates
    rcases scores.2 with higher | cheaper
    · exact absurd higher (not_lt.mpr (isBest.le inside))
    · exact absurd (isBest.lt_of_key sorted inside cheaper) (not_lt.mpr scores.1)

def sampleBid (pricePer1k : Nat) : MarketplaceBid where
  nodePeerId := "node"
  apiUrl := none
  estimatedLatencyMs := 100
  currentLoadPct := some 20
  modelId := "llama"
  reputationScore := 0
  acceptedSettlements := [⟨"free", pricePer1k, "native"⟩]

/-- A free bid takes every price out of the scores, and is still chosen before a bid like it. -/
theorem picked_bid_undominated_sample :
    ∃ sorted best, fetchMarketplaceBids (.ok [sampleBid 5, sampleBid 0]) = .ok sorted ∧
      pickBestBid sorted = some best ∧ ¬Dominates (sampleBid 0) best := by
  have valid : ∀ bid ∈ [sampleBid 5, sampleBid 0], bid.Valid := by
    have each (price : Nat) : (sampleBid price).Valid := by
      constructor <;> norm_num [sampleBid, load]
    intro bid member
    simp only [List.mem_cons, List.not_mem_nil, or_false] at member
    rcases member with rfl | rfl
    · exact each 5
    · exact each 0
  obtain ⟨sorted, fetched, none, undominated⟩ := picked_bid_undominated _ valid
  cases picked : pickBestBid sorted with
  | none => exact absurd (none.mp picked) (by simp)
  | some best => exact ⟨sorted, best, fetched, picked, (undominated best picked).2 _ (by simp)⟩

end Pinaivu.Web
