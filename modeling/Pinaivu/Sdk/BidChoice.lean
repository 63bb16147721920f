import Mathlib.Algebra.Order.Field.Rat
import Mathlib.Tactic.Linarith
import Mathlib.Tactic.NormNum
import Mathlib.Tactic.Positivity
import Pinaivu.Common.Types
import Pinaivu.Lib.BestPick

/-!
`selectBestBid` of `sdk/src/session.ts`, in exact arithmetic.
-/

namespace Pinaivu.Sdk

structure InferenceBid where
  requestId : RequestId
  nodePeerId : NodePeerId
  pricePer1k : Rat
  estimatedLatencyMs : Rat
  currentLoadPct : Rat
  reputationScore : Rat
  modelId : String
  maxContextLen : Nat
  hasTee : Bool

namespace InferenceBid

def score (bid : InferenceBid) : Rat :=
  bid.reputationScore / ((bid.pricePer1k + 1) * (bid.estimatedLatencyMs + 1))

structure Valid (bid : InferenceBid) : Prop where
  reputation : 0 ≤ bid.reputationScore
  price : 0 ≤ bid.pricePer1k
  latency : 0 ≤ bid.estimatedLatencyMs

/-- As good in every respect and better in one. -/
structure Dominates (other bid : InferenceBid) : Prop where
  reputation : bid.reputationScore ≤ other.reputationScore
  price : other.pricePer1k ≤ bid.pricePer1k
  latency : other.estimatedLatencyMs ≤ bid.estimatedLatencyMs
  strict : bid.reputationScore < other.reputationScore ∨ other.pricePer1k < bid.pricePer1k ∨
    other.estimatedLatencyMs < bid.estimatedLatencyMs

def cost (bid : InferenceBid) : Rat := (bid.pricePer1k + 1) * (bid.estimatedLatencyMs + 1)

theorem Valid.cost_pos {bid : InferenceBid} (valid : bid.Valid) : 0 < bid.cost := by
  have price := valid.price
  have latency := valid.latency
  unfold cost
  positivity

theorem Valid.score_pos_iff {bid : InferenceBid} (valid : bid.Valid) : 0 < bid.score ↔ 0 < bid.reputationScore :=
  div_pos_iff_of_pos_right valid.cost_pos

theorem score_lt_of_dominates {other bid : InferenceBid} (otherValid : other.Valid)
    (positive : 0 < bid.reputationScore) (dominates : Dominates other bid) : bid.score < other.score := by
  have otherCost := otherValid.cost_pos
  have price := dominates.price
  have latency := dominates.latency
  have otherPrice := otherValid.price
  have otherLatency := otherValid.latency
  have costs : other.cost ≤ bid.cost := by
    apply mul_le_mul <;> linarith
  rcases dominates.strict with better | cheaper | faster
  · calc
      bid.score ≤ bid.reputationScore / other.cost := div_le_div_of_nonneg_left positive.le otherCost costs
      _ < other.score := div_lt_div_of_pos_right better otherCost
  · have less : other.cost < bid.cost := by
      apply mul_lt_mul <;> linarith
    calc
      bid.score < bid.reputationScore / other.cost := div_lt_div_of_pos_left positive otherCost less
      _ ≤ other.score := div_le_div_of_nonneg_right dominates.reputation otherCost.le
  · have less : other.cost < bid.cost := by
      apply mul_lt_mul' <;> linarith
    calc
      bid.score < bid.reputationScore / other.cost := div_lt_div_of_pos_left positive otherCost less
      _ ≤ other.score := div_le_div_of_nonneg_right dominates.reputation otherCost.le

end InferenceBid

/-- `none` is the error of `reduce` on an empty list. -/
def selectBestBid : List InferenceBid → Option InferenceBid
  | [] => none
  | first :: rest => some (rest.foldl (fun best bid => if best.score < bid.score then bid else best) first)

open InferenceBid

theorem selectBestBid_first {first : InferenceBid} {rest : List InferenceBid} {best : InferenceBid}
    (selected : selectBestBid (first :: rest) = some best) :
    BestPick.IsFirstBest InferenceBid.score (first :: rest) best := by
  cases selected
  exact BestPick.isFirstBest_firstBest InferenceBid.score first rest

/-- Once a bid has a reputation, no bid is better than the selected one; until then it is the first. -/
theorem selected_bid_undominated {first : InferenceBid} {rest : List InferenceBid} {best : InferenceBid}
    (valid : ∀ bid ∈ first :: rest, bid.Valid) (selected : selectBestBid (first :: rest) = some best) :
    best ∈ first :: rest ∧
      ((∃ bid ∈ first :: rest, 0 < bid.reputationScore) → ∀ other ∈ first :: rest, ¬Dominates other best) ∧
      ((∀ bid ∈ first :: rest, bid.reputationScore = 0) → best = first) := by
  have isBest := selectBestBid_first selected
  refine ⟨isBest.mem, ?_, ?_⟩
  · rintro ⟨bid, member, reputable⟩ other inside dominates
    have score : 0 < best.score := ((valid bid member).score_pos_iff.mpr reputable).trans_le (isBest.le member)
    have positive := (valid best isBest.mem).score_pos_iff.mp score
    have higher := score_lt_of_dominates (valid other inside) positive dominates
    exact absurd higher (not_lt.mpr (isBest.le inside))
  · intro zero
    have unscored (bid : InferenceBid) (member : bid ∈ first :: rest) : bid.score = 0 := by
      rw [InferenceBid.score, zero bid member, zero_div]
    have bestUnscored := unscored best isBest.mem
    obtain ⟨before, after, split, below, -⟩ := isBest
    cases before with
    | nil => exact (List.cons_eq_cons.mp split).1.symm
    | cons item before =>
        have less := below item (List.mem_cons_self ..)
        rw [unscored item (by simp [split]), bestUnscored] at less
        exact absurd less (lt_irrefl 0)

def sampleBid (reputationScore pricePer1k : Rat) : InferenceBid where
  requestId := ⟨Vector.replicate 16 1⟩
  nodePeerId := "12D3KooW"
  pricePer1k
  estimatedLatencyMs := 100
  currentLoadPct := 0
  reputationScore
  modelId := "llama"
  maxContextLen := 4096
  hasTee := false

theorem sampleBid_valid {reputationScore pricePer1k : Rat} (reputation : 0 ≤ reputationScore)
    (price : 0 ≤ pricePer1k) : (sampleBid reputationScore pricePer1k).Valid :=
  ⟨reputation, price, by norm_num [sampleBid]⟩

theorem pair_valid {first second : InferenceBid} (firstValid : first.Valid) (secondValid : second.Valid) :
    ∀ bid ∈ [first, second], bid.Valid := by
  simp only [List.mem_cons, List.not_mem_nil, or_false]
  rintro bid (rfl | rfl)
  · exact firstValid
  · exact secondValid

theorem selected_bid_undominated_sample :
    ∃ best, selectBestBid [sampleBid 0 5, sampleBid 1 7] = some best ∧ ¬Dominates (sampleBid 0 5) best := by
  have valid : ∀ bid ∈ [sampleBid 0 5, sampleBid 1 7], bid.Valid :=
    pair_valid (sampleBid_valid (by norm_num) (by norm_num)) (sampleBid_valid (by norm_num) (by norm_num))
  refine ⟨_, rfl, ?_⟩
  apply (selected_bid_undominated valid rfl).2.1
  · exact ⟨sampleBid 1 7, by simp, by norm_num [sampleBid]⟩
  · simp

/-- A bid that is free loses to one that is not, both without reputation. -/
theorem free_bid_passed_over :
    ¬∀ (bids : List InferenceBid) (best : InferenceBid), (∀ bid ∈ bids, bid.Valid) →
      selectBestBid bids = some best → ∀ other ∈ bids, ¬Dominates other best := by
  intro claim
  have valid : ∀ bid ∈ [sampleBid 0 5, sampleBid 0 0], bid.Valid :=
    pair_valid (sampleBid_valid (by norm_num) (by norm_num)) (sampleBid_valid (by norm_num) (by norm_num))
  have selected : selectBestBid [sampleBid 0 5, sampleBid 0 0] = some (sampleBid 0 5) := by
    simp [selectBestBid, InferenceBid.score, sampleBid]
  apply claim _ _ valid selected (sampleBid 0 0) (by simp)
  exact ⟨le_rfl, by norm_num [sampleBid], le_rfl, Or.inr (Or.inl (by norm_num [sampleBid]))⟩

end Pinaivu.Sdk
