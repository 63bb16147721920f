import Pinaivu.Inference.BidPrices

/-!
The automatic price of `build_bid` against the same formula over the integers. The product
with 800 is taken in `u64`: it wraps here, and stops a build that checks for overflow.
-/

namespace Pinaivu.Inference

open P2P

/-- 80% of the budget for 100 tokens, and at least one. -/
def autoPrice (budget : Nat) : Nat := max 1 (800 * budget / 1000 / 100)

def maxAutoBudget : Nat := 23058430092136939

def autoPriced (config : NodeConfig) : NodeConfig :=
  { config with pricing := { config.pricing with autoPricing := true } }

theorem toNat_autoPrice (config : NodeConfig) (request : InferenceRequest) :
    (pricePer1k (autoPriced config) request).toNat =
      max (request.budgetNanox.toNat * 800 % 18446744073709551616 / 1000 / 100) 1 := by
  rw [pricePer1k, if_pos (by rfl), toNat_max, UInt64.toNat_div, UInt64.toNat_div, UInt64.toNat_mul]
  rfl

theorem autoPrice_mono {smaller larger : Nat} (ordered : smaller ≤ larger) : autoPrice smaller ≤ autoPrice larger := by
  have scaled : 800 * smaller / 1000 / 100 ≤ 800 * larger / 1000 / 100 := by omega
  unfold autoPrice
  omega

/-- A product past the limit is larger than every price that can be left after it wraps. -/
theorem autoPrice_exact_iff (config : NodeConfig) (request : InferenceRequest) :
    (pricePer1k (autoPriced config) request).toNat = autoPrice request.budgetNanox.toNat ↔
      request.budgetNanox.toNat ≤ maxAutoBudget := by
  rw [toNat_autoPrice, autoPrice, maxAutoBudget, Nat.div_div_eq_div_mul, Nat.div_div_eq_div_mul]
  constructor
  · intro same
    by_contra large
    have taken := Nat.div_add_mod (request.budgetNanox.toNat * 800) 18446744073709551616
    have turns : 1 ≤ request.budgetNanox.toNat * 800 / 18446744073709551616 := by omega
    omega
  · intro small
    rw [Nat.mod_eq_of_lt (by omega), Nat.mul_comm]
    exact max_comm _ _

/-- Both prices are the formula's, and in the order of the budgets, exactly up to the budget
whose product is the last one below the limit. -/
theorem auto_prices_iff (config : NodeConfig) (smaller larger : InferenceRequest)
    (ordered : smaller.budgetNanox ≤ larger.budgetNanox) :
    ((pricePer1k (autoPriced config) smaller).toNat = autoPrice smaller.budgetNanox.toNat ∧
        (pricePer1k (autoPriced config) larger).toNat = autoPrice larger.budgetNanox.toNat ∧
        pricePer1k (autoPriced config) smaller ≤ pricePer1k (autoPriced config) larger) ↔
      larger.budgetNanox.toNat ≤ maxAutoBudget := by
  rw [UInt64.le_iff_toNat_le] at ordered
  constructor
  · rintro ⟨_, exactly, _⟩
    exact (autoPrice_exact_iff config larger).mp exactly
  · intro small
    have first := (autoPrice_exact_iff config smaller).mpr (ordered.trans small)
    have second := (autoPrice_exact_iff config larger).mpr small
    refine ⟨first, second, ?_⟩
    rw [UInt64.le_iff_toNat_le, first, second]
    exact autoPrice_mono ordered

theorem auto_prices_small :
    pricePer1k (autoPriced (bidderWith 0).config) (requestFor "m" 1000) ≤
      pricePer1k (autoPriced (bidderWith 0).config) (requestFor "m" 500000) :=
  ((auto_prices_iff (bidderWith 0).config (requestFor "m" 1000) (requestFor "m" 500000) (by decide)).mpr
    (by decide)).2.2

/-- The budget of the marketplace's request, and a budget whose product is just past the limit: its
price is one, below that of the budget before it. -/
theorem auto_price_wraps :
    (pricePer1k (autoPriced (bidderWith 0).config) (requestFor "m" 18446744073709551615)).toNat ≠
        autoPrice 18446744073709551615 ∧
      pricePer1k (autoPriced (bidderWith 0).config) (requestFor "m" 23058430092136940) = 1 ∧
      1 < pricePer1k (autoPriced (bidderWith 0).config) (requestFor "m" 23058430092136939) := by
  decide

end Pinaivu.Inference
