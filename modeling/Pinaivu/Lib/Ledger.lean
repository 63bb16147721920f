import Mathlib.Algebra.BigOperators.Group.Finset.Basic
import Mathlib.Algebra.BigOperators.Group.Finset.Piecewise
import Mathlib.Algebra.Order.BigOperators.Group.Finset

/-!
Balances of accounts as a function, transfers between them, and sums over a map
of which one entry changes.
-/

namespace Ledger

variable {Account : Type} [DecidableEq Account]

/-- `amount` leaves `source` and reaches `target`; the caller checks that it is covered. -/
def transfer (balances : Account → Nat) (source target : Account) (amount : Nat) : Account → Nat :=
  let debited := Function.update balances source (balances source - amount)
  Function.update debited target (debited target + amount)

theorem transfer_source (balances : Account → Nat) {source target : Account} (amount : Nat)
    (different : source ≠ target) :
    transfer balances source target amount source = balances source - amount := by
  simp [transfer, different]

theorem transfer_target (balances : Account → Nat) {source target : Account} (amount : Nat)
    (different : source ≠ target) :
    transfer balances source target amount target = balances target + amount := by
  simp [transfer, different.symm]

theorem transfer_other (balances : Account → Nat) {source target account : Account} (amount : Nat)
    (notSource : account ≠ source) (notTarget : account ≠ target) :
    transfer balances source target amount account = balances account := by
  simp [transfer, notSource, notTarget]

theorem transfer_self (balances : Account → Nat) (account : Account) (amount : Nat)
    (covered : amount ≤ balances account) : transfer balances account account amount = balances := by
  funext other
  by_cases same : other = account
  · subst same
    simp [transfer, Nat.sub_add_cancel covered]
  · exact transfer_other balances amount same same

theorem sum_update {Key Value : Type} [DecidableEq Key] (keys : Finset Key) (map : Key → Value)
    (weight : Value → Nat) (key : Key) (value : Value) (member : key ∈ keys) :
    ∑ k ∈ keys, weight (Function.update map key value k) + weight (map key) =
      ∑ k ∈ keys, weight (map k) + weight value := by
  rw [← Finset.add_sum_erase keys _ member, ← Finset.add_sum_erase keys (fun k => weight (map k)) member]
  have rest : ∑ k ∈ keys.erase key, weight (Function.update map key value k) =
      ∑ k ∈ keys.erase key, weight (map k) := by
    apply Finset.sum_congr rfl
    intro k inside
    rw [Function.update_of_ne (Finset.ne_of_mem_erase inside)]
  rw [rest, Function.update_self]
  omega

theorem sum_update_of_notMem {Key Value : Type} [DecidableEq Key] (keys : Finset Key)
    (map : Key → Value) (weight : Value → Nat) (key : Key) (value : Value) (absent : key ∉ keys) :
    ∑ k ∈ keys, weight (Function.update map key value k) = ∑ k ∈ keys, weight (map k) := by
  apply Finset.sum_congr rfl
  intro k inside
  have different : k ≠ key := by
    intro same
    exact absent (same ▸ inside)
  rw [Function.update_of_ne different]

theorem sum_transfer [Fintype Account] (balances : Account → Nat) (source target : Account)
    (amount : Nat) (covered : amount ≤ balances source) :
    ∑ account, transfer balances source target amount account = ∑ account, balances account := by
  by_cases same : source = target
  · rw [same] at covered ⊢
    rw [transfer_self balances target amount covered]
  · have debit := sum_update Finset.univ balances id source (balances source - amount)
      (Finset.mem_univ _)
    have credit := sum_update Finset.univ
      (Function.update balances source (balances source - amount)) id target
      (Function.update balances source (balances source - amount) target + amount)
      (Finset.mem_univ _)
    simp only [id_eq] at debit credit
    simp only [transfer]
    omega

end Ledger
