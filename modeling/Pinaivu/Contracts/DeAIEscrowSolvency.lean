import Mathlib.Algebra.Order.Ring.Nat
import Pinaivu.Contracts.DeAIEscrowTrace

/-!
Solvency of the escrow contract under re-entrant calls. The invariant is kept by
every storage write together with the transfer that belongs to it, so it also
holds while the code of a paid account runs and calls back.
-/

namespace Pinaivu.DeAIEscrow

def Escrow.outstanding (escrow : Escrow) : Nat := if escrow.settled then 0 else escrow.amount

def State.owed (state : State) : Nat :=
  ∑ id ∈ Finset.range state.nextId, (state.escrows id).outstanding

def State.lockedTotal (state : State) : Nat :=
  ∑ id ∈ Finset.range state.nextId, (state.escrows id).amount

def State.paidTotal (state : State) : Nat := (state.payouts.map Payout.amount).sum

def PaidOnce (state : State) : Prop :=
  (state.payouts.map Payout.escrowId).Nodup ∧
    ∀ payout ∈ state.payouts,
      (state.escrows payout.escrowId).settled = true ∧
      payout.amount = (state.escrows payout.escrowId).amount ∧
      payout.receiver = (state.escrows payout.escrowId).beneficiary payout.kind

structure Solvent (contract : Address) (state : State) : Prop where
  held : state.balance contract = state.owed
  accounted : state.owed + state.paidTotal = state.lockedTotal
  started : 0 < state.nextId
  reserved : state.escrows 0 = .blank
  blank : ∀ id, state.nextId ≤ id → state.escrows id = .blank
  paid : PaidOnce state

theorem deployed_solvent (contract : Address) (balances : Address → Nat) :
    Solvent contract (State.deployed contract balances) := by
  refine ⟨?_, ?_, by simp [State.deployed], rfl, fun _ _ => rfl, by simp [State.deployed, PaidOnce]⟩
  · simp [State.deployed, State.owed, Escrow.outstanding, Escrow.blank]
  · simp [State.deployed, State.owed, State.paidTotal, State.lockedTotal, Escrow.outstanding,
      Escrow.blank]

theorem Solvent.emit {contract : Address} {state : State} (solvent : Solvent contract state)
    (event : Event) : Solvent contract (state.emit event) :=
  ⟨solvent.held, solvent.accounted, solvent.started, solvent.reserved, solvent.blank, solvent.paid⟩

theorem Solvent.send {contract : Address} {state : State} (solvent : Solvent contract state)
    (source target : Address) (amount : Nat) :
    Solvent contract (state.send contract source target amount) := by
  unfold State.send
  split
  · exact solvent
  · rename_i outside
    rw [not_or, not_or] at outside
    refine ⟨?_, solvent.accounted, solvent.started, solvent.reserved, solvent.blank, solvent.paid⟩
    have untouched := Ledger.transfer_other state.balance amount (Ne.symm outside.1)
      (Ne.symm outside.2.1)
    exact untouched.trans solvent.held

theorem Solvent.assigned {contract : Address} {state : State} (solvent : Solvent contract state) {payout : Payout}
    (payable : Payable contract state payout) : 0 < payout.escrowId ∧ payout.escrowId < state.nextId := by
  by_contra unassigned
  have blank : state.escrows payout.escrowId = .blank := by
    by_cases zero : payout.escrowId = 0
    · rw [zero, solvent.reserved]
    · exact solvent.blank payout.escrowId (by omega)
  have permitted := payable.permitted
  rw [blank, Escrow.Permits] at permitted
  have zero : payout.caller = 0 := by
    split at permitted
    · exact permitted.elim id id
    · exact permitted.1
  exact payable.nonzero zero

theorem lockEscrow_solvent {contract : Address} {now : Nat} {sender : Sender contract} {value : Nat}
    {requestId : Bytes32} {nodeAddress : Address} {state after : State} {escrowId : Nat}
    (solvent : Solvent contract state)
    (locked : lockEscrow contract now sender value requestId nodeAddress state = .ok (escrowId, after)) :
    Solvent contract after := by
  obtain ⟨-, rfl⟩ := lockEscrow_ok locked
  have started := solvent.started
  have rest (weight : Escrow → Nat) := Ledger.sum_update_of_notMem (Finset.range state.nextId)
    state.escrows weight state.nextId ⟨requestId, sender.address, nodeAddress, value, now, false⟩
    (by simp)
  refine ⟨?_, ?_, by simp, ?_, ?_, solvent.paid.1, ?_⟩
  · -- The ether that arrives is what the new escrow is owed.
    simp only [State.owed, Finset.sum_range_succ, rest, Function.update_self]
    rw [Ledger.transfer_target _ _ sender.external, solvent.held]
    simp [State.owed, Escrow.outstanding]
  · have accounted := solvent.accounted
    simp only [State.owed, State.paidTotal, State.lockedTotal] at accounted
    simp only [State.owed, State.paidTotal, State.lockedTotal, Finset.sum_range_succ, rest,
      Function.update_self]
    simp only [Escrow.outstanding, Bool.false_eq_true, if_false] at accounted ⊢
    omega
  · dsimp only
    rw [Function.update_of_ne (by omega)]
    exact solvent.reserved
  · intro id above
    dsimp only at above ⊢
    rw [Function.update_of_ne (by omega)]
    exact solvent.blank id (by omega)
  · intro payout member
    have settled := (solvent.paid.2 payout member).1
    have below : payout.escrowId ≠ state.nextId := by
      intro same
      rw [same, solvent.blank state.nextId (Nat.le_refl _)] at settled
      simp [Escrow.blank] at settled
    simpa only [Function.update_of_ne below] using solvent.paid.2 payout member

section

variable {contract : Address} {state : State} {payout : Payout}

theorem owed_paying (solvent : Solvent contract state) (payable : Payable contract state payout) :
    (state.paying contract payout).owed + payout.amount = state.owed := by
  have owed := Ledger.sum_update (Finset.range state.nextId) state.escrows Escrow.outstanding
    payout.escrowId (state.escrows payout.escrowId).markSettled (by simpa using (solvent.assigned payable).2)
  have before : (state.escrows payout.escrowId).outstanding = payout.amount := by
    simp [Escrow.outstanding, payable.unsettled, payable.amount]
  have after : (state.escrows payout.escrowId).markSettled.outstanding = 0 := rfl
  simp only [State.owed, State.paying, settle_nextId, settle_escrows]
  omega

theorem lockedTotal_paying (solvent : Solvent contract state) (payable : Payable contract state payout) :
    (state.paying contract payout).lockedTotal = state.lockedTotal := by
  have locked := Ledger.sum_update (Finset.range state.nextId) state.escrows Escrow.amount
    payout.escrowId (state.escrows payout.escrowId).markSettled (by simpa using (solvent.assigned payable).2)
  have same : (state.escrows payout.escrowId).markSettled.amount = (state.escrows payout.escrowId).amount := rfl
  simp only [State.lockedTotal, State.paying, settle_nextId, settle_escrows]
  omega

theorem paidTotal_paying : (state.paying contract payout).paidTotal = state.paidTotal + payout.amount := by
  simp [State.paidTotal, State.paying]

theorem paidOnce_paying (paid : PaidOnce state) (payable : Payable contract state payout) :
    PaidOnce (state.paying contract payout) := by
  have fresh : payout.escrowId ∉ state.payouts.map Payout.escrowId := by
    intro member
    obtain ⟨earlier, earlierMem, same⟩ := List.mem_map.mp member
    have settled := (paid.2 earlier earlierMem).1
    rw [same, payable.unsettled] at settled
    contradiction
  constructor
  · simp only [State.paying, List.map_append, List.map_cons, List.map_nil]
    exact List.nodup_append_comm.mp (List.nodup_cons.mpr ⟨fresh, paid.1⟩)
  · intro other member
    simp only [State.paying, settle_escrows, List.mem_append, List.mem_singleton] at member ⊢
    rcases member with earlier | rfl
    · have different : other.escrowId ≠ payout.escrowId := by
        intro same
        exact fresh (same ▸ List.mem_map_of_mem earlier)
      rw [Function.update_of_ne different]
      exact paid.2 other earlier
    · rw [Function.update_self, markSettled_beneficiary]
      exact ⟨rfl, payable.amount, payable.receiver⟩

theorem paying_solvent (solvent : Solvent contract state) (payable : Payable contract state payout) :
    Solvent contract (state.paying contract payout) := by
  have assigned := solvent.assigned payable
  have owed := owed_paying solvent payable
  have held := solvent.held
  have accounted := solvent.accounted
  refine ⟨?_, ?_, solvent.started, ?_, ?_, paidOnce_paying solvent.paid payable⟩
  · have left : (state.paying contract payout).balance contract = state.balance contract - payout.amount :=
      Ledger.transfer_source _ _ (Ne.symm payable.outside)
    omega
  · rw [lockedTotal_paying solvent payable, paidTotal_paying]
    omega
  · simp only [State.paying, settle_escrows]
    rw [Function.update_of_ne (by omega)]
    exact solvent.reserved
  · intro id above
    have above : state.nextId ≤ id := above
    simp only [State.paying, settle_escrows]
    rw [Function.update_of_ne (by omega)]
    exact solvent.blank id above

end

theorem solvent_rules (contract : Address) : Rules contract (Solvent contract) (fun _ _ => True) where
  refl _ := trivial
  trans _ _ := trivial
  lock solvent locked := ⟨lockEscrow_solvent solvent locked, trivial⟩
  pay solvent payable := ⟨paying_solvent solvent payable, trivial⟩
  emit solvent _ := ⟨solvent.emit _, trivial⟩
  send solvent := ⟨solvent.send _ _ _, trivial⟩

/-- After any sequence of top-level calls, re-entrant ones and reverts included, the
contract holds exactly what the open escrows are owed, and no escrow paid twice. -/
theorem escrow_solvent (contract : Address) (balances : Address → Nat)
    (history : List (Nat × Script contract)) :
    let state := Runs.run transaction (State.deployed contract balances) history
    state.balance contract = state.owed ∧
      state.owed + state.paidTotal = state.lockedTotal ∧
      (∀ id, state.nextId ≤ id → state.escrows id = .blank) ∧
      (∀ escrowId, (state.payouts.filter fun payout => payout.escrowId = escrowId).length ≤ 1) ∧
      ∀ payout ∈ state.payouts,
        payout.amount = (state.escrows payout.escrowId).amount ∧
        payout.receiver = (state.escrows payout.escrowId).beneficiary payout.kind := by
  have solvent := (((solvent_rules contract).traced_all history (deployed_solvent contract balances)).ended _ rfl).1
  refine ⟨solvent.held, solvent.accounted, solvent.blank, ?_, ?_⟩
  · intro escrowId
    have atMost := List.nodup_iff_count_le_one.mp solvent.paid.1 escrowId
    rw [List.count_eq_countP, List.countP_map, List.countP_eq_length_filter] at atMost
    simpa [Function.comp_def, beq_eq_decide] using atMost
  · intro payout member
    exact (solvent.paid.2 payout member).2

end Pinaivu.DeAIEscrow
