import Pinaivu.Contracts.DeAIEscrowProgress

/-!
What an observer of the event log knows of the contract.
-/

namespace Pinaivu.DeAIEscrow

structure Settlement where
  kind : PayoutKind
  escrowId : Nat
  receiver : Address
  amount : Nat
  deriving DecidableEq, Repr

def Event.settlement : Event → Option Settlement
  | .escrowLocked .. => none
  | .escrowReleased escrowId _ node amount => some ⟨.release, escrowId, node, amount⟩
  | .escrowRefunded escrowId payer amount => some ⟨.refund, escrowId, payer, amount⟩

def Payout.settlement (payout : Payout) : Settlement :=
  ⟨payout.kind, payout.escrowId, payout.receiver, payout.amount⟩

def Event.lockedAmount : Event → Nat
  | .escrowLocked _ _ _ _ amount => amount
  | _ => 0

def State.settlements (state : State) : List Settlement := state.events.filterMap Event.settlement

/-- The settlement events, and those still to come from calls that are under way, are the payouts. A
call that pays emits its event after the paid code has run, so inner calls report first. -/
def Reported (pending : List Settlement) (state : State) : Prop :=
  (state.settlements ++ pending).Perm (state.payouts.map Payout.settlement)

section

variable {contract : Address} {state : State} {pending : List Settlement}

theorem Reported.paying (reported : Reported pending state) (payout : Payout) :
    Reported (payout.settlement :: pending) (state.paying contract payout) := by
  have longer : (state.settlements ++ payout.settlement :: pending).Perm
      ((state.settlements ++ pending) ++ [payout.settlement]) := by
    rw [List.append_assoc]
    exact List.Perm.append_left _ (List.perm_append_singleton _ _).symm
  refine longer.trans ?_
  simp only [State.paying, List.map_append, List.map_cons, List.map_nil]
  exact reported.append_right _

theorem Reported.emit {settlement : Settlement} (reported : Reported (settlement :: pending) state)
    {event : Event} (reports : event.settlement = some settlement) : Reported pending (state.emit event) := by
  have appended : (state.emit event).settlements = state.settlements ++ [settlement] := by
    simp [State.settlements, State.emit, reports]
  rw [Reported, appended, List.append_assoc]
  exact reported

theorem lockEscrow_reported (reported : Reported pending state) {now value : Nat} {sender : Sender contract}
    {requestId : Bytes32} {nodeAddress : Address} {escrowId : Nat} {after : State}
    (locked : lockEscrow contract now sender value requestId nodeAddress state = .ok (escrowId, after)) :
    Reported pending after := by
  obtain ⟨-, rfl⟩ := lockEscrow_ok locked
  have silent : (state.events ++ [Event.escrowLocked state.nextId requestId nodeAddress sender.address value]).filterMap
      Event.settlement = state.settlements := by
    simp [State.settlements, Event.settlement]
  rw [Reported, State.settlements]
  dsimp only
  rw [silent]
  exact reported

theorem paid_reported (reported : Reported pending state) {payout : Payout} {callee : State → Option State}
    {event : Event} {result : State} (reports : event.settlement = some payout.settlement)
    (calleeReported : ∀ {pending before after}, Reported pending before → callee before = some after →
      Reported pending after)
    (called : payOut contract payout callee (state.settle payout.escrowId) = some result) :
    Reported pending (result.emit event) := by
  obtain ⟨-, -, ran⟩ := payOut_some called
  exact (calleeReported (reported.paying payout) ran).emit reports

theorem releaseEscrow_reported (reported : Reported pending state) {now : Nat} {sender : Sender contract}
    {escrowId : Nat} {proofHash : Bytes32} {callee : State → Option State}
    (calleeReported : ∀ {pending before after}, Reported pending before → callee before = some after →
      Reported pending after) :
    Reported pending (state.orUndo (releaseEscrow contract now sender escrowId proofHash callee state)) := by
  cases released : releaseEscrow contract now sender escrowId proofHash callee state with
  | error reason => exact reported
  | ok after =>
      obtain ⟨-, -, result, rfl, called⟩ := releaseEscrow_ok released
      exact @paid_reported contract state pending reported (releasePayout now sender escrowId state) callee _ result
        rfl calleeReported called

theorem refundEscrow_reported (reported : Reported pending state) {now : Nat} {sender : Sender contract}
    {escrowId : Nat} {callee : State → Option State}
    (calleeReported : ∀ {pending before after}, Reported pending before → callee before = some after →
      Reported pending after) :
    Reported pending (state.orUndo (refundEscrow contract now sender escrowId callee state)) := by
  cases refunded : refundEscrow contract now sender escrowId callee state with
  | error reason => exact reported
  | ok after =>
      obtain ⟨-, -, -, result, rfl, called⟩ := refundEscrow_ok refunded
      exact @paid_reported contract state pending reported (refundPayout now sender escrowId state) callee _ result
        rfl calleeReported called

theorem send_reported (reported : Reported pending state) (source target : Address) (amount : Nat) :
    Reported pending (state.send contract source target amount) := by
  unfold State.send
  split
  · exact reported
  · exact reported

/-- A frame that returns has reported all that it paid. -/
theorem run_reported {now : Nat} (script : Script contract) {pending : List Settlement}
    {state after : State} (reported : Reported pending state) (ran : run now script state = some after) :
    Reported pending after := by
  induction script generalizing pending state after with
  | returns =>
      obtain rfl := Option.some.inj ran
      exact reported
  | reverts => contradiction
  | lockEscrow sender value requestId nodeAddress next ih =>
      rw [run] at ran
      refine ih ?_ ran
      cases locked : lockEscrow contract now sender value requestId nodeAddress state with
      | error reason => exact reported
      | ok result => exact lockEscrow_reported reported locked
  | releaseEscrow sender escrowId proofHash callee next ihCallee ihNext =>
      rw [run] at ran
      exact ihNext (releaseEscrow_reported reported ihCallee) ran
  | refundEscrow sender escrowId callee next ihCallee ihNext =>
      rw [run] at ran
      exact ihNext (refundEscrow_reported reported ihCallee) ran
  | frame body next ihBody ihNext =>
      rw [run] at ran
      refine ihNext ?_ ran
      cases inner : run now body state with
      | none => exact reported
      | some result => exact ihBody reported inner
  | send source target amount next ih =>
      rw [run] at ran
      exact ih (send_reported reported source target amount) ran

theorem reported_run (history : List (Nat × Script contract)) {state : State} (reported : Reported [] state) :
    Reported [] (Runs.run transaction state history) := by
  induction history generalizing state with
  | nil => exact reported
  | cons call rest ih =>
      apply ih
      unfold transaction
      cases outcome : run call.1 call.2 state with
      | none => exact reported
      | some result => exact run_reported call.2 reported outcome

end

def State.loggedTotal (state : State) : Nat := (state.events.map Event.lockedAmount).sum

theorem logged_rules (contract : Address) :
    Rules contract (fun state => Sound contract state ∧ state.loggedTotal = state.lockedTotal) Later where
  refl := Later.refl
  trans := Later.trans
  lock := by
    rintro now value requestId nodeAddress state escrowId after sender ⟨sound, logged⟩ locked
    obtain ⟨kept, later⟩ := (sound_rules contract).lock sound locked
    refine ⟨⟨kept, ?_⟩, later⟩
    obtain ⟨-, rfl⟩ := lockEscrow_ok locked
    have rest := Ledger.sum_update_of_notMem (Finset.range state.nextId) state.escrows Escrow.amount state.nextId
      ⟨requestId, sender.address, nodeAddress, value, now, false⟩ (by simp)
    rw [State.loggedTotal, State.lockedTotal] at logged ⊢
    rw [List.map_append, List.sum_append, logged, Finset.sum_range_succ, rest]
    simp [Event.lockedAmount]
  pay := by
    rintro state payout ⟨sound, logged⟩ payable
    obtain ⟨kept, later⟩ := (sound_rules contract).pay sound payable
    refine ⟨⟨kept, ?_⟩, later⟩
    rw [lockedTotal_paying sound.solvent payable]
    exact logged
  emit := by
    rintro state event ⟨sound, logged⟩ notLock
    obtain ⟨kept, later⟩ := (sound_rules contract).emit sound notLock
    refine ⟨⟨kept, ?_⟩, later⟩
    have nothing : event.lockedAmount = 0 := by
      cases event with
      | escrowLocked => exact absurd trivial notLock
      | escrowReleased => rfl
      | escrowRefunded => rfl
    have same : (state.emit event).loggedTotal = state.loggedTotal := by
      simp [State.loggedTotal, State.emit, nothing]
    exact same.trans logged
  send := by
    rintro state source target amount ⟨sound, logged⟩
    obtain ⟨kept, later⟩ := @Rules.send _ _ _ (sound_rules contract) state source target amount sound
    refine ⟨⟨kept, ?_⟩, later⟩
    unfold State.send
    split
    · exact logged
    · exact logged

/-- After every run, with calls back into the contract and calls that are undone: the lock events are
the escrows that the contract holds or has held, one for each id in the order of the ids; an escrow is
settled exactly if it has a settlement event, and then it has one, with its amount and the party that
the kind of the event names; and the ether of the contract is what the log says was locked less what
the log says was paid. -/
theorem events_mirror (contract : Address) (balances : Address → Nat) (history : List (Nat × Script contract)) :
    let state := Runs.run transaction (State.deployed contract balances) history
    state.lockedIds = List.range' 1 (state.nextId - 1) ∧
      (∀ event, event.IsLock →
        (event ∈ state.events ↔ ∃ id, 0 < id ∧ id < state.nextId ∧ event = .locks id (state.escrows id))) ∧
      (state.settlements.map Settlement.escrowId).Nodup ∧
      (∀ id, (state.escrows id).settled = true ↔ id ∈ state.settlements.map Settlement.escrowId) ∧
      (∀ settlement ∈ state.settlements, settlement.amount = (state.escrows settlement.escrowId).amount ∧
        settlement.receiver = (state.escrows settlement.escrowId).beneficiary settlement.kind) ∧
      state.balance contract + (state.settlements.map Settlement.amount).sum = state.loggedTotal := by
  intro state
  obtain ⟨sound, logged⟩ : Sound contract state ∧ state.loggedTotal = state.lockedTotal :=
    (((logged_rules contract).traced_all history ⟨deployed_sound contract balances, rfl⟩).ended _ rfl).1
  have reported : state.settlements.Perm (state.payouts.map Payout.settlement) := by
    have all : Reported [] state := reported_run history (List.Perm.refl [])
    rwa [Reported, List.append_nil] at all
  have ids : (state.settlements.map Settlement.escrowId).Perm (state.payouts.map Payout.escrowId) := by
    have mapped := reported.map Settlement.escrowId
    rwa [List.map_map] at mapped
  refine ⟨sound.recorded.lockedIds, sound.booked.locks, ?_, ?_, ?_, ?_⟩
  · exact ids.nodup_iff.mpr sound.solvent.paid.1
  · intro id
    rw [sound.booked.settled id, ids.mem_iff]
  · intro settlement member
    obtain ⟨payout, paid, rfl⟩ := List.mem_map.mp (reported.mem_iff.mp member)
    exact (sound.solvent.paid.2 payout paid).2
  · have amounts : (state.settlements.map Settlement.amount).sum = state.paidTotal := by
      have mapped := (reported.map Settlement.amount).sum_eq
      rwa [List.map_map] at mapped
    have held := sound.solvent.held
    have accounted := sound.solvent.accounted
    omega

end Pinaivu.DeAIEscrow
