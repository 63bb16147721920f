import Pinaivu.Contracts.DeAIEscrowAuthorisation

/-!
Which calls move the ether of an open escrow, in every state that a run can reach, and that the
payers can always get back what the contract holds.
-/

namespace Pinaivu.DeAIEscrow

structure Escrow.Placed (contract : Address) (escrow : Escrow) : Prop where
  payer : escrow.payer ≠ 0
  external : escrow.payer ≠ contract
  node : escrow.node ≠ 0
  amount : 0 < escrow.amount

def Event.locks (escrowId : Nat) (escrow : Escrow) : Event :=
  .escrowLocked escrowId escrow.requestId escrow.node escrow.payer escrow.amount

structure Booked (contract : Address) (state : State) : Prop where
  placed : ∀ id, 0 < id → id < state.nextId → (state.escrows id).Placed contract
  settled : ∀ id, (state.escrows id).settled = true ↔ id ∈ state.payouts.map Payout.escrowId
  locks : ∀ event, event.IsLock →
    (event ∈ state.events ↔ ∃ id, 0 < id ∧ id < state.nextId ∧ event = .locks id (state.escrows id))

section

variable {contract : Address} {state : State}

theorem Escrow.Placed.kept {before after : Escrow} (placed : before.Placed contract) (kept : Kept before after) :
    after.Placed contract := by
  refine ⟨?_, ?_, ?_, ?_⟩
  · rw [kept.payer]
    exact placed.payer
  · rw [kept.payer]
    exact placed.external
  · rw [kept.node]
    exact placed.node
  · rw [kept.amount]
    exact placed.amount

theorem Kept.locks {before after : Escrow} (kept : Kept before after) (id : Nat) :
    Event.locks id after = .locks id before := by
  rw [Event.locks, Event.locks, kept.requestId, kept.node, kept.payer, kept.amount]

theorem deployed_booked (contract : Address) (balances : Address → Nat) :
    Booked contract (State.deployed contract balances) where
  placed := by
    intro id positive below
    have below : id < 1 := below
    omega
  settled := by simp [State.deployed, Escrow.blank]
  locks := by
    intro event lock
    simp only [State.deployed, List.not_mem_nil, false_iff, not_exists]
    rintro id ⟨positive, below, _⟩
    omega

theorem lockEscrow_placed {now value : Nat} {sender : Sender contract} {requestId : Bytes32} {nodeAddress : Address}
    {escrowId : Nat} {after : State}
    (locked : lockEscrow contract now sender value requestId nodeAddress state = .ok (escrowId, after)) :
    nodeAddress ≠ 0 ∧ 0 < value := by
  unfold lockEscrow at locked
  split at locked
  · cases locked
  split at locked
  · cases locked
  next funded =>
    split at locked
    · cases locked
    next node => exact ⟨node, Nat.pos_of_ne_zero funded⟩

theorem lockEscrow_booked (solvent : Solvent contract state) (booked : Booked contract state) {now value : Nat}
    {sender : Sender contract} {requestId : Bytes32} {nodeAddress : Address} {escrowId : Nat} {after : State}
    (locked : lockEscrow contract now sender value requestId nodeAddress state = .ok (escrowId, after)) :
    Booked contract after := by
  obtain ⟨node, funded⟩ := lockEscrow_placed locked
  obtain ⟨-, rfl⟩ := lockEscrow_ok locked
  have started := solvent.started
  refine ⟨?_, ?_, ?_⟩
  · intro id positive below
    dsimp only at below ⊢
    by_cases new : id = state.nextId
    · rw [new, Function.update_self]
      exact ⟨sender.nonzero, sender.external, node, funded⟩
    · rw [Function.update_of_ne new]
      exact booked.placed id positive (by omega)
  · intro id
    dsimp only
    by_cases new : id = state.nextId
    · -- The slot was blank, so nothing was paid from it.
      have unpaid := booked.settled state.nextId
      rw [solvent.blank state.nextId le_rfl] at unpaid
      rw [new, Function.update_self, ← unpaid]
      exact Iff.rfl
    · rw [Function.update_of_ne new]
      exact booked.settled id
  · intro event lock
    simp only [List.mem_append, List.mem_singleton, booked.locks event lock]
    constructor
    · rintro (⟨id, positive, below, rfl⟩ | rfl)
      · refine ⟨id, positive, by omega, ?_⟩
        rw [Function.update_of_ne (by omega)]
      · refine ⟨state.nextId, started, by omega, ?_⟩
        rw [Function.update_self]
        rfl
    · rintro ⟨id, positive, below, rfl⟩
      by_cases new : id = state.nextId
      · right
        rw [new, Function.update_self]
        rfl
      · left
        refine ⟨id, positive, by omega, ?_⟩
        rw [Function.update_of_ne new]

theorem paying_booked (booked : Booked contract state) (payout : Payout) :
    Booked contract (state.paying contract payout) where
  placed id positive below := (booked.placed id positive below).kept (paying_kept payout id)
  settled := by
    intro id
    simp only [State.paying, settle_escrows, List.map_append, List.map_cons, List.map_nil, List.mem_append,
      List.mem_singleton]
    by_cases same : id = payout.escrowId
    · rw [same, Function.update_self]
      exact iff_of_true rfl (.inr rfl)
    · rw [Function.update_of_ne same, booked.settled id, or_iff_left same]
  locks := by
    intro event lock
    have before := booked.locks event lock
    refine before.trans (exists_congr fun id => ?_)
    have kept := @paying_kept contract state payout id
    rw [kept.locks]
    exact Iff.rfl

theorem emit_booked (booked : Booked contract state) {event : Event} (notLock : ¬ event.IsLock) :
    Booked contract (state.emit event) where
  placed := booked.placed
  settled := booked.settled
  locks := by
    intro other lock
    have different : other ≠ event := by
      rintro rfl
      exact notLock lock
    have same : other ∈ (state.emit event).events ↔ other ∈ state.events := by simp [State.emit, different]
    exact same.trans (booked.locks other lock)

theorem send_booked (booked : Booked contract state) (source target : Address) (amount : Nat) :
    Booked contract (state.send contract source target amount) := by
  unfold State.send
  split
  · exact booked
  · exact ⟨booked.placed, booked.settled, booked.locks⟩

end

structure Sound (contract : Address) (state : State) : Prop where
  solvent : Solvent contract state
  recorded : Recorded state
  booked : Booked contract state

theorem deployed_sound (contract : Address) (balances : Address → Nat) :
    Sound contract (State.deployed contract balances) :=
  ⟨deployed_solvent contract balances, deployed_recorded contract balances, deployed_booked contract balances⟩

theorem sound_rules (contract : Address) : Rules contract (Sound contract) Later where
  refl := Later.refl
  trans := Later.trans
  lock := by
    rintro now value requestId nodeAddress state escrowId after sender ⟨solvent, recorded, booked⟩ locked
    obtain ⟨⟨kept, named⟩, later⟩ := (recorded_rules contract).lock ⟨solvent, recorded⟩ locked
    exact ⟨⟨kept, named, lockEscrow_booked solvent booked locked⟩, later⟩
  pay := by
    rintro state payout ⟨solvent, recorded, booked⟩ payable
    obtain ⟨⟨kept, named⟩, later⟩ := (recorded_rules contract).pay ⟨solvent, recorded⟩ payable
    exact ⟨⟨kept, named, paying_booked booked payout⟩, later⟩
  emit := by
    rintro state event ⟨solvent, recorded, booked⟩ notLock
    obtain ⟨⟨kept, named⟩, later⟩ := (recorded_rules contract).emit ⟨solvent, recorded⟩ notLock
    exact ⟨⟨kept, named, emit_booked booked notLock⟩, later⟩
  send := by
    rintro state source target amount ⟨solvent, recorded, booked⟩
    obtain ⟨⟨kept, named⟩, later⟩ :=
      @Rules.send _ _ _ (recorded_rules contract) state source target amount ⟨solvent, recorded⟩
    exact ⟨⟨kept, named, send_booked booked source target amount⟩, later⟩

theorem sound_run (contract : Address) (balances : Address → Nat) (history : List (Nat × Script contract)) :
    Sound contract (Runs.run transaction (State.deployed contract balances) history) :=
  (((sound_rules contract).traced_all history (deployed_sound contract balances)).ended _ rfl).1

section

variable {contract : Address} {state : State}

theorem Solvent.covered (solvent : Solvent contract state) {id : Nat} (below : id < state.nextId)
    (unsettled : (state.escrows id).settled = false) : (state.escrows id).amount ≤ state.balance contract := by
  have single := Finset.single_le_sum (f := fun id => (state.escrows id).outstanding)
    (fun _ _ => Nat.zero_le _) (Finset.mem_range.mpr below)
  rw [solvent.held]
  simpa [State.owed, Escrow.outstanding, unsettled] using single

theorem payOut_isSome (payout : Payout) (callee : State → Option State)
    (covered : payout.amount ≤ state.balance contract) :
    (payOut contract payout callee (state.settle payout.escrowId)).isSome ↔
      payout.receiver ≠ contract ∧ (callee (state.paying contract payout)).isSome := by
  by_cases inside : payout.receiver = contract
  · simp [payOut, inside]
  · have enough : ¬ (state.balance contract < payout.amount ∨ payout.receiver = contract) := by
      rintro (short | same)
      · omega
      · exact inside same
    rw [payOut, settle_balance, if_neg enough, and_iff_right inside]
    exact Iff.rfl

theorem releaseEscrow_isOk (solvent : Solvent contract state) {id : Nat} (below : id < state.nextId)
    (unsettled : (state.escrows id).settled = false) (now : Nat) (sender : Sender contract) (proofHash : Bytes32)
    (callee : State → Option State) :
    (releaseEscrow contract now sender id proofHash callee state).isOk ↔
      (sender.address = (state.escrows id).node ∨ sender.address = (state.escrows id).payer) ∧
        (state.escrows id).node ≠ contract ∧
        (callee (state.paying contract (releasePayout now sender id state))).isSome := by
  have paid : (payOut contract ⟨.release, id, (state.escrows id).node, (state.escrows id).amount, sender.address, now⟩
      callee (state.settle id)).isSome ↔ _ :=
    payOut_isSome (releasePayout now sender id state) callee (solvent.covered below unsettled)
  by_cases stranger : sender.address ≠ (state.escrows id).node ∧ sender.address ≠ (state.escrows id).payer
  · simp [releaseEscrow, unsettled, stranger, Except.isOk, Except.toBool]
  · have party : sender.address = (state.escrows id).node ∨ sender.address = (state.escrows id).payer := by
      rw [← not_or, not_not] at stranger
      exact stranger
    refine Iff.trans ?_ (paid.trans (and_iff_right party).symm)
    simp only [releaseEscrow, unsettled, Bool.false_eq_true, if_false, if_neg stranger]
    split
    next failed => simp [failed, Except.isOk, Except.toBool]
    next after ran => simp [ran, Except.isOk, Except.toBool]

theorem refundEscrow_isOk (solvent : Solvent contract state) {id : Nat} (below : id < state.nextId)
    (unsettled : (state.escrows id).settled = false) (external : (state.escrows id).payer ≠ contract) (now : Nat)
    (sender : Sender contract) (callee : State → Option State) :
    (refundEscrow contract now sender id callee state).isOk ↔
      sender.address = (state.escrows id).payer ∧
        (state.escrows id).createdAt + refundTimeout < uint256Limit ∧
        (state.escrows id).createdAt + refundTimeout ≤ now ∧
        (callee (state.paying contract (refundPayout now sender id state))).isSome := by
  have paid : (payOut contract ⟨.refund, id, (state.escrows id).payer, (state.escrows id).amount, sender.address, now⟩
      callee (state.settle id)).isSome ↔ _ :=
    payOut_isSome (refundPayout now sender id state) callee (solvent.covered below unsettled)
  by_cases endless : uint256Limit ≤ (state.escrows id).createdAt + refundTimeout
  · have wrong := Nat.not_lt.mpr endless
    simp [refundEscrow, unsettled, endless, wrong, Except.isOk, Except.toBool]
  by_cases early : now < (state.escrows id).createdAt + refundTimeout
  · have wrong := Nat.not_le.mpr early
    simp [refundEscrow, unsettled, endless, early, wrong, Except.isOk, Except.toBool]
  by_cases stranger : sender.address ≠ (state.escrows id).payer
  · simp [refundEscrow, unsettled, endless, early, stranger, Except.isOk, Except.toBool]
  · rw [and_iff_right (not_not.mp stranger), and_iff_right (Nat.lt_of_not_le endless),
      and_iff_right (Nat.le_of_not_lt early)]
    refine Iff.trans ?_ (paid.trans (and_iff_right external))
    simp only [refundEscrow, unsettled, Bool.false_eq_true, if_false, if_neg endless, if_neg early, if_neg stranger]
    split
    next failed => simp [failed, Except.isOk, Except.toBool]
    next after ran => simp [ran, Except.isOk, Except.toBool]

/-- The transaction by which a payer takes an escrow back to a wallet without code. -/
def withdrawal (now : Nat) (sender : Sender contract) (id : Nat) : Nat × Script contract :=
  (now, .refundEscrow sender id .returns .returns)

theorem transaction_sound (sound : Sound contract state) (call : Nat × Script contract) :
    Sound contract (transaction state call) ∧ Later state (transaction state call) := by
  obtain ⟨kept, later⟩ := ((sound_rules contract).traced_all [call] sound).ended _ rfl
  exact ⟨kept, later state List.mem_cons_self⟩

theorem withdrawal_settles (sound : Sound contract state) {id now : Nat} (positive : 0 < id)
    (below : id < state.nextId)
    (due : (state.escrows id).settled = false →
      (state.escrows id).createdAt + refundTimeout < uint256Limit ∧
        (state.escrows id).createdAt + refundTimeout ≤ now) :
    ∃ sender : Sender contract, sender.address = (state.escrows id).payer ∧
      ((transaction state (withdrawal now sender id)).escrows id).settled = true ∧
      (transaction state (withdrawal now sender id)).nextId = state.nextId := by
  have placed := sound.booked.placed id positive below
  refine ⟨⟨(state.escrows id).payer, placed.payer, placed.external⟩, rfl, ?_⟩
  cases settled : (state.escrows id).settled with
  | true =>
      have unchanged (sender : Sender contract) : transaction state (withdrawal now sender id) = state := by
        simp [transaction, withdrawal, run, refundEscrow, settled, State.orUndo]
      rw [unchanged]
      exact ⟨settled, rfl⟩
  | false =>
      obtain ⟨endless, elapsed⟩ := due settled
      have taken := (refundEscrow_isOk sound.solvent below settled placed.external now
        ⟨(state.escrows id).payer, placed.payer, placed.external⟩ some).mpr ⟨rfl, endless, elapsed, rfl⟩
      cases refunded : refundEscrow contract now ⟨(state.escrows id).payer, placed.payer, placed.external⟩ id some
          state with
      | error reason =>
          rw [refunded] at taken
          contradiction
      | ok after =>
          obtain ⟨-, result, event, -, rfl, returned⟩ := refundEscrow_pays refunded
          obtain rfl := Option.some.inj returned
          have ran : transaction state (withdrawal now ⟨_, placed.payer, placed.external⟩ id) = _ :=
            congrArg (fun outcome => state.orUndo outcome) refunded
          rw [ran]
          refine ⟨?_, rfl⟩
          simp [State.orUndo, State.emit, State.paying, refundPayout, settle_escrows, Escrow.markSettled]

theorem withdrawals_settle {now : Nat} (ids : List Nat) (sound : Sound contract state)
    (inside : ∀ id ∈ ids, 0 < id ∧ id < state.nextId)
    (due : ∀ id ∈ ids, (state.escrows id).settled = false →
      (state.escrows id).createdAt + refundTimeout < uint256Limit ∧
        (state.escrows id).createdAt + refundTimeout ≤ now) :
    ∃ calls : List (Nat × Script contract),
      (∀ call ∈ calls, ∃ sender, ∃ id ∈ ids,
        call = withdrawal now sender id ∧ sender.address = (state.escrows id).payer) ∧
      Sound contract (Runs.run transaction state calls) ∧ Later state (Runs.run transaction state calls) ∧
      (Runs.run transaction state calls).nextId = state.nextId ∧
        ∀ id ∈ ids, ((Runs.run transaction state calls).escrows id).settled = true := by
  induction ids generalizing state with
  | nil => exact ⟨[], by simp, sound, Later.refl state, rfl, by simp⟩
  | cons id rest ih =>
      obtain ⟨positive, below⟩ := inside id List.mem_cons_self
      obtain ⟨sender, payer, settled, same⟩ := withdrawal_settles sound positive below (due id List.mem_cons_self)
      obtain ⟨soundNext, later⟩ := transaction_sound sound (withdrawal now sender id)
      have restInside : ∀ other ∈ rest, 0 < other ∧ other < state.nextId := fun other member =>
        inside other (List.mem_cons_of_mem id member)
      obtain ⟨calls, byPayers, soundLast, latest, sameLast, settledRest⟩ := ih soundNext (by rwa [same]) (by
        intro other member unsettled
        have kept := later.escrows other (restInside other member).2
        rw [kept.createdAt]
        refine due other (List.mem_cons_of_mem id member) ?_
        by_contra earlier
        rw [Bool.not_eq_false] at earlier
        rw [kept.settled earlier] at unsettled
        contradiction)
      refine ⟨withdrawal now sender id :: calls, ?_, soundLast, later.trans latest, sameLast.trans same, ?_⟩
      · intro call member
        rcases List.mem_cons.mp member with rfl | member
        · exact ⟨sender, id, List.mem_cons_self, rfl, payer⟩
        · obtain ⟨other, otherId, listed, rfl, otherPayer⟩ := byPayers call member
          rw [(later.escrows otherId (restInside otherId listed).2).payer] at otherPayer
          exact ⟨other, otherId, List.mem_cons_of_mem id listed, rfl, otherPayer⟩
      · intro other member
        rcases List.mem_cons.mp member with rfl | member
        · exact (latest.escrows other (by omega)).settled settled
        · exact settledRest other member

theorem owed_of_settled (sound : Sound contract state)
    (settled : ∀ id, 0 < id → id < state.nextId → (state.escrows id).settled = true) : state.owed = 0 := by
  apply Finset.sum_eq_zero
  intro id member
  by_cases zero : id = 0
  · rw [zero, sound.solvent.reserved]
    rfl
  · rw [Escrow.outstanding, settled id (Nat.pos_of_ne_zero zero) (Finset.mem_range.mp member)]
    rfl

end

/-- In every state that a run reaches, an open escrow can be released exactly by its node or its payer,
to a node that takes the ether, and refunded exactly by its payer, who takes the ether, from an hour
after the lock; so at the latest of these times the payers alone can empty the contract. -/
theorem ether_withdrawable (contract : Address) (balances : Address → Nat) (history : List (Nat × Script contract)) :
    let state := Runs.run transaction (State.deployed contract balances) history
    (∀ id, 0 < id → id < state.nextId → (state.escrows id).settled = false →
      ∀ now (sender : Sender contract) (callee : State → Option State),
        (∀ proofHash, (releaseEscrow contract now sender id proofHash callee state).isOk ↔
          (sender.address = (state.escrows id).node ∨ sender.address = (state.escrows id).payer) ∧
            (state.escrows id).node ≠ contract ∧
            (callee (state.paying contract (releasePayout now sender id state))).isSome) ∧
        ((refundEscrow contract now sender id callee state).isOk ↔
          sender.address = (state.escrows id).payer ∧
            (state.escrows id).createdAt + refundTimeout < uint256Limit ∧
            (state.escrows id).createdAt + refundTimeout ≤ now ∧
            (callee (state.paying contract (refundPayout now sender id state))).isSome)) ∧
    ∀ now, (∀ id, 0 < id → id < state.nextId → (state.escrows id).settled = false →
        (state.escrows id).createdAt + refundTimeout < uint256Limit ∧
          (state.escrows id).createdAt + refundTimeout ≤ now) →
      ∃ withdrawals : List (Nat × Script contract),
        (∀ call ∈ withdrawals, ∃ sender id,
          call = withdrawal now sender id ∧ sender.address = (state.escrows id).payer) ∧
        (Runs.run transaction state withdrawals).balance contract = 0 ∧
        (Runs.run transaction state withdrawals).paidTotal = state.lockedTotal := by
  intro state
  have sound : Sound contract state := sound_run contract balances history
  constructor
  · intro id positive below unsettled now sender callee
    have external := (sound.booked.placed id positive below).external
    exact ⟨fun proofHash => releaseEscrow_isOk sound.solvent below unsettled now sender proofHash callee,
      refundEscrow_isOk sound.solvent below unsettled external now sender callee⟩
  · intro now due
    have inside : ∀ id ∈ List.range' 1 (state.nextId - 1), 0 < id ∧ id < state.nextId := by
      intro id member
      rw [List.mem_range'_1] at member
      omega
    obtain ⟨calls, byPayers, soundLast, later, sameNext, settled⟩ := withdrawals_settle _ sound inside
      fun id member => due id (inside id member).1 (inside id member).2
    have empty : (Runs.run transaction state calls).owed = 0 := by
      apply owed_of_settled soundLast
      intro id positive below
      apply settled
      rw [List.mem_range'_1]
      omega
    have locked : (Runs.run transaction state calls).lockedTotal = state.lockedTotal := by
      rw [State.lockedTotal, State.lockedTotal, sameNext]
      apply Finset.sum_congr rfl
      intro id member
      exact (later.escrows id (Finset.mem_range.mp member)).amount
    refine ⟨calls, ?_, ?_, ?_⟩
    · intro call member
      obtain ⟨sender, id, _, taken⟩ := byPayers call member
      exact ⟨sender, id, taken⟩
    · rw [soundLast.solvent.held, empty]
    · have accounted := soundLast.solvent.accounted
      omega

def openLock : List (Nat × Script 2) := [(1000, .lockEscrow selfPaying 100 7 3 .returns)]

theorem ether_withdrawable_sample :
    let state := Runs.run transaction (State.deployed 2 fun _ => 500) openLock
    state.balance 2 = 100 ∧
      (refundEscrow 2 4599 selfPaying 1 some state).isOk = false ∧
      ∃ withdrawals : List (Nat × Script 2), (Runs.run transaction state withdrawals).balance 2 = 0 ∧
        (Runs.run transaction state withdrawals).paidTotal = 100 := by
  obtain ⟨moves, empties⟩ := ether_withdrawable 2 (fun _ => 500) openLock
  refine ⟨rfl, ?_, ?_⟩
  · have refunded := (moves 1 (by decide) (by decide) rfl 4599 selfPaying some).2
    rw [Bool.eq_false_iff]
    intro taken
    exact absurd (refunded.mp taken).2.2.1 (by decide)
  · obtain ⟨withdrawals, -, empty, paid⟩ := empties 4600 (by
      intro id positive below _
      have only : id = 1 := by
        have below : id < 2 := below
        omega
      subst only
      decide)
    exact ⟨withdrawals, empty, paid⟩

end Pinaivu.DeAIEscrow
