import Mathlib.Order.Bounds.Basic
import Pinaivu.Contracts.DeAIEscrowSolvency

/-!
Who moves the ether of an escrow and when, and what stays of an escrow once it is locked, over
all states of a run.
-/

namespace Pinaivu.DeAIEscrow

def Event.lockedId : Event → Option Nat
  | .escrowLocked escrowId .. => some escrowId
  | _ => none

def State.lockedIds (state : State) : List Nat := state.events.filterMap Event.lockedId

def LockedFor (state : State) (requestId : Bytes32) : Set Nat :=
  {escrowId | ∃ node payer amount, .escrowLocked escrowId requestId node payer amount ∈ state.events}

/-- The number is the least of the ids, and zero if there is none. -/
def FirstOf (ids : Set Nat) (first : Nat) : Prop := (first ≠ 0 ↔ ids.Nonempty) ∧ ∀ id ∈ ids, IsLeast ids first

theorem firstOf_empty : FirstOf ∅ 0 := by simp [FirstOf]

theorem firstOf_insert {ids : Set Nat} {first new : Nat} (before : FirstOf ids first) (positive : 0 < new)
    (above : ∀ id ∈ ids, id < new) : FirstOf (insert new ids) (if first = 0 then new else first) := by
  obtain ⟨nonempty, least⟩ := before
  split
  next zero =>
    have empty : ids = ∅ := Set.not_nonempty_iff_eq_empty.mp fun some => nonempty.mpr some zero
    subst empty
    refine ⟨iff_of_true (Nat.ne_of_gt positive) (Set.insert_nonempty new ∅), fun id _ => ⟨Set.mem_insert new ∅, ?_⟩⟩
    intro other member
    simpa using (show other = new by simpa using member).ge
  next nonzero =>
    obtain ⟨id, member⟩ := nonempty.mp nonzero
    have first_least := least id member
    refine ⟨iff_of_true nonzero (Set.insert_nonempty new ids), fun _ _ => ⟨Set.mem_insert_of_mem new first_least.1, ?_⟩⟩
    intro other inserted
    rcases Set.mem_insert_iff.mp inserted with rfl | old
    · exact (above first first_least.1).le
    · exact first_least.2 old

structure Kept (before after : Escrow) : Prop where
  requestId : after.requestId = before.requestId
  payer : after.payer = before.payer
  node : after.node = before.node
  amount : after.amount = before.amount
  createdAt : after.createdAt = before.createdAt
  settled : before.settled = true → after.settled = true

def LockedKept (before after : State) : Prop :=
  ∀ requestId, ∀ id ∈ LockedFor before requestId, Kept (before.escrows id) (after.escrows id)

structure Authorised (escrow : Escrow) (payout : Payout) : Prop where
  party : payout.receiver = escrow.node ∨ payout.receiver = escrow.payer
  toNode : payout.receiver = escrow.node → payout.caller = escrow.node ∨ payout.caller = escrow.payer
  toPayer : payout.receiver = escrow.payer → escrow.payer ≠ escrow.node →
    payout.caller = escrow.payer ∧ escrow.createdAt + refundTimeout ≤ payout.time

structure Later (before after : State) : Prop where
  nextId : before.nextId ≤ after.nextId
  escrows : ∀ id < before.nextId, Kept (before.escrows id) (after.escrows id)

structure Recorded (state : State) : Prop where
  lockedIds : state.lockedIds = List.range' 1 (state.nextId - 1)
  first : ∀ requestId, FirstOf (LockedFor state requestId) (state.escrowByRequest requestId)
  permitted : ∀ payout ∈ state.payouts, (state.escrows payout.escrowId).Permits payout

theorem Kept.refl (escrow : Escrow) : Kept escrow escrow := ⟨rfl, rfl, rfl, rfl, rfl, id⟩

theorem Kept.trans {first second third : Escrow} (one : Kept first second) (two : Kept second third) :
    Kept first third :=
  ⟨two.requestId.trans one.requestId, two.payer.trans one.payer, two.node.trans one.node,
    two.amount.trans one.amount, two.createdAt.trans one.createdAt, fun settled => two.settled (one.settled settled)⟩

theorem Kept.permits {before after : Escrow} (kept : Kept before after) {payout : Payout} :
    after.Permits payout ↔ before.Permits payout := by
  rw [Escrow.Permits, Escrow.Permits, kept.node, kept.payer, kept.createdAt]

theorem kept_markSettled (escrow : Escrow) : Kept escrow escrow.markSettled := ⟨rfl, rfl, rfl, rfl, rfl, fun _ => rfl⟩

theorem Later.refl (state : State) : Later state state := ⟨le_rfl, fun id _ => Kept.refl (state.escrows id)⟩

theorem Later.trans {first second third : State} (one : Later first second) (two : Later second third) :
    Later first third where
  nextId := one.nextId.trans two.nextId
  escrows id below := (one.escrows id below).trans (two.escrows id (below.trans_le one.nextId))

theorem mem_lockedIds {state : State} {escrowId : Nat} :
    escrowId ∈ state.lockedIds ↔ ∃ requestId, escrowId ∈ LockedFor state requestId := by
  rw [State.lockedIds, List.mem_filterMap]
  constructor
  · rintro ⟨event, member, same⟩
    cases event with
    | escrowLocked id requestId node payer amount =>
        obtain rfl := Option.some.inj same
        exact ⟨requestId, node, payer, amount, member⟩
    | escrowReleased => contradiction
    | escrowRefunded => contradiction
  · rintro ⟨requestId, node, payer, amount, member⟩
    exact ⟨_, member, rfl⟩

theorem Recorded.below {state : State} (recorded : Recorded state) (started : 0 < state.nextId)
    {requestId : Bytes32} {escrowId : Nat} (locked : escrowId ∈ LockedFor state requestId) :
    0 < escrowId ∧ escrowId < state.nextId := by
  have member := mem_lockedIds.mpr ⟨requestId, locked⟩
  rw [recorded.lockedIds, List.mem_range'_1] at member
  omega

theorem deployed_recorded (contract : Address) (balances : Address → Nat) :
    Recorded (State.deployed contract balances) where
  lockedIds := rfl
  first requestId := by
    have none : LockedFor (State.deployed contract balances) requestId = ∅ := by
      simp [LockedFor, State.deployed]
    rw [none]
    exact firstOf_empty
  permitted := by simp [State.deployed]

section

variable {contract : Address} {state : State}

theorem mem_lockedFor_append {before after : State} {event : Event} (appended : after.events = before.events ++ [event])
    {requestId : Bytes32} {escrowId : Nat} :
    escrowId ∈ LockedFor after requestId ↔ escrowId ∈ LockedFor before requestId ∨
      ∃ node payer amount, event = .escrowLocked escrowId requestId node payer amount := by
  simp only [LockedFor, appended, List.mem_append, List.mem_singleton]
  constructor
  · rintro ⟨node, payer, amount, old | rfl⟩
    · exact .inl ⟨node, payer, amount, old⟩
    · exact .inr ⟨node, payer, amount, rfl⟩
  · rintro (⟨node, payer, amount, old⟩ | ⟨node, payer, amount, rfl⟩)
    · exact ⟨node, payer, amount, .inl old⟩
    · exact ⟨node, payer, amount, .inr rfl⟩

theorem lockedFor_emit {event : Event} (notLock : ¬ event.IsLock) (requestId : Bytes32) :
    LockedFor (state.emit event) requestId = LockedFor state requestId := by
  ext escrowId
  rw [@mem_lockedFor_append state (state.emit event) event rfl]
  refine or_iff_left ?_
  rintro ⟨node, payer, amount, rfl⟩
  exact notLock trivial

theorem firstOf_locked (recorded : Recorded state) (started : 0 < state.nextId) {after : State} {requestId : Bytes32}
    {node payer : Address} {amount : Nat}
    (appended : after.events = state.events ++ [.escrowLocked state.nextId requestId node payer amount])
    (index : after.escrowByRequest =
      if state.escrowByRequest requestId = 0 then
        Function.update state.escrowByRequest requestId state.nextId
      else state.escrowByRequest) (other : Bytes32) :
    FirstOf (LockedFor after other) (after.escrowByRequest other) := by
  by_cases same : other = requestId
  · subst same
    have ids : LockedFor after other = insert state.nextId (LockedFor state other) := by
      ext id
      simp [mem_lockedFor_append appended, or_comm, eq_comm]
    have first : after.escrowByRequest other =
        if state.escrowByRequest other = 0 then state.nextId else state.escrowByRequest other := by
      rw [index]
      split <;> simp
    rw [ids, first]
    exact firstOf_insert (recorded.first other) started fun id member => (recorded.below started member).2
  · have ids : LockedFor after other = LockedFor state other := by
      ext id
      simp [mem_lockedFor_append appended, Ne.symm same]
    have first : after.escrowByRequest other = state.escrowByRequest other := by
      rw [index]
      split
      · exact Function.update_of_ne same _ _
      · rfl
    rw [ids, first]
    exact recorded.first other

theorem lockEscrow_recorded (solvent : Solvent contract state) (recorded : Recorded state) {now value : Nat}
    {sender : Sender contract} {requestId : Bytes32} {nodeAddress : Address} {escrowId : Nat} {after : State}
    (locked : lockEscrow contract now sender value requestId nodeAddress state = .ok (escrowId, after)) :
    Recorded after ∧ Later state after := by
  obtain ⟨-, rfl⟩ := lockEscrow_ok locked
  have started := solvent.started
  refine ⟨⟨?_, ?_, ?_⟩, ⟨Nat.le_succ _, ?_⟩⟩
  · have next : state.nextId = state.nextId - 1 + 1 := by omega
    have before := recorded.lockedIds
    rw [State.lockedIds] at before ⊢
    rw [List.filterMap_append, before]
    simp only [Nat.add_sub_cancel, List.filterMap_cons, Event.lockedId, List.filterMap_nil]
    rw [next, Nat.add_sub_cancel, List.range'_1_concat, Nat.add_comm]
  · exact firstOf_locked recorded started rfl rfl
  · intro payout member
    have settled := (solvent.paid.2 payout member).1
    have below : payout.escrowId ≠ state.nextId := by
      intro same
      rw [same, solvent.blank state.nextId le_rfl] at settled
      contradiction
    simp only [Function.update_of_ne below]
    exact recorded.permitted payout member
  · intro id below
    simp only [Function.update_of_ne (Nat.ne_of_lt below)]
    exact Kept.refl _

theorem paying_kept (payout : Payout) (escrowId : Nat) :
    Kept (state.escrows escrowId) ((state.paying contract payout).escrows escrowId) := by
  simp only [State.paying, settle_escrows]
  by_cases same : escrowId = payout.escrowId
  · subst same
    rw [Function.update_self]
    exact kept_markSettled _
  · rw [Function.update_of_ne same]
    exact Kept.refl _

theorem paying_recorded (recorded : Recorded state) {payout : Payout} (payable : Payable contract state payout) :
    Recorded (state.paying contract payout) where
  lockedIds := recorded.lockedIds
  first := recorded.first
  permitted := by
    intro other member
    rw [(paying_kept payout other.escrowId).permits]
    rcases List.mem_append.mp member with earlier | new
    · exact recorded.permitted other earlier
    · obtain rfl := List.mem_singleton.mp new
      exact payable.permitted

theorem emit_recorded (recorded : Recorded state) {event : Event} (notLock : ¬ event.IsLock) :
    Recorded (state.emit event) where
  lockedIds := by
    have ignored : event.lockedId = none := by
      cases event with
      | escrowLocked => exact absurd trivial notLock
      | escrowReleased => rfl
      | escrowRefunded => rfl
    have before := recorded.lockedIds
    rw [State.lockedIds] at before
    rw [State.lockedIds, State.emit, List.filterMap_append, before]
    simp [ignored]
  first := by
    intro requestId
    rw [lockedFor_emit notLock]
    exact recorded.first requestId
  permitted := recorded.permitted

theorem send_recorded (recorded : Recorded state) (source target : Address) (amount : Nat) :
    Recorded (state.send contract source target amount) ∧ Later state (state.send contract source target amount) := by
  unfold State.send
  split
  · exact ⟨recorded, Later.refl state⟩
  · exact ⟨⟨recorded.lockedIds, recorded.first, recorded.permitted⟩, ⟨le_rfl, fun id _ => Kept.refl _⟩⟩

end

theorem recorded_rules (contract : Address) :
    Rules contract (fun state => Solvent contract state ∧ Recorded state) Later where
  refl := Later.refl
  trans := Later.trans
  lock := by
    rintro now value requestId nodeAddress state escrowId after sender ⟨solvent, recorded⟩ locked
    obtain ⟨kept, later⟩ := lockEscrow_recorded solvent recorded locked
    exact ⟨⟨lockEscrow_solvent solvent locked, kept⟩, later⟩
  pay := by
    rintro state payout ⟨solvent, recorded⟩ payable
    exact ⟨⟨paying_solvent solvent payable, paying_recorded recorded payable⟩, le_rfl,
      fun id _ => paying_kept payout id⟩
  emit := by
    rintro state event ⟨solvent, recorded⟩ notLock
    exact ⟨⟨solvent.emit event, emit_recorded recorded notLock⟩, le_rfl, fun id _ => Kept.refl _⟩
  send := by
    rintro state source target amount ⟨solvent, recorded⟩
    obtain ⟨kept, later⟩ := @send_recorded contract state recorded source target amount
    exact ⟨⟨solvent.send source target amount, kept⟩, later⟩

theorem authorised_of_permits {escrow : Escrow} {payout : Payout}
    (receiver : payout.receiver = escrow.beneficiary payout.kind) (permitted : escrow.Permits payout) :
    Authorised escrow payout := by
  obtain ⟨kind, escrowId, paid, amount, caller, time⟩ := payout
  cases kind with
  | release =>
      obtain rfl : paid = escrow.node := receiver
      exact ⟨.inl rfl, fun _ => permitted, fun same different => absurd same.symm different⟩
  | refund =>
      obtain rfl : paid = escrow.payer := receiver
      exact ⟨.inr rfl, fun _ => .inr permitted.1, fun _ _ => permitted⟩

/-- In every state that a run shows, also within nested calls: each payout was made by a party that
may make it, to the payer of an escrow with another node only by the payer and an hour after the
lock; no id was given twice; the reverse index names the first escrow of each request; and in every
later state a locked escrow has its fields, and stays settled once it is. -/
theorem escrow_authorised (contract : Address) (balances : Address → Nat) (history : List (Nat × Script contract)) :
    (∀ state ∈ traceAll history (State.deployed contract balances),
      (∀ payout ∈ state.payouts, Authorised (state.escrows payout.escrowId) payout) ∧
      state.lockedIds.Nodup ∧
      ∀ requestId, FirstOf (LockedFor state requestId) (state.escrowByRequest requestId)) ∧
    (traceAll history (State.deployed contract balances)).Pairwise LockedKept := by
  have traced := (recorded_rules contract).traced_all history
    ⟨deployed_solvent contract balances, deployed_recorded contract balances⟩
  constructor
  · intro state member
    obtain ⟨solvent, recorded⟩ := traced.invariant state member
    refine ⟨?_, ?_, recorded.first⟩
    · intro payout paid
      exact authorised_of_permits (solvent.paid.2 payout paid).2.2 (recorded.permitted payout paid)
    · rw [recorded.lockedIds]
      exact List.nodup_range'
  · refine (List.pairwise_cons.mp traced.ordered).2.imp_of_mem ?_
    intro before after member _ later requestId id locked
    obtain ⟨solvent, recorded⟩ := traced.invariant before member
    exact later.escrows id (recorded.below solvent.started locked).2

def selfPaying : Sender 2 := ⟨1, by decide, by decide⟩

/-- The wallet of a node that is its own payer locks ether and releases it at once. -/
def selfPayment : List (Nat × Script 2) :=
  [(1000, .lockEscrow selfPaying 100 7 1 (.releaseEscrow selfPaying 1 0 .returns .returns))]

theorem self_payment_at_once :
    ¬ ∀ state ∈ traceAll selfPayment (State.deployed 2 fun _ => 500), ∀ payout ∈ state.payouts,
      payout.receiver = (state.escrows payout.escrowId).payer →
        payout.caller = (state.escrows payout.escrowId).payer ∧
          (state.escrows payout.escrowId).createdAt + refundTimeout ≤ payout.time := by
  intro claimed
  have early := claimed (Runs.run transaction (State.deployed 2 fun _ => 500) selfPayment) (run_mem_traceAll _ _)
    ⟨.release, 1, 1, 100, 1, 1000⟩ (by decide) (by decide)
  exact absurd early.2 (by decide)

end Pinaivu.DeAIEscrow
