import Pinaivu.Lib.Ledger
import Pinaivu.Lib.Runs

/-!
The contract `contracts/evm/DeAIEscrow.sol`. Amounts, ids and times are `uint256`
values, written as `Nat` with the overflow checks of Solidity 0.8 where the code
adds. `payouts` records the ether that leaves the contract; no function reads it.
-/

namespace Pinaivu.DeAIEscrow

abbrev Address := BitVec 160

abbrev Bytes32 := BitVec 256

def refundTimeout : Nat := 3600

structure Escrow where
  requestId : Bytes32
  payer : Address
  node : Address
  amount : Nat
  createdAt : Nat
  settled : Bool
  deriving DecidableEq, Repr

def Escrow.blank : Escrow := ⟨0, 0, 0, 0, 0, false⟩

inductive Event where
  | escrowLocked (escrowId : Nat) (requestId : Bytes32) (node payer : Address) (amount : Nat)
  | escrowReleased (escrowId : Nat) (proofHash : Bytes32) (node : Address) (amount : Nat)
  | escrowRefunded (escrowId : Nat) (payer : Address) (amount : Nat)
  deriving DecidableEq, Repr

inductive Error where
  | alreadySettled (escrowId : Nat)
  | timeoutNotElapsed (escrowId unlocksAt : Nat)
  | notAuthorized
  | transferFailed
  | zeroValue
  | invalidNode
  | arithmeticOverflow
  | insufficientBalance
  deriving DecidableEq, Repr

inductive PayoutKind where
  | release
  | refund
  deriving DecidableEq, Repr

structure Payout where
  kind : PayoutKind
  escrowId : Nat
  receiver : Address
  amount : Nat
  caller : Address
  time : Nat
  deriving DecidableEq, Repr

structure State where
  balance : Address → Nat
  nextId : Nat
  escrows : Nat → Escrow
  escrowByRequest : Bytes32 → Nat
  events : List Event
  payouts : List Payout

/-- The contract just deployed, at an address that holds no ether yet. -/
def State.deployed (contract : Address) (balances : Address → Nat) : State where
  balance := Function.update balances contract 0
  nextId := 1
  escrows := fun _ => .blank
  escrowByRequest := fun _ => 0
  events := []
  payouts := []

/-- Who can call a function of the contract: not the zero address, and not the
contract itself, whose own calls carry no calldata. -/
structure Sender (contract : Address) where
  address : Address
  nonzero : address ≠ 0
  external : address ≠ contract

def uint256Limit : Nat := 2 ^ 256

def lockEscrow (contract : Address) (now : Nat) (sender : Sender contract) (value : Nat)
    (requestId : Bytes32) (nodeAddress : Address) (state : State) : Except Error (Nat × State) :=
  if state.balance sender.address < value then .error .insufficientBalance
  else if value = 0 then .error .zeroValue
  else if nodeAddress = 0 then .error .invalidNode
  else if uint256Limit ≤ state.nextId + 1 then .error .arithmeticOverflow
  else
    let escrowId := state.nextId
    .ok (escrowId, { state with
      balance := Ledger.transfer state.balance sender.address contract value
      nextId := state.nextId + 1
      escrows := Function.update state.escrows escrowId
        ⟨requestId, sender.address, nodeAddress, value, now, false⟩
      escrowByRequest :=
        if state.escrowByRequest requestId = 0 then
          Function.update state.escrowByRequest requestId escrowId
        else state.escrowByRequest
      events := state.events ++
        [.escrowLocked escrowId requestId nodeAddress sender.address value] })

theorem lockEscrow_ok {contract : Address} {now value : Nat} {sender : Sender contract}
    {requestId : Bytes32} {nodeAddress : Address} {state after : State} {escrowId : Nat}
    (locked : lockEscrow contract now sender value requestId nodeAddress state = .ok (escrowId, after)) :
    escrowId = state.nextId ∧ after = { state with
      balance := Ledger.transfer state.balance sender.address contract value
      nextId := state.nextId + 1
      escrows := Function.update state.escrows state.nextId
        ⟨requestId, sender.address, nodeAddress, value, now, false⟩
      escrowByRequest :=
        if state.escrowByRequest requestId = 0 then
          Function.update state.escrowByRequest requestId state.nextId
        else state.escrowByRequest
      events := state.events ++
        [.escrowLocked state.nextId requestId nodeAddress sender.address value] } := by
  unfold lockEscrow at locked
  split at locked
  · cases locked
  split at locked
  · cases locked
  split at locked
  · cases locked
  split at locked
  · cases locked
  simp only [Except.ok.injEq, Prod.mk.injEq] at locked
  obtain ⟨assigned, rfl⟩ := locked
  exact ⟨assigned.symm, rfl⟩

def Escrow.markSettled (escrow : Escrow) : Escrow := { escrow with settled := true }

def State.settle (state : State) (escrowId : Nat) : State :=
  { state with
    escrows := Function.update state.escrows escrowId (state.escrows escrowId).markSettled }

@[simp] theorem settle_balance (state : State) (escrowId : Nat) :
    (state.settle escrowId).balance = state.balance := rfl

@[simp] theorem settle_nextId (state : State) (escrowId : Nat) :
    (state.settle escrowId).nextId = state.nextId := rfl

@[simp] theorem settle_payouts (state : State) (escrowId : Nat) :
    (state.settle escrowId).payouts = state.payouts := rfl

theorem settle_escrows (state : State) (escrowId : Nat) :
    (state.settle escrowId).escrows =
      Function.update state.escrows escrowId (state.escrows escrowId).markSettled := rfl

/-- `receiver.call{value: amount}("")`: the ether moves, then the receiver's code
runs on the new state, where `none` means that it reverts. The contract has no
`receive` function, so a call to the contract itself reverts. -/
def payOut (contract : Address) (payout : Payout) (callee : State → Option State) (state : State) :
    Option State :=
  if state.balance contract < payout.amount ∨ payout.receiver = contract then none
  else callee { state with
    balance := Ledger.transfer state.balance contract payout.receiver payout.amount
    payouts := state.payouts ++ [payout] }

def State.emit (state : State) (event : Event) : State :=
  { state with events := state.events ++ [event] }

def releaseEscrow (contract : Address) (now : Nat) (sender : Sender contract) (escrowId : Nat)
    (proofHash : Bytes32) (callee : State → Option State) (state : State) : Except Error State :=
  let e := state.escrows escrowId
  if e.settled then .error (.alreadySettled escrowId)
  else if sender.address ≠ e.node ∧ sender.address ≠ e.payer then .error .notAuthorized
  else
    match payOut contract ⟨.release, escrowId, e.node, e.amount, sender.address, now⟩ callee
        (state.settle escrowId) with
    | none => .error .transferFailed
    | some after => .ok (after.emit (.escrowReleased escrowId proofHash e.node e.amount))

theorem releaseEscrow_ok {contract : Address} {now : Nat} {sender : Sender contract} {escrowId : Nat}
    {proofHash : Bytes32} {callee : State → Option State} {state after : State}
    (released : releaseEscrow contract now sender escrowId proofHash callee state = .ok after) :
    (state.escrows escrowId).settled = false ∧
      (sender.address = (state.escrows escrowId).node ∨
        sender.address = (state.escrows escrowId).payer) ∧
      ∃ result, after = result.emit (.escrowReleased escrowId proofHash (state.escrows escrowId).node
          (state.escrows escrowId).amount) ∧
        payOut contract ⟨.release, escrowId, (state.escrows escrowId).node,
          (state.escrows escrowId).amount, sender.address, now⟩ callee (state.settle escrowId) =
            some result := by
  simp only [releaseEscrow] at released
  split at released
  · cases released
  rename_i unsettled
  split at released
  · cases released
  rename_i party
  split at released
  · cases released
  rename_i result called
  rw [Bool.not_eq_true] at unsettled
  rw [← not_or, not_not] at party
  exact ⟨unsettled, party, result, (Except.ok.inj released).symm, called⟩

def refundEscrow (contract : Address) (now : Nat) (sender : Sender contract) (escrowId : Nat)
    (callee : State → Option State) (state : State) : Except Error State :=
  let e := state.escrows escrowId
  if e.settled then .error (.alreadySettled escrowId)
  else if uint256Limit ≤ e.createdAt + refundTimeout then .error .arithmeticOverflow
  else if now < e.createdAt + refundTimeout then
    .error (.timeoutNotElapsed escrowId (e.createdAt + refundTimeout))
  else if sender.address ≠ e.payer then .error .notAuthorized
  else
    match payOut contract ⟨.refund, escrowId, e.payer, e.amount, sender.address, now⟩ callee
        (state.settle escrowId) with
    | none => .error .transferFailed
    | some after => .ok (after.emit (.escrowRefunded escrowId e.payer e.amount))

theorem refundEscrow_ok {contract : Address} {now : Nat} {sender : Sender contract} {escrowId : Nat}
    {callee : State → Option State} {state after : State}
    (refunded : refundEscrow contract now sender escrowId callee state = .ok after) :
    (state.escrows escrowId).settled = false ∧
      (state.escrows escrowId).createdAt + refundTimeout ≤ now ∧
      sender.address = (state.escrows escrowId).payer ∧
      ∃ result, after = result.emit (.escrowRefunded escrowId (state.escrows escrowId).payer
          (state.escrows escrowId).amount) ∧
        payOut contract ⟨.refund, escrowId, (state.escrows escrowId).payer,
          (state.escrows escrowId).amount, sender.address, now⟩ callee (state.settle escrowId) =
            some result := by
  simp only [refundEscrow] at refunded
  split at refunded
  · cases refunded
  rename_i unsettled
  split at refunded
  · cases refunded
  split at refunded
  · cases refunded
  rename_i elapsed
  split at refunded
  · cases refunded
  rename_i party
  split at refunded
  · cases refunded
  rename_i result called
  rw [Bool.not_eq_true] at unsettled
  rw [ne_eq, not_not] at party
  exact ⟨unsettled, Nat.not_lt.mp elapsed, party, result, (Except.ok.inj refunded).symm, called⟩

/-- What code outside the contract does in one call frame, up to its return or
its revert. `callee` is the frame of the account that a payout calls, `frame` is a
call to any other contract, and `send` moves ether between other accounts. -/
inductive Script (contract : Address) where
  | returns
  | reverts
  | lockEscrow (sender : Sender contract) (value : Nat) (requestId : Bytes32) (nodeAddress : Address)
      (next : Script contract)
  | releaseEscrow (sender : Sender contract) (escrowId : Nat) (proofHash : Bytes32)
      (callee next : Script contract)
  | refundEscrow (sender : Sender contract) (escrowId : Nat) (callee next : Script contract)
  | frame (body next : Script contract)
  | send (source target : Address) (amount : Nat) (next : Script contract)

def State.orUndo (before : State) : Except Error State → State
  | .ok after => after
  | .error _ => before

def State.send (contract : Address) (source target : Address) (amount : Nat) (state : State) : State :=
  if source = contract ∨ target = contract ∨ state.balance source < amount then state
  else { state with balance := Ledger.transfer state.balance source target amount }

/-- Runs a frame in a block of time `now`; `none` is a revert of the frame. -/
def run {contract : Address} (now : Nat) : Script contract → State → Option State
  | .returns, state => some state
  | .reverts, _ => none
  | .lockEscrow sender value requestId nodeAddress next, state =>
      run now next (state.orUndo
        ((lockEscrow contract now sender value requestId nodeAddress state).map Prod.snd))
  | .releaseEscrow sender escrowId proofHash callee next, state =>
      run now next (state.orUndo
        (releaseEscrow contract now sender escrowId proofHash (run now callee) state))
  | .refundEscrow sender escrowId callee next, state =>
      run now next (state.orUndo (refundEscrow contract now sender escrowId (run now callee) state))
  | .frame body next, state => run now next ((run now body state).getD state)
  | .send source target amount next, state => run now next (state.send contract source target amount)

def transaction {contract : Address} (state : State) (call : Nat × Script contract) : State :=
  (run call.1 call.2 state).getD state

end Pinaivu.DeAIEscrow
