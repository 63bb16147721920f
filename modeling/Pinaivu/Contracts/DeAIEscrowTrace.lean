import Pinaivu.Contracts.DeAIEscrowCore
import Pinaivu.Lib.Traces

/-!
What the calls of a run do to the contract, one rule for each way in which its state changes,
and the states that outside code sees between them.
-/

namespace Pinaivu.DeAIEscrow

def Escrow.beneficiary (escrow : Escrow) : PayoutKind → Address
  | .release => escrow.node
  | .refund => escrow.payer

@[simp] theorem markSettled_beneficiary (escrow : Escrow) (kind : PayoutKind) :
    escrow.markSettled.beneficiary kind = escrow.beneficiary kind := by
  cases kind <;> rfl

def State.paying (contract : Address) (payout : Payout) (state : State) : State :=
  { state.settle payout.escrowId with
    balance := Ledger.transfer state.balance contract payout.receiver payout.amount
    payouts := state.payouts ++ [payout] }

def Escrow.Permits (escrow : Escrow) (payout : Payout) : Prop :=
  match payout.kind with
  | .release => payout.caller = escrow.node ∨ payout.caller = escrow.payer
  | .refund => payout.caller = escrow.payer ∧ escrow.createdAt + refundTimeout ≤ payout.time

structure Payable (contract : Address) (state : State) (payout : Payout) : Prop where
  unsettled : (state.escrows payout.escrowId).settled = false
  covered : payout.amount ≤ state.balance contract
  outside : payout.receiver ≠ contract
  amount : payout.amount = (state.escrows payout.escrowId).amount
  receiver : payout.receiver = (state.escrows payout.escrowId).beneficiary payout.kind
  nonzero : payout.caller ≠ 0
  permitted : (state.escrows payout.escrowId).Permits payout

def Event.IsLock : Event → Prop
  | .escrowLocked .. => True
  | _ => False

theorem payOut_some {contract : Address} {payout : Payout} {callee : State → Option State} {state result : State}
    (called : payOut contract payout callee (state.settle payout.escrowId) = some result) :
    payout.amount ≤ state.balance contract ∧ payout.receiver ≠ contract ∧
      callee (state.paying contract payout) = some result := by
  unfold payOut at called
  split at called
  · contradiction
  next covered =>
    rw [not_or, settle_balance, Nat.not_lt] at covered
    exact ⟨covered.1, covered.2, called⟩

def releasePayout (now : Nat) {contract : Address} (sender : Sender contract) (escrowId : Nat) (state : State) :
    Payout :=
  ⟨.release, escrowId, (state.escrows escrowId).node, (state.escrows escrowId).amount, sender.address, now⟩

def refundPayout (now : Nat) {contract : Address} (sender : Sender contract) (escrowId : Nat) (state : State) :
    Payout :=
  ⟨.refund, escrowId, (state.escrows escrowId).payer, (state.escrows escrowId).amount, sender.address, now⟩

theorem releaseEscrow_pays {contract : Address} {now : Nat} {sender : Sender contract} {escrowId : Nat}
    {proofHash : Bytes32} {callee : State → Option State} {state after : State}
    (released : releaseEscrow contract now sender escrowId proofHash callee state = .ok after) :
    Payable contract state (releasePayout now sender escrowId state) ∧
      ∃ result event, ¬ event.IsLock ∧ after = result.emit event ∧
        callee (state.paying contract (releasePayout now sender escrowId state)) = some result := by
  obtain ⟨unsettled, party, result, rfl, called⟩ := releaseEscrow_ok released
  obtain ⟨covered, outside, ran⟩ :=
    @payOut_some _ (releasePayout now sender escrowId state) _ _ _ called
  exact ⟨⟨unsettled, covered, outside, rfl, rfl, sender.nonzero, party⟩, result, _, id, rfl, ran⟩

theorem refundEscrow_pays {contract : Address} {now : Nat} {sender : Sender contract} {escrowId : Nat}
    {callee : State → Option State} {state after : State}
    (refunded : refundEscrow contract now sender escrowId callee state = .ok after) :
    Payable contract state (refundPayout now sender escrowId state) ∧
      ∃ result event, ¬ event.IsLock ∧ after = result.emit event ∧
        callee (state.paying contract (refundPayout now sender escrowId state)) = some result := by
  obtain ⟨unsettled, elapsed, party, result, rfl, called⟩ := refundEscrow_ok refunded
  obtain ⟨covered, outside, ran⟩ :=
    @payOut_some _ (refundPayout now sender escrowId state) _ _ _ called
  exact ⟨⟨unsettled, covered, outside, rfl, rfl, sender.nonzero, party, elapsed⟩, result, _, id, rfl, ran⟩

/-- The states that code outside the contract sees during a frame, in order. What a frame sees that
is undone is left out of the frame that called it. -/
def trace {contract : Address} (now : Nat) : Script contract → State → List State
  | .returns, state => [state]
  | .reverts, state => [state]
  | .lockEscrow sender value requestId nodeAddress next, state =>
      state :: trace now next (state.orUndo
        ((lockEscrow contract now sender value requestId nodeAddress state).map Prod.snd))
  | .releaseEscrow sender escrowId proofHash callee next, state =>
      let outcome := releaseEscrow contract now sender escrowId proofHash (run now callee) state
      let inside := trace now callee (state.paying contract (releasePayout now sender escrowId state))
      state :: ((if outcome.isOk then inside else []) ++ trace now next (state.orUndo outcome))
  | .refundEscrow sender escrowId callee next, state =>
      let outcome := refundEscrow contract now sender escrowId (run now callee) state
      let inside := trace now callee (state.paying contract (refundPayout now sender escrowId state))
      state :: ((if outcome.isOk then inside else []) ++ trace now next (state.orUndo outcome))
  | .frame body next, state =>
      state :: ((if (run now body state).isSome then trace now body state else []) ++
        trace now next ((run now body state).getD state))
  | .send source target amount next, state => state :: trace now next (state.send contract source target amount)

def traceAll {contract : Address} : List (Nat × Script contract) → State → List State
  | [], state => [state]
  | call :: rest, state =>
      (if (run call.1 call.2 state).isSome then trace call.1 call.2 state else []) ++
        traceAll rest (transaction state call)

theorem run_mem_traceAll {contract : Address} (history : List (Nat × Script contract)) (state : State) :
    Runs.run transaction state history ∈ traceAll history state := by
  induction history generalizing state with
  | nil => exact List.mem_singleton_self state
  | cons call rest ih => exact List.mem_append_right _ (ih (transaction state call))

/-- What holds of the contract, and in which order it moves, as far as each change of its state is
concerned. -/
structure Rules (contract : Address) (Invariant : State → Prop) (Later : State → State → Prop) : Prop where
  refl : ∀ state, Later state state
  trans : ∀ {first second third}, Later first second → Later second third → Later first third
  lock : ∀ {now value requestId nodeAddress state escrowId after} {sender : Sender contract}, Invariant state →
    lockEscrow contract now sender value requestId nodeAddress state = .ok (escrowId, after) →
    Invariant after ∧ Later state after
  pay : ∀ {state payout}, Invariant state → Payable contract state payout →
    Invariant (state.paying contract payout) ∧ Later state (state.paying contract payout)
  emit : ∀ {state event}, Invariant state → ¬ event.IsLock →
    Invariant (state.emit event) ∧ Later state (state.emit event)
  send : ∀ {state source target amount}, Invariant state →
    Invariant (state.send contract source target amount) ∧ Later state (state.send contract source target amount)

section

variable {contract : Address} {Invariant : State → Prop} {Later : State → State → Prop}

/-- A call that pays sees what the code of the paid account sees, if it is not undone. -/
theorem Rules.traced_paid (rules : Rules contract Invariant Later) {state : State} {payout : Payout}
    (holds : Invariant state) {callee : State → Option State} {inside : List State} {outcome : Except Error State}
    (calleeTraced : Invariant (state.paying contract payout) →
      Traces.Traced Invariant Later (state.paying contract payout) inside (callee (state.paying contract payout)))
    (pays : ∀ after, outcome = .ok after → Payable contract state payout ∧ ∃ result event, ¬ event.IsLock ∧
      after = result.emit event ∧ callee (state.paying contract payout) = some result) :
    Traces.Traced Invariant Later state (if outcome.isOk then inside else []) (some (state.orUndo outcome)) := by
  have : Std.Refl Later := ⟨rules.refl⟩
  have : IsTrans State Later := ⟨fun _ _ _ => rules.trans⟩
  cases outcome with
  | error reason => exact Traces.traced_nil holds
  | ok after =>
      obtain ⟨payable, result, event, notLock, rfl, called⟩ := pays after rfl
      obtain ⟨paid, later⟩ := rules.pay holds payable
      have ran := calleeTraced paid
      rw [called] at ran
      obtain ⟨emitted, afterwards⟩ := rules.emit (ran.ended result rfl).1 notLock
      exact ((Traces.traced_nil holds).step paid later).append (ran.step emitted afterwards)

theorem Rules.traced (rules : Rules contract Invariant Later) {now : Nat} (script : Script contract) {state : State}
    (holds : Invariant state) :
    Traces.Traced Invariant Later state (trace now script state) (run now script state) := by
  have : Std.Refl Later := ⟨rules.refl⟩
  have : IsTrans State Later := ⟨fun _ _ _ => rules.trans⟩
  have here {state : State} (holds : Invariant state) :
      Traces.Traced Invariant Later state [state] (some state) :=
    Traces.traced_here holds fun _ same => (Option.some.inj same).symm
  induction script generalizing state with
  | returns => exact here holds
  | reverts => exact Traces.traced_here holds fun _ none => nomatch none
  | lockEscrow sender value requestId nodeAddress next ih =>
      cases outcome : lockEscrow contract now sender value requestId nodeAddress state with
      | error reason =>
          simp only [trace, run, outcome, Except.map, State.orUndo]
          exact (here holds).append (ih holds)
      | ok result =>
          obtain ⟨kept, later⟩ := rules.lock holds outcome
          simp only [trace, run, outcome, Except.map, State.orUndo]
          exact ((here holds).step kept later).append (ih kept)
  | releaseEscrow sender escrowId proofHash callee next ihCallee ihNext =>
      have paid := rules.traced_paid holds ihCallee fun after =>
        @releaseEscrow_pays contract now sender escrowId proofHash (run now callee) state after
      exact (here holds).append (paid.append (ihNext (paid.ended _ rfl).1))
  | refundEscrow sender escrowId callee next ihCallee ihNext =>
      have paid := rules.traced_paid holds ihCallee fun after =>
        @refundEscrow_pays contract now sender escrowId (run now callee) state after
      exact (here holds).append (paid.append (ihNext (paid.ended _ rfl).1))
  | frame body next ihBody ihNext =>
      have inside := ihBody holds
      rw [trace, run]
      cases outcome : run now body state with
      | none => exact (here holds).append ((Traces.traced_nil holds).append (ihNext holds))
      | some result =>
          rw [outcome] at inside
          exact (here holds).append (inside.append (ihNext (inside.ended result rfl).1))
  | send source target amount next ih =>
      obtain ⟨kept, later⟩ := rules.send holds
      exact ((here holds).step kept later).append (ih kept)

theorem Rules.traced_all (rules : Rules contract Invariant Later) (history : List (Nat × Script contract))
    {state : State} (holds : Invariant state) :
    Traces.Traced Invariant Later state (traceAll history state) (some (Runs.run transaction state history)) := by
  have : Std.Refl Later := ⟨rules.refl⟩
  have : IsTrans State Later := ⟨fun _ _ _ => rules.trans⟩
  induction history generalizing state with
  | nil => exact Traces.traced_here holds fun _ same => (Option.some.inj same).symm
  | cons call rest ih =>
      have first := @Rules.traced contract Invariant Later rules call.1 call.2 state holds
      have next : Runs.run transaction state (call :: rest) = Runs.run transaction (transaction state call) rest := rfl
      rw [traceAll, next]
      cases outcome : run call.1 call.2 state with
      | none =>
          simp only [transaction, outcome, Option.getD_none]
          exact (Traces.traced_nil holds).append (ih holds)
      | some result =>
          rw [outcome] at first
          simp only [transaction, outcome, Option.getD_some]
          exact first.append (ih (first.ended result rfl).1)

end

end Pinaivu.DeAIEscrow
