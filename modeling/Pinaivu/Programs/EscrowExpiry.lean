import Pinaivu.Lib.Runs
import Pinaivu.Programs.EscrowConservation

/-!
When a new escrow expires. The timeout comes from the client or, where that is not positive, from
`initialize`, which checks nothing; the sum with the clock is an `i64`.
-/

namespace Pinaivu.Program

def appliedTimeout (escrowTimeoutSecs timeoutSecs : Int) : Int :=
  if 0 < timeoutSecs then timeoutSecs else escrowTimeoutSecs

/-- The escrow expires later than it was created, and at the time of its creation it can be
released but not refunded. -/
structure Fresh (now timeout : Int) (bank : Bank) (requestId : RequestId) (escrow : EscrowAccount) : Prop where
  stored : bank.escrows requestId = some escrow
  unwrapped : escrow.expiresAt = now + timeout
  later : escrow.createdAt < escrow.expiresAt
  releasable : ∀ nodeWallet proofHash,
    releaseEscrow now bank requestId nodeWallet proofHash ≠ .error .escrowExpired
  notRefundable : ∀ client, escrow.client = .wallet client →
    refundEscrow now bank requestId client = .error .escrowNotExpired

theorem bmod_of_small {sum : Int} (nonnegative : 0 ≤ sum) (small : sum < 9223372036854775808) :
    sum.bmod u64Limit = sum := by
  have limit : (u64Limit : Int) = 18446744073709551616 := rfl
  have rest : sum % (u64Limit : Int) = sum := Int.emod_eq_of_lt nonnegative (by omega)
  rw [Int.bmod_def, rest, limit, if_pos (by omega)]

theorem bmod_wraps {now timeout : Int} (clock : 0 ≤ now) (nowFits : now < 9223372036854775808)
    (timeoutFits : timeout < 9223372036854775808) (beyond : 9223372036854775808 ≤ now + timeout) :
    (now + timeout).bmod u64Limit < now := by
  have limit : (u64Limit : Int) = 18446744073709551616 := rfl
  have rest : (now + timeout) % (u64Limit : Int) = now + timeout :=
    Int.emod_eq_of_lt (by omega) (by omega)
  rw [Int.bmod_def, rest, limit, if_neg (by omega)]
  omega

theorem bmod_of_negative {now timeout : Int} (clock : 0 ≤ now) (nowFits : now < 9223372036854775808)
    (timeoutFits : -9223372036854775808 ≤ timeout) (early : timeout ≤ 0) :
    (now + timeout).bmod u64Limit = now + timeout := by
  by_cases sign : 0 ≤ now + timeout
  · exact bmod_of_small sign (by omega)
  · have limit : (u64Limit : Int) = 18446744073709551616 := rfl
    have rest : (now + timeout) % (u64Limit : Int) = now + timeout + 18446744073709551616 := by
      rw [limit, ← Int.add_emod_right]
      exact Int.emod_eq_of_lt (by omega) (by omega)
    rw [Int.bmod_def, rest, limit, if_neg (by omega)]
    omega

theorem expires_later_iff {now timeout : Int} (clock : 0 ≤ now) (nowFits : now < 9223372036854775808)
    (below : -9223372036854775808 ≤ timeout) (above : timeout < 9223372036854775808) :
    now < (now + timeout).bmod u64Limit ↔ 0 < timeout ∧ now + timeout < 9223372036854775808 := by
  by_cases positive : 0 < timeout
  · by_cases small : now + timeout < 9223372036854775808
    · rw [bmod_of_small (by omega) small]
      omega
    · have wrapped := bmod_wraps clock nowFits above (by omega)
      omega
  · rw [bmod_of_negative clock nowFits below (by omega)]
    omega

theorem moveLamports_error {bank : Bank} {source target : Pubkey} {amount : Nat} {error : Error}
    (failed : moveLamports bank source target amount = .error error) : error = .unbalancedInstruction := by
  unfold moveLamports at failed
  dsimp only at failed
  split at failed
  · exact (Except.error.inj failed).symm
  · contradiction

theorem releaseEscrow_expired {now : Int} {bank : Bank} {requestId : RequestId} {nodeWallet : Key} {proofHash : Hash}
    (expired : releaseEscrow now bank requestId nodeWallet proofHash = .error .escrowExpired) :
    ∃ escrow, bank.escrows requestId = some escrow ∧ escrow.expiresAt < now := by
  unfold releaseEscrow at expired
  split at expired
  · rename_i escrow state present started
    split at expired
    · simp at expired
    split at expired
    · simp at expired
    split at expired
    · simp at expired
    split at expired
    · rename_i late
      exact ⟨escrow, present, late⟩
    · split at expired
      · rename_i failed
        rw [moveLamports_error failed] at expired
        simp at expired
      · simp at expired
  · simp at expired

theorem refundEscrow_early {now : Int} {bank : Bank} {requestId : RequestId} {client : Key} {escrow : EscrowAccount}
    (present : bank.escrows requestId = some escrow) (labelled : escrow.requestId = requestId)
    (owner : escrow.client = .wallet client) (locked : escrow.state = .locked) (early : now ≤ escrow.expiresAt) :
    refundEscrow now bank requestId client = .error .escrowNotExpired := by
  simp [refundEscrow, present, labelled, owner, locked, early]

theorem fresh_iff {now timeout : Int} {bank : Bank} {client : Key} {nodeWallet : Pubkey} {requestId : RequestId}
    {amount : UInt64} (clock : 0 ≤ now) (nowFits : now < 9223372036854775808)
    (below : -9223372036854775808 ≤ timeout) (above : timeout < 9223372036854775808)
    (stored : bank.escrows requestId = some (lockedAccount now client nodeWallet requestId amount timeout)) :
    (∃ escrow, Fresh now timeout bank requestId escrow) ↔
      0 < timeout ∧ now + timeout < 9223372036854775808 := by
  rw [← expires_later_iff clock nowFits below above]
  constructor
  · rintro ⟨escrow, fresh⟩
    obtain rfl := Option.some.inj (stored.symm.trans fresh.stored)
    exact fresh.later
  · intro later
    have small := (expires_later_iff clock nowFits below above).mp later
    refine ⟨_, stored, bmod_of_small (by omega) small.2, later, ?_, ?_⟩
    · intro node proofHash expired
      obtain ⟨escrow, found, late⟩ := releaseEscrow_expired expired
      obtain rfl := Option.some.inj (stored.symm.trans found)
      exact absurd (later.trans late) (lt_irrefl _)
    · intro owner same
      exact refundEscrow_early stored rfl same rfl later.le

def TimeoutIs (escrowTimeoutSecs : Int) (bank : Bank) : Prop :=
  ∃ state, bank.programState = some state ∧ state.escrowTimeoutSecs = escrowTimeoutSecs

theorem step_timeout {rent : Rent} {escrowTimeoutSecs : Int} {bank : Bank} (call : Int × Instruction)
    (is : TimeoutIs escrowTimeoutSecs bank) : TimeoutIs escrowTimeoutSecs (step rent bank call) := by
  obtain ⟨state, present, timeout⟩ := is
  apply step_rule (TimeoutIs escrowTimeoutSecs) ⟨state, present, timeout⟩
  intro after outcome
  obtain ⟨now, instruction⟩ := call
  cases instruction with
  | initializeProgram admin given =>
      obtain ⟨free, -⟩ := initializeProgram_ok outcome
      rw [free] at present
      contradiction
  | lockEscrow client nodeWallet requestId amount timeoutSecs =>
      obtain ⟨-, -, -, -, -, -, -, -, rfl⟩ := lockEscrow_ok outcome
      exact ⟨state, present, timeout⟩
  | releaseEscrow requestId nodeWallet proofHash =>
      obtain ⟨escrow, found, moved, event, -, started, -, -, -, rfl⟩ := releaseEscrow_ok outcome
      obtain rfl := Option.some.inj (started.symm.trans present)
      exact ⟨_, rfl, timeout⟩
  | refundEscrow requestId client =>
      obtain ⟨escrow, moved, event, -, -, -, transferred, rfl⟩ := refundEscrow_ok outcome
      unfold moveLamports at transferred
      dsimp only at transferred
      split at transferred
      · simp at transferred
      · obtain rfl := Except.ok.inj transferred
        exact ⟨state, present, timeout⟩
  | walletTransfer source target amount =>
      obtain ⟨-, rfl⟩ := systemTransfer_ok outcome
      exact ⟨state, present, timeout⟩

theorem timeout_run {rent : Rent} {escrowTimeoutSecs : Int} {bank : Bank} (history : List (Int × Instruction))
    (is : TimeoutIs escrowTimeoutSecs bank) : TimeoutIs escrowTimeoutSecs (Runs.run (step rent) bank history) :=
  Runs.invariant_run (TimeoutIs escrowTimeoutSecs) (fun _ call kept => step_timeout call kept) is history

/-- An escrow that is locked at any time after `initialize` is fresh exactly when the timeout that
applies is positive and its sum with the clock is an `i64`. -/
theorem fresh_escrow_iff {rent : Rent} {bank started after : Bank} {admin client : Key} {nodeWallet : Pubkey}
    {requestId : RequestId} {amount : UInt64} (escrowTimeoutSecs timeoutSecs now : Int64)
    (history : List (Int × Instruction)) (clock : 0 ≤ now.toInt)
    (initialized : initializeProgram rent bank admin escrowTimeoutSecs.toInt = .ok started)
    (locked : lockEscrow rent now.toInt (Runs.run (step rent) started history) client nodeWallet requestId amount
      timeoutSecs.toInt = .ok after) :
    (∃ escrow, Fresh now.toInt (appliedTimeout escrowTimeoutSecs.toInt timeoutSecs.toInt) after requestId escrow) ↔
      0 < appliedTimeout escrowTimeoutSecs.toInt timeoutSecs.toInt ∧
        now.toInt + appliedTimeout escrowTimeoutSecs.toInt timeoutSecs.toInt < 9223372036854775808 := by
  have given : TimeoutIs escrowTimeoutSecs.toInt started := by
    obtain ⟨-, required, -, rfl⟩ := initializeProgram_ok initialized
    exact ⟨_, rfl, rfl⟩
  obtain ⟨state, present, default⟩ := @timeout_run rent _ _ history given
  obtain ⟨-, found, required, event, programState, -, -, -, rfl⟩ := lockEscrow_ok locked
  obtain rfl := Option.some.inj (programState.symm.trans present)
  rw [default, ← appliedTimeout]
  have bounds : -9223372036854775808 ≤ appliedTimeout escrowTimeoutSecs.toInt timeoutSecs.toInt ∧
      appliedTimeout escrowTimeoutSecs.toInt timeoutSecs.toInt < 9223372036854775808 := by
    unfold appliedTimeout
    split
    · exact ⟨timeoutSecs.le_toInt, timeoutSecs.toInt_lt⟩
    · exact ⟨escrowTimeoutSecs.le_toInt, escrowTimeoutSecs.toInt_lt⟩
  exact fresh_iff clock now.toInt_lt bounds.1 bounds.2 (Function.update_self ..)

def clientBank : Bank where
  lamports account := if account = .wallet 1 then 10000000 else 0
  programState := none
  escrows _ := none
  events := []

def clientStarted (escrowTimeoutSecs : Int) : Bank :=
  { clientBank with
    lamports := Ledger.transfer clientBank.lamports (.wallet 1) .programState
      (clusterRent.minimumBalance ProgramState.len)
    programState := some ⟨.wallet 1, 0, 0, 0, escrowTimeoutSecs⟩ }

def clientCreated (escrowTimeoutSecs : Int) : Bank :=
  { clientStarted escrowTimeoutSecs with
    lamports := Ledger.transfer (clientStarted escrowTimeoutSecs).lamports (.wallet 1) (.escrow 7)
      (clusterRent.minimumBalance EscrowAccount.len) }

def clientLocked (now escrowTimeoutSecs timeoutSecs : Int) : Bank :=
  let account := lockedAccount now 1 (.wallet 2) 7 5000 (appliedTimeout escrowTimeoutSecs timeoutSecs)
  { clientCreated escrowTimeoutSecs with
    lamports := Ledger.transfer (clientCreated escrowTimeoutSecs).lamports (.wallet 1) (.escrow 7) 5000
    escrows := Function.update (fun _ => none) 7 (some account)
    events := [.escrowLocked 7 account.client account.node 5000 account.expiresAt] }

theorem clientStarted_eq (escrowTimeoutSecs : Int) :
    initializeProgram clusterRent clientBank 1 escrowTimeoutSecs = .ok (clientStarted escrowTimeoutSecs) := by
  simp [initializeProgram, anchorInit, systemTransfer, clientBank, clientStarted, clusterRent, ProgramState.len,
    u64Limit]

theorem clientLocked_eq (now escrowTimeoutSecs timeoutSecs : Int) :
    lockEscrow clusterRent now (clientStarted escrowTimeoutSecs) 1 (.wallet 2) 7 5000 timeoutSecs =
      .ok (clientLocked now escrowTimeoutSecs timeoutSecs) := by
  have funds : (clientStarted escrowTimeoutSecs).lamports (.wallet 1) = 8601040 := rfl
  have empty : (clientStarted escrowTimeoutSecs).lamports (.escrow 7) = 0 := rfl
  have created : anchorInit clusterRent (clientStarted escrowTimeoutSecs) 1 (.escrow 7) EscrowAccount.len =
      .ok (clientCreated escrowTimeoutSecs) := by
    simp only [anchorInit, systemTransfer, funds, empty, if_true]
    rw [if_neg (by decide), if_neg (by decide)]
    rfl
  have deposit : clusterRent.minimumBalance EscrowAccount.len = 1907040 := by decide
  have left : (clientCreated escrowTimeoutSecs).lamports (.wallet 1) = 6694000 := by
    simp only [clientCreated, Ledger.transfer]
    rw [Function.update_of_ne (by decide), Function.update_self, funds, deposit]
  have held : (clientCreated escrowTimeoutSecs).lamports (.escrow 7) = 1907040 := by
    simp only [clientCreated, Ledger.transfer]
    rw [Function.update_self, Function.update_of_ne (by decide), empty, deposit, Nat.zero_add]
  have paid : systemTransfer (clientCreated escrowTimeoutSecs) (.wallet 1) (.escrow 7) 5000 =
      .ok { clientCreated escrowTimeoutSecs with
        lamports := Ledger.transfer (clientCreated escrowTimeoutSecs).lamports (.wallet 1) (.escrow 7) 5000 } := by
    simp only [systemTransfer, left, held]
    rw [if_neg (by decide), if_neg (by decide)]
  have free : (clientStarted escrowTimeoutSecs).escrows 7 = none := rfl
  have state : (clientStarted escrowTimeoutSecs).programState =
      some ⟨.wallet 1, 0, 0, 0, escrowTimeoutSecs⟩ := rfl
  have amount : (5000 : UInt64).toNat = 5000 := rfl
  simp only [lockEscrow, free, state, created, amount, paid]
  rfl

/-- Locked for sixty seconds, at second 1000. -/
theorem fresh_escrow_iff_minute :
    (∃ escrow, Fresh 1000 (appliedTimeout 600 60) (clientLocked 1000 600 60) 7 escrow) ↔
      0 < appliedTimeout 600 60 ∧ 1000 + appliedTimeout 600 60 < 9223372036854775808 :=
  fresh_escrow_iff 600 60 1000 [] (by decide) (clientStarted_eq 600) (clientLocked_eq 1000 600 60)

/-- Both timeouts zero, and the largest timeout of all: the client can refund a second later
or at once. -/
theorem stale_escrow :
    initializeProgram clusterRent clientBank 1 0 = .ok (clientStarted 0) ∧
      lockEscrow clusterRent 1000 (clientStarted 0) 1 (.wallet 2) 7 5000 0 = .ok (clientLocked 1000 0 0) ∧
      (¬ ∃ escrow, Fresh 1000 (appliedTimeout 0 0) (clientLocked 1000 0 0) 7 escrow) ∧
      lockEscrow clusterRent 1000 (clientStarted 0) 1 (.wallet 2) 7 5000 9223372036854775807 =
        .ok (clientLocked 1000 0 9223372036854775807) ∧
      (refundEscrow 1000 (clientLocked 1000 0 9223372036854775807) 7 1).toOption.isSome := by
  refine ⟨clientStarted_eq 0, clientLocked_eq 1000 0 0, ?_, clientLocked_eq 1000 0 9223372036854775807, ?_⟩
  · rintro ⟨escrow, fresh⟩
    have stored : (clientLocked 1000 0 0).escrows 7 = some (lockedAccount 1000 1 (.wallet 2) 7 5000 0) := rfl
    obtain rfl := Option.some.inj (stored.symm.trans fresh.stored)
    exact absurd fresh.later (by decide)
  · decide

end Pinaivu.Program
