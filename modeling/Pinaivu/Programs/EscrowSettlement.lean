import Pinaivu.Programs.EscrowConservation

/-!
Who can settle a locked escrow of the Anchor program at which time, and what the events tell of each
escrow.
-/

namespace Pinaivu.Program

def Event.requestId : Event → RequestId
  | .escrowLocked requestId .. | .escrowReleased requestId .. | .escrowRefunded requestId .. => requestId

def EscrowAccount.settlement (escrow : EscrowAccount) : List Event :=
  match escrow.state with
  | .locked => []
  | .released => [.escrowReleased escrow.requestId escrow.node escrow.amountLamports escrow.proofHash]
  | .refunded => [.escrowRefunded escrow.requestId escrow.client escrow.amountLamports]

def story : Option EscrowAccount → List Event
  | none => []
  | some escrow =>
      .escrowLocked escrow.requestId escrow.client escrow.node escrow.amountLamports escrow.expiresAt ::
        escrow.settlement

def Bank.eventsOf (bank : Bank) (requestId : RequestId) : List Event :=
  bank.events.filter fun event => event.requestId = requestId

structure Told (bank : Bank) : Prop where
  stories : ∀ requestId, bank.eventsOf requestId = story (bank.escrows requestId)
  clients : ∀ requestId escrow, bank.escrows requestId = some escrow → ∃ key, escrow.client = .wallet key

section

variable {rent : Rent} {total : Nat} {now : Int} {bank after : Bank} {requestId : RequestId}

theorem Told.event (told : Told bank) {event : Event} {account : EscrowAccount} (about : event.requestId = requestId)
    (events : after.events = bank.events ++ [event])
    (escrows : after.escrows = Function.update bank.escrows requestId (some account))
    (continued : story (some account) = story (bank.escrows requestId) ++ [event])
    (client : ∃ key, account.client = .wallet key) : Told after := by
  subst about
  constructor
  · intro other
    have before := told.stories other
    rw [Bank.eventsOf] at before ⊢
    rw [events, List.filter_append, before, escrows]
    by_cases same : other = event.requestId
    · rw [same, Function.update_self, continued]
      simp
    · rw [Function.update_of_ne same]
      simp [Ne.symm same]
  · intro other escrow present
    rw [escrows] at present
    by_cases same : other = event.requestId
    · rw [same, Function.update_self, Option.some.injEq] at present
      rw [← present]
      exact client
    · rw [Function.update_of_ne same] at present
      exact told.clients other escrow present

theorem Told.unchanged (told : Told bank) (events : after.events = bank.events)
    (escrows : after.escrows = bank.escrows) : Told after := by
  refine ⟨?_, ?_⟩
  · intro other
    rw [Bank.eventsOf, events, escrows]
    exact told.stories other
  · rw [escrows]
    exact told.clients

theorem lockEscrow_event {client : Key} {nodeWallet : Pubkey} {amount : UInt64} {timeoutSecs : Int}
    (found : lockEscrow rent now bank client nodeWallet requestId amount timeoutSecs = .ok after) :
    bank.escrows requestId = none ∧ ∃ timeout,
      after.escrows = Function.update bank.escrows requestId
        (some (lockedAccount now client nodeWallet requestId amount timeout)) ∧
      after.events = bank.events ++ story (some (lockedAccount now client nodeWallet requestId amount timeout)) := by
  obtain ⟨fresh, state, _, _, started, -⟩ := lockEscrow_ok found
  unfold lockEscrow at found
  simp only [fresh, started] at found
  split at found
  · contradiction
  rename_i created initialised
  obtain ⟨_, -, -, rfl⟩ := anchorInit_ok initialised
  split at found
  · contradiction
  rename_i paid transferred
  obtain ⟨-, rfl⟩ := systemTransfer_ok transferred
  simp only [Except.ok.injEq] at found
  subst found
  exact ⟨fresh, _, rfl, rfl⟩

theorem moveLamports_fields {source target : Pubkey} {amount : Nat}
    (moved : moveLamports bank source target amount = .ok after) :
    after.escrows = bank.escrows ∧ after.events = bank.events := by
  unfold moveLamports at moved
  dsimp only at moved
  split at moved
  · contradiction
  · rw [← Except.ok.inj moved]
    exact ⟨rfl, rfl⟩

theorem releaseEscrow_ok_iff {nodeWallet : Key} {proofHash : Hash} {escrow : EscrowAccount} {state : ProgramState}
    (present : bank.escrows requestId = some escrow) (started : bank.programState = some state)
    (labelled : escrow.requestId = requestId) :
    releaseEscrow now bank requestId nodeWallet proofHash = .ok after ↔
      escrow.node = .wallet nodeWallet ∧ escrow.state = .locked ∧ now ≤ escrow.expiresAt ∧
        ∃ moved, moveLamports bank (.escrow requestId) (.wallet nodeWallet) escrow.amountLamports.toNat = .ok moved ∧
          { moved with
            escrows := Function.update moved.escrows requestId (some (escrow.release proofHash))
            programState := some (state.countRelease escrow.amountLamports.toNat)
            events := moved.events ++
              [.escrowReleased requestId (.wallet nodeWallet) escrow.amountLamports proofHash] } = after := by
  unfold releaseEscrow
  simp only [present, started, labelled, ne_eq, not_true_eq_false, if_false]
  by_cases party : escrow.node = .wallet nodeWallet
  · by_cases locked : escrow.state = .locked
    · by_cases late : escrow.expiresAt < now
      · simp [party, locked, late, Int.not_le.mpr late]
      · simp only [party, locked, late, not_true_eq_false, if_false, Int.not_lt.mp late, true_and]
        split
        next failed => simp [failed]
        next moved ran => simp [ran]
    · simp [party, locked]
  · simp [party]

theorem refundEscrow_ok_iff {client : Key} {escrow : EscrowAccount} (present : bank.escrows requestId = some escrow)
    (labelled : escrow.requestId = requestId) :
    refundEscrow now bank requestId client = .ok after ↔
      escrow.client = .wallet client ∧ escrow.state = .locked ∧ escrow.expiresAt < now ∧
        ∃ moved, moveLamports bank (.escrow requestId) (.wallet client) escrow.amountLamports.toNat = .ok moved ∧
          { moved with
            escrows := Function.update moved.escrows requestId (some escrow.refund)
            events := moved.events ++
              [.escrowRefunded requestId (.wallet client) escrow.amountLamports] } = after := by
  unfold refundEscrow
  simp only [present, labelled, ne_eq, not_true_eq_false, if_false]
  by_cases party : escrow.client = .wallet client
  · by_cases locked : escrow.state = .locked
    · by_cases early : now ≤ escrow.expiresAt
      · simp [party, locked, early, Int.not_lt.mpr early]
      · simp only [party, locked, early, not_true_eq_false, if_false, Int.not_le.mp early, true_and]
        split
        next failed => simp [failed]
        next moved ran => simp [ran]
    · simp [party, locked]
  · simp [party]

theorem story_release {escrow : EscrowAccount} {nodeWallet : Key} (locked : escrow.state = .locked)
    (node : escrow.node = .wallet nodeWallet) (proofHash : Hash) :
    story (some (escrow.release proofHash)) = story (some escrow) ++
      [.escrowReleased escrow.requestId (.wallet nodeWallet) escrow.amountLamports proofHash] := by
  rw [story, story, EscrowAccount.settlement, EscrowAccount.settlement, locked, ← node]
  rfl

theorem story_refund {escrow : EscrowAccount} {client : Key} (locked : escrow.state = .locked)
    (owner : escrow.client = .wallet client) :
    story (some escrow.refund) = story (some escrow) ++
      [.escrowRefunded escrow.requestId (.wallet client) escrow.amountLamports] := by
  rw [story, story, EscrowAccount.settlement, EscrowAccount.settlement, locked, ← owner]
  rfl

theorem Told.settled (told : Told bank) {escrow account : EscrowAccount} {event : Event} {source target : Pubkey}
    {amount : Nat} {moved : Bank} (present : bank.escrows requestId = some escrow) (about : event.requestId = requestId)
    (transferred : moveLamports bank source target amount = .ok moved)
    (events : after.events = moved.events ++ [event])
    (escrows : after.escrows = Function.update moved.escrows requestId (some account))
    (client : account.client = escrow.client) (continued : story (some account) = story (some escrow) ++ [event]) :
    Told after := by
  obtain ⟨sameEscrows, sameEvents⟩ := moveLamports_fields transferred
  rw [sameEvents] at events
  rw [sameEscrows] at escrows
  apply told.event about events escrows
  · rw [present]
    exact continued
  · rw [client]
    exact told.clients requestId escrow present

theorem execute_told (told : Told bank)
    (labelled : ∀ requestId escrow, bank.escrows requestId = some escrow → escrow.requestId = requestId)
    {instruction : Instruction} (found : execute rent now bank instruction = .ok after) : Told after := by
  cases instruction with
  | initializeProgram admin escrowTimeoutSecs =>
      obtain ⟨-, _, -, rfl⟩ := initializeProgram_ok found
      exact told.unchanged rfl rfl
  | walletTransfer source target amount =>
      obtain ⟨-, rfl⟩ := systemTransfer_ok found
      exact told.unchanged rfl rfl
  | lockEscrow client nodeWallet requestId amountLamports timeoutSecs =>
      obtain ⟨fresh, timeout, escrows, events⟩ := lockEscrow_event found
      refine told.event ?_ events escrows ?_ ⟨client, rfl⟩
      · rfl
      · rw [fresh]
        rfl
  | releaseEscrow requestId nodeWallet proofHash =>
      obtain ⟨escrow, state, _, _, present, started, -⟩ := releaseEscrow_ok found
      have label := labelled requestId escrow present
      obtain ⟨node, locked, -, moved, transferred, rfl⟩ := (releaseEscrow_ok_iff present started label).mp found
      have continued := story_release locked node proofHash
      rw [label] at continued
      exact told.settled present rfl transferred rfl rfl rfl continued
  | refundEscrow requestId client =>
      obtain ⟨escrow, _, _, present, -⟩ := refundEscrow_ok found
      have label := labelled requestId escrow present
      obtain ⟨owner, locked, -, moved, transferred, rfl⟩ := (refundEscrow_ok_iff present label).mp found
      have continued := story_refund locked owner
      rw [label] at continued
      exact told.settled present rfl transferred rfl rfl rfl continued

theorem step_told (conserved : Conserved rent total bank) (told : Told bank) (call : Int × Instruction) :
    Told (step rent bank call) := by
  apply step_rule Told told
  intro after found
  exact execute_told told conserved.labelled found

theorem told_run (capitalization : total < u64Limit) (history : List (Int × Instruction)) {bank : Bank}
    (conserved : Conserved rent total bank) (told : Told bank) : Told (Runs.run (step rent) bank history) := by
  induction history generalizing bank with
  | nil => exact told
  | cons call rest ih => exact ih (step_conserved conserved capitalization call) (step_told conserved told call)

theorem moveLamports_succeeds {source target : Pubkey} {amount : Nat} (different : source ≠ target)
    (covered : amount ≤ bank.lamports source) (fits : ∑ account, bank.lamports account < u64Limit) :
    ∃ moved, moveLamports bank source target amount = .ok moved := by
  have sourceFits := lamports_le_total bank.lamports source
  have after := lamports_le_total (Ledger.transfer bank.lamports source target amount) target
  rw [Ledger.sum_transfer _ _ _ _ covered, Ledger.transfer_target _ _ different] at after
  have left : (bank.lamports source + u64Limit - amount) % u64Limit = bank.lamports source - amount := by
    rw [Nat.sub_add_comm covered, Nat.add_mod_right, Nat.mod_eq_of_lt (by omega)]
  have reached : (bank.lamports target + amount) % u64Limit = bank.lamports target + amount :=
    Nat.mod_eq_of_lt (by omega)
  have balanced : ¬ (bank.lamports source - amount + (bank.lamports target + amount) ≠
      bank.lamports source + bank.lamports target) := by omega
  unfold moveLamports
  dsimp only
  rw [left, reached, if_neg balanced]
  exact ⟨_, rfl⟩

theorem exists_ok_iff {Failure Value : Type} {outcome : Except Failure Value} :
    outcome.isOk ↔ ∃ value, outcome = .ok value := by
  cases outcome with
  | error reason => exact iff_of_false Bool.false_ne_true (by rintro ⟨_, ⟨⟩⟩)
  | ok value => exact iff_of_true rfl ⟨value, rfl⟩

theorem Conserved.release_isOk (conserved : Conserved rent total bank) (capitalization : total < u64Limit)
    {escrow : EscrowAccount} (present : bank.escrows requestId = some escrow) (locked : escrow.state = .locked)
    (nodeWallet : Key) (proofHash : Hash) :
    (releaseEscrow now bank requestId nodeWallet proofHash).isOk ↔
      escrow.node = .wallet nodeWallet ∧ now ≤ escrow.expiresAt := by
  cases started : bank.programState with
  | none =>
      rw [conserved.uncounted started requestId] at present
      contradiction
  | some state =>
      obtain ⟨moved, paid⟩ := @moveLamports_succeeds bank (.escrow requestId) (.wallet nodeWallet) _ (by simp)
        (conserved.covered present locked) (by rw [conserved.total]; exact capitalization)
      simp only [exists_ok_iff, releaseEscrow_ok_iff present started (conserved.labelled requestId escrow present),
        paid, locked, true_and]
      constructor
      · rintro ⟨after, node, inTime, -⟩
        exact ⟨node, inTime⟩
      · rintro ⟨node, inTime⟩
        exact ⟨_, node, inTime, moved, rfl, rfl⟩

theorem Conserved.refund_isOk (conserved : Conserved rent total bank) (capitalization : total < u64Limit)
    {escrow : EscrowAccount} (present : bank.escrows requestId = some escrow) (locked : escrow.state = .locked)
    (client : Key) :
    (refundEscrow now bank requestId client).isOk ↔ escrow.client = .wallet client ∧ escrow.expiresAt < now := by
  obtain ⟨moved, paid⟩ := @moveLamports_succeeds bank (.escrow requestId) (.wallet client) _ (by simp)
    (conserved.covered present locked) (by rw [conserved.total]; exact capitalization)
  simp only [exists_ok_iff, refundEscrow_ok_iff present (conserved.labelled requestId escrow present),
    paid, locked, true_and]
  constructor
  · rintro ⟨after, owner, expired, -⟩
    exact ⟨owner, expired⟩
  · rintro ⟨owner, expired⟩
    exact ⟨_, owner, expired, moved, rfl, rfl⟩

def Bank.LockedAt (bank : Bank) (requestId : RequestId) : Prop :=
  ∃ escrow, bank.escrows requestId = some escrow ∧ escrow.state = .locked

theorem refund_unlocked (unlocked : ¬ bank.LockedAt requestId) (client : Key) :
    step rent bank (now, .refundEscrow requestId client) = bank := by
  apply step_rule (· = bank) rfl
  intro after found
  obtain ⟨escrow, -, -, present, -, locked, -⟩ := refundEscrow_ok found
  exact absurd ⟨escrow, present, locked⟩ unlocked

theorem refund_settles (conserved : Conserved rent total bank) (capitalization : total < u64Limit) (told : Told bank)
    (expired : ∀ escrow, bank.escrows requestId = some escrow → escrow.state = .locked → escrow.expiresAt < now) :
    ∃ client, ∀ other escrow, (step rent bank (now, .refundEscrow requestId client)).escrows other = some escrow →
      escrow.state = .locked → other ≠ requestId ∧ bank.escrows other = some escrow := by
  by_cases pending : bank.LockedAt requestId
  · obtain ⟨held, present, locked⟩ := pending
    obtain ⟨client, owner⟩ := told.clients requestId held present
    obtain ⟨after, found⟩ := exists_ok_iff.mp ((conserved.refund_isOk capitalization present locked client).mpr
      ⟨owner, expired held present locked⟩)
    have ran : step rent bank (now, .refundEscrow requestId client) = after := by
      simp [step, execute, found]
    obtain ⟨account, event, -, -, -, rfl⟩ := conserved.refundEscrow_ok capitalization found
    refine ⟨client, ?_⟩
    intro other escrow there stillLocked
    rw [ran] at there
    dsimp only at there
    by_cases same : other = requestId
    · rw [same, Function.update_self, Option.some.injEq] at there
      rw [← there] at stillLocked
      contradiction
    · rw [Function.update_of_ne same] at there
      exact ⟨same, there⟩
  · refine ⟨0, ?_⟩
    intro other escrow there locked
    rw [refund_unlocked pending] at there
    refine ⟨?_, there⟩
    rintro rfl
    exact pending ⟨escrow, there, locked⟩

/-- Refunds for a list of requests, whose escrows have expired, leave none of them locked. -/
theorem refunds_settle (capitalization : total < u64Limit) (requests : List RequestId) {bank : Bank}
    (conserved : Conserved rent total bank) (told : Told bank)
    (expired : ∀ requestId escrow, bank.escrows requestId = some escrow → escrow.state = .locked →
      escrow.expiresAt < now) :
    ∃ refunds : List (Int × Instruction),
      (∀ call ∈ refunds, ∃ requestId client, call = (now, .refundEscrow requestId client)) ∧
      ∀ requestId escrow, (Runs.run (step rent) bank refunds).escrows requestId = some escrow → escrow.state = .locked →
        requestId ∉ requests ∧ bank.escrows requestId = some escrow := by
  induction requests generalizing bank with
  | nil => exact ⟨[], by simp, fun _ _ there _ => ⟨List.not_mem_nil, there⟩⟩
  | cons request rest ih =>
      obtain ⟨client, before⟩ := @refund_settles rent _ _ _ _ conserved capitalization told (expired request)
      obtain ⟨refunds, calls, settled⟩ := ih (step_conserved conserved capitalization _) (step_told conserved told _)
        fun requestId escrow there locked => expired requestId escrow (before requestId escrow there locked).2 locked
      refine ⟨(now, .refundEscrow request client) :: refunds, ?_, ?_⟩
      · intro call member
        rcases List.mem_cons.mp member with rfl | member
        · exact ⟨request, client, rfl⟩
        · exact calls call member
      · intro requestId escrow there locked
        obtain ⟨other, earlier⟩ := settled requestId escrow there locked
        obtain ⟨different, start⟩ := before requestId escrow earlier locked
        exact ⟨List.not_mem_cons_of_ne_of_not_mem different other, start⟩

end

/-- After every history: the events about a request tell the story of its escrow and nothing else; a
locked escrow can be released exactly by its node up to its expiry and refunded exactly by its client
after it; and once all have expired, refunds that the clients sign leave no payment in an escrow. -/
theorem escrow_settleable (rent : Rent) (genesis : Genesis) (history : List (Int × Instruction)) :
    let bank := Runs.run (step rent) genesis.bank history
    (∀ requestId, bank.eventsOf requestId = story (bank.escrows requestId)) ∧
      (∀ requestId escrow, bank.escrows requestId = some escrow → escrow.state = .locked → ∀ now key,
        (∀ proofHash, (releaseEscrow now bank requestId key proofHash).isOk ↔
          escrow.node = .wallet key ∧ now ≤ escrow.expiresAt) ∧
        ((refundEscrow now bank requestId key).isOk ↔ escrow.client = .wallet key ∧ escrow.expiresAt < now)) ∧
      ∀ now, (∀ requestId escrow, bank.escrows requestId = some escrow → escrow.state = .locked →
          escrow.expiresAt < now) →
        ∃ refunds : List (Int × Instruction),
          (∀ call ∈ refunds, ∃ requestId client, call = (now, .refundEscrow requestId client)) ∧
          ∀ requestId escrow, (Runs.run (step rent) bank refunds).escrows requestId = some escrow →
            (Runs.run (step rent) bank refunds).lamports (.escrow requestId) =
              rent.minimumBalance EscrowAccount.len := by
  intro bank
  have capitalization := genesis.capitalization
  have conserved : Conserved rent _ bank := conserved_run (genesis_conserved rent genesis) capitalization history
  have told : Told bank := by
    apply told_run capitalization history (genesis_conserved rent genesis)
    exact ⟨fun _ => rfl, fun _ _ present => nomatch present⟩
  refine ⟨told.stories, ?_, ?_⟩
  · intro requestId escrow present locked now key
    exact ⟨fun proofHash => conserved.release_isOk capitalization present locked key proofHash,
      conserved.refund_isOk capitalization present locked key⟩
  · intro now expired
    obtain ⟨refunds, calls, settled⟩ := refunds_settle capitalization (Finset.univ : Finset RequestId).toList
      conserved told expired
    refine ⟨refunds, calls, ?_⟩
    intro requestId escrow present
    have after := (conserved_run conserved capitalization refunds).funded requestId
    have closed : escrow.state ≠ .locked := by
      intro locked
      exact (settled requestId escrow present locked).1 (Finset.mem_toList.mpr (Finset.mem_univ requestId))
    rw [after, present, escrowDue, if_neg closed, Nat.add_zero]

/-- Until second 1060 the node can take the payment of its job, and from then on the client. -/
theorem escrow_settleable_minute :
    let bank := Runs.run (step clusterRent) fundedGenesis.bank (paidJob.take 2)
    bank.eventsOf 7 = [.escrowLocked 7 (.wallet 1) (.wallet 2) 5000 1060] ∧
      (∀ now proofHash, (releaseEscrow now bank 7 2 proofHash).isOk ↔ now ≤ 1060) ∧
      ∀ now, (refundEscrow now bank 7 1).isOk ↔ 1060 < now := by
  intro bank
  obtain ⟨stories, settles, -⟩ := escrow_settleable clusterRent fundedGenesis (paidJob.take 2)
  have locked : bank.escrows 7 = some (lockedAccount 1000 1 (.wallet 2) 7 5000 60) := by decide +kernel
  have expiry : (lockedAccount 1000 1 (.wallet 2) 7 5000 60).expiresAt = 1060 := by decide
  have node : (lockedAccount 1000 1 (.wallet 2) 7 5000 60).node = .wallet 2 := rfl
  have client : (lockedAccount 1000 1 (.wallet 2) 7 5000 60).client = .wallet 1 := rfl
  refine ⟨?_, ?_, ?_⟩
  · rw [stories, locked]
    decide
  · intro now proofHash
    rw [(settles 7 _ locked rfl now 2).1 proofHash, expiry, and_iff_right node]
  · intro now
    rw [(settles 7 _ locked rfl now 1).2, expiry, and_iff_right client]

end Pinaivu.Program
