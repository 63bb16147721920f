import Pinaivu.Programs.EscrowCore

/-!
Conservation of the escrow instructions. Each instruction that succeeds is first
reduced to what it does to the bank, and the invariant is read off that.
-/

namespace Pinaivu.Program

def released : Option EscrowAccount → Bool
  | some escrow => escrow.state = .released
  | none => false

def amountOf : Option EscrowAccount → Nat
  | some escrow => escrow.amountLamports.toNat
  | none => 0

def Bank.releasedIds (bank : Bank) : Finset RequestId :=
  Finset.univ.filter fun requestId => released (bank.escrows requestId)

def Bank.releasedVolume (bank : Bank) : Nat :=
  ∑ requestId ∈ bank.releasedIds, amountOf (bank.escrows requestId)

/-- What an escrow account holds: nothing before `init`, then its rent, and on top
of it the payment for as long as it is locked. -/
def escrowDue (rent : Rent) : Option EscrowAccount → Nat
  | none => 0
  | some escrow =>
      rent.minimumBalance EscrowAccount.len +
        if escrow.state = .locked then escrow.amountLamports.toNat else 0

inductive EscrowStep (bank after : Bank) (requestId : RequestId) : Prop
  | kept : after.escrows requestId = bank.escrows requestId →
      after.lamports (.escrow requestId) = bank.lamports (.escrow requestId) →
      EscrowStep bank after requestId
  | locked (escrow : EscrowAccount) : bank.escrows requestId = none →
      after.escrows requestId = some escrow → escrow.state = .locked →
      EscrowStep bank after requestId
  | released (escrow : EscrowAccount) (proofHash : Hash) : bank.escrows requestId = some escrow →
      escrow.state = .locked → after.escrows requestId = some (escrow.release proofHash) →
      after.lamports = Ledger.transfer bank.lamports (.escrow requestId) escrow.node
        escrow.amountLamports.toNat →
      EscrowStep bank after requestId
  | refunded (escrow : EscrowAccount) : bank.escrows requestId = some escrow →
      escrow.state = .locked → after.escrows requestId = some escrow.refund →
      after.lamports = Ledger.transfer bank.lamports (.escrow requestId) escrow.client
        escrow.amountLamports.toNat →
      EscrowStep bank after requestId

/-- What can become of an escrow account in a run: it stays as it is, or a locked
one is settled, once. -/
def SettledTo (escrow later : EscrowAccount) : Prop :=
  later = escrow ∨ (escrow.state = .locked ∧
    ((∃ proofHash, later = escrow.release proofHash) ∨ later = escrow.refund))

structure Conserved (rent : Rent) (total : Nat) (bank : Bank) : Prop where
  funded : ∀ requestId, bank.lamports (.escrow requestId) = escrowDue rent (bank.escrows requestId)
  labelled : ∀ requestId escrow, bank.escrows requestId = some escrow →
    escrow.requestId = requestId
  total : ∑ account, bank.lamports account = total
  uncounted : bank.programState = none → ∀ requestId, bank.escrows requestId = none
  counted : ∀ state, bank.programState = some state →
    state.totalJobsCompleted = bank.releasedIds.card ∧
    state.totalVolumeLamports = min bank.releasedVolume (u64Limit - 1)

theorem saturatingAdd_of_lt {left right : Nat} (fits : left + right < u64Limit) :
    saturatingAdd left right = left + right := by
  unfold saturatingAdd
  omega

theorem saturatingAdd_min (sum amount : Nat) :
    saturatingAdd (min sum (u64Limit - 1)) amount = min (sum + amount) (u64Limit - 1) := by
  unfold saturatingAdd
  omega

theorem systemTransfer_ok {bank after : Bank} {source target : Pubkey} {amount : Nat}
    (found : systemTransfer bank source target amount = .ok after) :
    amount ≤ bank.lamports source ∧
      after = { bank with lamports := Ledger.transfer bank.lamports source target amount } := by
  unfold systemTransfer at found
  split at found
  · simp at found
  rename_i covered
  split at found
  · simp at found
  simp only [Except.ok.injEq] at found
  exact ⟨by omega, found.symm⟩

theorem anchorInit_ok {rent : Rent} {bank after : Bank} {payer : Key} {target : Pubkey}
    {size : Nat} (found : anchorInit rent bank payer target size = .ok after) :
    ∃ required, (bank.lamports target = 0 → required = rent.minimumBalance size) ∧
      required ≤ bank.lamports (.wallet payer) ∧
      after = { bank with
        lamports := Ledger.transfer bank.lamports (.wallet payer) target required } := by
  obtain ⟨covered, shape⟩ := systemTransfer_ok found
  exact ⟨_, fun empty => by simp [empty], covered, shape⟩

theorem moveLamports_ok {bank after : Bank} {source target : Pubkey} {amount : Nat}
    (different : source ≠ target) (covered : amount ≤ bank.lamports source)
    (bounded : bank.lamports source < u64Limit)
    (found : moveLamports bank source target amount = .ok after) :
    after = { bank with lamports := Ledger.transfer bank.lamports source target amount } := by
  unfold moveLamports at found
  dsimp only at found
  split at found
  · simp at found
  rename_i balanced
  simp only [Except.ok.injEq] at found
  have left : (bank.lamports source + u64Limit - amount) % u64Limit =
      bank.lamports source - amount := by
    have shifted : bank.lamports source + u64Limit - amount =
        bank.lamports source - amount + u64Limit := by omega
    rw [shifted, Nat.add_mod_right, Nat.mod_eq_of_lt (by omega)]
  rw [left] at balanced found
  have reached : (bank.lamports target + amount) % u64Limit = bank.lamports target + amount := by
    omega
  rw [reached] at found
  rw [← found]
  simp [Ledger.transfer, Function.update_of_ne different.symm]

theorem initializeProgram_ok {rent : Rent} {bank after : Bank} {admin : Key} {timeout : Int}
    (found : initializeProgram rent bank admin timeout = .ok after) :
    bank.programState = none ∧ ∃ required, required ≤ bank.lamports (.wallet admin) ∧
      after = { bank with
        lamports := Ledger.transfer bank.lamports (.wallet admin) .programState required
        programState := some ⟨.wallet admin, 0, 0, 0, timeout⟩ } := by
  unfold initializeProgram at found
  split at found
  · simp at found
  rename_i fresh
  split at found
  · simp at found
  rename_i funded initialised
  obtain ⟨required, -, covered, rfl⟩ := anchorInit_ok initialised
  simp only [Except.ok.injEq] at found
  exact ⟨fresh, required, covered, found.symm⟩

theorem lockEscrow_ok {rent : Rent} {now : Int} {bank after : Bank} {client : Key}
    {nodeWallet : Pubkey} {requestId : RequestId} {amount : UInt64} {timeoutSecs : Int}
    (found : lockEscrow rent now bank client nodeWallet requestId amount timeoutSecs = .ok after) :
    bank.escrows requestId = none ∧
      ∃ state required event, bank.programState = some state ∧
        (bank.lamports (.escrow requestId) = 0 →
          required = rent.minimumBalance EscrowAccount.len) ∧
        required ≤ bank.lamports (.wallet client) ∧
        amount.toNat ≤ Ledger.transfer bank.lamports (.wallet client) (.escrow requestId) required
          (.wallet client) ∧
        after = { bank with
          lamports := Ledger.transfer
            (Ledger.transfer bank.lamports (.wallet client) (.escrow requestId) required)
            (.wallet client) (.escrow requestId) amount.toNat
          escrows := Function.update bank.escrows requestId
            (some (lockedAccount now client nodeWallet requestId amount
              (if 0 < timeoutSecs then timeoutSecs else state.escrowTimeoutSecs)))
          events := bank.events ++ [event] } := by
  unfold lockEscrow at found
  split at found
  · simp at found
  · simp at found
  rename_i state fresh started
  split at found
  · simp at found
  rename_i created initialised
  obtain ⟨required, rentExempt, covered, rfl⟩ := anchorInit_ok initialised
  dsimp only at found
  split at found
  · simp at found
  rename_i paid transferred
  obtain ⟨paymentCovered, rfl⟩ := systemTransfer_ok transferred
  simp only [Except.ok.injEq] at found
  exact ⟨fresh, state, required, _, started, rentExempt, covered, paymentCovered, found.symm⟩

theorem releaseEscrow_ok {now : Int} {bank after : Bank} {requestId : RequestId} {nodeWallet : Key}
    {proofHash : Hash} (found : releaseEscrow now bank requestId nodeWallet proofHash = .ok after) :
    ∃ escrow state moved event, bank.escrows requestId = some escrow ∧
      bank.programState = some state ∧ escrow.node = .wallet nodeWallet ∧ escrow.state = .locked ∧
      moveLamports bank (.escrow requestId) escrow.node escrow.amountLamports.toNat = .ok moved ∧
      after = { moved with
        escrows := Function.update moved.escrows requestId (some (escrow.release proofHash))
        programState := some (state.countRelease escrow.amountLamports.toNat)
        events := moved.events ++ [event] } := by
  unfold releaseEscrow at found
  split at found
  · rename_i escrow state present started
    split at found
    · simp at found
    split at found
    · simp at found
    rename_i party
    split at found
    · simp at found
    rename_i locked
    split at found
    · simp at found
    split at found
    · simp at found
    rename_i moved transferred
    simp only [ne_eq, not_not] at party locked
    simp only [Except.ok.injEq] at found
    exact ⟨escrow, state, moved, _, present, started, party, locked, party ▸ transferred, found.symm⟩
  · simp at found

theorem refundEscrow_ok {now : Int} {bank after : Bank} {requestId : RequestId} {client : Key}
    (found : refundEscrow now bank requestId client = .ok after) :
    ∃ escrow moved event, bank.escrows requestId = some escrow ∧
      escrow.client = .wallet client ∧ escrow.state = .locked ∧
      moveLamports bank (.escrow requestId) escrow.client escrow.amountLamports.toNat = .ok moved ∧
      after = { moved with
        escrows := Function.update moved.escrows requestId (some escrow.refund)
        events := moved.events ++ [event] } := by
  unfold refundEscrow at found
  split at found
  · simp at found
  rename_i escrow present
  split at found
  · simp at found
  split at found
  · simp at found
  rename_i party
  split at found
  · simp at found
  rename_i locked
  split at found
  · simp at found
  split at found
  · simp at found
  rename_i moved transferred
  simp only [ne_eq, not_not] at party locked
  simp only [Except.ok.injEq] at found
  exact ⟨escrow, moved, _, present, party, locked, party ▸ transferred, found.symm⟩

def releasedOne (account : Option EscrowAccount) : Nat := if released account then 1 else 0

def releasedAmount (account : Option EscrowAccount) : Nat :=
  if released account then amountOf account else 0

theorem releasedIds_card (bank : Bank) :
    bank.releasedIds.card = ∑ requestId, releasedOne (bank.escrows requestId) :=
  Finset.card_filter _ _

theorem releasedVolume_eq (bank : Bank) :
    bank.releasedVolume = ∑ requestId, releasedAmount (bank.escrows requestId) :=
  Finset.sum_filter _ _

theorem lamports_le_total (lamports : Pubkey → Nat) (account : Pubkey) :
    lamports account ≤ ∑ account, lamports account :=
  Finset.single_le_sum (fun _ _ => Nat.zero_le _) (Finset.mem_univ account)

theorem escrow_lamports_le_total (lamports : Pubkey → Nat) :
    ∑ requestId, lamports (.escrow requestId) ≤ ∑ account, lamports account := by
  have injective : Function.Injective Pubkey.escrow := by
    intro first second same
    exact Pubkey.escrow.inj same
  rw [← Finset.sum_image fun first _ second _ same => injective same]
  exact Finset.sum_le_sum_of_subset (Finset.subset_univ _)

/-- Every released escrow keeps its rent, so there are no more of them than lamports. -/
theorem released_le_total {rent : Rent} {lamports : Pubkey → Nat}
    {escrows : RequestId → Option EscrowAccount}
    (funded : ∀ requestId, lamports (.escrow requestId) = escrowDue rent (escrows requestId)) :
    ∑ requestId, releasedOne (escrows requestId) ≤ ∑ account, lamports account := by
  refine Nat.le_trans (Finset.sum_le_sum ?_) (escrow_lamports_le_total lamports)
  intro requestId _
  rw [funded requestId]
  have positive := rent.positive EscrowAccount.len
  cases escrows requestId with
  | none => simp [releasedOne, released]
  | some escrow =>
      simp only [releasedOne, escrowDue]
      split <;> omega

theorem Conserved.covered {rent : Rent} {total : Nat} {bank : Bank}
    (conserved : Conserved rent total bank) {requestId : RequestId} {escrow : EscrowAccount}
    (present : bank.escrows requestId = some escrow) (locked : escrow.state = .locked) :
    escrow.amountLamports.toNat ≤ bank.lamports (.escrow requestId) := by
  rw [conserved.funded requestId, present]
  simp [escrowDue, locked]

theorem Conserved.payment {rent : Rent} {total : Nat} {bank moved : Bank}
    (conserved : Conserved rent total bank) (capitalization : total < u64Limit)
    {requestId : RequestId} {escrow : EscrowAccount} {receiver : Key}
    (present : bank.escrows requestId = some escrow) (locked : escrow.state = .locked)
    (transferred : moveLamports bank (.escrow requestId) (.wallet receiver)
      escrow.amountLamports.toNat = .ok moved) :
    moved = { bank with
      lamports := Ledger.transfer bank.lamports (.escrow requestId) (.wallet receiver)
        escrow.amountLamports.toNat } := by
  have bounded := lamports_le_total bank.lamports (.escrow requestId)
  rw [conserved.total] at bounded
  exact moveLamports_ok (by simp) (conserved.covered present locked) (by omega) transferred

theorem Conserved.funded_settled {rent : Rent} {total : Nat} {bank : Bank}
    (conserved : Conserved rent total bank) {requestId : RequestId}
    {escrow : EscrowAccount} (settled : EscrowAccount) (receiver : Key)
    (present : bank.escrows requestId = some escrow) (locked : escrow.state = .locked)
    (closed : settled.state ≠ .locked) (other : RequestId) :
    Ledger.transfer bank.lamports (.escrow requestId) (.wallet receiver)
        escrow.amountLamports.toNat (.escrow other) =
      escrowDue rent (Function.update bank.escrows requestId (some settled) other) := by
  by_cases same : other = requestId
  · subst same
    rw [Ledger.transfer_source _ _ (by simp), conserved.funded other, present]
    simp [escrowDue, locked, closed]
  · rw [Ledger.transfer_other _ _ (by simpa using same) (by simp),
      Function.update_of_ne same]
    exact conserved.funded other

theorem Conserved.total_settled {rent : Rent} {total : Nat} {bank : Bank}
    (conserved : Conserved rent total bank) {requestId : RequestId} {escrow : EscrowAccount}
    (receiver : Key) (present : bank.escrows requestId = some escrow)
    (locked : escrow.state = .locked) :
    ∑ account, Ledger.transfer bank.lamports (.escrow requestId) (.wallet receiver)
      escrow.amountLamports.toNat account = total := by
  rw [Ledger.sum_transfer _ _ _ _ (conserved.covered present locked)]
  exact conserved.total

theorem labelled_update {escrows : RequestId → Option EscrowAccount}
    (labelled : ∀ requestId escrow, escrows requestId = some escrow → escrow.requestId = requestId)
    {requestId : RequestId} {account : EscrowAccount} (label : account.requestId = requestId) :
    ∀ other escrow, Function.update escrows requestId (some account) other = some escrow →
      escrow.requestId = other := by
  intro other escrow found
  by_cases same : other = requestId
  · subst same
    rw [Function.update_self] at found
    exact Option.some.inj found ▸ label
  · rw [Function.update_of_ne same] at found
    exact labelled other escrow found

theorem sum_escrows_update {escrows : RequestId → Option EscrowAccount} {requestId : RequestId}
    {before : Option EscrowAccount} (present : escrows requestId = before)
    (weight : Option EscrowAccount → Nat) (unweighted : weight before = 0) (account : EscrowAccount) :
    ∑ other, weight (Function.update escrows requestId (some account) other) =
      ∑ other, weight (escrows other) + weight (some account) := by
  have change := Ledger.sum_update Finset.univ escrows weight requestId (some account)
    (Finset.mem_univ _)
  have nothing : weight (escrows requestId) = 0 := by rw [present, unweighted]
  omega

theorem Conserved.counted_update {rent : Rent} {total : Nat} {bank after : Bank}
    (conserved : Conserved rent total bank) {requestId : RequestId} {before : Option EscrowAccount}
    (present : bank.escrows requestId = before) (account : EscrowAccount)
    (unreleased : released before = false) (kept : released (some account) = false)
    (sameState : after.programState = bank.programState)
    (updated : after.escrows = Function.update bank.escrows requestId (some account)) :
    ∀ state, after.programState = some state →
      state.totalJobsCompleted = after.releasedIds.card ∧
      state.totalVolumeLamports = min after.releasedVolume (u64Limit - 1) := by
  intro state started
  have counted := conserved.counted state (sameState.symm.trans started)
  have one : releasedOne (some account) = 0 := by simp [releasedOne, kept]
  have amount : releasedAmount (some account) = 0 := by simp [releasedAmount, kept]
  rw [releasedIds_card, releasedVolume_eq] at counted ⊢
  rw [updated, sum_escrows_update present releasedOne (by simp [releasedOne, unreleased]),
    sum_escrows_update present releasedAmount (by simp [releasedAmount, unreleased]), one, amount,
    Nat.add_zero, Nat.add_zero]
  exact counted

theorem Conserved.transferred {rent : Rent} {total : Nat} {bank : Bank} (conserved : Conserved rent total bank)
    {source : Pubkey} (target : Pubkey) {amount : Nat} (covered : amount ≤ bank.lamports source)
    (noSource : ∀ requestId, Pubkey.escrow requestId ≠ source)
    (noTarget : ∀ requestId, Pubkey.escrow requestId ≠ target) :
    (∀ requestId, Ledger.transfer bank.lamports source target amount (.escrow requestId) =
        escrowDue rent (bank.escrows requestId)) ∧
      ∑ account, Ledger.transfer bank.lamports source target amount account = total := by
  constructor
  · intro requestId
    rw [Ledger.transfer_other _ _ (noSource requestId) (noTarget requestId)]
    exact conserved.funded requestId
  · rw [Ledger.sum_transfer _ _ _ _ covered]
    exact conserved.total

theorem initializeProgram_conserved {rent : Rent} {total : Nat} {bank after : Bank} {admin : Key}
    {timeout : Int} (conserved : Conserved rent total bank)
    (found : initializeProgram rent bank admin timeout = .ok after) :
    Conserved rent total after := by
  obtain ⟨fresh, required, covered, rfl⟩ := initializeProgram_ok found
  have empty := conserved.uncounted fresh
  obtain ⟨funded, totalled⟩ := conserved.transferred .programState covered (by simp) (by simp)
  refine ⟨funded, conserved.labelled, totalled, by simp, ?_⟩
  intro state started
  simp only [Option.some.injEq] at started
  subst started
  rw [releasedIds_card, releasedVolume_eq]
  simp [empty, releasedOne, releasedAmount, released]

theorem lockEscrow_conserved {rent : Rent} {total : Nat} {now : Int} {bank after : Bank}
    {client : Key} {nodeWallet : Pubkey} {requestId : RequestId} {amount : UInt64}
    {timeoutSecs : Int} (conserved : Conserved rent total bank)
    (found : lockEscrow rent now bank client nodeWallet requestId amount timeoutSecs = .ok after) :
    Conserved rent total after := by
  obtain ⟨fresh, state, required, event, started, rentExempt, covered, paymentCovered, rfl⟩ :=
    lockEscrow_ok found
  have empty : bank.lamports (.escrow requestId) = 0 := by
    rw [conserved.funded requestId, fresh]
    rfl
  have requiredEq := rentExempt empty
  refine ⟨?_, ?_, ?_, by simp [started], conserved.counted_update fresh _ rfl rfl rfl rfl⟩
  · intro other
    dsimp only
    by_cases same : other = requestId
    · subst same
      rw [Function.update_self, Ledger.transfer_target _ _ (by simp),
        Ledger.transfer_target _ _ (by simp), empty, requiredEq]
      simp [escrowDue, lockedAccount]
    · rw [Function.update_of_ne same, Ledger.transfer_other _ _ (by simp) (by simpa using same),
        Ledger.transfer_other _ _ (by simp) (by simpa using same)]
      exact conserved.funded other
  · exact labelled_update conserved.labelled rfl
  · dsimp only
    rw [Ledger.sum_transfer _ _ _ _ paymentCovered, Ledger.sum_transfer _ _ _ _ covered]
    exact conserved.total

theorem Conserved.releaseEscrow_ok {rent : Rent} {total : Nat} {now : Int} {bank after : Bank}
    {requestId : RequestId} {nodeWallet : Key} {proofHash : Hash}
    (conserved : Conserved rent total bank) (capitalization : total < u64Limit)
    (found : releaseEscrow now bank requestId nodeWallet proofHash = .ok after) :
    ∃ escrow state event, bank.escrows requestId = some escrow ∧
      bank.programState = some state ∧ escrow.node = .wallet nodeWallet ∧ escrow.state = .locked ∧
      after = { bank with
        lamports := Ledger.transfer bank.lamports (.escrow requestId) (.wallet nodeWallet)
          escrow.amountLamports.toNat
        escrows := Function.update bank.escrows requestId (some (escrow.release proofHash))
        programState := some (state.countRelease escrow.amountLamports.toNat)
        events := bank.events ++ [event] } := by
  obtain ⟨escrow, state, moved, event, present, started, party, locked, transferred, rfl⟩ :=
    Program.releaseEscrow_ok found
  rw [party] at transferred
  obtain rfl := conserved.payment capitalization present locked transferred
  exact ⟨escrow, state, event, present, started, party, locked, rfl⟩

theorem Conserved.refundEscrow_ok {rent : Rent} {total : Nat} {now : Int} {bank after : Bank}
    {requestId : RequestId} {client : Key}
    (conserved : Conserved rent total bank) (capitalization : total < u64Limit)
    (found : refundEscrow now bank requestId client = .ok after) :
    ∃ escrow event, bank.escrows requestId = some escrow ∧ escrow.client = .wallet client ∧
      escrow.state = .locked ∧
      after = { bank with
        lamports := Ledger.transfer bank.lamports (.escrow requestId) (.wallet client)
          escrow.amountLamports.toNat
        escrows := Function.update bank.escrows requestId (some escrow.refund)
        events := bank.events ++ [event] } := by
  obtain ⟨escrow, moved, event, present, party, locked, transferred, rfl⟩ :=
    Program.refundEscrow_ok found
  rw [party] at transferred
  obtain rfl := conserved.payment capitalization present locked transferred
  exact ⟨escrow, event, present, party, locked, rfl⟩

theorem releaseEscrow_conserved {rent : Rent} {total : Nat} {now : Int} {bank after : Bank}
    {requestId : RequestId} {nodeWallet : Key} {proofHash : Hash}
    (conserved : Conserved rent total bank) (capitalization : total < u64Limit)
    (found : releaseEscrow now bank requestId nodeWallet proofHash = .ok after) :
    Conserved rent total after := by
  obtain ⟨escrow, state, event, present, started, -, locked, rfl⟩ :=
    conserved.releaseEscrow_ok capitalization found
  have funded := conserved.funded_settled (escrow.release proofHash) nodeWallet present locked
    (by simp [EscrowAccount.release])
  have sameTotal := conserved.total_settled nodeWallet present locked
  refine ⟨funded, ?_, sameTotal, by simp, ?_⟩
  · exact labelled_update conserved.labelled (conserved.labelled requestId escrow present)
  · intro state' started'
    obtain rfl := Option.some.inj started'
    have counted := conserved.counted state started
    rw [releasedIds_card, releasedVolume_eq] at counted ⊢
    have oneMore := sum_escrows_update present releasedOne (by simp [releasedOne, released, locked])
      (escrow.release proofHash)
    have moreVolume := sum_escrows_update present releasedAmount
      (by simp [releasedAmount, released, locked]) (escrow.release proofHash)
    have one : releasedOne (some (escrow.release proofHash)) = 1 := rfl
    have amount : releasedAmount (some (escrow.release proofHash)) =
        escrow.amountLamports.toNat := rfl
    rw [one] at oneMore
    rw [amount] at moreVolume
    have fewer := released_le_total funded
    rw [oneMore, sameTotal] at fewer
    dsimp only
    rw [oneMore, moreVolume]
    constructor
    · simp only [ProgramState.countRelease, counted.1]
      exact saturatingAdd_of_lt (Nat.lt_of_le_of_lt fewer capitalization)
    · simp only [ProgramState.countRelease, counted.2]
      exact saturatingAdd_min _ _

theorem refundEscrow_conserved {rent : Rent} {total : Nat} {now : Int} {bank after : Bank}
    {requestId : RequestId} {client : Key}
    (conserved : Conserved rent total bank) (capitalization : total < u64Limit)
    (found : refundEscrow now bank requestId client = .ok after) : Conserved rent total after := by
  obtain ⟨escrow, event, present, -, locked, rfl⟩ := conserved.refundEscrow_ok capitalization found
  have unreleased : released (some escrow) = false := by simp [released, locked]
  refine ⟨?_, ?_, conserved.total_settled client present locked, ?_,
    conserved.counted_update present escrow.refund unreleased rfl rfl rfl⟩
  · exact conserved.funded_settled escrow.refund client present locked
      (by simp [EscrowAccount.refund])
  · exact labelled_update conserved.labelled (conserved.labelled requestId escrow present)
  · intro unstarted
    have absent := conserved.uncounted unstarted requestId
    simp [absent] at present

theorem walletTransfer_conserved {rent : Rent} {total : Nat} {bank after : Bank}
    {source target : Key} {amount : Nat} (conserved : Conserved rent total bank)
    (found : systemTransfer bank (.wallet source) (.wallet target) amount = .ok after) :
    Conserved rent total after := by
  obtain ⟨covered, rfl⟩ := systemTransfer_ok found
  obtain ⟨funded, totalled⟩ := conserved.transferred (.wallet target) covered (by simp) (by simp)
  exact ⟨funded, conserved.labelled, totalled, conserved.uncounted, conserved.counted⟩

theorem step_rule (P : Bank → Prop) {rent : Rent} {bank : Bank} {call : Int × Instruction} (unchanged : P bank)
    (taken : ∀ after, execute rent call.1 bank call.2 = .ok after → P after) : P (step rent bank call) := by
  unfold step
  cases outcome : execute rent call.1 bank call.2 with
  | error _ => exact unchanged
  | ok after => exact taken after outcome

theorem step_conserved {rent : Rent} {total : Nat} {bank : Bank}
    (conserved : Conserved rent total bank) (capitalization : total < u64Limit)
    (call : Int × Instruction) : Conserved rent total (step rent bank call) := by
  apply step_rule (Conserved rent total) conserved
  intro after outcome
  obtain ⟨now, instruction⟩ := call
  cases instruction with
  | initializeProgram admin escrowTimeoutSecs => exact initializeProgram_conserved conserved outcome
  | lockEscrow client nodeWallet requestId amountLamports timeoutSecs =>
      exact lockEscrow_conserved conserved outcome
  | releaseEscrow requestId nodeWallet proofHash =>
      exact releaseEscrow_conserved conserved capitalization outcome
  | refundEscrow requestId client => exact refundEscrow_conserved conserved capitalization outcome
  | walletTransfer source target amount => exact walletTransfer_conserved conserved outcome

theorem lockEscrow_step {rent : Rent} {now : Int} {bank after : Bank} {client : Key}
    {nodeWallet : Pubkey} {requestId : RequestId} {amount : UInt64} {timeoutSecs : Int}
    (found : lockEscrow rent now bank client nodeWallet requestId amount timeoutSecs = .ok after)
    (other : RequestId) : EscrowStep bank after other := by
  obtain ⟨fresh, state, required, event, -, -, -, -, rfl⟩ := lockEscrow_ok found
  by_cases same : other = requestId
  · subst same
    exact .locked _ fresh (Function.update_self ..) rfl
  · refine .kept (Function.update_of_ne same _ _) ?_
    dsimp only
    rw [Ledger.transfer_other _ _ (by simp) (by simpa using same),
      Ledger.transfer_other _ _ (by simp) (by simpa using same)]

theorem releaseEscrow_step {rent : Rent} {total : Nat} {now : Int} {bank after : Bank}
    {requestId : RequestId} {nodeWallet : Key} {proofHash : Hash}
    (conserved : Conserved rent total bank) (capitalization : total < u64Limit)
    (found : releaseEscrow now bank requestId nodeWallet proofHash = .ok after)
    (other : RequestId) : EscrowStep bank after other := by
  obtain ⟨escrow, state, event, present, -, party, locked, rfl⟩ :=
    conserved.releaseEscrow_ok capitalization found
  by_cases same : other = requestId
  · subst same
    exact .released escrow proofHash present locked (Function.update_self ..) (by rw [party])
  · refine .kept (Function.update_of_ne same _ _) ?_
    dsimp only
    rw [Ledger.transfer_other _ _ (by simpa using same) (by simp)]

theorem refundEscrow_step {rent : Rent} {total : Nat} {now : Int} {bank after : Bank}
    {requestId : RequestId} {client : Key}
    (conserved : Conserved rent total bank) (capitalization : total < u64Limit)
    (found : refundEscrow now bank requestId client = .ok after)
    (other : RequestId) : EscrowStep bank after other := by
  obtain ⟨escrow, event, present, party, locked, rfl⟩ := conserved.refundEscrow_ok capitalization found
  by_cases same : other = requestId
  · subst same
    exact .refunded escrow present locked (Function.update_self ..) (by rw [party])
  · refine .kept (Function.update_of_ne same _ _) ?_
    dsimp only
    rw [Ledger.transfer_other _ _ (by simpa using same) (by simp)]

theorem escrowStep_of_step {rent : Rent} {total : Nat} {bank : Bank}
    (conserved : Conserved rent total bank) (capitalization : total < u64Limit)
    (call : Int × Instruction) (requestId : RequestId) :
    EscrowStep bank (step rent bank call) requestId := by
  apply step_rule (EscrowStep bank · requestId) (.kept rfl rfl)
  intro after outcome
  obtain ⟨now, instruction⟩ := call
  cases instruction with
  | initializeProgram admin escrowTimeoutSecs =>
      obtain ⟨-, required, -, rfl⟩ := initializeProgram_ok outcome
      refine .kept rfl ?_
      dsimp only
      rw [Ledger.transfer_other _ _ (by simp) (by simp)]
  | lockEscrow client nodeWallet requestId amountLamports timeoutSecs => exact lockEscrow_step outcome _
  | releaseEscrow requestId nodeWallet proofHash => exact releaseEscrow_step conserved capitalization outcome _
  | refundEscrow requestId client => exact refundEscrow_step conserved capitalization outcome _
  | walletTransfer source target amount =>
      obtain ⟨-, rfl⟩ := systemTransfer_ok outcome
      refine .kept rfl ?_
      dsimp only
      rw [Ledger.transfer_other _ _ (by simp) (by simp)]

theorem SettledTo.trans {first second third : EscrowAccount} (early : SettledTo first second)
    (late : SettledTo second third) : SettledTo first third := by
  rcases early with rfl | ⟨locked, settled⟩
  · exact late
  · refine Or.inr ⟨locked, ?_⟩
    -- A settled account is not locked any more, so nothing happens to it later.
    rcases settled with ⟨proofHash, rfl⟩ | rfl
    · rcases late with rfl | ⟨again, -⟩
      · exact Or.inl ⟨proofHash, rfl⟩
      · simp [EscrowAccount.release] at again
    · rcases late with rfl | ⟨again, -⟩
      · exact Or.inr rfl
      · simp [EscrowAccount.refund] at again

theorem EscrowStep.settledTo {bank after : Bank} {requestId : RequestId}
    (effect : EscrowStep bank after requestId) {escrow : EscrowAccount}
    (present : bank.escrows requestId = some escrow) :
    ∃ later, after.escrows requestId = some later ∧ SettledTo escrow later := by
  cases effect with
  | kept same _ => exact ⟨escrow, same.trans present, Or.inl rfl⟩
  | locked _ absent _ _ => simp [absent] at present
  | released found proofHash before locked settled _ =>
      obtain rfl := Option.some.inj (before.symm.trans present)
      exact ⟨_, settled, Or.inr ⟨locked, Or.inl ⟨proofHash, rfl⟩⟩⟩
  | refunded found before locked settled _ =>
      obtain rfl := Option.some.inj (before.symm.trans present)
      exact ⟨_, settled, Or.inr ⟨locked, Or.inr rfl⟩⟩

theorem conserved_run {rent : Rent} {total : Nat} {bank : Bank}
    (conserved : Conserved rent total bank) (capitalization : total < u64Limit)
    (history : List (Int × Instruction)) : Conserved rent total (Runs.run (step rent) bank history) :=
  List.foldlRecOn history _ conserved fun _ before call _ =>
    step_conserved before capitalization call

theorem settledTo_run {rent : Rent} {total : Nat} (capitalization : total < u64Limit)
    (history : List (Int × Instruction)) (bank : Bank) (conserved : Conserved rent total bank)
    (requestId : RequestId) (escrow : EscrowAccount)
    (present : bank.escrows requestId = some escrow) :
    ∃ later, (Runs.run (step rent) bank history).escrows requestId = some later ∧
      SettledTo escrow later := by
  induction history generalizing bank escrow with
  | nil => exact ⟨escrow, present, Or.inl rfl⟩
  | cons call rest ih =>
      have effect := escrowStep_of_step conserved capitalization call requestId
      obtain ⟨middle, found, early⟩ := effect.settledTo present
      obtain ⟨later, reached, late⟩ := ih (step rent bank call)
        (step_conserved conserved capitalization call) middle found
      exact ⟨later, reached, early.trans late⟩

theorem genesis_conserved (rent : Rent) (genesis : Genesis) :
    Conserved rent (∑ account, genesis.lamports account) genesis.bank :=
  ⟨genesis.noEscrows, by simp [Genesis.bank], rfl, by simp [Genesis.bank], by simp [Genesis.bank]⟩

/-- In every run of the program, failed instructions included: escrow accounts hold
what they owe on top of their rent, lamports are conserved, an escrow is settled at
most once and pays the party it names, and the counters count the released escrows. -/
theorem escrow_conserved (rent : Rent) (genesis : Genesis) (history : List (Int × Instruction)) :
    let bank := Runs.run (step rent) genesis.bank history
    (∀ requestId, bank.lamports (.escrow requestId) = escrowDue rent (bank.escrows requestId)) ∧
      (∑ account, bank.lamports account = ∑ account, genesis.lamports account) ∧
      (∀ call requestId, EscrowStep bank (step rent bank call) requestId) ∧
      (∀ later requestId escrow, bank.escrows requestId = some escrow →
        ∃ result, (Runs.run (step rent) bank later).escrows requestId = some result ∧
          SettledTo escrow result) ∧
      ∀ state, bank.programState = some state →
        state.totalJobsCompleted = bank.releasedIds.card ∧
        state.totalVolumeLamports = min bank.releasedVolume (u64Limit - 1) := by
  have capitalization := genesis.capitalization
  have conserved := conserved_run (genesis_conserved rent genesis) capitalization history
  refine ⟨conserved.funded, conserved.total, ?_, ?_, conserved.counted⟩
  · intro call requestId
    exact escrowStep_of_step conserved capitalization call requestId
  · intro later requestId escrow present
    exact settledTo_run capitalization later _ conserved requestId escrow present

def clusterRent : Rent where
  minimumBalance size := (size + 128) * 6960
  positive size := by omega

theorem sum_wallets (first second : Key) (firstAmount secondAmount : Nat) :
    ∑ account : Pubkey,
        ((if account = .wallet first then firstAmount else 0) + if account = .wallet second then secondAmount else 0) =
      firstAmount + secondAmount := by
  rw [Finset.sum_add_distrib, Fintype.sum_ite_eq', Fintype.sum_ite_eq']

def fundedGenesis : Genesis where
  lamports account := (if account = .wallet 1 then 10000000 else 0) + if account = .wallet 2 then 2000000 else 0
  noEscrows _ := rfl
  capitalization := (sum_wallets 1 2 10000000 2000000).trans_lt (by decide)

def paidJob : List (Int × Instruction) :=
  [(1000, .initializeProgram 1 600), (1000, .lockEscrow 1 (.wallet 2) 7 5000 60), (1030, .releaseEscrow 7 2 9)]

theorem escrow_conserved_paid :
    let bank := Runs.run (step clusterRent) fundedGenesis.bank paidJob
    bank.lamports (.wallet 2) = 2005000 ∧ bank.lamports (.escrow 7) = 1907040 ∧
      (∑ account, bank.lamports account = 12000000) ∧
      ∀ later, ∃ result, (Runs.run (step clusterRent) bank later).escrows 7 = some result ∧
        result.state = .released := by
  intro bank
  obtain ⟨funded, total, -, settled, -⟩ := escrow_conserved clusterRent fundedGenesis paidJob
  have released : bank.escrows 7 = some ((lockedAccount 1000 1 (.wallet 2) 7 5000 60).release 9) := by
    decide +kernel
  refine ⟨by decide +kernel, ?_, ?_, ?_⟩
  · rw [funded, released]
    decide +kernel
  · exact total.trans (sum_wallets 1 2 10000000 2000000)
  · intro later
    obtain ⟨result, found, rfl | ⟨locked, -⟩⟩ := settled later 7 _ released
    · exact ⟨_, found, rfl⟩
    · cases locked

end Pinaivu.Program
