import Mathlib.Algebra.Order.Ring.Nat
import Pinaivu.Lib.Ledger
import Pinaivu.Settlement.ChannelCore

/-!
The payment channel is a product of small machines, one for each request id. The
code's map and total are shown to follow that product over every run, and what is
conserved is then read off a single machine.
-/

namespace Pinaivu.Channel

open Settlement

inductive Phase where
  | unopened
  | opened (amount : NanoX)
  | released (amount cost : NanoX) (covered : cost ≤ amount)
  | refunded (amount : NanoX)

def Phase.next (phase : Phase) (call : Call) : Phase :=
  match phase, call with
  | .unopened, .lockFunds _ params => .opened params.amountNanox
  | .opened amount, .releaseFunds _ proof =>
      if covered : proof.pricePaidNanox ≤ amount then
        .released amount proof.pricePaidNanox covered
      else .opened amount
  | .opened amount, .refundFunds _ => .refunded amount
  | phase, _ => phase

def Phase.locked : Phase → Option NanoX
  | .unopened => none
  | .opened amount => some amount
  | .released amount _ _ => some amount
  | .refunded amount => some amount

def Phase.paid : Phase → NanoX
  | .released _ cost _ => cost
  | _ => 0

def Phase.isReleased : Phase → Bool
  | .released _ _ _ => true
  | _ => false

def Phase.isSettled : Phase → Bool
  | .unopened => false
  | .opened _ => false
  | .released _ _ _ => true
  | .refunded _ => true

structure Account where
  balanceClient : NanoX
  balanceNode : NanoX
  seq : UInt64
  settled : Bool

def ChannelState.account (state : ChannelState) : Account :=
  ⟨state.balanceClient, state.balanceNode, state.seq, state.settled⟩

def Phase.account : Phase → Option Account
  | .unopened => none
  | .opened amount => some ⟨amount, 0, 0, false⟩
  | .released amount cost _ => some ⟨amount - cost, cost, 1, true⟩
  | .refunded amount => some ⟨amount, 0, 0, true⟩

def advance (phases : RequestId → Phase) (call : Call) : RequestId → Phase :=
  Function.update phases call.requestId ((phases call.requestId).next call)

def phasesAfter (history : List Call) : RequestId → Phase :=
  history.foldl advance fun _ => .unopened

def lockedAmount (requestId : RequestId) (history : List Call) : Option NanoX :=
  history.findSome? fun
    | .lockFunds _ params => if params.requestId = requestId then some params.amountNanox else none
    | _ => none

def Follows (channel : PaymentChannel) (phases : RequestId → Phase) : Prop :=
  ∀ requestId, (channel.state? requestId).map ChannelState.account = (phases requestId).account

theorem text_ne {first second : RequestId} (different : first ≠ second) :
    first.toText ≠ second.toText :=
  fun same => different (Uuid.toText_injective same)

theorem state?_insert (channels : AList (fun _ : String => ChannelState)) (total : NanoX)
    (requestId : RequestId) (state : ChannelState) :
    (PaymentChannel.mk (channels.insert requestId.toText state) total).state? requestId =
      some state := by
  simp [PaymentChannel.state?]

theorem state?_insert_ne (channels : AList (fun _ : String => ChannelState)) (total : NanoX)
    {requestId other : RequestId} (state : ChannelState) (different : other ≠ requestId) :
    (PaymentChannel.mk (channels.insert requestId.toText state) total).state? other =
      channels.lookup other.toText := by
  simp [PaymentChannel.state?, text_ne different]

section

variable {channel : PaymentChannel} {state : ChannelState}

theorem lockFunds_present (openedAt : UInt64) {params : EscrowParams}
    (found : channel.state? params.requestId = some state) :
    lockFunds openedAt params channel = (.error .alreadyOpen, channel) := by
  have present : params.requestId.toText ∈ channel.channels :=
    AList.lookup_isSome.mp (Option.isSome_iff_exists.mpr ⟨state, found⟩)
  rw [lockFunds, if_pos present]

theorem lockFunds_absent (openedAt : UInt64) {params : EscrowParams}
    (found : channel.state? params.requestId = none) :
    (lockFunds openedAt params channel).2 = ⟨channel.channels.insert params.requestId.toText
      ⟨params.requestId, params.amountNanox, 0, 0, openedAt, false⟩,
      channel.totalSettledNanox⟩ := by
  have absent : params.requestId.toText ∉ channel.channels := AList.lookup_eq_none.mp found
  rw [lockFunds, if_neg absent]

theorem releaseFunds_absent {handle : EscrowHandle} (proof : ProofOfInference)
    (found : channel.state? handle.requestId = none) :
    releaseFunds handle proof channel = (.error (.noOpenChannel handle.requestId), channel) := by
  rw [PaymentChannel.state?] at found
  simp only [releaseFunds, found]

theorem releaseFunds_settled {handle : EscrowHandle} (proof : ProofOfInference)
    (found : channel.state? handle.requestId = some state) (settled : state.settled = true) :
    releaseFunds handle proof channel = (.ok (), channel) := by
  rw [PaymentChannel.state?] at found
  simp only [releaseFunds, found, settled, if_true]

theorem releaseFunds_short {handle : EscrowHandle} {proof : ProofOfInference}
    (found : channel.state? handle.requestId = some state) (unsettled : state.settled = false)
    (short : state.balanceClient < proof.pricePaidNanox) :
    releaseFunds handle proof channel =
      (.error (.costExceedsBalance proof.pricePaidNanox state.balanceClient), channel) := by
  rw [PaymentChannel.state?] at found
  simp only [releaseFunds, found, unsettled, Bool.false_eq_true, if_false, short, if_true]

theorem releaseFunds_paid {handle : EscrowHandle} {proof : ProofOfInference}
    (found : channel.state? handle.requestId = some state) (unsettled : state.settled = false)
    (covered : ¬state.balanceClient < proof.pricePaidNanox) :
    releaseFunds handle proof channel =
      (.ok (), ⟨channel.channels.insert handle.requestId.toText (state.pay proof.pricePaidNanox),
        channel.totalSettledNanox + proof.pricePaidNanox⟩) := by
  rw [PaymentChannel.state?] at found
  simp only [releaseFunds, found, unsettled, Bool.false_eq_true, if_false, covered]

theorem refundFunds_absent {handle : EscrowHandle}
    (found : channel.state? handle.requestId = none) :
    refundFunds handle channel = (.error (.noChannelToRefund handle.requestId), channel) := by
  rw [PaymentChannel.state?] at found
  simp only [refundFunds, found]

theorem refundFunds_settled {handle : EscrowHandle}
    (found : channel.state? handle.requestId = some state) (settled : state.settled = true) :
    refundFunds handle channel = (.ok (), channel) := by
  rw [PaymentChannel.state?] at found
  simp only [refundFunds, found, settled, if_true]

theorem refundFunds_closed {handle : EscrowHandle}
    (found : channel.state? handle.requestId = some state) (unsettled : state.settled = false) :
    refundFunds handle channel =
      (.ok (), ⟨channel.channels.insert handle.requestId.toText state.close,
        channel.totalSettledNanox⟩) := by
  rw [PaymentChannel.state?] at found
  simp only [refundFunds, found, unsettled, Bool.false_eq_true, if_false]

end

theorem Phase.eq_unopened {phase : Phase} (agrees : none = phase.account) : phase = .unopened := by
  cases phase with
  | unopened => rfl
  | opened _ => simp [Phase.account] at agrees
  | released _ _ _ => simp [Phase.account] at agrees
  | refunded _ => simp [Phase.account] at agrees

theorem Phase.next_of_settled {phase : Phase} {state : ChannelState} (call : Call)
    (agrees : some state.account = phase.account) (settled : state.settled = true) :
    phase.next call = phase := by
  cases phase with
  | unopened => simp [Phase.account] at agrees
  | opened _ => simp [Phase.account, ChannelState.account, settled] at agrees
  | released _ _ _ => rfl
  | refunded _ => rfl

theorem Phase.next_lockFunds {phase : Phase} {state : ChannelState} (openedAt : UInt64)
    (params : EscrowParams) (agrees : some state.account = phase.account) :
    phase.next (.lockFunds openedAt params) = phase := by
  cases phase with
  | unopened => simp [Phase.account] at agrees
  | opened _ => rfl
  | released _ _ _ => rfl
  | refunded _ => rfl

theorem Phase.eq_opened {phase : Phase} {state : ChannelState}
    (agrees : some state.account = phase.account) (unsettled : state.settled = false) :
    phase = .opened state.balanceClient ∧ state.balanceNode = 0 ∧ state.seq = 0 := by
  cases phase with
  | unopened => simp [Phase.account] at agrees
  | opened amount =>
      obtain ⟨rfl, node, seq, -⟩ : state.balanceClient = amount ∧ state.balanceNode = 0 ∧
          state.seq = 0 ∧ state.settled = false := by
        simpa [ChannelState.account, Phase.account] using agrees
      exact ⟨rfl, node, seq⟩
  | released _ _ _ => simp [Phase.account, ChannelState.account, unsettled] at agrees
  | refunded _ => simp [Phase.account, ChannelState.account, unsettled] at agrees

structure Moves (channel after : PaymentChannel) (requestId : RequestId) (phase next : Phase) :
    Prop where
  account : (after.state? requestId).map ChannelState.account = next.account
  others : ∀ other, other ≠ requestId → after.state? other = channel.state? other
  total : ∃ gain, after.totalSettledNanox = channel.totalSettledNanox + gain ∧
    next.paid.toNat = phase.paid.toNat + gain.toNat

section

variable {channel : PaymentChannel} {requestId : RequestId} {phase next : Phase}

theorem Moves.stay
    (agrees : (channel.state? requestId).map ChannelState.account = phase.account) :
    Moves channel channel requestId phase phase :=
  ⟨agrees, fun _ _ => rfl, 0, by simp, by simp⟩

theorem Moves.insert (state : ChannelState) (gain total : NanoX)
    (account : some state.account = next.account)
    (added : total = channel.totalSettledNanox + gain)
    (paid : next.paid.toNat = phase.paid.toNat + gain.toNat) :
    Moves channel ⟨channel.channels.insert requestId.toText state, total⟩ requestId phase next where
  account := by rw [state?_insert, ← account, Option.map_some]
  others := fun _ different => state?_insert_ne _ _ _ different
  total := ⟨gain, added, paid⟩

theorem lockFunds_moves (openedAt : UInt64) (params : EscrowParams)
    (agrees : (channel.state? params.requestId).map ChannelState.account = phase.account) :
    Moves channel (lockFunds openedAt params channel).2 params.requestId phase
      (phase.next (.lockFunds openedAt params)) := by
  have kept := Moves.stay agrees
  cases found : channel.state? params.requestId with
  | none =>
      rw [found] at agrees
      obtain rfl := Phase.eq_unopened agrees
      rw [lockFunds_absent openedAt found]
      exact .insert _ 0 _ rfl (UInt64.add_zero _).symm rfl
  | some state =>
      rw [found] at agrees
      rw [lockFunds_present openedAt found, Phase.next_lockFunds openedAt params agrees]
      exact kept

theorem Moves.of_opened {after : PaymentChannel} (call : Call)
    (agrees : (channel.state? requestId).map ChannelState.account = phase.account)
    (idle : Phase.unopened.next call = .unopened) (absent : channel.state? requestId = none → after = channel)
    (settled : ∀ state, channel.state? requestId = some state → state.settled = true → after = channel)
    (opened : ∀ state, channel.state? requestId = some state → state.settled = false →
      phase = .opened state.balanceClient → state.balanceNode = 0 → state.seq = 0 →
        Moves channel after requestId phase (phase.next call)) :
    Moves channel after requestId phase (phase.next call) := by
  have kept := Moves.stay agrees
  cases found : channel.state? requestId with
  | none =>
      rw [found] at agrees
      obtain rfl := Phase.eq_unopened agrees
      rw [absent found, idle]
      exact kept
  | some state =>
      rw [found] at agrees
      cases closed : state.settled with
      | true =>
          rw [settled state found closed, Phase.next_of_settled _ agrees closed]
          exact kept
      | false =>
          obtain ⟨current, node, seq⟩ := Phase.eq_opened agrees closed
          exact opened state found closed current node seq

theorem releaseFunds_moves (handle : EscrowHandle) (proof : ProofOfInference)
    (agrees : (channel.state? handle.requestId).map ChannelState.account = phase.account) :
    Moves channel (releaseFunds handle proof channel).2 handle.requestId phase
      (phase.next (.releaseFunds handle proof)) := by
  apply Moves.of_opened _ agrees rfl
  · intro found
    rw [releaseFunds_absent proof found]
  · intro state found settled
    rw [releaseFunds_settled proof found settled]
  · rintro state found unsettled rfl node seq
    by_cases covered : proof.pricePaidNanox ≤ state.balanceClient
    · rw [releaseFunds_paid found unsettled (UInt64.not_lt.mpr covered), Phase.next, dif_pos covered]
      refine .insert _ proof.pricePaidNanox _ ?_ rfl ?_
      · simp [ChannelState.pay, ChannelState.account, Phase.account, node, seq]
      · simp [Phase.paid]
    · rw [releaseFunds_short found unsettled (UInt64.not_le.mp covered), Phase.next, dif_neg covered]
      exact .stay agrees

theorem refundFunds_moves (handle : EscrowHandle)
    (agrees : (channel.state? handle.requestId).map ChannelState.account = phase.account) :
    Moves channel (refundFunds handle channel).2 handle.requestId phase
      (phase.next (.refundFunds handle)) := by
  apply Moves.of_opened _ agrees rfl
  · intro found
    rw [refundFunds_absent found]
  · intro state found settled
    rw [refundFunds_settled found settled]
  · rintro state found unsettled rfl node seq
    rw [refundFunds_closed found unsettled]
    refine .insert _ 0 _ ?_ (UInt64.add_zero _).symm rfl
    simp [Phase.next, ChannelState.close, ChannelState.account, Phase.account, node, seq]

theorem step_moves (call : Call)
    (agrees : (channel.state? call.requestId).map ChannelState.account = phase.account) :
    Moves channel (step channel call) call.requestId phase (phase.next call) := by
  cases call with
  | lockFunds openedAt params => exact lockFunds_moves openedAt params agrees
  | releaseFunds handle proof => exact releaseFunds_moves handle proof agrees
  | refundFunds handle => exact refundFunds_moves handle agrees

end

theorem step_follows {channel : PaymentChannel} {phases : RequestId → Phase}
    (follows : Follows channel phases) (call : Call) :
    Follows (step channel call) (advance phases call) := by
  have moves := step_moves call (follows call.requestId)
  intro requestId
  by_cases same : requestId = call.requestId
  · subst same
    rw [moves.account, advance, Function.update_self]
  · rw [moves.others requestId same, advance, Function.update_of_ne same, follows requestId]

/-- The settled total counts what the phases paid, over any set that contains the
request ids touched so far. -/
def Counts (channel : PaymentChannel) (phases : RequestId → Phase) (ids : Finset RequestId) : Prop :=
  channel.totalSettledNanox.toNat = (∑ requestId ∈ ids, (phases requestId).paid.toNat) % 2 ^ 64

theorem step_counts {channel : PaymentChannel} {phases : RequestId → Phase}
    {ids : Finset RequestId} (follows : Follows channel phases) (counts : Counts channel phases ids)
    {call : Call} (member : call.requestId ∈ ids) :
    Counts (step channel call) (advance phases call) ids := by
  have moves := step_moves call (follows call.requestId)
  obtain ⟨gain, added, paid⟩ := moves.total
  have changed := Ledger.sum_update ids phases (fun phase => phase.paid.toNat) call.requestId
    ((phases call.requestId).next call) member
  rw [Counts] at counts ⊢
  rw [added, UInt64.toNat_add, counts, Nat.mod_add_mod]
  simp only [advance]
  congr 1
  omega

theorem follows_run (history : List Call) {channel : PaymentChannel}
    {phases : RequestId → Phase} {ids : Finset RequestId} (follows : Follows channel phases)
    (counts : Counts channel phases ids) (inside : ∀ call ∈ history, call.requestId ∈ ids) :
    Follows (Runs.run step channel history) (history.foldl advance phases) ∧
      Counts (Runs.run step channel history) (history.foldl advance phases) ids := by
  induction history generalizing channel phases with
  | nil => exact ⟨follows, counts⟩
  | cons call rest ih =>
      have member := inside call (List.mem_cons_self ..)
      exact ih (step_follows follows call) (step_counts follows counts member)
        fun later mem => inside later (List.mem_cons_of_mem _ mem)

theorem Phase.next_of_released {phase : Phase} (call : Call) (released : phase.isReleased = true) :
    phase.next call = phase := by
  cases phase with
  | unopened => simp [Phase.isReleased] at released
  | opened _ => simp [Phase.isReleased] at released
  | released _ _ _ => rfl
  | refunded _ => simp [Phase.isReleased] at released

theorem isSettled_eq {channel : PaymentChannel} {requestId : RequestId} {phase : Phase}
    (agrees : (channel.state? requestId).map ChannelState.account = phase.account) :
    channel.isSettled requestId = phase.isSettled := by
  have settled : channel.isSettled requestId =
      (((channel.state? requestId).map ChannelState.account).map Account.settled).getD false := by
    rw [PaymentChannel.isSettled, Option.map_map]
    rfl
  rw [settled, agrees]
  cases phase with
  | unopened => rfl
  | opened _ => rfl
  | released _ _ _ => rfl
  | refunded _ => rfl

theorem Phase.release_settles (phase : Phase) (handle : EscrowHandle) (proof : ProofOfInference) :
    (phase.isSettled = false ∧ (phase.next (.releaseFunds handle proof)).isSettled = true) ↔
      (phase.isReleased = false ∧
        (phase.next (.releaseFunds handle proof)).isReleased = true) := by
  cases phase with
  | unopened => simp [Phase.next, Phase.isSettled, Phase.isReleased]
  | opened amount =>
      by_cases covered : proof.pricePaidNanox ≤ amount
      · simp [Phase.next, Phase.isSettled, Phase.isReleased, covered]
      · simp [Phase.next, Phase.isSettled, Phase.isReleased, covered]
  | released _ _ _ => simp [Phase.isSettled, Phase.isReleased]
  | refunded _ => simp [Phase.next, Phase.isSettled, Phase.isReleased]

theorem releaseOf_eq {channel : PaymentChannel} {phases : RequestId → Phase}
    (follows : Follows channel phases) (call : Call) (requestId : RequestId) :
    releaseOf channel call = some requestId ↔
      (phases requestId).isReleased = false ∧ (advance phases call requestId).isReleased = true := by
  have settledBefore := isSettled_eq (follows call.requestId)
  have settledAfter := isSettled_eq (step_moves call (follows call.requestId)).account
  by_cases same : requestId = call.requestId
  · subst same
    rw [advance, Function.update_self]
    cases call with
    | lockFunds openedAt params =>
        cases found : phases params.requestId <;>
          simp [releaseOf, Call.requestId, found, Phase.next, Phase.isReleased]
    | releaseFunds handle proof =>
        simp only [Call.requestId] at settledBefore settledAfter ⊢
        simp [releaseOf, settledBefore, settledAfter, Phase.release_settles]
    | refundFunds handle =>
        cases found : phases handle.requestId <;>
          simp [releaseOf, Call.requestId, found, Phase.next, Phase.isReleased]
  · rw [advance, Function.update_of_ne same]
    have different : releaseOf channel call ≠ some requestId := by
      intro found
      cases call with
      | lockFunds openedAt params => simp [releaseOf] at found
      | releaseFunds handle proof =>
          simp only [releaseOf, Option.ite_none_right_eq_some, Option.some.injEq] at found
          exact same found.2.symm
      | refundFunds handle => simp [releaseOf] at found
    simp [different]

theorem isReleased_advance {phases : RequestId → Phase} (call : Call) {requestId : RequestId}
    (released : (phases requestId).isReleased = true) :
    advance phases call requestId = phases requestId := by
  by_cases same : requestId = call.requestId
  · subst same
    rw [advance, Function.update_self, Phase.next_of_released call released]
  · rw [advance, Function.update_of_ne same]

theorem isReleased_foldl (history : List Call) {phases : RequestId → Phase}
    {requestId : RequestId} (released : (phases requestId).isReleased = true) :
    (history.foldl advance phases requestId).isReleased = true := by
  induction history generalizing phases with
  | nil => exact released
  | cons call rest ih => exact ih (by rw [isReleased_advance call released, released])

/-- A request id is released at most once in a run, and it is one of the released
ones exactly when its phase became so in that run. -/
theorem releases_spec (history : List Call) {channel : PaymentChannel}
    {phases : RequestId → Phase} (follows : Follows channel phases) :
    (releases channel history).Nodup ∧
      ∀ requestId, requestId ∈ releases channel history ↔
        (phases requestId).isReleased = false ∧
          (history.foldl advance phases requestId).isReleased = true := by
  induction history generalizing channel phases with
  | nil =>
      constructor
      · exact List.nodup_nil
      · intro requestId
        simp [releases]
  | cons call rest ih =>
      obtain ⟨distinct, members⟩ := ih (step_follows follows call)
      have head := releaseOf_eq follows call
      constructor
      · refine List.Nodup.append ?_ distinct ?_
        · cases releaseOf channel call <;> simp
        · intro requestId first later
          have now := (head requestId).mp (Option.mem_toList.mp first)
          have again := (members requestId).mp later
          simp [now.2] at again
      · intro requestId
        rw [releases, List.mem_append, Option.mem_toList, head, members,
          List.foldl_cons]
        cases before : (phases requestId).isReleased with
        | true => simp [isReleased_advance call before, before]
        | false =>
            cases middle : (advance phases call requestId).isReleased with
            | true => simp [isReleased_foldl rest middle]
            | false => simp

theorem nodeBalance_eq {channel : PaymentChannel} {requestId : RequestId} {phase : Phase}
    (agrees : (channel.state? requestId).map ChannelState.account = phase.account) :
    channel.nodeBalance requestId = phase.paid.toNat := by
  have balance : channel.nodeBalance requestId =
      (((channel.state? requestId).map ChannelState.account).map
        fun account => account.balanceNode.toNat).getD 0 := by
    rw [PaymentChannel.nodeBalance, Option.map_map]
    rfl
  rw [balance, agrees]
  cases phase with
  | unopened => rfl
  | opened _ => rfl
  | released _ _ _ => rfl
  | refunded _ => rfl

theorem Phase.paid_of_unreleased {phase : Phase} (unreleased : phase.isReleased = false) :
    phase.paid.toNat = 0 := by
  cases phase with
  | unopened => rfl
  | opened _ => rfl
  | released _ _ _ => simp [Phase.isReleased] at unreleased
  | refunded _ => rfl

theorem Phase.conserved {phase : Phase} {state : ChannelState}
    (agrees : some state.account = phase.account) :
    ∃ amount, phase.locked = some amount ∧
      state.balanceClient.toNat + state.balanceNode.toNat = amount.toNat := by
  cases phase with
  | unopened => simp [Phase.account] at agrees
  | opened amount =>
      obtain ⟨client, node, -⟩ : state.balanceClient = amount ∧ state.balanceNode = 0 ∧ _ := by
        simpa [ChannelState.account, Phase.account] using agrees
      exact ⟨amount, rfl, by simp [client, node]⟩
  | released amount cost covered =>
      obtain ⟨client, node, -⟩ : state.balanceClient = amount - cost ∧
          state.balanceNode = cost ∧ _ := by
        simpa [ChannelState.account, Phase.account] using agrees
      have bound := UInt64.le_iff_toNat_le.mp covered
      refine ⟨amount, rfl, ?_⟩
      rw [client, node, UInt64.toNat_sub_of_le _ _ covered]
      omega
  | refunded amount =>
      obtain ⟨client, node, -⟩ : state.balanceClient = amount ∧ state.balanceNode = 0 ∧ _ := by
        simpa [ChannelState.account, Phase.account] using agrees
      exact ⟨amount, rfl, by simp [client, node]⟩

theorem Phase.locked_next (phase : Phase) (call : Call) :
    (phase.next call).locked = phase.locked.or (lockedAmount call.requestId [call]) := by
  cases phase with
  | unopened => cases call <;> simp [Phase.next, Phase.locked, lockedAmount, Call.requestId]
  | opened amount =>
      cases call with
      | lockFunds openedAt params => rfl
      | releaseFunds handle proof =>
          by_cases covered : proof.pricePaidNanox ≤ amount
          · simp [Phase.next, Phase.locked, covered]
          · simp [Phase.next, Phase.locked, covered]
      | refundFunds handle => rfl
  | released _ _ _ => rfl
  | refunded _ => rfl

theorem lockedAmount_cons (requestId : RequestId) (call : Call) (rest : List Call) :
    lockedAmount requestId (call :: rest) =
      (lockedAmount requestId [call]).or (lockedAmount requestId rest) := by
  simp only [lockedAmount, List.findSome?_cons, List.findSome?_nil]
  split <;> simp

theorem lockedAmount_other {requestId : RequestId} {call : Call}
    (different : requestId ≠ call.requestId) : lockedAmount requestId [call] = none := by
  cases call with
  | lockFunds openedAt params => simpa [lockedAmount, Call.requestId] using different.symm
  | releaseFunds handle proof => rfl
  | refundFunds handle => rfl

theorem locked_foldl (history : List Call) (phases : RequestId → Phase) (requestId : RequestId) :
    (history.foldl advance phases requestId).locked =
      (phases requestId).locked.or (lockedAmount requestId history) := by
  induction history generalizing phases with
  | nil => simp [lockedAmount]
  | cons call rest ih =>
      rw [List.foldl_cons, ih, lockedAmount_cons, ← Option.or_assoc]
      by_cases same : requestId = call.requestId
      · subst same
        rw [advance, Function.update_self, Phase.locked_next]
      · rw [advance, Function.update_of_ne same, lockedAmount_other same, Option.or_none]

theorem new_follows : Follows .new fun _ => .unopened := by
  intro requestId
  simp [PaymentChannel.state?, PaymentChannel.new, Phase.account]

theorem step_of_error {channel : PaymentChannel} {call : Call} {error : Error}
    (failed : (perform channel call).1 = .error error) : step channel call = channel := by
  cases found : channel.state? call.requestId with
  | none =>
      cases call with
      | lockFunds openedAt params =>
          have absent : params.requestId.toText ∉ channel.channels := AList.lookup_eq_none.mp found
          simp [perform, lockFunds, absent, Except.map] at failed
      | releaseFunds handle proof => exact congrArg Prod.snd (releaseFunds_absent proof found)
      | refundFunds handle => exact congrArg Prod.snd (refundFunds_absent found)
  | some state =>
      cases call with
      | lockFunds openedAt params => exact congrArg Prod.snd (lockFunds_present openedAt found)
      | releaseFunds handle proof =>
          cases settled : state.settled with
          | true => exact congrArg Prod.snd (releaseFunds_settled proof found settled)
          | false =>
              by_cases short : state.balanceClient < proof.pricePaidNanox
              · exact congrArg Prod.snd (releaseFunds_short found settled short)
              · simp [perform, releaseFunds_paid found settled short, Except.map] at failed
      | refundFunds handle =>
          cases settled : state.settled with
          | true => exact congrArg Prod.snd (refundFunds_settled found settled)
          | false => simp [perform, refundFunds_closed found settled, Except.map] at failed

theorem perform_settled {channel : PaymentChannel} {call : Call} {state : ChannelState}
    (found : channel.state? call.requestId = some state) (settled : state.settled = true)
    (closes : call.closes = true) : perform channel call = (.ok none, channel) := by
  cases call with
  | lockFunds openedAt params => simp [Call.closes] at closes
  | releaseFunds handle proof =>
      simp [perform, releaseFunds_settled proof found settled, Except.map]
  | refundFunds handle => simp [perform, refundFunds_settled found settled, Except.map]

theorem step_settled {channel : PaymentChannel} {phases : RequestId → Phase}
    (follows : Follows channel phases) (call : Call) {requestId : RequestId} {state : ChannelState}
    (found : channel.state? requestId = some state) (settled : state.settled = true) :
    (step channel call).state? requestId = some state := by
  by_cases same : requestId = call.requestId
  · subst same
    cases call with
    | lockFunds openedAt params =>
        have kept := congrArg Prod.snd (lockFunds_present openedAt found)
        exact (congrArg (·.state? params.requestId) kept).trans found
    | releaseFunds handle proof => rw [step, perform_settled found settled rfl, found]
    | refundFunds handle => rw [step, perform_settled found settled rfl, found]
  · rw [(step_moves call (follows call.requestId)).others requestId same, found]

theorem settled_run (later : List Call) {channel : PaymentChannel}
    {phases : RequestId → Phase} (follows : Follows channel phases) {requestId : RequestId}
    {state : ChannelState} (found : channel.state? requestId = some state)
    (settled : state.settled = true) : (Runs.run step channel later).state? requestId = some state := by
  induction later generalizing channel phases with
  | nil => exact found
  | cons call rest ih =>
      exact ih (step_follows follows call) (step_settled follows call found settled)

/-- In every run from an empty map of channels: what is locked for a request is
split between client and node; a settled channel never changes again; a failed call
changes nothing; and the total counts each released channel once. -/
theorem channel_conserved (history : List Call) :
    let channel := Runs.run step .new history
    (∀ requestId state, channel.state? requestId = some state →
      ∃ amount, lockedAmount requestId history = some amount ∧
        state.balanceClient.toNat + state.balanceNode.toNat = amount.toNat) ∧
      (∀ requestId state, channel.state? requestId = some state → state.settled = true →
        (∀ later, (Runs.run step channel later).state? requestId = some state) ∧
          ∀ call, call.requestId = requestId → call.closes = true →
            perform channel call = (.ok none, channel)) ∧
      (∀ call error, (perform channel call).1 = .error error → step channel call = channel) ∧
      (releases .new history).Nodup ∧
      channel.totalSettledNanox.toNat =
        ((releases .new history).map channel.nodeBalance).sum % 2 ^ 64 := by
  intro channel
  obtain ⟨distinct, members⟩ := releases_spec history new_follows
  let paid := (releases .new history).toFinset
  let ids := (history.map Call.requestId).toFinset ∪ paid
  have inside : ∀ call ∈ history, call.requestId ∈ ids := by
    intro call member
    exact Finset.mem_union_left _ (List.mem_toFinset.mpr (List.mem_map_of_mem member))
  have start : Counts .new (fun _ => Phase.unopened) ids := by
    simp [Counts, PaymentChannel.new, Phase.paid]
  obtain ⟨follows, counts⟩ := follows_run history new_follows start inside
  refine ⟨?_, ?_, ?_, distinct, ?_⟩
  · intro requestId state found
    have agrees := follows requestId
    rw [found] at agrees
    obtain ⟨amount, locked, split⟩ := Phase.conserved agrees
    rw [locked_foldl] at locked
    exact ⟨amount, locked, split⟩
  · intro requestId state found settled
    refine ⟨fun later => settled_run later follows found settled, ?_⟩
    rintro call rfl closes
    exact perform_settled found settled closes
  · intro call error failed
    exact step_of_error failed
  · -- Only released request ids were paid, so the other ones add nothing.
    have balances : ∑ requestId ∈ paid, channel.nodeBalance requestId =
        ∑ requestId ∈ ids, (phasesAfter history requestId).paid.toNat := by
      rw [Finset.sum_congr rfl fun requestId _ => nodeBalance_eq (follows requestId)]
      apply Finset.sum_subset Finset.subset_union_right
      intro requestId _ absent
      apply Phase.paid_of_unreleased
      rw [List.mem_toFinset, members] at absent
      simpa [Phase.isReleased] using absent
    rw [counts, ← List.sum_toFinset _ distinct, balances, phasesAfter]

end Pinaivu.Channel
