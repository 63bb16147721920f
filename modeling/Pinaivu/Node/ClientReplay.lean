import Pinaivu.Node.ApiProofs
import Pinaivu.Node.X402Replay
import Pinaivu.Persistence.NonceStore

/-!
The replay check of `/v1/chat/completions` and `/v1/infer` over a run of client requests:
every arrival that reaches the check draws a request id of its own, and it is this id that
the nonce store remembers.
-/

namespace Pinaivu.Api

open Nonce X402

inductive ClientRequest where
  | chat (headers : InferHeaders) (body : ChatCompletionRequest)
  | infer (headers : InferHeaders) (body : InferRequest)

/-- A request at a time in milliseconds. Its circumstances hold the id that the node
draws for it, `rpc` answers the payment check. -/
structure Arrival where
  nowMs : UInt64
  request : ClientRequest
  rpc : String → Except String JsonText.Json
  circumstances : Circumstances

def replayWindowSecs : UInt64 := 300

def Arrival.drawn (arrival : Arrival) : Uuid := arrival.circumstances.requestId

def Arrival.check (arrival : Arrival) : Check := ⟨arrival.nowMs, arrival.drawn, replayWindowSecs⟩

structure Gateway (SigningKey : Type) where
  lower : String → String
  base64 : List Char → Option ByteArray
  x402 : X402Section
  apiKey : String
  scheme : Ed25519 SigningKey
  sha256 : ByteArray → Vector UInt8 32
  node : NodeState SigningKey

inductive Answer where
  | gate (error : GateError)
  | handler (response : ApiResponse)

namespace Gateway

variable {SigningKey : Type} (gateway : Gateway SigningKey)

def passGate (arrival : Arrival) : Except GateError String :=
  match arrival.request with
  | .chat headers _ => if checkApiKey headers gateway.apiKey then .ok "" else .error .unauthorized
  | .infer headers _ =>
      inferGate gateway.lower gateway.base64 gateway.x402 gateway.apiKey ⟨headers, arrival.rpc⟩

/-- A request for a peer leaves the handler before the check. -/
def reachesCheck (arrival : Arrival) : Bool :=
  (gateway.passGate arrival).isOk &&
    match arrival.request with
    | .chat _ _ => true
    | .infer _ body => body.peerId.isNone

def handle (circumstances : Circumstances) : ClientRequest → Outcome
  | .chat _ body => chatCompletions gateway.scheme gateway.sha256 gateway.node circumstances body
  | .infer _ body => Api.infer gateway.scheme gateway.sha256 gateway.node circumstances body

def step (store : InMemoryNonceStore) (arrival : Arrival) : InMemoryNonceStore :=
  if gateway.reachesCheck arrival then store.step arrival.check else store

def answer (store : InMemoryNonceStore) (arrival : Arrival) : Answer :=
  match gateway.passGate arrival with
  | .error error => .gate error
  | .ok _ =>
      let circumstances := { arrival.circumstances with replayed := store.replayed arrival.check }
      .handler (gateway.handle circumstances arrival.request).response

/-- Among these arrivals the node drew the same id less than the window ago. -/
def drawnBefore (recorded : List Arrival) (arrival : Arrival) : Bool :=
  recorded.any fun earlier => earlier.drawn == arrival.drawn && arrival.nowMs < earlier.check.expiry

def record (recorded : List Arrival) (arrival : Arrival) : List Arrival :=
  if gateway.reachesCheck arrival && !drawnBefore recorded arrival then recorded ++ [arrival] else recorded

def recorded (arrivals : List Arrival) : List Arrival := Runs.run gateway.record [] arrivals

end Gateway

theorem serveTracked_not_replay {SigningKey : Type} (scheme : Ed25519 SigningKey)
    (sha256 : ByteArray → Vector UInt8 32) (node : NodeState SigningKey) (circumstances : Circumstances)
    (call : EngineCall) (fallbackFrom : Option String) (wanted : Option (List String)) (proofModel : String)
    (amountNanox : NanoX) {respond : List String → Option ReceiptInfo → ApiResponse}
    (answers : ∀ tokens receipt, respond tokens receipt ≠ .replay) :
    (serveTracked scheme sha256 node circumstances call fallbackFrom wanted proofModel amountNanox
      respond).response ≠ .replay := by
  rw [serveTracked]
  split
  · intro same
    cases same
  · exact answers _ _

section

variable {SigningKey : Type} (scheme : Ed25519 SigningKey) (sha256 : ByteArray → Vector UInt8 32)
variable (node : NodeState SigningKey) (circumstances : Circumstances)

theorem chat_replay_iff (body : ChatCompletionRequest) :
    (chatCompletions scheme sha256 node circumstances body).response = .replay ↔ circumstances.replayed = true := by
  rw [chatCompletions]
  split
  · rename_i replayed
    simp [replayed]
  · rename_i fresh
    split
    · simp [fresh]
    · refine iff_of_false ?_ fresh
      apply serveTracked_not_replay
      intro tokens receipt
      split <;> simp

theorem inferLocally_replay_iff (body : InferRequest) :
    (inferLocally scheme sha256 node circumstances body).response = .replay ↔ circumstances.replayed = true := by
  rw [inferLocally]
  split
  · rename_i replayed
    simp [replayed]
  · rename_i fresh
    split
    · simp [fresh]
    · refine iff_of_false ?_ fresh
      apply serveTracked_not_replay
      simp

theorem inferViaP2p_not_replay (body : InferRequest) (peerId : String) :
    (inferViaP2p scheme sha256 node circumstances body peerId).response ≠ .replay := by
  rw [inferViaP2p]
  split
  · simp
  · split <;> simp

end

section

variable {SigningKey : Type} {gateway : Gateway SigningKey}

open Gateway

theorem answer_replay_iff (store : InMemoryNonceStore) (arrival : Arrival) :
    gateway.answer store arrival = .handler .replay ↔
      gateway.reachesCheck arrival = true ∧ store.replayed arrival.check = true := by
  rw [answer, reachesCheck]
  cases gate : gateway.passGate arrival with
  | error error => simp [Except.isOk, Except.toBool]
  | ok payer =>
      cases request : arrival.request with
      | chat headers body => simp [handle, chat_replay_iff, Except.isOk, Except.toBool]
      | infer headers body =>
          cases peer : body.peerId with
          | none => simp [handle, Api.infer, peer, inferLocally_replay_iff, Except.isOk, Except.toBool]
          | some peerId => simp [handle, Api.infer, peer, inferViaP2p_not_replay, Except.isOk, Except.toBool]

def Mirrors (clock : UInt64) (store : InMemoryNonceStore) (kept : List Arrival) : Prop :=
  ∀ id now, clock ≤ now →
    ((∃ expiry, store.expiryOf id = some expiry ∧ now < expiry) ↔
      ∃ earlier ∈ kept, earlier.drawn = id ∧ now < earlier.check.expiry)

theorem Mirrors.replayed {clock : UInt64} {store : InMemoryNonceStore} {kept : List Arrival} {arrival : Arrival}
    (mirrors : Mirrors clock store kept) (later : clock ≤ arrival.nowMs) :
    store.replayed arrival.check = drawnBefore kept arrival := by
  rw [Bool.eq_iff_iff, InMemoryNonceStore.replayed_iff]
  refine (mirrors arrival.drawn arrival.nowMs later).trans ?_
  simp [drawnBefore]

theorem live_filter {clock now : UInt64} (later : clock ≤ now) (stored : Option UInt64) :
    (∃ expiry, (stored.filter fun expiry => decide (clock < expiry)) = some expiry ∧ now < expiry) ↔
      ∃ expiry, stored = some expiry ∧ now < expiry := by
  constructor
  · rintro ⟨expiry, found, live⟩
    exact ⟨expiry, (Option.filter_eq_some_iff.mp found).1, live⟩
  · rintro ⟨expiry, found, live⟩
    have kept : decide (clock < expiry) = true := decide_eq_true (UInt64.lt_of_le_of_lt later live)
    exact ⟨expiry, Option.filter_eq_some_iff.mpr ⟨found, kept⟩, live⟩

theorem drawnBefore_of_live {kept : List Arrival} {arrival earlier : Arrival} {now : UInt64}
    (reached : arrival.nowMs ≤ now) (member : earlier ∈ kept) (named : earlier.drawn = arrival.drawn)
    (live : now < earlier.check.expiry) : drawnBefore kept arrival = true := by
  refine List.any_eq_true.mpr ⟨earlier, member, ?_⟩
  simp [named, UInt64.lt_of_le_of_lt reached live]

theorem Mirrors.checked {clock : UInt64} {store : InMemoryNonceStore} {kept : List Arrival} {arrival : Arrival}
    (mirrors : Mirrors clock store kept) (later : clock ≤ arrival.nowMs) :
    Mirrors arrival.nowMs (store.step arrival.check)
      (if drawnBefore kept arrival then kept else kept ++ [arrival]) := by
  have answered := mirrors.replayed later
  intro id now reached
  have before := mirrors id now (UInt64.le_trans later reached)
  by_cases same : arrival.drawn = id
  · subst same
    cases drawn : drawnBefore kept arrival with
    | true =>
        rw [drawn] at answered
        obtain ⟨expiry, stored, live⟩ := (store.replayed_iff _).mp answered
        have unchanged : (store.step arrival.check).expiryOf arrival.drawn = store.expiryOf arrival.drawn :=
          (store.expiryOf_step_replayed stored live).trans stored.symm
        rw [unchanged, before, if_pos rfl]
    | false =>
        rw [drawn] at answered
        have stored : (store.step arrival.check).expiryOf arrival.drawn = some arrival.check.expiry :=
          store.expiryOf_step_fresh answered
        rw [stored, if_neg Bool.false_ne_true]
        constructor
        · rintro ⟨expiry, found, live⟩
          obtain rfl := Option.some.inj found
          exact ⟨arrival, by simp, rfl, live⟩
        · rintro ⟨earlier, member, named, live⟩
          rcases List.mem_append.mp member with old | new
          · rw [drawnBefore_of_live reached old named live] at drawn
            cases drawn
          · rw [List.mem_singleton.mp new] at live
            exact ⟨_, rfl, live⟩
  · have apart : arrival.check.id ≠ id := same
    rw [store.expiryOf_step_other arrival.check apart]
    refine (live_filter reached _).trans (before.trans ?_)
    split
    · rfl
    · simp [or_and_right, exists_or, same]

theorem Mirrors.step {clock : UInt64} {store : InMemoryNonceStore} {kept : List Arrival} {arrival : Arrival}
    (mirrors : Mirrors clock store kept) (later : clock ≤ arrival.nowMs) :
    Mirrors arrival.nowMs (gateway.step store arrival) (gateway.record kept arrival) := by
  rw [Gateway.step, record]
  by_cases checked : gateway.reachesCheck arrival = true
  · rw [if_pos checked, checked, Bool.true_and]
    have after := mirrors.checked later
    cases drawn : drawnBefore kept arrival <;> simpa [drawn] using after
  · rw [if_neg checked, Bool.eq_false_iff.mpr checked, Bool.false_and, if_neg Bool.false_ne_true]
    intro id now reached
    exact mirrors id now (UInt64.le_trans later reached)

theorem mirrors_run {clock : UInt64} {store : InMemoryNonceStore} {kept : List Arrival}
    (mirrors : Mirrors clock store kept) (arrivals : List Arrival)
    (ordered : arrivals.Pairwise fun first second => first.nowMs ≤ second.nowMs)
    (started : ∀ arrival ∈ arrivals, clock ≤ arrival.nowMs) {last : UInt64} (ends : clock ≤ last)
    (bounded : ∀ arrival ∈ arrivals, arrival.nowMs ≤ last) :
    Mirrors last (Runs.run gateway.step store arrivals) (Runs.run gateway.record kept arrivals) := by
  induction arrivals generalizing store kept clock with
  | nil =>
      intro id now reached
      exact mirrors id now (UInt64.le_trans ends reached)
  | cons arrival rest ih =>
      rw [List.pairwise_cons] at ordered
      simp only [List.forall_mem_cons] at started bounded
      exact ih (mirrors.step started.1) ordered.2 ordered.1 bounded.1 bounded.2

theorem mirrors_new : Mirrors 0 InMemoryNonceStore.new [] := by
  intro id now _
  simp [InMemoryNonceStore.expiryOf, InMemoryNonceStore.new, KeyedList.find]

theorem replayed_run {arrivals : List Arrival} {arrival : Arrival}
    (ordered : (arrivals ++ [arrival]).Pairwise fun first second => first.nowMs ≤ second.nowMs) :
    (Runs.run gateway.step InMemoryNonceStore.new arrivals).replayed arrival.check =
      drawnBefore (gateway.recorded arrivals) arrival := by
  obtain ⟨inOrder, -, bounded⟩ := List.pairwise_append.mp ordered
  have mirrors : Mirrors arrival.nowMs (Runs.run gateway.step InMemoryNonceStore.new arrivals)
      (gateway.recorded arrivals) := by
    apply mirrors_run mirrors_new arrivals inOrder
    · exact fun _ _ => UInt64.zero_le
    · exact UInt64.zero_le
    · exact fun earlier member => bounded earlier member arrival (List.mem_singleton.mpr rfl)
  exact mirrors.replayed (UInt64.le_refl _)

end

/-- A byte-identical request within the window. -/
def ResentAs (original resend : Arrival) : Prop :=
  resend.request = original.request ∧ resend.nowMs.toNat < original.nowMs.toNat + 1000 * replayWindowSecs.toNat

/-- Every resend within the window is rejected as a replay exactly when each of them reaches
the check and the node draws an id for it that it has recorded within the window. -/
theorem resends_rejected_iff {SigningKey : Type} (gateway : Gateway SigningKey) (arrivals : List Arrival)
    (ordered : arrivals.Pairwise fun first second => first.nowMs ≤ second.nowMs) :
    (∀ first original middle resend rest, arrivals = first ++ original :: middle ++ resend :: rest →
      ResentAs original resend →
      gateway.answer (Runs.run gateway.step InMemoryNonceStore.new (first ++ original :: middle)) resend =
        .handler .replay) ↔
    ∀ first original middle resend rest, arrivals = first ++ original :: middle ++ resend :: rest →
      ResentAs original resend →
      gateway.reachesCheck resend = true ∧
        ∃ earlier ∈ gateway.recorded (first ++ original :: middle),
          earlier.drawn = resend.drawn ∧ resend.nowMs < earlier.check.expiry := by
  have pointwise : ∀ first original middle resend rest, arrivals = first ++ original :: middle ++ resend :: rest →
      (gateway.answer (Runs.run gateway.step InMemoryNonceStore.new (first ++ original :: middle)) resend =
          .handler .replay ↔
        gateway.reachesCheck resend = true ∧
          ∃ earlier ∈ gateway.recorded (first ++ original :: middle),
            earlier.drawn = resend.drawn ∧ resend.nowMs < earlier.check.expiry) := by
    rintro first original middle resend rest rfl
    have upTo : ((first ++ original :: middle) ++ [resend]).Pairwise
        fun first second => first.nowMs ≤ second.nowMs := by
      refine ordered.sublist ?_
      exact List.Sublist.append_left (List.Sublist.cons_cons resend (List.nil_sublist rest)) _
    rw [answer_replay_iff, replayed_run upTo]
    simp [Gateway.drawnBefore]
  constructor
  · intro rejected first original middle resend rest split resent
    exact (pointwise first original middle resend rest split).mp
      (rejected first original middle resend rest split resent)
  · intro drawn first original middle resend rest split resent
    exact (pointwise first original middle resend rest split).mpr
      (drawn first original middle resend rest split resent)

def openGateway : Gateway Unit where
  lower := id
  base64 := fun _ => none
  x402 := ⟨false, "", 0, "base", "", ""⟩
  apiKey := ""
  scheme := oneMessage ByteArray.empty
  sha256 := fun _ => Vector.replicate 32 0
  node := sampleNode []

/-- The same chat request each time; the node draws an id of this byte. -/
def chatArrival (nowMs : UInt64) (byte : UInt8) : Arrival where
  nowMs := nowMs
  request := .chat ⟨none, none, none⟩ sampleChat
  rpc := fun _ => .error ""
  circumstances := { sampleCircumstances [] with requestId := ⟨Vector.replicate 16 byte⟩ }

theorem split_pair {Item : Type} {first middle rest : List Item} {one two a b : Item}
    (split : [one, two] = first ++ a :: middle ++ b :: rest) : first = [] ∧ middle = [] ∧ a = one ∧ b = two := by
  have lengths := congrArg List.length split
  simp only [List.length_cons, List.length_append, List.length_nil] at lengths
  have noFirst : first = [] := List.eq_nil_of_length_eq_zero (by omega)
  have noMiddle : middle = [] := List.eq_nil_of_length_eq_zero (by omega)
  subst noFirst noMiddle
  simp only [List.nil_append, List.cons_append, List.cons.injEq] at split
  exact ⟨rfl, rfl, split.1.symm, split.2.1.symm⟩

theorem resends_rejected_same_draw :
    openGateway.answer (Runs.run openGateway.step InMemoryNonceStore.new [chatArrival 1000 1]) (chatArrival 2000 1) =
      .handler .replay := by
  have rejected := (resends_rejected_iff openGateway [chatArrival 1000 1, chatArrival 2000 1] (by decide)).mpr
  refine rejected ?_ [] (chatArrival 1000 1) [] (chatArrival 2000 1) [] rfl ⟨rfl, by decide⟩
  intro first original middle resend rest split _
  obtain ⟨rfl, rfl, rfl, rfl⟩ := split_pair split
  exact ⟨rfl, chatArrival 1000 1, List.mem_singleton.mpr rfl, rfl, by decide⟩

/-- A retry after one second is served a second time. -/
theorem resend_served :
    ¬∀ first original middle resend rest,
      [chatArrival 1000 1, chatArrival 2000 2] = first ++ original :: middle ++ resend :: rest →
      ResentAs original resend →
      openGateway.answer (Runs.run openGateway.step InMemoryNonceStore.new (first ++ original :: middle)) resend =
        .handler .replay := by
  intro rejected
  have answered := rejected [] _ [] _ [] rfl ⟨rfl, by decide⟩
  have fresh : (Runs.run openGateway.step InMemoryNonceStore.new [chatArrival 1000 1]).replayed
      (chatArrival 2000 2).check = false := by decide
  rw [answer_replay_iff, List.nil_append, fresh] at answered
  exact Bool.false_ne_true answered.2

end Pinaivu.Api
