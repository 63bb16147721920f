import Pinaivu.Lib.KeyedList
import Pinaivu.Lib.Runs
import Pinaivu.Node.AdapterLoading

/-!
`crates/persistence/src/peer.rs`: the peers that announced themselves less than a time to live ago. Expired
entries are hidden from every reader and dropped by the sweep.
-/

namespace Pinaivu.PeerStore

open Inference Node

structure Entry where
  caps : NodeCapabilities
  lastSeenMs : UInt64

def Entry.peerId (entry : Entry) : NodePeerId := entry.caps.peerId

structure InMemoryPeerStore where
  inner : List Entry
  ttlMs : UInt64
  unique : (inner.map Entry.peerId).Nodup

inductive Call where
  | upsert (caps : NodeCapabilities) (now : UInt64)
  | get (peerId : NodePeerId) (now : UInt64)
  | all (now : UInt64)
  | evictExpired (now : UInt64)

inductive Answer where
  | found (caps : Option NodeCapabilities)
  | listed (peers : List NodeCapabilities)

def saturatingSub (first second : UInt64) : UInt64 := UInt64.ofNat (first.toNat - second.toNat)

namespace InMemoryPeerStore

def new (ttlMs : UInt64) : InMemoryPeerStore := ⟨[], ttlMs, List.nodup_nil⟩

variable (store : InMemoryPeerStore)

def isLive (entry : Entry) (now : UInt64) : Bool := saturatingSub now entry.lastSeenMs < store.ttlMs

def upsert (caps : NodeCapabilities) (now : UInt64) : InMemoryPeerStore where
  inner := KeyedList.upsert Entry.peerId ⟨caps, now⟩ store.inner
  ttlMs := store.ttlMs
  unique := KeyedList.upsert_nodup _ store.unique

def get (peerId : NodePeerId) (now : UInt64) : Option NodeCapabilities :=
  ((KeyedList.find Entry.peerId peerId store.inner).filter fun entry => store.isLive entry now).map Entry.caps

def all (now : UInt64) : List NodeCapabilities :=
  (store.inner.filter fun entry => store.isLive entry now).map Entry.caps

def evictExpired (now : UInt64) : InMemoryPeerStore where
  inner := store.inner.filter fun entry => decide (saturatingSub now entry.lastSeenMs < store.ttlMs)
  ttlMs := store.ttlMs
  unique := KeyedList.retain_nodup _ store.unique

end InMemoryPeerStore

open InMemoryPeerStore

def step (store : InMemoryPeerStore) : Call → InMemoryPeerStore
  | .upsert caps now => store.upsert caps now
  | .evictExpired now => store.evictExpired now
  | .get _ _ | .all _ => store

def answer (store : InMemoryPeerStore) : Call → List Answer
  | .get peerId now => [.found (store.get peerId now)]
  | .all now => [.listed (store.all now)]
  | .upsert _ _ | .evictExpired _ => []

def Call.time : Call → Nat
  | .upsert _ now | .get _ now | .all now | .evictExpired now => now.toNat

def Call.isVisible : Call → Bool
  | .evictExpired _ => false
  | .upsert _ _ | .get _ _ | .all _ => true

def Ordered (calls : List Call) : Prop := (calls.map Call.time).Pairwise (· ≤ ·)

abbrev Announced := NodePeerId → Option Entry

def record (last : Announced) : Call → Announced
  | .upsert caps now => Function.update last caps.peerId (some ⟨caps, now⟩)
  | .get _ _ | .all _ | .evictExpired _ => last

def lastUpsert (calls : List Call) : Announced := Runs.run record (fun _ => none) calls

def live (ttlMs now : UInt64) (last : Option Entry) : Option NodeCapabilities :=
  last.bind fun entry => if now.toNat - entry.lastSeenMs.toNat < ttlMs.toNat then some entry.caps else none

theorem isLive_iff (store : InMemoryPeerStore) (entry : Entry) (now : UInt64) :
    store.isLive entry now = true ↔ now.toNat - entry.lastSeenMs.toNat < store.ttlMs.toNat := by
  have bound := now.toNat_lt
  have age : (saturatingSub now entry.lastSeenMs).toNat = now.toNat - entry.lastSeenMs.toNat :=
    UInt64.toNat_ofNat_of_lt' (Nat.lt_of_le_of_lt (Nat.sub_le _ _) bound)
  rw [isLive, decide_eq_true_eq, UInt64.lt_iff_toNat_lt, age]

structure Follows (ttlMs : UInt64) (clock : Nat) (store : InMemoryPeerStore) (last : Announced) : Prop where
  ttl : store.ttlMs = ttlMs
  kept : ∀ peerId, KeyedList.find Entry.peerId peerId store.inner = last peerId ∨
    KeyedList.find Entry.peerId peerId store.inner = none ∧
      ∃ entry, last peerId = some entry ∧ ttlMs.toNat ≤ clock - entry.lastSeenMs.toNat

theorem follows_new (ttlMs : UInt64) : Follows ttlMs 0 (new ttlMs) (fun _ => none) :=
  ⟨rfl, fun _ => Or.inl rfl⟩

section

variable {ttlMs : UInt64} {clock : Nat} {store : InMemoryPeerStore} {last : Announced}

theorem Follows.later (follows : Follows ttlMs clock store last) {time : Nat} (order : clock ≤ time) :
    Follows ttlMs time store last := by
  refine ⟨follows.ttl, ?_⟩
  intro peerId
  rcases follows.kept peerId with same | ⟨absent, entry, put, expired⟩
  · exact Or.inl same
  · exact Or.inr ⟨absent, entry, put, by omega⟩

theorem Follows.step (follows : Follows ttlMs clock store last) {call : Call} (order : clock ≤ call.time) :
    Follows ttlMs call.time (step store call) (record last call) := by
  have current := follows.later order
  cases call with
  | get peerId now => exact current
  | all now => exact current
  | upsert caps now =>
      refine ⟨current.ttl, ?_⟩
      intro peerId
      by_cases same : peerId = caps.peerId
      · left
        subst same
        rw [record, Function.update_self]
        exact @KeyedList.find_upsert_self _ _ _ Entry.peerId ⟨caps, now⟩ store.inner
      · have other : KeyedList.find Entry.peerId peerId (store.upsert caps now).inner =
            KeyedList.find Entry.peerId peerId store.inner :=
          @KeyedList.find_upsert_other _ _ _ Entry.peerId ⟨caps, now⟩ peerId same store.inner
        rw [record, Function.update_of_ne same, PeerStore.step, other]
        exact current.kept peerId
  | evictExpired now =>
      refine ⟨current.ttl, ?_⟩
      intro peerId
      have retained : KeyedList.find Entry.peerId peerId (store.evictExpired now).inner =
          (KeyedList.find Entry.peerId peerId store.inner).filter fun entry => store.isLive entry now :=
        KeyedList.find_retain _ store.unique peerId
      rw [record, PeerStore.step, retained]
      rcases current.kept peerId with same | ⟨absent, expired⟩
      · rw [same]
        cases put : last peerId with
        | none => exact Or.inl rfl
        | some entry =>
            cases alive : store.isLive entry now with
            | true => exact Or.inl (Option.filter_some_pos alive)
            | false =>
                right
                refine ⟨Option.filter_some_neg alive, entry, rfl, ?_⟩
                have expired := isLive_iff store entry now
                rw [alive, current.ttl] at expired
                exact Nat.le_of_not_lt fun fresh => Bool.noConfusion (expired.mpr fresh)
      · right
        rw [absent]
        exact ⟨rfl, expired⟩

theorem Follows.get (follows : Follows ttlMs clock store last) (peerId : NodePeerId) {now : UInt64}
    (order : clock ≤ now.toNat) : store.get peerId now = live ttlMs now (last peerId) := by
  rcases follows.kept peerId with same | ⟨absent, entry, put, expired⟩
  · rw [InMemoryPeerStore.get, same]
    cases last peerId with
    | none => rfl
    | some entry =>
        have alive := isLive_iff store entry now
        rw [follows.ttl] at alive
        by_cases fresh : now.toNat - entry.lastSeenMs.toNat < ttlMs.toNat
        · simp [live, fresh, Option.filter, alive.mpr fresh]
        · have hidden : store.isLive entry now = false := by
            rw [← Bool.not_eq_true, alive]
            exact fresh
          simp [live, fresh, Option.filter, hidden]
  · have old : ¬now.toNat - entry.lastSeenMs.toNat < ttlMs.toNat := by omega
    rw [InMemoryPeerStore.get, absent, put, live, Option.bind_some, if_neg old]
    rfl

theorem all_nodup (store : InMemoryPeerStore) (now : UInt64) :
    ((store.all now).map NodeCapabilities.peerId).Nodup := by
  have rows := KeyedList.retain_nodup (fun entry => store.isLive entry now) store.unique
  rw [InMemoryPeerStore.all, List.map_map]
  exact rows

theorem mem_all_iff (store : InMemoryPeerStore) (now : UInt64) (caps : NodeCapabilities) :
    caps ∈ store.all now ↔ store.get caps.peerId now = some caps := by
  constructor
  · intro listed
    obtain ⟨entry, kept, rfl⟩ := List.mem_map.mp listed
    obtain ⟨member, alive⟩ := List.mem_filter.mp kept
    have found : KeyedList.find Entry.peerId entry.caps.peerId store.inner = some entry :=
      KeyedList.find_of_mem store.unique member
    have passes : Option.filter (fun row => store.isLive row now) (some entry) = some entry :=
      Option.filter_some_pos alive
    rw [InMemoryPeerStore.get, found, passes, Option.map_some]
  · intro found
    rw [InMemoryPeerStore.get, Option.map_eq_some_iff] at found
    obtain ⟨entry, kept, rfl⟩ := found
    obtain ⟨row, alive⟩ := Option.filter_eq_some_iff.mp kept
    exact List.mem_map_of_mem (List.mem_filter.mpr ⟨(KeyedList.mem_of_find row).1, alive⟩)

end

def Correct (ttlMs : UInt64) (last : Announced) : Call → Answer → Prop
  | .get peerId now, .found caps => caps = live ttlMs now (last peerId)
  | .all now, .listed peers =>
      (peers.map NodeCapabilities.peerId).Nodup ∧
        ∀ caps, caps ∈ peers ↔ live ttlMs now (last caps.peerId) = some caps
  | _, _ => False

/-- Lists are compared without their order, which a hash map does not fix. -/
def SameAnswer : Answer → Answer → Prop
  | .found first, .found second => first = second
  | .listed first, .listed second => first.Perm second
  | _, _ => False

theorem sameAnswer_of_correct {ttlMs : UInt64} {last : Announced} {call : Call} {first second : Answer}
    (firstCorrect : Correct ttlMs last call first) (secondCorrect : Correct ttlMs last call second) :
    SameAnswer first second := by
  cases call with
  | get peerId now =>
      cases first with
      | listed peers => exact firstCorrect.elim
      | found firstCaps =>
          cases second with
          | listed peers => exact secondCorrect.elim
          | found secondCaps => exact Eq.trans firstCorrect secondCorrect.symm
  | all now =>
      cases first with
      | found caps => exact firstCorrect.elim
      | listed firstPeers =>
          cases second with
          | found caps => exact secondCorrect.elim
          | listed secondPeers =>
              apply (List.perm_ext_iff_of_nodup firstCorrect.1.of_map secondCorrect.1.of_map).mpr
              intro caps
              rw [firstCorrect.2, secondCorrect.2]
  | _ => exact firstCorrect.elim

def asked (last : Announced) (call : Call) : List (Announced × Call) :=
  match call with
  | .get _ _ | .all _ => [(last, call)]
  | .upsert _ _ | .evictExpired _ => []

def answers (ttlMs : UInt64) (calls : List Call) : List Answer := Runs.outputs step answer (new ttlMs) calls

def questions (calls : List Call) : List (Announced × Call) := Runs.outputs record asked (fun _ => none) calls

theorem answer_correct {ttlMs : UInt64} {clock : Nat} {store : InMemoryPeerStore} {last : Announced}
    (follows : Follows ttlMs clock store last) {call : Call} (order : clock ≤ call.time) :
    List.Forall₂ (fun question given => Correct ttlMs question.1 question.2 given) (asked last call)
      (answer store call) := by
  cases call with
  | get peerId now => exact .cons (follows.get peerId order) .nil
  | all now =>
      refine .cons ⟨all_nodup store now, ?_⟩ .nil
      intro caps
      rw [mem_all_iff, follows.get _ order]
  | upsert caps now => exact .nil
  | evictExpired now => exact .nil

theorem outputs_correct {ttlMs : UInt64} {clock : Nat} {store : InMemoryPeerStore} {last : Announced}
    {calls : List Call} (follows : Follows ttlMs clock store last)
    (later : (clock :: calls.map Call.time).Pairwise (· ≤ ·)) :
    List.Forall₂ (fun question given => Correct ttlMs question.1 question.2 given)
      (Runs.outputs record asked last calls) (Runs.outputs step answer store calls) := by
  induction calls generalizing clock store last with
  | nil => exact .nil
  | cons call rest ih =>
      rw [List.map_cons, List.pairwise_cons] at later
      have order := later.1 _ (List.mem_cons_self ..)
      exact List.rel_append (answer_correct follows order) (ih (follows.step order) later.2)

theorem answers_correct (ttlMs : UInt64) {calls : List Call} (ordered : Ordered calls) :
    List.Forall₂ (fun question given => Correct ttlMs question.1 question.2 given) (questions calls)
      (answers ttlMs calls) := by
  apply outputs_correct (follows_new ttlMs)
  apply List.pairwise_cons.mpr
  exact ⟨fun _ _ => Nat.zero_le _, ordered⟩

theorem follows_before (ttlMs : UInt64) {first rest : List Call} {call : Call}
    (ordered : Ordered (first ++ call :: rest)) :
    ∃ clock ≤ call.time, Follows ttlMs clock (Runs.run step (new ttlMs) first) (lastUpsert first) := by
  apply Runs.holds_before (fun now before =>
    ∃ clock ≤ now, Follows ttlMs clock (Runs.run step (new ttlMs) before) (lastUpsert before)) _ _ _ ordered
  · intro now
    exact ⟨0, Nat.zero_le _, follows_new ttlMs⟩
  · rintro bound now before later ⟨clock, order, follows⟩
    exact ⟨clock, Nat.le_trans order later, follows⟩
  · rintro before last ⟨clock, order, follows⟩
    refine ⟨last.time, Nat.le_refl _, ?_⟩
    rw [lastUpsert, Runs.run_concat, Runs.run_concat]
    exact follows.step order

theorem questions_filter (calls : List Call) :
    questions calls = questions (calls.filter Call.isVisible) := by
  apply Runs.outputs_filter Call.isVisible Eq
  · rintro last other call hidden rfl
    cases call with
    | evictExpired now => exact ⟨rfl, rfl⟩
    | _ => exact Bool.noConfusion hidden
  · rintro last other call rfl
    exact ⟨rfl, rfl⟩
  · rfl

theorem forall₂_of_common {Question First Second : Type} {R : Question → First → Prop} {S : Question → Second → Prop}
    {T : First → Second → Prop} (joins : ∀ question first second, R question first → S question second → T first second)
    {questions : List Question} {first : List First} {second : List Second} (left : List.Forall₂ R questions first)
    (right : List.Forall₂ S questions second) : List.Forall₂ T first second := by
  induction left generalizing second with
  | nil =>
      cases right
      exact .nil
  | cons holds _ ih =>
      cases right with
      | cons other others => exact .cons (joins _ _ _ holds other) (ih others)

/-- Readers see what was last put for each peer while it is younger than the time to live, and cannot
tell when, or whether, the sweep runs. -/
theorem peer_registry (ttlMs : UInt64) (calls : List Call) (ordered : Ordered calls) :
    (∀ first peerId now rest, calls = first ++ .get peerId now :: rest →
        (Runs.run step (new ttlMs) first).get peerId now = live ttlMs now (lastUpsert first peerId)) ∧
      (∀ first now rest, calls = first ++ .all now :: rest →
        let peers := (Runs.run step (new ttlMs) first).all now
        (peers.map NodeCapabilities.peerId).Nodup ∧
          ∀ caps, caps ∈ peers ↔ live ttlMs now (lastUpsert first caps.peerId) = some caps) ∧
      ∀ other, Ordered other →
        other.filter Call.isVisible = calls.filter Call.isVisible →
          List.Forall₂ SameAnswer (answers ttlMs calls) (answers ttlMs other) := by
  refine ⟨?_, ?_, ?_⟩
  · rintro first peerId now rest rfl
    obtain ⟨clock, order, follows⟩ := follows_before ttlMs ordered
    exact follows.get peerId order
  · rintro first now rest rfl
    obtain ⟨clock, order, follows⟩ := follows_before ttlMs ordered
    refine ⟨all_nodup _ now, ?_⟩
    intro caps
    rw [mem_all_iff, follows.get _ order]
  · intro other otherOrdered same
    have correct := answers_correct ttlMs ordered
    have otherCorrect := answers_correct ttlMs otherOrdered
    rw [questions_filter] at correct otherCorrect
    rw [same] at otherCorrect
    apply forall₂_of_common _ correct otherCorrect
    intro question first second firstCorrect secondCorrect
    exact sameAnswer_of_correct firstCorrect secondCorrect

def samplePeer (models : List String) : NodeCapabilities where
  peerId := "12D3KooW"
  models
  gpuVramMb := 0
  gpuType := .cpu
  region := none
  teeEnabled := false
  reputation := defaultReputation
  acceptedSettlements := []
  apiUrl := none

/-- The peer is read one millisecond before and at the instant of its expiry. -/
def sampleCalls : List Call :=
  [.upsert (samplePeer []) 1000, .upsert (samplePeer ["llama"]) 2000, .get "12D3KooW" 2599, .evictExpired 2600,
    .get "12D3KooW" 2600]

theorem peer_registry_sample :
    (Runs.run step (new 600) (sampleCalls.take 2)).get "12D3KooW" 2599 = some (samplePeer ["llama"]) ∧
      (Runs.run step (new 600) (sampleCalls.take 4)).get "12D3KooW" 2600 = none := by
  have ordered : Ordered sampleCalls := by
    unfold Ordered
    decide
  have read := (peer_registry 600 sampleCalls ordered).1
  constructor
  · rw [read (sampleCalls.take 2) "12D3KooW" 2599 [.evictExpired 2600, .get "12D3KooW" 2600] rfl]
    rfl
  · rw [read (sampleCalls.take 4) "12D3KooW" 2600 [] rfl]
    rfl

end Pinaivu.PeerStore
