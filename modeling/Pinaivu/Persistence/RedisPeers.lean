import Mathlib.Data.Set.List
import Pinaivu.P2P.Announcements
import Pinaivu.Persistence.PeerStore
import Pinaivu.Persistence.RedisNonces

/-!
`RedisPeerStore` of `crates/persistence/src/peer.rs`: one registry for all replicas of a node. A listing is a `KEYS`
and then a `GET` for each key, between which other replicas may announce peers and entries may expire.
-/

namespace Pinaivu.Node

open JsonText P2P

/-- A unit variant is its name, or an object of the name and null. -/
def decodeGpuType (value : Json) : Option GpuType := do
  let name ← match value with
    | .string name => some name
    | .object [(name, .null)] => some name
    | _ => none
  [.nvidiaCuda, .amdRocm, .appleMetal, .cpu].find? fun gpu => gpu.name = name

def decodeNodeCapabilities (readDouble : Decimal → Option Decimal) (value : Json) : Option NodeCapabilities := do
  let fields ← structFields
    ["peer_id", "models", "gpu_vram_mb", "gpu_type", "region", "tee_enabled", "reputation", "accepted_settlements",
      "api_url"] 1 value
  return {
    peerId := ← requiredField fields "peer_id" decodeString
    models := ← requiredField fields "models" (decodeList decodeString)
    gpuVramMb := ← requiredField fields "gpu_vram_mb" decodeU32
    gpuType := ← requiredField fields "gpu_type" decodeGpuType
    region := ← optionalField fields "region" decodeString
    teeEnabled := ← requiredField fields "tee_enabled" decodeBool
    reputation := ← requiredField fields "reputation" (decodeReputation readDouble)
    acceptedSettlements := ← requiredField fields "accepted_settlements" (decodeList decodeOffer)
    apiUrl := ← optionalField fields "api_url" decodeString }

def NodeCapabilities.reread (readDouble : Decimal → Option Decimal) (caps : NodeCapabilities) :
    Option NodeCapabilities :=
  (caps.reputation.reread readDouble).map fun reputation => { caps with reputation }

theorem decodeGpuType_name (gpu : GpuType) : decodeGpuType (.string gpu.name) = some gpu := by
  cases gpu <;> decide

theorem decodeNodeCapabilities_members (readDouble : Decimal → Option Decimal) (caps : NodeCapabilities) :
    decodeNodeCapabilities readDouble (.object caps.members) = caps.reread readDouble := by
  have texts : ∀ text, decodeString (.string text) = some text := fun _ => rfl
  rw [decodeNodeCapabilities, NodeCapabilities.members, structFields_object 1 (by simp), Option.bind_eq_bind,
    Option.bind_some]
  simp (disch := decide) only [requiredField_head, requiredField_tail, optionalField_head, optionalField_tail, texts,
    decodeU32_unsignedJson, decodeGpuType_name, decodeBool, decodeOption_optionJson, decodeReputation_toJson,
    decodeList_map texts, decodeList_map decodeOffer_toJson]
  rw [NodeCapabilities.reread, Option.map_eq_bind]
  rfl

end Pinaivu.Node

namespace Pinaivu.PeerStore

open ExpiringKeys Inference JsonText Node P2P
open Nonce (Delivery)

def keyPrefix : String := "peer:"

def peerKey (peerId : NodePeerId) : String := keyPrefix ++ peerId

def encodeText (caps : NodeCapabilities) : String := String.ofList (render (.object caps.members))

def decodeText (readDouble : Decimal → Option Decimal) (text : String) : Option NodeCapabilities :=
  (parseSpaced text.toList).bind (decodeNodeCapabilities readDouble)

/-- `now` is the time at which Redis runs the command. -/
structure RedisUpsert where
  caps : NodeCapabilities
  now : UInt64
  delivery : Delivery

/-- One `GET` of a listing, and what others announced since the command before it. -/
structure Fetch where
  since : List RedisUpsert
  now : UInt64
  answered : Bool

namespace RedisPeerStore

variable (ttlSecs : UInt64) (readDouble : Decimal → Option Decimal) (lifetime : Lifetime)

/-- In milliseconds. -/
def deadline (now : UInt64) : Nat := now.toNat + ttlSecs.toNat * 1000

/-- Redis refuses times to live that are not positive, and deadlines that do not fit in 63 bits. -/
def setEx (store : Store String String) (key value : String) (now : UInt64) : Store String String :=
  if 0 < ttlSecs ∧ deadline ttlSecs now < 9223372036854775808 then put store key value (deadline ttlSecs now)
  else store

def upsert (store : Store String String) (call : RedisUpsert) : Store String String :=
  if call.delivery = .unreached then store
  else setEx ttlSecs store (peerKey call.caps.peerId) (encodeText call.caps) call.now

def read (store : Store String String) (key : String) (now : UInt64) (answered : Bool) : Option NodeCapabilities :=
  if answered then (ExpiringKeys.get lifetime store now.toNat key).bind (decodeText readDouble) else none

def get (store : Store String String) (peerId : NodePeerId) (now : UInt64) (answered : Bool) :
    Option NodeCapabilities :=
  read readDouble lifetime store (peerKey peerId) now answered

/-- What `KEYS peer:*` may return: every key that is there, once, in any order. -/
structure Keys (store : Store String String) (now : UInt64) (keys : List String) : Prop where
  once : keys.Nodup
  there : ∀ key, key ∈ keys ↔
    keyPrefix.toList <+: key.toList ∧ (ExpiringKeys.get lifetime store now.toNat key).isSome = true

def fetchAll (store : Store String String) : List (String × Fetch) → List NodeCapabilities
  | [] => []
  | (key, fetch) :: rest =>
      let store := Runs.run (upsert ttlSecs) store fetch.since
      (read readDouble lifetime store key fetch.now fetch.answered).toList ++ fetchAll store rest

/-- `keys` is the answer to `KEYS`, if any. -/
def all (store : Store String String) (keys : Option (List String)) (fetches : List Fetch) : List NodeCapabilities :=
  match keys with
  | none => []
  | some keys => fetchAll ttlSecs readDouble lifetime store (keys.zip fetches)

end RedisPeerStore

def saturatingMul (first second : UInt64) : UInt64 :=
  if first.toNat * second.toNat < 18446744073709551616 then first * second else 18446744073709551615

def announced (calls : List RedisUpsert) : List Call :=
  (calls.filter fun call => call.delivery != .unreached).map fun call => .upsert call.caps call.now

/-- The store of `build_peer_store` in one process, with these announcements. -/
def inProcess (ttlSecs : UInt64) (calls : List RedisUpsert) : InMemoryPeerStore :=
  Runs.run step (.new (saturatingMul ttlSecs 1000)) (announced calls)

/-- The answers that one process would give to the reads of a listing, each at its own time, with the floats that
the reader makes of theirs. -/
def lookups (ttlSecs : UInt64) (readDouble : Decimal → Option Decimal) (past : List RedisUpsert) :
    List (NodePeerId × Fetch) → List NodeCapabilities
  | [] => []
  | (peerId, fetch) :: rest =>
      let past := past ++ fetch.since
      (if fetch.answered then
          ((inProcess ttlSecs past).get peerId fetch.now).bind (NodeCapabilities.reread readDouble) else none).toList ++
        lookups ttlSecs readDouble past rest

def shared (ttlSecs : UInt64) (past : List RedisUpsert) : Store String String :=
  Runs.run (RedisPeerStore.upsert ttlSecs) empty past

def RedisUpsert.reached (call : RedisUpsert) : Bool := call.delivery != .unreached

theorem peerKey_injective : Function.Injective peerKey := by
  intro first second same
  have texts := congrArg String.toList same
  simp only [peerKey, String.toList_append] at texts
  exact String.toList_inj.mp (List.append_cancel_left texts)

theorem exists_peerKey {key : String} (starts : keyPrefix.toList <+: key.toList) : ∃ peerId, peerKey peerId = key := by
  obtain ⟨rest, whole⟩ := starts
  refine ⟨String.ofList rest, ?_⟩
  apply String.toList_inj.mp
  rw [peerKey, String.toList_append, String.toList_ofList, whole]

theorem decodeText_encodeText (readDouble : Decimal → Option Decimal) (caps : NodeCapabilities) :
    decodeText readDouble (encodeText caps) = caps.reread readDouble := by
  rw [decodeText, encodeText, String.toList_ofList, parseSpaced_render, Option.bind_some,
    decodeNodeCapabilities_members]

/-- Nothing is stored when the time to live is zero. -/
def entryOf (ttlSecs : UInt64) (entry : Entry) : Option (String × Nat) :=
  if 0 < ttlSecs then some (encodeText entry.caps, RedisPeerStore.deadline ttlSecs entry.lastSeenMs) else none

/-- Redis has for each peer what one process has, with the deadline for the time at which it was last seen. -/
structure Mirrors (ttlSecs : UInt64) (past : List RedisUpsert) : Prop where
  ttl : (inProcess ttlSecs past).ttlMs = saturatingMul ttlSecs 1000
  stored : ∀ peerId, shared ttlSecs past (peerKey peerId) =
    (KeyedList.find Entry.peerId peerId (inProcess ttlSecs past).inner).bind (entryOf ttlSecs)
  known : ∀ peerId entry, KeyedList.find Entry.peerId peerId (inProcess ttlSecs past).inner = some entry →
    ∃ call ∈ past, call.reached = true ∧ call.now = entry.lastSeenMs

def Fits (ttlSecs : UInt64) (call : RedisUpsert) : Prop :=
  call.reached = true → RedisPeerStore.deadline ttlSecs call.now < 9223372036854775808

/-- A command does not run at the very instant at which an announced entry expires. -/
def Apart (ttlSecs now : UInt64) (call : RedisUpsert) : Prop :=
  call.reached = true → now.toNat ≠ RedisPeerStore.deadline ttlSecs call.now

section

variable {ttlSecs : UInt64} {past : List RedisUpsert} (readDouble : Decimal → Option Decimal)

theorem inProcess_concat (call : RedisUpsert) : inProcess ttlSecs (past ++ [call]) =
    if call.reached then (inProcess ttlSecs past).upsert call.caps call.now else inProcess ttlSecs past := by
  unfold inProcess announced
  rw [List.filter_append, List.map_append, Runs.run_append]
  cases sent : call.delivery with
  | unreached => simp [RedisUpsert.reached, sent]
  | unanswered => simp [RedisUpsert.reached, sent, step]
  | answered => simp [RedisUpsert.reached, sent, step]

theorem shared_concat {call : RedisUpsert} (fits : Fits ttlSecs call) : shared ttlSecs (past ++ [call]) =
    if call.reached ∧ 0 < ttlSecs then
      put (shared ttlSecs past) (peerKey call.caps.peerId) (encodeText call.caps)
        (RedisPeerStore.deadline ttlSecs call.now)
    else shared ttlSecs past := by
  rw [shared, Runs.run_concat, RedisPeerStore.upsert, RedisPeerStore.setEx]
  by_cases sent : call.delivery = .unreached
  · simp [sent, RedisUpsert.reached, shared]
  · have reached : call.reached = true := by simp [RedisUpsert.reached, sent]
    have early := fits reached
    simp [sent, reached, early, shared]

theorem mirrors_empty : Mirrors ttlSecs [] where
  ttl := rfl
  stored := fun _ => rfl
  known := by
    intro peerId entry found
    cases found

theorem Mirrors.concat (mirrors : Mirrors ttlSecs past) {call : RedisUpsert} (fits : Fits ttlSecs call) :
    Mirrors ttlSecs (past ++ [call]) := by
  have earlier : ∀ peerId entry, KeyedList.find Entry.peerId peerId (inProcess ttlSecs past).inner = some entry →
      ∃ other ∈ past ++ [call], other.reached = true ∧ other.now = entry.lastSeenMs := by
    intro peerId entry found
    obtain ⟨other, member, rest⟩ := mirrors.known peerId entry found
    exact ⟨other, List.mem_append_left _ member, rest⟩
  by_cases reached : call.reached = true
  · have self := @KeyedList.find_upsert_self _ _ _ Entry.peerId ⟨call.caps, call.now⟩ (inProcess ttlSecs past).inner
    have other := fun (peerId : NodePeerId) (different : peerId ≠ call.caps.peerId) =>
      @KeyedList.find_upsert_other _ _ _ Entry.peerId ⟨call.caps, call.now⟩ peerId different
        (inProcess ttlSecs past).inner
    refine ⟨?_, ?_, ?_⟩
    · rw [inProcess_concat, if_pos reached]
      exact mirrors.ttl
    · intro peerId
      rw [inProcess_concat, if_pos reached, shared_concat fits]
      by_cases same : peerId = call.caps.peerId
      · subst same
        have found : KeyedList.find Entry.peerId call.caps.peerId
            ((inProcess ttlSecs past).upsert call.caps call.now).inner = some ⟨call.caps, call.now⟩ := self
        rw [found]
        by_cases lasting : 0 < ttlSecs
        · simp [reached, lasting, entryOf]
        · have before := mirrors.stored call.caps.peerId
          cases KeyedList.find Entry.peerId call.caps.peerId (inProcess ttlSecs past).inner <;>
            simp_all [entryOf]
      · have kept : KeyedList.find Entry.peerId peerId ((inProcess ttlSecs past).upsert call.caps call.now).inner =
            KeyedList.find Entry.peerId peerId (inProcess ttlSecs past).inner := other peerId same
        rw [kept, ← mirrors.stored peerId]
        split
        · exact put_other _ (fun equal => same (peerKey_injective equal)) _ _
        · rfl
    · intro peerId entry found
      rw [inProcess_concat, if_pos reached] at found
      by_cases same : peerId = call.caps.peerId
      · subst same
        have mine := self.symm.trans found
        cases mine
        exact ⟨call, by simp, reached, rfl⟩
      · exact earlier peerId entry ((other peerId same).symm.trans found)
  · refine ⟨?_, ?_, ?_⟩
    · rw [inProcess_concat, if_neg reached]
      exact mirrors.ttl
    · intro peerId
      rw [inProcess_concat, if_neg reached, shared_concat fits, if_neg fun both => reached both.1]
      exact mirrors.stored peerId
    · intro peerId entry found
      rw [inProcess_concat, if_neg reached] at found
      exact earlier peerId entry found

theorem mirrors_all (fits : ∀ call ∈ past, Fits ttlSecs call) : Mirrors ttlSecs past := by
  induction past using List.reverseRecOn with
  | nil => exact mirrors_empty
  | append_singleton past last ih =>
      have before := ih fun call member => fits call (List.mem_append_left _ member)
      exact before.concat (fits last (by simp))

theorem saturatingMul_toNat {now : UInt64} (fits : RedisPeerStore.deadline ttlSecs now < 9223372036854775808) :
    (saturatingMul ttlSecs 1000).toNat = ttlSecs.toNat * 1000 := by
  unfold RedisPeerStore.deadline at fits
  have small : ttlSecs.toNat * (1000 : UInt64).toNat < 18446744073709551616 := by
    change ttlSecs.toNat * 1000 < _
    omega
  rw [saturatingMul, if_pos small]
  rw [UInt64.toNat_mul, Nat.mod_eq_of_lt small]
  rfl

theorem get_eq (lifetime : Lifetime) (fits : ∀ call ∈ past, Fits ttlSecs call) {now : UInt64}
    (apart : ∀ call ∈ past, Apart ttlSecs now call) (peerId : NodePeerId) :
    ExpiringKeys.get lifetime (shared ttlSecs past) now.toNat (peerKey peerId) =
      ((inProcess ttlSecs past).get peerId now).map encodeText := by
  have mirrors := mirrors_all fits
  rw [ExpiringKeys.get, mirrors.stored, InMemoryPeerStore.get]
  cases found : KeyedList.find Entry.peerId peerId (inProcess ttlSecs past).inner with
  | none => rfl
  | some entry =>
      obtain ⟨call, member, reached, time⟩ := mirrors.known peerId entry found
      have fit := fits call member reached
      have differs := apart call member reached
      rw [time] at fit differs
      have alive := lifetime.alive_iff differs
      have live := isLive_iff (inProcess ttlSecs past) entry now
      rw [mirrors.ttl, saturatingMul_toNat fit] at live
      rw [Option.bind_some, entryOf]
      by_cases lasting : 0 < ttlSecs
      · have positive : 0 < ttlSecs.toNat := UInt64.lt_iff_toNat_lt.mp lasting
        have agree : lifetime.alive (RedisPeerStore.deadline ttlSecs entry.lastSeenMs) now.toNat =
            (inProcess ttlSecs past).isLive entry now := by
          rw [Bool.eq_iff_iff, alive, live, RedisPeerStore.deadline]
          omega
        rw [if_pos lasting]
        cases shown : (inProcess ttlSecs past).isLive entry now <;> simp [Option.filter, agree, shown]
      · have zero : ttlSecs.toNat = 0 := by
          have notLess := fun less => lasting (UInt64.lt_iff_toNat_lt.mpr less)
          change ¬0 < ttlSecs.toNat at notLess
          omega
        have hidden : (inProcess ttlSecs past).isLive entry now = false := by
          rw [← Bool.not_eq_true, live, zero]
          omega
        rw [if_neg lasting]
        simp [Option.filter, hidden]

theorem read_eq (lifetime : Lifetime) (fits : ∀ call ∈ past, Fits ttlSecs call) {now : UInt64}
    (apart : ∀ call ∈ past, Apart ttlSecs now call) (peerId : NodePeerId) (answered : Bool) :
    RedisPeerStore.read readDouble lifetime (shared ttlSecs past) (peerKey peerId) now answered =
      if answered then ((inProcess ttlSecs past).get peerId now).bind (NodeCapabilities.reread readDouble)
      else none := by
  rw [RedisPeerStore.read, get_eq lifetime fits apart]
  cases (inProcess ttlSecs past).get peerId now with
  | none => rfl
  | some caps => simp [decodeText_encodeText]

theorem fetchAll_eq (lifetime : Lifetime) (peers : List NodePeerId) {past : List RedisUpsert} {fetches : List Fetch}
    (fits : ∀ call ∈ past ++ fetches.flatMap Fetch.since, Fits ttlSecs call)
    (apart : ∀ fetch ∈ fetches, ∀ call ∈ past ++ fetches.flatMap Fetch.since, Apart ttlSecs fetch.now call) :
    RedisPeerStore.fetchAll ttlSecs readDouble lifetime (shared ttlSecs past) ((peers.map peerKey).zip fetches) =
      lookups ttlSecs readDouble past (peers.zip fetches) := by
  induction peers generalizing past fetches with
  | nil => rfl
  | cons peerId peers ih =>
      cases fetches with
      | nil => rfl
      | cons fetch rest =>
          rw [List.flatMap_cons, ← List.append_assoc] at fits apart
          have later : Runs.run (RedisPeerStore.upsert ttlSecs) (shared ttlSecs past) fetch.since =
              shared ttlSecs (past ++ fetch.since) := by
            rw [shared, shared, Runs.run_append]
          have answer := read_eq readDouble lifetime (fun call member => fits call (List.mem_append_left _ member))
            (fun call member => apart fetch List.mem_cons_self call (List.mem_append_left _ member)) peerId
            fetch.answered
          have others := ih fits fun other member => apart other (List.mem_cons_of_mem fetch member)
          simp only [List.map_cons, List.zip_cons_cons, RedisPeerStore.fetchAll, lookups, later, answer, others]

end

theorem get_peerId {store : InMemoryPeerStore} {peerId : NodePeerId} {now : UInt64} {caps : NodeCapabilities}
    (found : store.get peerId now = some caps) : caps.peerId = peerId := by
  obtain ⟨entry, kept, rfl⟩ := Option.map_eq_some_iff.mp found
  exact (KeyedList.mem_of_find (Option.filter_eq_some_iff.mp kept).1).2

theorem reread_peerId {readDouble : Decimal → Option Decimal} {caps found : NodeCapabilities}
    (read : caps.reread readDouble = some found) : found.peerId = caps.peerId := by
  obtain ⟨reputation, -, rfl⟩ := Option.map_eq_some_iff.mp read
  rfl

theorem lookups_sublist (ttlSecs : UInt64) (readDouble : Decimal → Option Decimal) (peers : List NodePeerId)
    (past : List RedisUpsert) (fetches : List Fetch) :
    ((lookups ttlSecs readDouble past (peers.zip fetches)).map NodeCapabilities.peerId).Sublist peers := by
  induction peers generalizing past fetches with
  | nil => exact List.Sublist.refl []
  | cons peerId peers ih =>
      cases fetches with
      | nil => exact List.nil_sublist _
      | cons fetch rest =>
          have tail := ih (past ++ fetch.since) rest
          simp only [List.zip_cons_cons, lookups, List.map_append]
          cases answer : if fetch.answered then
            ((inProcess ttlSecs (past ++ fetch.since)).get peerId fetch.now).bind (NodeCapabilities.reread readDouble)
            else none with
          | none => exact tail.cons peerId
          | some caps =>
              have own : caps.peerId = peerId := by
                split at answer
                · obtain ⟨known, found, read⟩ := Option.bind_eq_some_iff.mp answer
                  rw [reread_peerId read, get_peerId found]
                · contradiction
              simpa [own] using tail

theorem lookups_quiet {now : UInt64} (ttlSecs : UInt64) (readDouble : Decimal → Option Decimal)
    (peers : List NodePeerId) (past : List RedisUpsert) {fetches : List Fetch} (size : peers.length = fetches.length)
    (quiet : ∀ fetch ∈ fetches, fetch = ⟨[], now, true⟩) :
    lookups ttlSecs readDouble past (peers.zip fetches) =
      peers.filterMap fun peerId =>
        ((inProcess ttlSecs past).get peerId now).bind (NodeCapabilities.reread readDouble) := by
  induction peers generalizing fetches with
  | nil => rfl
  | cons peerId peers ih =>
      cases fetches with
      | nil => contradiction
      | cons fetch rest =>
          rw [List.length_cons, List.length_cons, Nat.add_right_cancel_iff] at size
          obtain ⟨rfl, others⟩ := List.forall_mem_cons.mp quiet
          rw [List.zip_cons_cons, lookups, List.append_nil, ih size others, List.filterMap_cons]
          cases ((inProcess ttlSecs past).get peerId now).bind (NodeCapabilities.reread readDouble) <;> rfl

theorem filterMap_get_perm (store : InMemoryPeerStore) (now : UInt64) {peers : List NodePeerId} (once : peers.Nodup)
    (there : ∀ peerId, peerId ∈ peers ↔ (store.get peerId now).isSome = true) :
    (peers.filterMap fun peerId => store.get peerId now).Perm (store.all now) := by
  have distinct : (peers.filterMap fun peerId => store.get peerId now).Nodup := by
    refine once.filterMap ?_
    intro first second caps firstFound secondFound
    rw [← get_peerId firstFound, ← get_peerId secondFound]
  apply (List.perm_ext_iff_of_nodup distinct (all_nodup store now).of_map).mpr
  intro caps
  rw [mem_all_iff, List.mem_filterMap]
  constructor
  · rintro ⟨peerId, -, found⟩
    rw [get_peerId found]
    exact found
  · intro found
    exact ⟨caps.peerId, (there caps.peerId).mpr (by rw [found]; rfl), found⟩

theorem keys_peers {ttlSecs : UInt64} {past : List RedisUpsert} (lifetime : Lifetime)
    (fits : ∀ call ∈ past, Fits ttlSecs call) {now : UInt64} (apart : ∀ call ∈ past, Apart ttlSecs now call)
    {keys : List String} (returned : RedisPeerStore.Keys lifetime (shared ttlSecs past) now keys) :
    ∃ peers : List NodePeerId, keys = peers.map peerKey ∧ peers.Nodup ∧
      ∀ peerId, peerId ∈ peers ↔ ((inProcess ttlSecs past).get peerId now).isSome = true := by
  obtain ⟨peers, rfl⟩ : ∃ peers : List NodePeerId, keys = peers.map peerKey := by
    have named : keys ∈ Set.range (List.map peerKey) := by
      rw [Set.range_list_map]
      exact fun key member => exists_peerKey ((returned.there key).mp member).1
    obtain ⟨peers, same⟩ := named
    exact ⟨peers, same.symm⟩
  refine ⟨peers, rfl, returned.once.of_map, ?_⟩
  intro peerId
  have starts : keyPrefix.toList <+: (peerKey peerId).toList := by
    rw [peerKey, String.toList_append]
    exact List.prefix_append _ _
  rw [← List.mem_map_of_injective peerKey_injective, returned.there, get_eq lifetime fits apart, Option.isSome_map]
  exact and_iff_right starts

/-- Replicas that share a registry in Redis read from it what one process reads that gets the announcements
which Redis ran: a lookup at its time, and a listing one peer after another, each at the time of its `GET`;
the listing asks for the peers alive at its `KEYS`, and undisturbed it is that of the process. The floats of a
reputation come as the JSON reader gives them. -/
theorem redis_peers (ttlSecs : UInt64) (readDouble : Decimal → Option Decimal) (lifetime : Lifetime)
    (past : List RedisUpsert) (now : UInt64)
    (fetches : List Fetch) (fits : ∀ call ∈ past ++ fetches.flatMap Fetch.since, Fits ttlSecs call)
    (apart : ∀ time ∈ now :: fetches.map Fetch.now, ∀ call ∈ past ++ fetches.flatMap Fetch.since,
      Apart ttlSecs time call) :
    (∀ peerId answered, RedisPeerStore.get readDouble lifetime (shared ttlSecs past) peerId now answered =
        if answered then ((inProcess ttlSecs past).get peerId now).bind (NodeCapabilities.reread readDouble)
        else none) ∧
      ∀ keys, RedisPeerStore.Keys lifetime (shared ttlSecs past) now keys → keys.length = fetches.length →
        let listed := RedisPeerStore.all ttlSecs readDouble lifetime (shared ttlSecs past) (some keys) fetches
        ∃ peers : List NodePeerId, keys = peers.map peerKey ∧ peers.Nodup ∧
          (∀ peerId, peerId ∈ peers ↔ ((inProcess ttlSecs past).get peerId now).isSome = true) ∧
          listed = lookups ttlSecs readDouble past (peers.zip fetches) ∧
          (listed.map NodeCapabilities.peerId).Sublist peers ∧
          ((∀ fetch ∈ fetches, fetch = ⟨[], now, true⟩) →
            listed.Perm (((inProcess ttlSecs past).all now).filterMap (NodeCapabilities.reread readDouble))) := by
  have fitsPast := fun call (member : call ∈ past) => fits call (List.mem_append_left _ member)
  have apartPast := fun call (member : call ∈ past) =>
    apart now List.mem_cons_self call (List.mem_append_left _ member)
  constructor
  · intro peerId answered
    exact read_eq readDouble lifetime fitsPast apartPast peerId answered
  · intro keys returned size listed
    obtain ⟨peers, rfl, once, there⟩ := keys_peers lifetime fitsPast apartPast returned
    have looked : listed = lookups ttlSecs readDouble past (peers.zip fetches) := by
      refine fetchAll_eq readDouble lifetime peers fits ?_
      intro fetch member
      exact apart fetch.now (List.mem_cons_of_mem _ (List.mem_map_of_mem member))
    refine ⟨peers, rfl, once, there, looked, ?_, ?_⟩
    · rw [looked]
      exact lookups_sublist ttlSecs readDouble peers past fetches
    · intro quiet
      rw [List.length_map] at size
      rw [looked, lookups_quiet ttlSecs readDouble peers past size quiet, ← List.filterMap_filterMap]
      exact (filterMap_get_perm _ now once there).filterMap _

def otherPeer : NodeCapabilities := { samplePeer ["mistral"] with peerId := "12D3KooWother" }

/-- Two replicas announce two peers; the first announcement of the second one is lost. -/
def sharedPeers : List RedisUpsert :=
  [⟨samplePeer [], 1000, .answered⟩, ⟨otherPeer, 2000, .unreached⟩, ⟨otherPeer, 3000, .unanswered⟩]

/-- After the `KEYS` the first peer is announced again with a model, and the second one expires. -/
def sampleFetches : List Fetch := [⟨[⟨samplePeer ["llama"], 60999, .answered⟩], 63001, true⟩, ⟨[], 63002, true⟩]

def sampleKeys : List String := [peerKey "12D3KooWother", peerKey "12D3KooW"]

theorem shared_sample : shared 60 sharedPeers =
    put (put empty (peerKey "12D3KooW") (encodeText (samplePeer [])) 61000) (peerKey "12D3KooWother")
      (encodeText otherPeer) 63000 := rfl

theorem keys_sample : RedisPeerStore.Keys Nonce.inclusive (shared 60 sharedPeers) 60998 sampleKeys where
  once := by decide
  there := by
    intro key
    have distinct : peerKey "12D3KooW" ≠ peerKey "12D3KooWother" := by decide
    rw [shared_sample, sampleKeys, List.mem_cons, List.mem_singleton]
    constructor
    · rintro (rfl | rfl)
      · exact ⟨List.prefix_append _ _, by simp [ExpiringKeys.get, Nonce.inclusive]⟩
      · exact ⟨by decide, by simp [ExpiringKeys.get, put_other _ distinct, Nonce.inclusive]⟩
    · rintro ⟨-, found⟩
      obtain ⟨value, deadline, stored, -⟩ := (get_isSome_iff Nonce.inclusive).mp found
      by_contra neither
      rw [not_or] at neither
      rw [put_other _ neither.1, put_other _ neither.2] at stored
      contradiction

theorem redis_peers_sample :
    RedisPeerStore.get some Nonce.inclusive (shared 60 sharedPeers) "12D3KooW" 60998 true = some (samplePeer []) ∧
      RedisPeerStore.all 60 some Nonce.inclusive (shared 60 sharedPeers) (some sampleKeys) sampleFetches =
        [samplePeer ["llama"]] := by
  have members : ∀ call ∈ sharedPeers ++ sampleFetches.flatMap Fetch.since,
      call.now = 1000 ∨ call.now = 2000 ∨ call.now = 3000 ∨ call.now = 60999 := by
    simp [sharedPeers, sampleFetches]
  have fits : ∀ call ∈ sharedPeers ++ sampleFetches.flatMap Fetch.since, Fits 60 call := by
    intro call member _
    rcases members call member with same | same | same | same <;> rw [same] <;> decide
  have apart : ∀ time ∈ 60998 :: sampleFetches.map Fetch.now,
      ∀ call ∈ sharedPeers ++ sampleFetches.flatMap Fetch.since, Apart 60 time call := by
    intro time read call member _
    simp only [sampleFetches, List.map_cons, List.map_nil, List.mem_cons, List.not_mem_nil, or_false] at read
    rcases members call member with same | same | same | same <;> rw [same] <;>
      rcases read with rfl | rfl | rfl <;> decide
  obtain ⟨single, listing⟩ := redis_peers 60 some Nonce.inclusive sharedPeers 60998 sampleFetches fits apart
  obtain ⟨peers, keys, -, -, listed, -⟩ := listing sampleKeys keys_sample rfl
  have named : ["12D3KooWother", "12D3KooW"] = peers := List.map_injective_iff.mpr peerKey_injective keys
  constructor
  · rw [single]
    rfl
  · rw [listed, ← named]
    rfl

end Pinaivu.PeerStore
