import Pinaivu.Common.Types
import Pinaivu.Lib.KeyedList
import Pinaivu.Lib.Runs

/-!
`crates/persistence/src/nonce.rs`: the in-process replay set. An id is kept until its expiry,
and every call first drops what has expired.
-/

namespace Pinaivu.Nonce

structure Entry where
  id : Uuid
  expiry : UInt64
  deriving DecidableEq

structure InMemoryNonceStore where
  inner : List Entry
  unique : (inner.map Entry.id).Nodup

structure Check where
  now : UInt64
  id : Uuid
  ttlSecs : UInt64
  deriving DecidableEq

def saturatingMul (first second : UInt64) : UInt64 :=
  UInt64.ofNat (min (first.toNat * second.toNat) (2 ^ 64 - 1))

def Check.expiry (call : Check) : UInt64 := call.now + saturatingMul call.ttlSecs 1000

def Check.deadline (call : Check) : Nat := call.now.toNat + 1000 * call.ttlSecs.toNat

namespace InMemoryNonceStore

def new : InMemoryNonceStore := ⟨[], List.nodup_nil⟩

def retain (store : InMemoryNonceStore) (now : UInt64) : InMemoryNonceStore :=
  ⟨store.inner.filter fun entry => decide (now < entry.expiry), KeyedList.retain_nodup _ store.unique⟩

def containsKey (store : InMemoryNonceStore) (id : Uuid) : Bool :=
  (KeyedList.find Entry.id id store.inner).isSome

def insert (store : InMemoryNonceStore) (entry : Entry) : InMemoryNonceStore :=
  ⟨KeyedList.insertNew Entry.id entry store.inner, KeyedList.insertNew_nodup entry store.unique⟩

def checkAndSet (store : InMemoryNonceStore) (call : Check) : InMemoryNonceStore × Bool :=
  let pruned := store.retain call.now
  if pruned.containsKey call.id then (pruned, true) else (pruned.insert ⟨call.id, call.expiry⟩, false)

def expiryOf (store : InMemoryNonceStore) (id : Uuid) : Option UInt64 :=
  (KeyedList.find Entry.id id store.inner).map Entry.expiry

def step (store : InMemoryNonceStore) (call : Check) : InMemoryNonceStore := (store.checkAndSet call).1

def replayed (store : InMemoryNonceStore) (call : Check) : Bool := (store.checkAndSet call).2

variable (store : InMemoryNonceStore)

theorem expiryOf_retain (now : UInt64) (id : Uuid) :
    (store.retain now).expiryOf id = (store.expiryOf id).filter fun expiry => decide (now < expiry) := by
  unfold expiryOf retain
  rw [KeyedList.find_retain _ store.unique, Option.filter_map]
  rfl

theorem containsKey_eq (id : Uuid) : store.containsKey id = (store.expiryOf id).isSome := by
  simp [containsKey, expiryOf]

theorem replayed_eq (call : Check) :
    store.replayed call = (store.retain call.now).containsKey call.id := by
  by_cases contained : (store.retain call.now).containsKey call.id = true
  · simp [replayed, checkAndSet, contained]
  · simp [replayed, checkAndSet, contained]

theorem replayed_iff (call : Check) :
    store.replayed call = true ↔ ∃ expiry, store.expiryOf call.id = some expiry ∧ call.now < expiry := by
  rw [replayed_eq, containsKey_eq, expiryOf_retain]
  simp [Option.any_eq_true]

/-- A replay only prunes, a fresh call also stores its own entry. -/
theorem step_eq (call : Check) :
    store.step call = if store.replayed call then store.retain call.now
      else (store.retain call.now).insert ⟨call.id, call.expiry⟩ := by
  rw [replayed_eq]
  by_cases contained : (store.retain call.now).containsKey call.id = true
  · simp [step, checkAndSet, contained]
  · simp [step, checkAndSet, contained]

theorem expiryOf_step_other (call : Check) {id : Uuid} (different : call.id ≠ id) :
    (store.step call).expiryOf id =
      (store.expiryOf id).filter fun expiry => decide (call.now < expiry) := by
  rw [step_eq, ← expiryOf_retain]
  split
  · rfl
  · have apart : Entry.id ⟨call.id, call.expiry⟩ ≠ id := different
    exact congrArg (Option.map Entry.expiry) (KeyedList.find_insertNew_other apart)

theorem expiryOf_step_replayed {call : Check} {expiry : UInt64}
    (stored : store.expiryOf call.id = some expiry) (unexpired : call.now < expiry) :
    (store.step call).expiryOf call.id = some expiry := by
  have replay := (store.replayed_iff call).mpr ⟨expiry, stored, unexpired⟩
  rw [step_eq, if_pos replay, expiryOf_retain, stored]
  simp [Option.filter, unexpired]

theorem expiryOf_step_fresh {call : Check} (fresh : store.replayed call = false) :
    (store.step call).expiryOf call.id = some call.expiry := by
  have absent : call.id ∉ (store.retain call.now).inner.map Entry.id := by
    rw [replayed_eq, containsKey, Option.isSome_eq_false_iff, Option.isNone_iff_eq_none] at fresh
    exact KeyedList.find_none_iff.mp fresh
  have added : Entry.id ⟨call.id, call.expiry⟩ ∉ (store.retain call.now).inner.map Entry.id := absent
  rw [step_eq, fresh, if_neg Bool.false_ne_true]
  exact congrArg (Option.map Entry.expiry) (KeyedList.find_insertNew_self added)

theorem unexpired_step (call : Check) {entry : Entry} (member : entry ∈ (store.step call).inner) :
    call.now < entry.expiry ∨ (store.replayed call = false ∧ entry = ⟨call.id, call.expiry⟩) := by
  have pruned : ∀ other ∈ (store.retain call.now).inner, call.now < other.expiry := by
    intro other kept
    exact of_decide_eq_true (List.mem_filter.mp kept).2
  rw [step_eq] at member
  split at member
  · exact .inl (pruned entry member)
  · rename_i fresh
    unfold insert KeyedList.insertNew at member
    split at member
    · exact .inl (pruned entry member)
    · rcases List.mem_append.mp member with kept | new
      · exact .inl (pruned entry kept)
      · exact .inr ⟨Bool.eq_false_iff.mpr fresh, List.mem_singleton.mp new⟩

end InMemoryNonceStore

open InMemoryNonceStore

def Guarded (id : Uuid) (expiry clock : UInt64) (store : InMemoryNonceStore) : Prop :=
  store.expiryOf id = some expiry ∨ (store.expiryOf id = none ∧ expiry ≤ clock)

theorem guarded_step {id : Uuid} {expiry clock : UInt64} {store : InMemoryNonceStore} {call : Check}
    (guarded : Guarded id expiry clock store) (later : clock ≤ call.now)
    (early : call.id = id → call.now < expiry) : Guarded id expiry call.now (store.step call) := by
  by_cases same : call.id = id
  · have unexpired := early same
    subst same
    rcases guarded with stored | ⟨-, passed⟩
    · exact .inl (store.expiryOf_step_replayed stored unexpired)
    · exact absurd (UInt64.le_trans passed later) (UInt64.not_le.mpr unexpired)
  · rw [Guarded, store.expiryOf_step_other call same]
    rcases guarded with stored | ⟨gone, passed⟩
    · by_cases unexpired : call.now < expiry
      · exact .inl (by simp [stored, Option.filter, unexpired])
      · exact .inr ⟨by simp [stored, Option.filter, unexpired], UInt64.not_lt.mp unexpired⟩
    · exact .inr ⟨by simp [gone], UInt64.le_trans passed later⟩

theorem guarded_run {id : Uuid} {expiry clock : UInt64} {store : InMemoryNonceStore}
    (guarded : Guarded id expiry clock store) (calls : List Check)
    (ordered : calls.Pairwise fun first second => first.now ≤ second.now)
    (started : ∀ call ∈ calls, clock ≤ call.now)
    (early : ∀ call ∈ calls, call.id = id → call.now < expiry) {last : UInt64} (ends : clock ≤ last)
    (bounded : ∀ call ∈ calls, call.now ≤ last) :
    Guarded id expiry last (Runs.run step store calls) := by
  induction calls generalizing store clock with
  | nil =>
      rcases guarded with stored | ⟨gone, passed⟩
      · exact .inl stored
      · exact .inr ⟨gone, UInt64.le_trans passed ends⟩
  | cons call rest ih =>
      rw [List.pairwise_cons] at ordered
      simp only [List.forall_mem_cons] at started early bounded
      exact ih (guarded_step guarded started.1 early.1) ordered.2 ordered.1 early.2 bounded.1 bounded.2

/-- What a fresh call stores stands guard over its id until the clock has passed its expiry. -/
theorem guarded_since {store : InMemoryNonceStore} {call : Check} (fresh : store.replayed call = false)
    (middle : List Check) (ordered : (call :: middle).Pairwise fun first second => first.now ≤ second.now)
    (early : ∀ other ∈ middle, other.id = call.id → other.now < call.expiry) {last : UInt64}
    (ends : call.now ≤ last) (bounded : ∀ other ∈ middle, other.now ≤ last) :
    Guarded call.id call.expiry last (Runs.run step store (call :: middle)) := by
  rw [List.pairwise_cons] at ordered
  have stored : Guarded call.id call.expiry call.now (step store call) :=
    .inl (expiryOf_step_fresh store fresh)
  exact guarded_run stored middle ordered.2 ordered.1 early ends bounded

theorem Guarded.replayed {expiry : UInt64} {store : InMemoryNonceStore} {call : Check}
    (guarded : Guarded call.id expiry call.now store) (unexpired : call.now < expiry) :
    store.replayed call = true := by
  rcases guarded with stored | ⟨-, passed⟩
  · exact (replayed_iff store call).mpr ⟨expiry, stored, unexpired⟩
  · exact absurd passed (UInt64.not_le.mpr unexpired)

theorem Guarded.not_replayed {expiry : UInt64} {store : InMemoryNonceStore} {call : Check}
    (guarded : Guarded call.id expiry call.now store) (expired : expiry ≤ call.now) :
    store.replayed call = false := by
  rw [Bool.eq_false_iff, ne_eq, replayed_iff]
  rintro ⟨other, found, unexpired⟩
  rcases guarded with stored | ⟨gone, -⟩
  · obtain rfl := Option.some.inj (stored.symm.trans found)
    exact absurd expired (UInt64.not_le.mpr unexpired)
  · simp [gone] at found

theorem expiry_toNat {call : Check} (fits : call.deadline < 18446744073709551616) :
    call.expiry.toNat = call.deadline := by
  have product : (saturatingMul call.ttlSecs 1000).toNat = 1000 * call.ttlSecs.toNat := by
    have thousand : (1000 : UInt64).toNat = 1000 := rfl
    rw [saturatingMul, UInt64.toNat_ofNat', thousand]
    unfold Check.deadline at fits
    omega
  rw [Check.expiry, UInt64.toNat_add, product]
  exact Nat.mod_eq_of_lt fits

/-- A fresh id is a replay before its deadline and fresh again at its first call from then on; after
a call only the entry it stored itself can be expired. -/
theorem replay_protection (store : InMemoryNonceStore) (calls : List Check)
    (fits : ∀ call ∈ calls, call.deadline < 18446744073709551616)
    (ordered : calls.Pairwise fun first second => first.now ≤ second.now) :
    (∀ first call middle later rest, calls = first ++ call :: middle ++ later :: rest →
      later.id = call.id → (Runs.run step store first).replayed call = false →
      (later.now.toNat < call.deadline →
        (Runs.run step store (first ++ call :: middle)).replayed later = true) ∧
      (call.deadline ≤ later.now.toNat →
        (∀ other ∈ middle, other.id = call.id → other.now.toNat < call.deadline) →
        (Runs.run step store (first ++ call :: middle)).replayed later = false)) ∧
    ∀ first call rest, calls = first ++ call :: rest →
      ∀ entry ∈ (Runs.run step store (first ++ [call])).inner, call.now < entry.expiry ∨
        ((Runs.run step store first).replayed call = false ∧ entry = ⟨call.id, call.expiry⟩) := by
  constructor
  · rintro first call middle later rest rfl same fresh
    have exact : call.expiry.toNat = call.deadline := by
      apply expiry_toNat
      apply fits
      simp
    rw [List.append_assoc, List.cons_append, List.pairwise_append] at ordered
    obtain ⟨-, ordered, -⟩ := ordered
    have begun : call.now ≤ later.now := (List.pairwise_cons.mp ordered).1 later (by simp)
    rw [← List.cons_append, List.pairwise_append] at ordered
    obtain ⟨ordered, -, toLater⟩ := ordered
    have bounded : ∀ other ∈ middle, other.now ≤ later.now := fun other member =>
      toLater other (List.mem_cons_of_mem call member) later List.mem_cons_self
    have guarded := fun early => guarded_since fresh middle ordered early begun bounded
    rw [← same, ← Runs.run_append] at guarded
    constructor
    · intro before
      have unexpired : later.now < call.expiry := UInt64.lt_iff_toNat_lt.mpr (exact ▸ before)
      refine Guarded.replayed (guarded ?_) unexpired
      exact fun other member _ => UInt64.lt_of_le_of_lt (bounded other member) unexpired
    · intro reached early
      have expired : call.expiry ≤ later.now := UInt64.le_iff_toNat_le.mpr (exact ▸ reached)
      refine Guarded.not_replayed (guarded ?_) expired
      exact fun other member hit => UInt64.lt_iff_toNat_lt.mpr (exact ▸ early other member (hit.trans same))
  · rintro first call rest rfl entry member
    rw [Runs.run_concat] at member
    exact unexpired_step _ call member

def sampleCheck (now : UInt64) : Check := ⟨now, ⟨Vector.replicate 16 1⟩, 5⟩

theorem sample_protected :
    (Runs.run step new [sampleCheck 1000]).replayed (sampleCheck 5999) = true ∧
      (Runs.run step new [sampleCheck 1000, sampleCheck 5999]).replayed (sampleCheck 6000) = false := by
  have fits : ∀ call ∈ [sampleCheck 1000, sampleCheck 5999, sampleCheck 6000],
      call.deadline < 18446744073709551616 := by
    simp [sampleCheck, Check.deadline]
  have ordered : [sampleCheck 1000, sampleCheck 5999, sampleCheck 6000].Pairwise
      fun first second => first.now ≤ second.now := by
    simp [sampleCheck]
  have fresh : new.replayed (sampleCheck 1000) = false := rfl
  obtain ⟨window, -⟩ := replay_protection new _ fits ordered
  constructor
  · refine (window [] _ [] _ [sampleCheck 6000] rfl rfl fresh).1 ?_
    decide
  · refine (window [] _ [sampleCheck 5999] _ [] rfl rfl fresh).2 ?_ ?_
    · decide
    · simp [sampleCheck, Check.deadline]

end Pinaivu.Nonce
