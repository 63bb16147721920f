import Pinaivu.Lib.ExpiringKeys
import Pinaivu.Persistence.NonceStore

/-!
`RedisNonceStore` of `crates/persistence/src/nonce.rs`: one replay set for all replicas of the API. A call of any
replica is one `SET key 1 NX EX ttl`, and a call that gets no answer counts as fresh.
-/

namespace Pinaivu.Nonce

open ExpiringKeys

/-- A command may fail before the database runs it, or its answer may be lost. -/
inductive Delivery where
  | unreached
  | unanswered
  | answered
  deriving DecidableEq, Repr

/-- `now` is the time at which Redis runs the command. -/
structure RedisCheck where
  call : Check
  delivery : Delivery
  deriving DecidableEq

def nonceKey (id : Uuid) : String := "nonce:" ++ id.toText

/-- Redis refuses times to live that are not positive, and deadlines that do not fit in 63 bits. -/
def Check.accepted (call : Check) : Bool :=
  decide (0 < call.ttlSecs) && decide (call.deadline < 9223372036854775808)

namespace RedisNonceStore

variable (lifetime : Lifetime)

/-- `none` is an error. -/
def setNx (store : Store String Unit) (call : Check) : Store String Unit × Option Bool :=
  if call.accepted then
    let (after, set) := putNew lifetime store call.now.toNat (nonceKey call.id) () call.deadline
    (after, some set)
  else (store, none)

def checkAndSet (store : Store String Unit) (check : RedisCheck) : Store String Unit × Bool :=
  match check.delivery with
  | .unreached => (store, false)
  | .unanswered => ((setNx lifetime store check.call).1, false)
  | .answered =>
      match setNx lifetime store check.call with
      | (after, some true) => (after, false)
      | (after, some false) => (after, true)
      | (after, none) => (after, false)

def step (store : Store String Unit) (check : RedisCheck) : Store String Unit := (checkAndSet lifetime store check).1

def replayed (store : Store String Unit) (check : RedisCheck) : Bool := (checkAndSet lifetime store check).2

end RedisNonceStore

def RedisCheck.reached (check : RedisCheck) : Bool := check.delivery != .unreached

def reachedCalls (checks : List RedisCheck) : List Check := (checks.filter RedisCheck.reached).map RedisCheck.call

theorem nonceKey_injective : Function.Injective nonceKey := by
  intro first second same
  have texts := congrArg String.toList same
  simp only [nonceKey, String.toList_append] at texts
  exact Uuid.toText_injective (String.toList_inj.mp (List.append_cancel_left texts))

structure Mirrors (past : List Check) (clock : Nat) (id : Uuid) (entry : Option (Unit × Nat))
    (expiry : Option UInt64) : Prop where
  stored : ∀ value, expiry = some value → entry = some ((), value.toNat)
  expired : ∀ deadline, expiry = none → entry = some ((), deadline) → deadline ≤ clock
  known : ∀ deadline, entry = some ((), deadline) → ∃ call ∈ past, call.id = id ∧ call.deadline = deadline

def Related (past : List Check) (clock : Nat) (redis : Store String Unit) (memory : InMemoryNonceStore) : Prop :=
  ∀ id, Mirrors past clock id (redis (nonceKey id)) (memory.expiryOf id)

section

variable {past : List Check} {clock : Nat} {id : Uuid} {entry : Option (Unit × Nat)} {expiry : Option UInt64}

theorem Mirrors.pruned (mirrors : Mirrors past clock id entry expiry) {call : Check} (later : clock ≤ call.now.toNat) :
    Mirrors (past ++ [call]) call.now.toNat id entry (expiry.filter fun value => decide (call.now < value)) where
  stored := by
    intro value kept
    exact mirrors.stored value (Option.filter_eq_some_iff.mp kept).1
  expired := by
    intro deadline absent found
    cases present : expiry with
    | none => exact Nat.le_trans (mirrors.expired deadline present found) later
    | some value =>
        have stands := mirrors.stored value present
        rw [found, Option.some.injEq, Prod.mk.injEq] at stands
        rw [stands.2]
        have old : ¬call.now < value := by simpa [present, Option.filter] using absent
        exact UInt64.le_iff_toNat_le.mp (UInt64.not_lt.mp old)
  known := by
    intro deadline found
    obtain ⟨other, member, same⟩ := mirrors.known deadline found
    exact ⟨other, List.mem_append_left _ member, same⟩

theorem Mirrors.put (past : List Check) (call : Check) (fits : call.expiry.toNat = call.deadline) :
    Mirrors (past ++ [call]) call.now.toNat call.id (some ((), call.deadline)) (some call.expiry) where
  stored := by
    intro value same
    rw [← Option.some.inj same, fits]
  expired := by
    intro deadline absent
    cases absent
  known := by
    intro deadline same
    cases same
    exact ⟨call, by simp, rfl, rfl⟩

variable {lifetime : Lifetime}

theorem Mirrors.alive {call : Check} (mirrors : Mirrors past clock call.id entry expiry)
    (later : clock ≤ call.now.toNat) (apart : ∀ other ∈ past, other.id = call.id → call.now.toNat ≠ other.deadline) :
    (∃ value deadline, entry = some (value, deadline) ∧ lifetime.alive deadline call.now.toNat = true) ↔
      ∃ value, expiry = some value ∧ call.now < value := by
  constructor
  · rintro ⟨_, deadline, found, alive⟩
    obtain ⟨other, member, same, rfl⟩ := mirrors.known deadline found
    have early := (lifetime.alive_iff (apart other member same)).mp alive
    cases present : expiry with
    | none =>
        have passed := mirrors.expired other.deadline present found
        omega
    | some value =>
        have kept := mirrors.stored value present
        rw [found, Option.some.injEq, Prod.mk.injEq] at kept
        exact ⟨value, rfl, UInt64.lt_iff_toNat_lt.mpr (kept.2 ▸ early)⟩
  · rintro ⟨value, present, early⟩
    exact ⟨(), value.toNat, mirrors.stored value present, lifetime.before _ _ (UInt64.lt_iff_toNat_lt.mp early)⟩

end

section

variable {lifetime : Lifetime} {past : List Check} {clock : Nat} {redis : Store String Unit}
  {memory : InMemoryNonceStore} {call : Check}

theorem Related.step (related : Related past clock redis memory) (later : clock ≤ call.now.toNat)
    (accepted : call.accepted = true) (apart : ∀ other ∈ past, other.id = call.id → call.now.toNat ≠ other.deadline) :
    (RedisNonceStore.setNx lifetime redis call).2 = some (!memory.replayed call) ∧
      Related (past ++ [call]) call.now.toNat (RedisNonceStore.setNx lifetime redis call).1 (memory.step call) := by
  have present : (get lifetime redis call.now.toNat (nonceKey call.id)).isSome = memory.replayed call := by
    rw [Bool.eq_iff_iff, get_isSome_iff, memory.replayed_iff]
    exact (related call.id).alive later apart
  have others : ∀ id, call.id ≠ id →
      Mirrors (past ++ [call]) call.now.toNat id (redis (nonceKey id)) ((memory.step call).expiryOf id) := by
    intro id differs
    rw [memory.expiryOf_step_other call differs]
    exact (related id).pruned later
  simp only [RedisNonceStore.setNx, accepted, if_true, putNew, present]
  cases replayed : memory.replayed call with
  | true =>
      refine ⟨rfl, ?_⟩
      intro id
      by_cases same : call.id = id
      · subst same
        obtain ⟨value, found, early⟩ := (memory.replayed_iff call).mp replayed
        have kept := (related call.id).pruned later
        rw [found] at kept
        simp only [if_true]
        rw [memory.expiryOf_step_replayed found early]
        simpa [Option.filter, early] using kept
      · exact others id same
  | false =>
      refine ⟨rfl, ?_⟩
      intro id
      have fits : call.expiry.toNat = call.deadline := by
        apply expiry_toNat
        simp only [Check.accepted, Bool.and_eq_true, decide_eq_true_eq] at accepted
        omega
      simp only [Bool.false_eq_true, if_false]
      by_cases same : call.id = id
      · subst same
        rw [put_self, memory.expiryOf_step_fresh replayed]
        exact .put past call fits
      · have differs : nonceKey id ≠ nonceKey call.id := fun equal => same (nonceKey_injective equal).symm
        rw [put_other _ differs]
        exact others id same

theorem Related.weaken (related : Related past clock redis memory) {time : Nat} (order : clock ≤ time) :
    Related past time redis memory := by
  intro id
  obtain ⟨stored, expired, known⟩ := related id
  exact ⟨stored, fun deadline absent found => Nat.le_trans (expired deadline absent found) order, known⟩

def executed (lifetime : Lifetime) (redis : Store String Unit) (call : Check) : Store String Unit :=
  (RedisNonceStore.setNx lifetime redis call).1

theorem related_run (related : Related past clock redis memory) {calls : List Check}
    (accepted : ∀ call ∈ calls, call.accepted = true) (started : ∀ call ∈ calls, clock ≤ call.now.toNat)
    (ordered : calls.Pairwise fun first second => first.now ≤ second.now)
    (apart : ∀ call ∈ calls, ∀ other ∈ past, other.id = call.id → call.now.toNat ≠ other.deadline)
    (apart' : calls.Pairwise fun first second => first.id = second.id → second.now.toNat ≠ first.deadline)
    {last : Nat} (ends : clock ≤ last) (bounded : ∀ call ∈ calls, call.now.toNat ≤ last) :
    Related (past ++ calls) last (Runs.run (executed lifetime) redis calls)
      (Runs.run InMemoryNonceStore.step memory calls) := by
  induction calls generalizing past clock redis memory with
  | nil =>
      rw [List.append_nil]
      exact related.weaken ends
  | cons call rest ih =>
      rw [List.pairwise_cons] at ordered apart'
      simp only [List.forall_mem_cons] at accepted started apart bounded
      obtain ⟨-, next⟩ := @Related.step lifetime _ _ _ _ _ related started.1 accepted.1 apart.1
      have tail := ih next accepted.2 (fun other member => UInt64.le_iff_toNat_le.mp (ordered.1 other member))
        ordered.2 ?_ apart'.2 bounded.1 bounded.2
      · rw [List.append_assoc, List.singleton_append] at tail
        exact tail
      · intro later member other inside same
        rcases List.mem_append.mp inside with old | new
        · exact apart.2 later member other old same
        · rw [List.mem_singleton.mp new] at same ⊢
          exact apart'.1 later member same

end

theorem run_reached (lifetime : Lifetime) (redis : Store String Unit) (checks : List RedisCheck) :
    Runs.run (RedisNonceStore.step lifetime) redis checks =
      Runs.run (executed lifetime) redis (reachedCalls checks) := by
  induction checks generalizing redis with
  | nil => rfl
  | cons check rest ih =>
      rw [Runs.run_cons, ih]
      obtain ⟨call, delivery⟩ := check
      cases delivery with
      | unreached => rfl
      | unanswered => rfl
      | answered =>
          have same : RedisNonceStore.step lifetime redis ⟨call, .answered⟩ = executed lifetime redis call := by
            simp only [RedisNonceStore.step, RedisNonceStore.checkAndSet, executed]
            rcases RedisNonceStore.setNx lifetime redis call with ⟨after, _ | _ | _⟩ <;> rfl
          rw [same]
          rfl

/-- The calls of any number of replicas get the answers of one store in a process that runs those of them that
reach Redis; a call without an answer counts as fresh. -/
theorem redis_nonces (lifetime : Lifetime) (checks : List RedisCheck)
    (accepted : ∀ call ∈ reachedCalls checks, call.accepted = true)
    (ordered : (reachedCalls checks).Pairwise fun first second => first.now ≤ second.now)
    (apart : (reachedCalls checks).Pairwise fun first second =>
      first.id = second.id → second.now.toNat ≠ first.deadline) :
    ∀ first check rest, checks = first ++ check :: rest →
      RedisNonceStore.replayed lifetime (Runs.run (RedisNonceStore.step lifetime) empty first) check =
        (check.delivery == .answered &&
          (Runs.run InMemoryNonceStore.step .new (reachedCalls first)).replayed check.call) := by
  rintro first ⟨call, delivery⟩ rest rfl
  cases delivery with
  | unreached => rfl
  | unanswered => rfl
  | answered =>
      have split : reachedCalls (first ++ ⟨call, .answered⟩ :: rest) =
          reachedCalls first ++ call :: reachedCalls rest := by
        have reached : RedisCheck.reached ⟨call, .answered⟩ = true := rfl
        rw [reachedCalls, List.filter_append, List.filter_cons_of_pos reached, List.map_append, List.map_cons]
        rfl
      rw [split] at accepted ordered apart
      rw [List.pairwise_append] at ordered apart
      have start : Related [] 0 (empty : Store String Unit) .new := by
        intro id
        exact ⟨fun _ absent => (by cases absent), fun _ _ absent => (by cases absent),
          fun _ absent => (by cases absent)⟩
      have order : ∀ other ∈ reachedCalls first, other.now.toNat ≤ call.now.toNat := by
        intro other member
        exact UInt64.le_iff_toNat_le.mp (ordered.2.2 other member call List.mem_cons_self)
      have related := @related_run lifetime _ _ _ _ start (reachedCalls first)
        (fun other member => accepted other (List.mem_append_left _ member)) (fun _ _ => Nat.zero_le _) ordered.1
        (fun _ _ _ none => absurd none List.not_mem_nil) apart.1 call.now.toNat (Nat.zero_le _) order
      rw [List.nil_append, ← run_reached] at related
      have mine := (@Related.step lifetime _ _ _ _ _ related le_rfl
        (accepted call (List.mem_append_right _ List.mem_cons_self))
        (fun other member same => apart.2.2 other member call List.mem_cons_self same)).1
      simp only [RedisNonceStore.replayed, RedisNonceStore.checkAndSet, beq_self_eq_true, Bool.true_and]
      generalize RedisNonceStore.setNx lifetime _ call = result at mine
      obtain ⟨after, set⟩ := result
      cases mine
      cases InMemoryNonceStore.replayed _ call <;> rfl

/-- A key is there up to and at its deadline. -/
def inclusive : Lifetime where
  alive := fun deadline now => decide (now ≤ deadline)
  before := fun _ _ early => decide_eq_true early.le
  after := fun _ _ late => decide_eq_false late.not_ge

/-- The same id at several replicas: the second gets no answer, and the last comes after the window. -/
def replicaChecks : List RedisCheck :=
  [⟨sampleCheck 1000, .answered⟩, ⟨sampleCheck 3000, .unanswered⟩, ⟨sampleCheck 5999, .answered⟩,
    ⟨sampleCheck 6001, .answered⟩]

theorem redis_nonces_sample :
    RedisNonceStore.replayed inclusive (Runs.run (RedisNonceStore.step inclusive) empty (replicaChecks.take 2))
        ⟨sampleCheck 5999, .answered⟩ = true ∧
      RedisNonceStore.replayed inclusive (Runs.run (RedisNonceStore.step inclusive) empty (replicaChecks.take 3))
        ⟨sampleCheck 6001, .answered⟩ = false := by
  have accepted : ∀ call ∈ reachedCalls replicaChecks, call.accepted = true := by
    intro call member
    simp only [reachedCalls, List.mem_map] at member
    obtain ⟨check, inside, rfl⟩ := member
    have listed := (List.mem_filter.mp inside).1
    simp only [replicaChecks, List.mem_cons, List.not_mem_nil, or_false] at listed
    rcases listed with rfl | rfl | rfl | rfl <;> rfl
  have answers := redis_nonces inclusive replicaChecks accepted (by decide) (by decide)
  constructor
  · rw [answers (replicaChecks.take 2) _ [⟨sampleCheck 6001, .answered⟩] rfl]
    rfl
  · rw [answers (replicaChecks.take 3) _ [] rfl]
    rfl

end Pinaivu.Nonce
