import Pinaivu.Context.MemoryHistory
import Pinaivu.Persistence.RedisNonces

/-!
`RedisContextStore` of `crates/context/src/store.rs`: what replicas of a node that share one Redis return
of a session whose calls do not overlap. Each `append` is a `GET` and a `SETEX`, and a command may fail
before Redis runs it, or its answer may be lost.
-/

namespace Pinaivu.Context.RedisContextStore

open ExpiringKeys
open InMemoryContextStore (lastMessages)
open Nonce (Delivery)

def contextKey (sessionId : String) : String := "pinaivu:ctx:" ++ sessionId

/-- When a key expires that is set at this time, in milliseconds. -/
def deadline (limits : Limits) (now : Nat) : Nat := now + limits.ttlSecs.toNat * 1000

/-- Redis refuses times to live that are not positive, and deadlines that do not fit in 63 bits. -/
def accepted (limits : Limits) (now : Nat) : Bool :=
  decide (0 < limits.ttlSecs) && decide (deadline limits now < 9223372036854775808)

/-- The times are those at which Redis runs the commands. -/
inductive Call where
  | getMessages (sessionId : String) (now : Nat) (answered : Bool)
  | append (sessionId userMsg asstMsg : String) (readAt : Nat) (answered : Bool) (writtenAt : Nat) (write : Delivery)
  | clear (sessionId : String) (delivery : Delivery)

section

variable (limits : Limits) (lifetime : Lifetime)

def read (store : Store String String) (sessionId : String) (now : Nat) : List StoredMessage :=
  decodeText (get lifetime store now (contextKey sessionId))

/-- `none` is an error. -/
def getMessages (store : Store String String) (sessionId : String) (now : Nat) (answered : Bool) :
    Option (List StoredMessage) :=
  if answered then some (read lifetime store sessionId now) else none

def setEx (store : Store String String) (sessionId : String) (messages : List StoredMessage) (now : Nat) :
    Store String String × Bool :=
  if accepted limits now then (put store (contextKey sessionId) (encodeText messages) (deadline limits now), true)
  else (store, false)

/-- Whether the call succeeds comes with the store after it. -/
def append (store : Store String String) (sessionId userMsg asstMsg : String) (readAt : Nat) (answered : Bool)
    (writtenAt : Nat) (write : Delivery) : Store String String × Bool :=
  if answered then
    let messages := limits.trim (read lifetime store sessionId readAt ++ turn userMsg asstMsg)
    match write with
    | .unreached => (store, false)
    | .unanswered => ((setEx limits store sessionId messages writtenAt).1, false)
    | .answered => setEx limits store sessionId messages writtenAt
  else (store, false)

def clear (store : Store String String) (sessionId : String) (delivery : Delivery) : Store String String :=
  if delivery = .unreached then store else Function.update store (contextKey sessionId) none

def step (store : Store String String) : Call → Store String String
  | .getMessages _ _ _ => store
  | .append sessionId userMsg asstMsg readAt answered writtenAt write =>
      (append limits lifetime store sessionId userMsg asstMsg readAt answered writtenAt write).1
  | .clear sessionId delivery => clear store sessionId delivery

end

/-- A conversation as its participants remember it: all its turns, and until when. -/
structure Thread where
  messages : List StoredMessage
  expires : Nat

def remembered (thread : Option Thread) (now : Nat) : List StoredMessage :=
  ((thread.filter fun thread => now < thread.expires).map Thread.messages).getD []

def Call.stored (limits : Limits) : Call → Bool
  | .append _ _ _ _ answered writtenAt write => answered && write != .unreached && accepted limits writtenAt
  | .getMessages .. | .clear .. => false

def follow (limits : Limits) (sessionId : String) (thread : Option Thread) (call : Call) : Option Thread :=
  match call with
  | .append called userMsg asstMsg readAt _ writtenAt _ =>
      if called = sessionId ∧ call.stored limits = true then
        some ⟨remembered thread readAt ++ turn userMsg asstMsg, deadline limits writtenAt⟩
      else thread
  | .clear called delivery => if called = sessionId ∧ delivery ≠ .unreached then none else thread
  | .getMessages .. => thread

def Call.reads : Call → Option (String × Nat)
  | .getMessages sessionId now _ => some (sessionId, now)
  | .append sessionId _ _ readAt _ _ _ => some (sessionId, readAt)
  | .clear .. => none

def Call.sets (limits : Limits) : Call → Option (String × Nat)
  | .append sessionId _ _ _ _ writtenAt _ => some (sessionId, deadline limits writtenAt)
  | .getMessages .. | .clear .. => none

theorem contextKey_injective : Function.Injective contextKey := by
  intro first second same
  have texts := congrArg String.toList same
  simp only [contextKey, String.toList_append] at texts
  exact String.toList_inj.mp (List.append_cancel_left texts)

section

variable {limits : Limits} {lifetime : Lifetime} {store : Store String String} {sessionId : String}

theorem trim_eq (messages : List StoredMessage) : limits.trim messages = lastMessages limits.maxMsgs messages :=
  InMemoryContextStore.trim_unlimited limits.maxMsgs messages

def Holds (limits : Limits) (store : Store String String) (sessionId : String) (thread : Option Thread) : Prop :=
  store (contextKey sessionId) = thread.map fun thread =>
    (encodeText (lastMessages limits.maxMsgs thread.messages), thread.expires)

theorem Holds.read {thread : Option Thread} (holds : Holds limits store sessionId thread) {now : Nat}
    (apart : ∀ known, thread = some known → now ≠ known.expires) :
    read lifetime store sessionId now = lastMessages limits.maxMsgs (remembered thread now) := by
  unfold RedisContextStore.read ExpiringKeys.get
  rw [holds]
  cases thread with
  | none => simp [remembered, decodeText, lastMessages]
  | some known =>
      have alive := lifetime.alive_iff (apart known rfl)
      by_cases live : now < known.expires
      · have kept := alive.mpr live
        simp [remembered, live, kept, Option.filter_some, decodeText_encodeText]
      · have gone : ¬ lifetime.alive known.expires now = true := fun kept => live (alive.mp kept)
        simp [remembered, live, gone, Option.filter_some, decodeText, lastMessages]

theorem setEx_other {other : String} (different : other ≠ sessionId) (messages : List StoredMessage) (now : Nat) :
    (setEx limits store sessionId messages now).1 (contextKey other) = store (contextKey other) := by
  unfold setEx
  split
  · exact put_other store (fun same => different (contextKey_injective same)) _ _
  · rfl

theorem append_other {other : String} (different : other ≠ sessionId) (userMsg asstMsg : String) (readAt : Nat)
    (answered : Bool) (writtenAt : Nat) (write : Delivery) :
    (append limits lifetime store sessionId userMsg asstMsg readAt answered writtenAt write).1 (contextKey other) =
      store (contextKey other) := by
  unfold append
  split
  · cases write with
    | unreached => rfl
    | unanswered => exact setEx_other different _ _
    | answered => exact setEx_other different _ _
  · rfl

theorem append_store (userMsg asstMsg : String) (readAt : Nat) (answered : Bool) (writtenAt : Nat) (write : Delivery) :
    (append limits lifetime store sessionId userMsg asstMsg readAt answered writtenAt write).1 =
      if (Call.append sessionId userMsg asstMsg readAt answered writtenAt write).stored limits then
        put store (contextKey sessionId)
          (encodeText (limits.trim (read lifetime store sessionId readAt ++ turn userMsg asstMsg)))
          (deadline limits writtenAt)
      else store := by
  cases answered with
  | false => rfl
  | true =>
      cases taken : accepted limits writtenAt with
      | false => cases write <;> simp [append, setEx, Call.stored, taken]
      | true => cases write <;> simp [append, setEx, Call.stored, taken]

theorem Holds.step {thread : Option Thread} (holds : Holds limits store sessionId thread) {call : Call}
    (apart : ∀ known, thread = some known → ∀ now, call.reads = some (sessionId, now) → now ≠ known.expires) :
    Holds limits (step limits lifetime store call) sessionId (follow limits sessionId thread call) := by
  cases call with
  | getMessages called now answered => exact holds
  | append called userMsg asstMsg readAt answered writtenAt write =>
      by_cases same : called = sessionId
      · subst same
        rw [RedisContextStore.step, append_store, follow, Call.stored]
        simp only [true_and]
        split
        · have before := @Holds.read limits lifetime store called thread holds readAt
            fun known there => apart known there readAt rfl
          rw [Holds, put_self, before, trim_eq, InMemoryContextStore.lastMessages_append]
          rfl
        · exact holds
      · have other : sessionId ≠ called := fun wrong => same wrong.symm
        rw [follow, if_neg (fun both => same both.1), RedisContextStore.step, Holds, append_other other]
        exact holds
  | clear called delivery =>
      rw [RedisContextStore.step, clear, follow]
      by_cases reached : delivery = .unreached
      · rw [if_pos reached, if_neg (fun both => both.2 reached)]
        exact holds
      · rw [if_neg reached]
        by_cases same : called = sessionId
        · rw [if_pos ⟨same, reached⟩, same, Holds, Function.update_self]
          rfl
        · have other : contextKey sessionId ≠ contextKey called :=
            fun wrong => same (contextKey_injective wrong).symm
          rw [if_neg (fun both => same both.1), Holds, Function.update_of_ne other]
          exact holds

/-- No `GET` runs at the very instant at which the key expires that an earlier call set. -/
def Apart (limits : Limits) (earlier later : Call) : Prop :=
  earlier.sets limits = none ∨ earlier.sets limits ≠ later.reads

instance (limits : Limits) (earlier later : Call) : Decidable (Apart limits earlier later) :=
  inferInstanceAs (Decidable (_ ∨ _))

theorem Apart.differ {earlier later : Call} (apart : Apart limits earlier later) {expires now : Nat}
    (sets : earlier.sets limits = some (sessionId, expires)) (reads : later.reads = some (sessionId, now)) :
    now ≠ expires := by
  rintro rfl
  rcases apart with none | different
  · rw [sets] at none
    contradiction
  · exact different (sets.trans reads.symm)

theorem follow_expires {thread : Option Thread} {call : Call} {after : Thread}
    (followed : follow limits sessionId thread call = some after) :
    thread = some after ∨ call.sets limits = some (sessionId, after.expires) := by
  cases call with
  | getMessages => exact .inl followed
  | append called userMsg asstMsg readAt answered writtenAt write =>
      rw [follow] at followed
      split at followed
      · rename_i both
        rw [← Option.some.inj followed, ← both.1]
        exact .inr rfl
      · exact .inl followed
  | clear called delivery =>
      rw [follow] at followed
      split at followed
      · contradiction
      · exact .inl followed

theorem run_holds (calls : List Call) {store : Store String String} {thread : Option Thread}
    (holds : Holds limits store sessionId thread)
    (apart : ∀ known, thread = some known → ∀ call ∈ calls, ∀ now, call.reads = some (sessionId, now) →
      now ≠ known.expires) (pairwise : calls.Pairwise (Apart limits)) :
    Holds limits (Runs.run (step limits lifetime) store calls) sessionId
      (Runs.run (follow limits sessionId) thread calls) := by
  induction calls generalizing store thread with
  | nil => exact holds
  | cons call rest ih =>
      rw [List.pairwise_cons] at pairwise
      apply ih
      · exact holds.step fun known there => apart known there call List.mem_cons_self
      · intro known there later member now reads
        rcases follow_expires there with kept | sets
        · exact apart known kept later (List.mem_cons_of_mem call member) now reads
        · exact (pairwise.1 later member).differ sets reads
      · exact pairwise.2

theorem run_expires (calls : List Call) {thread : Option Thread} {last : Thread}
    (followed : Runs.run (follow limits sessionId) thread calls = some last) :
    thread = some last ∨ ∃ call ∈ calls, call.sets limits = some (sessionId, last.expires) := by
  induction calls generalizing thread with
  | nil => exact .inl followed
  | cons call rest ih =>
      rcases ih followed with before | ⟨other, member, sets⟩
      · rcases follow_expires before with kept | sets
        · exact .inl kept
        · exact .inr ⟨call, List.mem_cons_self, sets⟩
      · exact .inr ⟨other, List.mem_cons_of_mem call member, sets⟩

end

/-- A read of a session returns the last messages of its conversation: of all the turns that were stored
since the session was cleared, or since its last turn had expired when the next one was stored. Turns
count whose append got no answer, and reads do not keep a session alive. -/
theorem redis_sessions (limits : Limits) (lifetime : Lifetime) (calls : List Call)
    (apart : calls.Pairwise (Apart limits)) :
    ∀ first sessionId now answered rest, calls = first ++ .getMessages sessionId now answered :: rest →
      getMessages lifetime (Runs.run (step limits lifetime) empty first) sessionId now answered =
        if answered then
          some (lastMessages limits.maxMsgs (remembered (Runs.run (follow limits sessionId) none first) now))
        else none := by
  rintro first sessionId now answered rest rfl
  rw [List.pairwise_append] at apart
  have start : Holds limits (empty : Store String String) sessionId none := rfl
  have holds := @run_holds limits lifetime sessionId first _ _ start (fun _ none => nomatch none) apart.1
  rw [getMessages, holds.read]
  intro known there
  rcases run_expires first there with absent | ⟨call, member, sets⟩
  · contradiction
  · exact (apart.2.2 call member _ List.mem_cons_self).differ sets rfl

def redisLimits : Limits := ⟨3, 10⟩

/-- The second turn is stored without an answer, and the third long after the others have expired. -/
def redisCalls : List Call :=
  [.append "sess1" "hello" "hi there" 1000 true 1001 .answered,
    .append "sess1" "how are you" "I am great" 2000 true 2001 .unanswered,
    .append "sess1" "back again" "welcome" 20000 true 20001 .answered]

theorem redis_sessions_sample :
    getMessages Nonce.inclusive (Runs.run (step redisLimits Nonce.inclusive) empty (redisCalls.take 2)) "sess1" 3000
          true =
        some [⟨"assistant", "hi there"⟩, ⟨"user", "how are you"⟩, ⟨"assistant", "I am great"⟩] ∧
      getMessages Nonce.inclusive (Runs.run (step redisLimits Nonce.inclusive) empty redisCalls) "sess1" 21000 true =
        some [⟨"user", "back again"⟩, ⟨"assistant", "welcome"⟩] := by
  constructor
  · rw [redis_sessions redisLimits Nonce.inclusive (redisCalls.take 2 ++ [.getMessages "sess1" 3000 true])
      (by decide) _ _ _ _ [] rfl]
    rfl
  · rw [redis_sessions redisLimits Nonce.inclusive (redisCalls ++ [.getMessages "sess1" 21000 true])
      (by decide) _ _ _ _ [] rfl]
    rfl

end Pinaivu.Context.RedisContextStore
