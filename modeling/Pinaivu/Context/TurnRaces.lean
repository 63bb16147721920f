import Mathlib.Data.Fintype.Basic
import Pinaivu.Context.RedisSessions
import Pinaivu.Lib.SharedLog

/-!
Concurrent calls of `append` on one session. A call reads the stored turns in one step and
writes them back with its own in another, which Redis may refuse.
-/

namespace Pinaivu.Context

/-- `now` is the time of the write, for Redis in milliseconds and for a file in nanoseconds. -/
structure AppendCall where
  userMsg : String
  asstMsg : String
  now : Nat

section

variable {Caller : Type} (limits : Limits) (calls : Caller → AppendCall)

def turnOf (who : Caller) : List StoredMessage := turn (calls who).userMsg (calls who).asstMsg

def redisStore : SharedLog.Store Caller (Option String) StoredMessage where
  read := RedisContextStore.decodeText
  write who messages _ :=
    if RedisContextStore.accepted limits (calls who).now then
      some (some (RedisContextStore.encodeText (limits.trim (messages ++ turnOf calls who))))
    else none

def fileStore (isAlphanumeric : Char → Bool) (sessionId : String) :
    SharedLog.Store Caller Directory StoredMessage where
  read directory := LocalFileContextStore.readMsgs isAlphanumeric directory sessionId
  write who messages directory :=
    some (LocalFileContextStore.writeMsgs isAlphanumeric directory sessionId
      (limits.trim (messages ++ turnOf calls who)) (calls who).now)

variable [DecidableEq Caller] {Cell : Type} (store : SharedLog.Store Caller Cell StoredMessage)

def appends (cell : Cell) (schedule : List Caller) : SharedLog.State Caller Cell StoredMessage :=
  Runs.run (SharedLog.step store) (SharedLog.start cell) schedule

def Succeeded (cell : Cell) (schedule : List Caller) : Prop :=
  ∀ who, (appends store cell schedule).phase who = .finished

def StoredOnce (cell : Cell) (schedule : List Caller) : Prop :=
  ∃ order : List Caller, order.Nodup ∧ (∀ who, who ∈ order) ∧
    store.read (appends store cell schedule).cell = store.read cell ++ order.flatMap (turnOf calls)

/-- Each call writes while the stored list is the one it read. -/
def OneAtATime (cell : Cell) (schedule : List Caller) : Prop :=
  Runs.Always (SharedLog.step store) (SharedLog.Undisturbed store) (SharedLog.start cell) schedule

end

def BelowLimit (limits : Limits) (Caller : Type) [Fintype Caller] (stored : List StoredMessage) : Prop :=
  limits.maxMsgs = 0 ∨ stored.length + Fintype.card Caller * 2 ≤ limits.maxMsgs

section

variable {Caller : Type} {limits : Limits} {calls : Caller → AppendCall}

theorem trim_below {messages : List StoredMessage}
    (below : limits.maxMsgs = 0 ∨ messages.length ≤ limits.maxMsgs) : limits.trim messages = messages := by
  rw [Limits.trim, if_neg]
  rintro ⟨limited, excess⟩
  omega

theorem redisStore_read_write (who : Caller) (messages : List StoredMessage) (raw after : Option String)
    (writes : (redisStore limits calls).write who messages raw = some after) :
    (redisStore limits calls).read after = limits.trim (messages ++ turnOf calls who) := by
  dsimp only [redisStore] at writes
  split at writes
  · obtain rfl := Option.some.inj writes
    exact decodeText_encodeText _
  · contradiction

theorem fileStore_read_write (isAlphanumeric : Char → Bool) (sessionId : String) (who : Caller)
    (messages : List StoredMessage) (directory after : Directory)
    (writes : (fileStore limits calls isAlphanumeric sessionId).write who messages directory = some after) :
    (fileStore limits calls isAlphanumeric sessionId).read after = limits.trim (messages ++ turnOf calls who) := by
  obtain rfl := Option.some.inj writes
  simp [fileStore, LocalFileContextStore.readMsgs, LocalFileContextStore.writeMsgs, decodeFile_messages]

/-- A call that takes its two steps at once is `append`. -/
theorem fileStore_append [DecidableEq Caller] (isAlphanumeric : Char → Bool) (sessionId : String)
    (directory : Directory) (who : Caller) :
    (appends (fileStore limits calls isAlphanumeric sessionId) directory [who, who]).cell =
      LocalFileContextStore.append isAlphanumeric limits directory sessionId (calls who).userMsg
        (calls who).asstMsg (calls who).now := by
  simp [appends, SharedLog.step, SharedLog.start, fileStore, LocalFileContextStore.append, turnOf]

variable [Fintype Caller]

theorem appends_of_read_write {Cell : Type} {store : SharedLog.Store Caller Cell StoredMessage}
    (readWrite : ∀ who messages cell after, store.write who messages cell = some after →
      store.read after = limits.trim (messages ++ turnOf calls who))
    {initial : List StoredMessage} (below : BelowLimit limits Caller initial) :
    SharedLog.Appends store (turnOf calls) initial 2 where
  positive := Nat.two_pos
  weighs := by simp [turnOf, turn]
  appends := by
    intro who messages cell after room writes
    rw [readWrite who messages cell after writes]
    refine trim_below ?_
    have length : (turnOf calls who).length = 2 := rfl
    rw [List.length_append, length]
    rcases below with unlimited | below
    · exact .inl unlimited
    · exact .inr (room.trans below)

theorem storedOnce_iff [DecidableEq Caller] {Cell : Type} {store : SharedLog.Store Caller Cell StoredMessage}
    (readWrite : ∀ who messages cell after, store.write who messages cell = some after →
      store.read after = limits.trim (messages ++ turnOf calls who))
    {cell : Cell} (below : BelowLimit limits Caller (store.read cell)) {schedule : List Caller}
    (succeeded : Succeeded store cell schedule) :
    StoredOnce calls store cell schedule ↔ OneAtATime store cell schedule := by
  exact SharedLog.all_kept_iff (appends_of_read_write readWrite below) schedule succeeded

end

/-- When concurrent calls of `append` have all succeeded, and the message limit leaves room,
each turn is stored once exactly when no call wrote over a list that it had not read. -/
theorem turns_stored_once_iff (limits : Limits) (isAlphanumeric : Char → Bool) (sessionId : String)
    {Caller : Type} [Fintype Caller] [DecidableEq Caller] (calls : Caller → AppendCall) :
    (∀ raw schedule, BelowLimit limits Caller ((redisStore limits calls).read raw) →
      Succeeded (redisStore limits calls) raw schedule →
      (StoredOnce calls (redisStore limits calls) raw schedule ↔
        OneAtATime (redisStore limits calls) raw schedule)) ∧
    (∀ directory schedule,
      BelowLimit limits Caller ((fileStore limits calls isAlphanumeric sessionId).read directory) →
      Succeeded (fileStore limits calls isAlphanumeric sessionId) directory schedule →
      (StoredOnce calls (fileStore limits calls isAlphanumeric sessionId) directory schedule ↔
        OneAtATime (fileStore limits calls isAlphanumeric sessionId) directory schedule)) := by
  constructor
  · intro raw schedule below succeeded
    exact storedOnce_iff redisStore_read_write below succeeded
  · intro directory schedule below succeeded
    exact storedOnce_iff (fileStore_read_write isAlphanumeric sessionId) below succeeded

def twoTurns (who : Bool) : AppendCall := if who then ⟨"hello", "hi there", 1⟩ else ⟨"how are you", "I am great", 2⟩

theorem stored_once_in_turn :
    StoredOnce twoTurns (redisStore ⟨100, 3600⟩ twoTurns) none [true, true, false, false] ↔
      OneAtATime (redisStore ⟨100, 3600⟩ twoTurns) none [true, true, false, false] := by
  refine (turns_stored_once_iff ⟨100, 3600⟩ Char.isAlphanum "sess1" twoTurns).1 none _ ?_ ?_
  · exact .inr (by decide)
  · intro who
    cases who <;> rfl

theorem first_turn_lost :
    Succeeded (redisStore ⟨100, 3600⟩ twoTurns) none [true, false, true, false] ∧
      BelowLimit ⟨100, 3600⟩ Bool ((redisStore ⟨100, 3600⟩ twoTurns).read none) ∧
      ¬ StoredOnce twoTurns (redisStore ⟨100, 3600⟩ twoTurns) none [true, false, true, false] := by
  have succeeded : Succeeded (redisStore ⟨100, 3600⟩ twoTurns) none [true, false, true, false] := by
    intro who
    cases who <;> rfl
  have below : BelowLimit ⟨100, 3600⟩ Bool ((redisStore ⟨100, 3600⟩ twoTurns).read none) := .inr (by decide)
  refine ⟨succeeded, below, ?_⟩
  rw [storedOnce_iff redisStore_read_write below succeeded]
  intro undisturbed
  have same := ((Runs.always_iff_split _ _ _).mp undisturbed) [true, false, true] false [] rfl [] _ rfl rfl
  have written : Limits.trim ⟨100, 3600⟩ ([] ++ turnOf twoTurns true) = [] :=
    (redisStore_read_write true [] none _ rfl).symm.trans same
  revert written
  decide

end Pinaivu.Context
