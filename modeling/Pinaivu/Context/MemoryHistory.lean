import Pinaivu.Context.MemoryExpiry

/-!
What the store in memory returns when it keeps its sessions for ever: the last messages of the
whole history of a session.
-/

namespace Pinaivu.Context.InMemoryContextStore

/-- Without a time limit, and so without the background task. -/
def unlimited (maxMsgs : Nat) : Limits := ⟨maxMsgs, 0⟩

def Call.sessionId : Call → Option String
  | .getMessages sessionId _ _ | .append sessionId _ _ _ | .clear sessionId => some sessionId
  | .sweep _ => none

def addedTo (sessionId : String) (history : List StoredMessage) : Call → List StoredMessage
  | .append called userMsg asstMsg _ => if called = sessionId then history ++ turn userMsg asstMsg else history
  | .clear called => if called = sessionId then [] else history
  | .getMessages .. => history
  | .sweep _ => history

def history (sessionId : String) (calls : List Call) : List StoredMessage :=
  Runs.run (addedTo sessionId) [] calls

def lastMessages (maxMsgs : Nat) (messages : List StoredMessage) : List StoredMessage :=
  if maxMsgs = 0 then messages else messages.drop (messages.length - maxMsgs)

def shown (entry : Option SessionEntry) : List StoredMessage := (entry.map SessionEntry.messages).getD []

theorem trim_unlimited (maxMsgs : Nat) (messages : List StoredMessage) :
    (unlimited maxMsgs).trim messages = lastMessages maxMsgs messages := by
  unfold Limits.trim lastMessages unlimited
  by_cases none : maxMsgs = 0
  · simp [none]
  · by_cases long : maxMsgs < messages.length
    · rw [if_pos ⟨Nat.pos_of_ne_zero none, long⟩, if_neg none]
    · have whole : messages.length - maxMsgs = 0 := by omega
      rw [if_neg (by simp [long]), if_neg none, whole, List.drop_zero]

theorem lastMessages_append (maxMsgs : Nat) (earlier added : List StoredMessage) :
    lastMessages maxMsgs (lastMessages maxMsgs earlier ++ added) = lastMessages maxMsgs (earlier ++ added) := by
  unfold lastMessages
  split
  · rfl
  · have within : earlier.length - maxMsgs ≤ earlier.length := Nat.sub_le _ _
    rw [← List.drop_append_of_le_length within, List.drop_drop]
    congr 1
    simp only [List.length_drop, List.length_append]
    omega

theorem shown_entryAfter (maxMsgs : Nat) (sessionId : String) (entry : Option SessionEntry) (call : Call)
    {earlier : List StoredMessage} (shows : shown entry = lastMessages maxMsgs earlier) :
    shown (entryAfter (unlimited maxMsgs) sessionId entry call) =
      lastMessages maxMsgs (addedTo sessionId earlier call) := by
  have forever : ¬(0 : UInt64) < (unlimited maxMsgs).ttlSecs := by
    simp [unlimited]
  cases call with
  | getMessages called checked touched =>
      rw [entryAfter, addedTo]
      split
      · cases entry with
        | none => exact shows
        | some entry =>
            rw [Option.bind_some, if_neg (fun old => forever old.1)]
            exact shows
      · exact shows
  | append called userMsg asstMsg now =>
      rw [entryAfter, addedTo]
      split
      · rw [← lastMessages_append, ← shows, ← trim_unlimited]
        rfl
      · exact shows
  | clear called =>
      rw [entryAfter, addedTo]
      split
      · simp [shown, lastMessages]
      · exact shows
  | sweep now =>
      rw [entryAfter, if_neg forever]
      exact shows

theorem getMessages_shown (maxMsgs : Nat) (store : InMemoryContextStore) (sessionId : String)
    (checked touched : UInt64) :
    (getMessages (unlimited maxMsgs) store sessionId checked touched).2 = shown (store.sessions sessionId) := by
  unfold getMessages
  cases store.sessions sessionId with
  | none => rfl
  | some entry => simp [unlimited, shown]

theorem entryAfter_other {limits : Limits} {sessionId : String} {call : Call} (entry : Option SessionEntry)
    (forever : limits.ttlSecs = 0) (other : call.sessionId ≠ some sessionId) :
    entryAfter limits sessionId entry call = entry := by
  cases call with
  | getMessages called checked touched => exact if_neg fun same => other (congrArg some same)
  | append called userMsg asstMsg now => exact if_neg fun same => other (congrArg some same)
  | clear called => exact if_neg fun same => other (congrArg some same)
  | sweep now => simp [entryAfter, forever]

def Shows (maxMsgs : Nat) (sessionId : String) (store : InMemoryContextStore) (earlier : List StoredMessage) : Prop :=
  shown (store.sessions sessionId) = lastMessages maxMsgs earlier

theorem shows_run (maxMsgs : Nat) (calls : List Call) (sessionId : String) :
    Shows maxMsgs sessionId (Runs.run (step (unlimited maxMsgs)) new calls) (history sessionId calls) := by
  apply Runs.related_run
  · intro store earlier call shows
    rw [Shows, step_sessions]
    exact shown_entryAfter maxMsgs sessionId _ call shows
  · simp [Shows, new, shown, lastMessages]

/-- A session is its whole history, cut once, whatever is done to the other sessions. -/
theorem memory_history (maxMsgs : Nat) (calls : List Call) (sessionId : String) (checked touched : UInt64) :
    (getMessages (unlimited maxMsgs) (Runs.run (step (unlimited maxMsgs)) new calls) sessionId checked touched).2 =
        lastMessages maxMsgs (history sessionId calls) ∧
      ∀ call : Call, call.sessionId ≠ some sessionId →
        (getMessages (unlimited maxMsgs) (Runs.run (step (unlimited maxMsgs)) new (calls ++ [call])) sessionId checked
            touched).2 =
          (getMessages (unlimited maxMsgs) (Runs.run (step (unlimited maxMsgs)) new calls) sessionId checked
            touched).2 := by
  constructor
  · rw [getMessages_shown]
    exact shows_run maxMsgs calls sessionId
  · intro call other
    rw [getMessages_shown, getMessages_shown, Runs.run_concat, step_sessions, entryAfter_other _ rfl other]

/-- An odd limit keeps half of a turn. -/
example : lastMessages 3 (history "s" [.append "s" "msg1" "reply1" 1, .append "t" "other" "reply" 2,
    .append "s" "msg2" "reply2" 3]) = ⟨"assistant", "reply1"⟩ :: turn "msg2" "reply2" := by decide

end Pinaivu.Context.InMemoryContextStore
