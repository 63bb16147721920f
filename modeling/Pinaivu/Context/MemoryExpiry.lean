import Mathlib.Data.List.Infix
import Pinaivu.Context.StoreCore
import Pinaivu.Lib.Runs

/-!
Which turns the store in memory still returns after a session was left untouched for longer
than the time it keeps them.
-/

namespace Pinaivu.Context.InMemoryContextStore

inductive Call where
  | getMessages (sessionId : String) (checked touched : UInt64)
  | append (sessionId userMsg asstMsg : String) (now : UInt64)
  | clear (sessionId : String)
  | sweep (now : UInt64)

def step (limits : Limits) (store : InMemoryContextStore) : Call → InMemoryContextStore
  | .getMessages sessionId checked touched => (getMessages limits store sessionId checked touched).1
  | .append sessionId userMsg asstMsg now => append limits store sessionId userMsg asstMsg now
  | .clear sessionId => clear store sessionId
  | .sweep now => if 0 < limits.ttlSecs then sweep limits store now else store

/-- What a session may still be shown: the messages since the last two touches that are too
far apart. -/
structure Conversation where
  lastTouch : Option UInt64
  recent : List StoredMessage

namespace Conversation

def empty : Conversation := ⟨none, []⟩

def Gap (limits : Limits) (conversation : Conversation) (now : UInt64) : Prop :=
  ∃ last, conversation.lastTouch = some last ∧ limits.ttlSecs.toNat < elapsed now last

instance (limits : Limits) (conversation : Conversation) (now : UInt64) :
    Decidable (conversation.Gap limits now) :=
  match lastTouch : conversation.lastTouch with
  | none => isFalse (by rintro ⟨last, found, -⟩; simp [lastTouch] at found)
  | some last => decidable_of_iff (limits.ttlSecs.toNat < elapsed now last) (by simp [Gap, lastTouch])

/-- A touch that starts at the first reading and ends at the second. -/
def touch (limits : Limits) (conversation : Conversation) (starts ends : UInt64) : Conversation where
  lastTouch := some ends
  recent := if conversation.Gap limits starts then [] else conversation.recent

def step (limits : Limits) (sessionId : String) (conversation : Conversation) : Call → Conversation
  | .getMessages called checked touched =>
      if called = sessionId then conversation.touch limits checked touched else conversation
  | .append called userMsg asstMsg now =>
      if called = sessionId then
        let touched := conversation.touch limits now now
        { touched with recent := touched.recent ++ turn userMsg asstMsg }
      else conversation
  | _ => conversation

end Conversation

def conversation (limits : Limits) (calls : List Call) (sessionId : String) : Conversation :=
  Runs.run (Conversation.step limits sessionId) .empty calls

/-- An entry that a call appends to was touched in time, or the call leaves none of the
messages it had. -/
def Timely (limits : Limits) (store : InMemoryContextStore) : Call → Prop
  | .append sessionId _ _ now =>
      (0 < limits.maxMsgs ∧ limits.maxMsgs ≤ 2) ∨
        ∀ entry, store.sessions sessionId = some entry → elapsed now entry.lastTouched ≤ limits.ttlSecs.toNat
  | _ => True

/-- Whenever a session is read, at any point of the run, only recent messages come back. -/
def ReturnsRecent (limits : Limits) (calls : List Call) : Prop :=
  ∀ first rest, calls = first ++ rest → ∀ sessionId checked touched,
    (getMessages limits (Runs.run (step limits) new first) sessionId checked touched).2 <:+
      (conversation limits (first ++ [.getMessages sessionId checked touched]) sessionId).recent

section

variable {limits : Limits}

theorem trim_suffix (messages : List StoredMessage) : limits.trim messages <:+ messages := by
  rw [Limits.trim]
  split
  · exact List.drop_suffix _ messages
  · exact List.suffix_refl messages

theorem length_trim (messages : List StoredMessage) :
    (limits.trim messages).length =
      if 0 < limits.maxMsgs then min limits.maxMsgs messages.length else messages.length := by
  rw [Limits.trim]
  split <;> split
  · rw [List.length_drop]
    omega
  · omega
  · omega
  · rfl

def entryAfter (limits : Limits) (sessionId : String) (entry : Option SessionEntry) : Call → Option SessionEntry
  | .getMessages called checked touched =>
      if called = sessionId then entry.bind fun entry =>
        if 0 < limits.ttlSecs ∧ limits.ttlSecs.toNat < elapsed checked entry.lastTouched then none
        else some { entry with lastTouched := touched }
      else entry
  | .append called userMsg asstMsg now =>
      if called = sessionId then
        some ⟨limits.trim ((entry.map SessionEntry.messages).getD [] ++ turn userMsg asstMsg), now⟩
      else entry
  | .clear called => if called = sessionId then none else entry
  | .sweep now =>
      if 0 < limits.ttlSecs then
        entry.filter fun entry => decide (elapsed now limits.ttlSecs < entry.lastTouched.toNat)
      else entry

theorem step_sessions (store : InMemoryContextStore) (call : Call) (sessionId : String) :
    (step limits store call).sessions sessionId = entryAfter limits sessionId (store.sessions sessionId) call := by
  cases call with
  | getMessages called checked touched =>
      rw [step, getMessages, entryAfter]
      by_cases same : called = sessionId
      · subst same
        cases found : store.sessions called with
        | none => simp [found]
        | some entry =>
            simp only [if_true, Option.bind_some]
            split <;> simp
      · rw [if_neg same]
        split
        · rfl
        · split <;> exact Function.update_of_ne (Ne.symm same) _ _
  | append called userMsg asstMsg now =>
      by_cases same : called = sessionId
      · subst same
        simp [step, append, entryAfter]
      · rw [step, append, entryAfter, if_neg same]
        exact Function.update_of_ne (Ne.symm same) _ _
  | clear called =>
      by_cases same : called = sessionId
      · subst same
        simp [step, clear, entryAfter]
      · rw [step, clear, entryAfter, if_neg same]
        exact Function.update_of_ne (Ne.symm same) _ _
  | sweep now =>
      rw [step, entryAfter]
      split <;> rfl

def Tracks (entry : Option SessionEntry) (conversation : Conversation) : Prop :=
  ∀ held, entry = some held → conversation.lastTouch = some held.lastTouched ∧ held.messages ≠ []

def Fresh (entry : Option SessionEntry) (conversation : Conversation) : Prop :=
  ∀ held, entry = some held → held.messages <:+ conversation.recent

theorem trim_ne_nil {messages : List StoredMessage} (nonempty : messages ≠ []) : limits.trim messages ≠ [] := by
  intro empty
  have short := congrArg List.length empty
  have long := List.length_pos_iff.mpr nonempty
  rw [length_trim, List.length_nil] at short
  split at short <;> omega

theorem entry_of_get {sessionId : String} {entry : Option SessionEntry} {checked touched : UInt64}
    {held : SessionEntry}
    (after : entryAfter limits sessionId entry (.getMessages sessionId checked touched) = some held) :
    ∃ before, entry = some before ∧ held = { before with lastTouched := touched } ∧
      ¬ (0 < limits.ttlSecs ∧ limits.ttlSecs.toNat < elapsed checked before.lastTouched) := by
  rw [entryAfter, if_pos rfl] at after
  obtain ⟨before, found, kept⟩ := Option.bind_eq_some_iff.mp after
  split at kept
  · contradiction
  next young => exact ⟨before, found, (Option.some.inj kept).symm, young⟩

theorem tracks_after {sessionId : String} {entry : Option SessionEntry} {conversation : Conversation}
    (tracks : Tracks entry conversation) (call : Call) :
    Tracks (entryAfter limits sessionId entry call) (conversation.step limits sessionId call) := by
  cases call with
  | getMessages called checked touched =>
      by_cases same : called = sessionId
      · subst same
        rw [Conversation.step, if_pos rfl]
        intro held after
        obtain ⟨before, found, rfl, -⟩ := entry_of_get after
        exact ⟨rfl, (tracks before found).2⟩
      · rwa [entryAfter, Conversation.step, if_neg same, if_neg same]
  | append called userMsg asstMsg now =>
      by_cases same : called = sessionId
      · rw [entryAfter, Conversation.step, if_pos same, if_pos same]
        intro held after
        obtain rfl := Option.some.inj after
        exact ⟨rfl, trim_ne_nil (by simp [turn])⟩
      · rwa [entryAfter, Conversation.step, if_neg same, if_neg same]
  | clear called =>
      rw [entryAfter]
      split
      · intro held after
        contradiction
      · exact tracks
  | sweep now =>
      rw [entryAfter]
      split
      · intro held after
        exact tracks held (Option.filter_eq_some_iff.mp after).1
      · exact tracks

theorem gap_iff {held : SessionEntry} {conversation : Conversation}
    (last : conversation.lastTouch = some held.lastTouched) (now : UInt64) :
    conversation.Gap limits now ↔ limits.ttlSecs.toNat < elapsed now held.lastTouched := by
  simp [Conversation.Gap, last]

/-- The turn alone is left of what an append made of an old entry exactly when the store keeps no
more than two messages. -/
theorem trim_suffix_turn_iff {messages : List StoredMessage} (nonempty : messages ≠ [])
    (userMsg asstMsg : String) :
    limits.trim (messages ++ turn userMsg asstMsg) <:+ turn userMsg asstMsg ↔
      0 < limits.maxMsgs ∧ limits.maxMsgs ≤ 2 := by
  have long := List.length_pos_iff.mpr nonempty
  constructor
  · intro suffix
    have short := suffix.length_le
    simp only [length_trim, turn, List.length_append, List.length_cons, List.length_nil] at short
    split at short <;> omega
  · rintro ⟨some, few⟩
    refine List.suffix_of_suffix_length_le (trim_suffix _) (List.suffix_append _ _) ?_
    rw [length_trim, if_pos some]
    simp only [turn, List.length_append, List.length_cons, List.length_nil]
    omega

def OnTime (limits : Limits) (sessionId : String) (entry : Option SessionEntry) : Call → Prop
  | .append called _ _ now =>
      called = sessionId → (0 < limits.maxMsgs ∧ limits.maxMsgs ≤ 2) ∨
        ∀ held, entry = some held → elapsed now held.lastTouched ≤ limits.ttlSecs.toNat
  | _ => True

theorem timely_iff (store : InMemoryContextStore) (call : Call) :
    Timely limits store call ↔ ∀ sessionId, OnTime limits sessionId (store.sessions sessionId) call := by
  cases call with
  | append called userMsg asstMsg now =>
      constructor
      · rintro timely sessionId rfl
        exact timely
      · intro onTime
        exact onTime called rfl
  | _ => simp [Timely, OnTime]

theorem fresh_append_iff {sessionId : String} {entry : Option SessionEntry} {conversation : Conversation}
    (tracks : Tracks entry conversation) (fresh : Fresh entry conversation) (userMsg asstMsg : String)
    (now : UInt64) :
    Fresh (entryAfter limits sessionId entry (.append sessionId userMsg asstMsg now))
        (conversation.step limits sessionId (.append sessionId userMsg asstMsg now)) ↔
      (0 < limits.maxMsgs ∧ limits.maxMsgs ≤ 2) ∨
        ∀ held, entry = some held → elapsed now held.lastTouched ≤ limits.ttlSecs.toNat := by
  rw [entryAfter, Conversation.step, if_pos rfl, if_pos rfl]
  cases entry with
  | none =>
      refine iff_of_true ?_ (.inr (by simp))
      intro held after
      obtain rfl := Option.some.inj after
      exact (trim_suffix _).trans (List.suffix_append _ _)
  | some held =>
      have last := (tracks held rfl).1
      by_cases gap : conversation.Gap limits now
      · have late := not_le.mpr ((gap_iff last now).mp gap)
        have only := @trim_suffix_turn_iff limits _ (tracks held rfl).2 userMsg asstMsg
        simpa [Fresh, Conversation.touch, gap, late] using only
      · have early := fun late => gap ((gap_iff last now).mpr late)
        refine iff_of_true ?_ (.inr ?_)
        · intro after made
          obtain rfl := Option.some.inj made
          obtain ⟨earlier, split⟩ := fresh held rfl
          refine (trim_suffix _).trans ⟨earlier, ?_⟩
          simp [Conversation.touch, gap, ← split]
        · rintro other same
          obtain rfl := Option.some.inj same
          exact Nat.not_lt.mp early

theorem fresh_after_iff (expires : 0 < limits.ttlSecs) {sessionId : String} {entry : Option SessionEntry}
    {conversation : Conversation} (tracks : Tracks entry conversation) (fresh : Fresh entry conversation)
    (call : Call) :
    Fresh (entryAfter limits sessionId entry call) (conversation.step limits sessionId call) ↔
      OnTime limits sessionId entry call := by
  cases call with
  | append called userMsg asstMsg now =>
      by_cases same : called = sessionId
      · subst same
        simpa [OnTime] using fresh_append_iff tracks fresh userMsg asstMsg now
      · rw [entryAfter, Conversation.step, if_neg same, if_neg same]
        exact iff_of_true fresh fun equal => absurd equal same
  | getMessages called checked touched =>
      refine iff_of_true ?_ trivial
      by_cases same : called = sessionId
      · subst same
        rw [Conversation.step, if_pos rfl]
        intro held after
        obtain ⟨before, found, rfl, young⟩ := entry_of_get after
        have close : ¬ conversation.Gap limits checked := by
          rw [gap_iff (tracks before found).1]
          exact fun late => young ⟨expires, late⟩
        rw [Conversation.touch, if_neg close]
        exact fresh before found
      · rwa [entryAfter, Conversation.step, if_neg same, if_neg same]
  | clear called =>
      refine iff_of_true ?_ trivial
      rw [entryAfter]
      split
      · intro held after
        contradiction
      · exact fresh
  | sweep now =>
      refine iff_of_true ?_ trivial
      rw [entryAfter, if_pos expires]
      intro held after
      exact fresh held (Option.filter_eq_some_iff.mp after).1

theorem fresh_iff_returned (expires : 0 < limits.ttlSecs) (store : InMemoryContextStore) (sessionId : String)
    {conversation : Conversation} (tracks : Tracks (store.sessions sessionId) conversation) :
    Fresh (store.sessions sessionId) conversation ↔
      ∀ checked touched, (getMessages limits store sessionId checked touched).2 <:+
        (conversation.step limits sessionId (.getMessages sessionId checked touched)).recent := by
  simp only [getMessages, Conversation.step, if_true, Conversation.touch]
  cases found : store.sessions sessionId with
  | none => simp [Fresh]
  | some held =>
      have last := (tracks held found).1
      constructor
      · intro fresh checked touched
        by_cases late : limits.ttlSecs.toNat < elapsed checked held.lastTouched
        · simp [expires, late]
        · have close : ¬ conversation.Gap limits checked := fun gap => late ((gap_iff last checked).mp gap)
          simpa [late, close] using fresh held rfl
      · intro returned other same
        obtain rfl := Option.some.inj same
        have young : ¬ limits.ttlSecs.toNat < elapsed held.lastTouched held.lastTouched := by
          simp [elapsed]
        have close : ¬ conversation.Gap limits held.lastTouched := fun gap =>
          young ((gap_iff last held.lastTouched).mp gap)
        simpa [young, close] using returned held.lastTouched held.lastTouched

def converse (limits : Limits) (conversations : String → Conversation) (call : Call) : String → Conversation :=
  fun sessionId => (conversations sessionId).step limits sessionId call

theorem run_converse (calls : List Call) (conversations : String → Conversation) (sessionId : String) :
    Runs.run (converse limits) conversations calls sessionId =
      Runs.run (Conversation.step limits sessionId) (conversations sessionId) calls := by
  induction calls generalizing conversations with
  | nil => rfl
  | cons call calls ih => exact ih (converse limits conversations call)

def AllTrack (store : InMemoryContextStore) (conversations : String → Conversation) : Prop :=
  ∀ sessionId, Tracks (store.sessions sessionId) (conversations sessionId)

def AllFresh (store : InMemoryContextStore) (conversations : String → Conversation) : Prop :=
  ∀ sessionId, Fresh (store.sessions sessionId) (conversations sessionId)

theorem allTrack_step (store : InMemoryContextStore) (conversations : String → Conversation) (call : Call)
    (tracks : AllTrack store conversations) :
    AllTrack (step limits store call) (converse limits conversations call) := by
  intro sessionId
  rw [step_sessions]
  exact tracks_after (tracks sessionId) call

theorem allFresh_step_iff (expires : 0 < limits.ttlSecs) {store : InMemoryContextStore}
    {conversations : String → Conversation} (tracks : AllTrack store conversations)
    (fresh : AllFresh store conversations) (call : Call) :
    AllFresh (step limits store call) (converse limits conversations call) ↔ Timely limits store call := by
  rw [timely_iff]
  refine forall_congr' fun sessionId => ?_
  rw [step_sessions]
  exact fresh_after_iff expires (tracks sessionId) (fresh sessionId) call

theorem allTrack_run (calls : List Call) :
    AllTrack (Runs.run (step limits) new calls) (Runs.run (converse limits) (fun _ => .empty) calls) := by
  have start : AllTrack new fun _ => .empty := by
    intro sessionId held found
    contradiction
  exact Runs.related_run allTrack_step start calls

theorem conversation_concat (calls : List Call) (call : Call) (sessionId : String) :
    conversation limits (calls ++ [call]) sessionId =
      (Runs.run (converse limits) (fun _ => .empty) calls sessionId).step limits sessionId call := by
  rw [conversation, Runs.run_concat, run_converse]

theorem allFresh_iff_always (expires : 0 < limits.ttlSecs) (calls : List Call) :
    (∀ first rest, calls = first ++ rest →
        AllFresh (Runs.run (step limits) new first) (Runs.run (converse limits) (fun _ => .empty) first)) ↔
      Runs.Always (step limits) (Timely limits) new calls := by
  have track : AllTrack new fun _ => .empty := @allTrack_run limits []
  have fresh : AllFresh new fun _ => .empty := by
    intro sessionId held found
    contradiction
  exact Runs.reached_related_iff AllFresh (Timely limits) allTrack_step
    (fun _ _ call tracks fresh => allFresh_step_iff expires tracks fresh call) track fresh calls

theorem returnsRecent_iff_fresh (expires : 0 < limits.ttlSecs) (calls : List Call) :
    ReturnsRecent limits calls ↔ ∀ first rest, calls = first ++ rest →
      AllFresh (Runs.run (step limits) new first) (Runs.run (converse limits) (fun _ => .empty) first) := by
  refine forall_congr' fun first => forall_congr' fun rest => imp_congr_right fun _ => forall_congr' fun sessionId => ?_
  rw [fresh_iff_returned expires _ _ (allTrack_run first sessionId)]
  simp only [conversation_concat]

end

/-- A store that expires sessions returns recent messages only, at every point of a run,
exactly when every append of the run is timely. -/
theorem returns_recent_iff (limits : Limits) (expires : 0 < limits.ttlSecs) (calls : List Call) :
    ReturnsRecent limits calls ↔ Runs.Always (step limits) (Timely limits) new calls := by
  rw [returnsRecent_iff_fresh expires, allFresh_iff_always expires]

def lateTurn : List Call := [.append "sess1" "hello" "hi there" 100, .append "sess1" "how are you" "I am great" 112]

theorem returns_recent_sweep :
    ReturnsRecent ⟨100, 10⟩ [.append "sess1" "hello" "hi there" 100, .sweep 111,
        .append "sess1" "how are you" "I am great" 112] ↔
      Runs.Always (step ⟨100, 10⟩) (Timely ⟨100, 10⟩) new [.append "sess1" "hello" "hi there" 100, .sweep 111,
        .append "sess1" "how are you" "I am great" 112] := by
  exact returns_recent_iff ⟨100, 10⟩ (by decide) _

theorem late_turn_returns_expired : ¬ ReturnsRecent ⟨100, 10⟩ lateTurn := by
  intro recent
  have suffix := (recent lateTurn [] rfl "sess1" 113 113).length_le
  revert suffix
  decide

end Pinaivu.Context.InMemoryContextStore
