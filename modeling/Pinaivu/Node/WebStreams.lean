import Pinaivu.Lib.Runs
import Pinaivu.Node.WebHistory

/-!
The chats of the web client: `web/lib/session-store.ts` and `send` of `web/lib/hooks/useStream.ts`. Every
function of the store runs without interruption, but a `send` awaits its bids and each piece of its answer, so
that streams of several chats run side by side and write to one list of sessions.
-/

namespace Pinaivu.WebChat

open Web (ChatRole)

/-- A string of JavaScript, in UTF-16 code units. -/
abbrev Text := List UInt16

/-- A text of the program; none of its characters needs a surrogate pair. -/
def units (text : String) : Text := text.toList.map fun char => UInt16.ofNat char.toNat

structure Message where
  id : Text
  role : ChatRole
  content : Text
  timestamp : Nat
  nodeId : Option Text
  durationMs : Option Nat

structure SessionRecord where
  id : Text
  modelId : Text
  title : Text
  createdAt : Nat
  updatedAt : Nat
  messages : List Message

/-- The third argument of `updateLastAssistantMessage`; a present `nodeId` may be `undefined`. -/
structure Extra where
  durationMs : Option Nat
  nodeId : Option (Option Text)

abbrev Sessions := List SessionRecord

def getSession (all : Sessions) (id : Text) : Option SessionRecord := all.find? fun session => session.id = id

def createSession (all : Sessions) (id modelId : Text) (now : Nat) : Sessions :=
  ⟨id, modelId, units "New chat", now, now, []⟩ :: all

def deleteSession (all : Sessions) (id : Text) : Sessions := all.filter fun session => session.id ≠ id

/-- `all[idx] = update(all[idx])` at the first session with this id; `none` if there is none. -/
def change (all : Sessions) (id : Text) (update : SessionRecord → SessionRecord) : Option Sessions := do
  let idx ← all.findIdx? fun session => session.id = id
  let session ← all[idx]?
  return all.set idx (update session)

def autoTitle (title : Text) (role : ChatRole) (content : Text) : Text :=
  if title = units "New chat" ∧ role = .user then
    content.take 60 ++ (if 60 < content.length then units "…" else [])
  else title

def appendMessage (all : Sessions) (sessionId : Text) (role : ChatRole) (content messageId : Text) (now : Nat) :
    Option Sessions :=
  change all sessionId fun session =>
    { session with
      messages := session.messages ++ [⟨messageId, role, content, now, none, none⟩]
      updatedAt := now
      title := autoTitle session.title role content }

def updateSessionTitle (all : Sessions) (sessionId title : Text) : Sessions :=
  (change all sessionId fun session => { session with title := title }).getD all

def Message.rewrite (message : Message) (content : Text) (extra : Extra) : Message :=
  { message with
    content := content
    durationMs := extra.durationMs.or message.durationMs
    nodeId := extra.nodeId.getD message.nodeId }

def SessionRecord.answer (session : SessionRecord) (content : Text) (extra : Extra) (now : Nat) : SessionRecord :=
  match session.messages.getLast? with
  | none => session
  | some last =>
      if last.role = .assistant then
        { session with messages := session.messages.dropLast ++ [last.rewrite content extra], updatedAt := now }
      else session

def updateLastAssistantMessage (all : Sessions) (sessionId content : Text) (extra : Extra) (now : Nat) : Sessions :=
  (change all sessionId fun session => session.answer content extra now).getD all

def noExtra : Extra := ⟨none, none⟩

structure Send where
  sessionId : Text
  accumulated : Text
  executingNode : Option Text
  startMs : Nat

inductive Phase where
  | running (send : Send)
  | ended

structure Browser where
  all : Sessions
  sends : Nat → Option Phase

/-- What a `send` awaits. The winner of the bids comes before the answer. -/
inductive Progress where
  | winner (node : Text)
  | chunk (text : Text)
  | done
  | stopped
  | failed (message : Text)

/-- Each call of `send` that passes its guard has a number of its own. -/
inductive Event where
  | create (id modelId : Text)
  | delete (id : Text)
  | rename (id title : Text)
  | send (number : Nat) (sessionId userText userMessageId placeholderId : Text)
  | progress (number : Nat) (progress : Progress)

def endText (accumulated : Text) : Progress → Text
  | .stopped => if accumulated = [] then units "[Stopped]" else accumulated
  | .failed message => if accumulated = [] then units "[Error: " ++ message ++ units "]" else accumulated
  | _ => accumulated

def Send.step (send : Send) (all : Sessions) (now : Nat) : Progress → Sessions × Option Send
  | .winner node =>
      if send.accumulated = [] then
        (updateLastAssistantMessage all send.sessionId [] ⟨none, some (some node)⟩ now,
          some { send with executingNode := some node })
      else (all, some send)
  | .chunk text =>
      let accumulated := send.accumulated ++ text
      (updateLastAssistantMessage all send.sessionId accumulated noExtra now,
        some { send with accumulated := accumulated })
  | .done =>
      (updateLastAssistantMessage all send.sessionId send.accumulated
        ⟨some (now - send.startMs), some send.executingNode⟩ now, none)
  | .stopped => (updateLastAssistantMessage all send.sessionId (endText send.accumulated .stopped) noExtra now, none)
  | .failed message =>
      (updateLastAssistantMessage all send.sessionId (endText send.accumulated (.failed message)) noExtra now, none)

def Browser.begin (browser : Browser) (number : Nat) (sessionId userText userMessageId placeholderId : Text)
    (now : Nat) : Browser :=
  match appendMessage browser.all sessionId .user userText userMessageId now with
  | none => browser
  | some withUser =>
      match appendMessage withUser sessionId .assistant [] placeholderId now with
      | none => ⟨withUser, browser.sends⟩
      | some withPlaceholder =>
          ⟨withPlaceholder, Function.update browser.sends number (some (.running ⟨sessionId, [], none, now⟩))⟩

def step (browser : Browser) (event : Nat × Event) : Browser :=
  let now := event.1
  match event.2 with
  | .create id modelId => { browser with all := createSession browser.all id modelId now }
  | .delete id => { browser with all := deleteSession browser.all id }
  | .rename id title => { browser with all := updateSessionTitle browser.all id title }
  | .send number sessionId userText userMessageId placeholderId =>
      if browser.sends number = none then
        browser.begin number sessionId userText userMessageId placeholderId now
      else browser
  | .progress number progress =>
      match browser.sends number with
      | some (.running send) =>
          let after := send.step browser.all now progress
          ⟨after.1, Function.update browser.sends number (some (after.2.elim .ended .running))⟩
      | _ => browser

def SessionRecord.shown (session : SessionRecord) : List (ChatRole × Text) :=
  session.messages.map fun message => (message.role, message.content)

/-- A question with what its own `send` has heard since. -/
structure Turn where
  number : Nat
  question : Text
  chunks : List Text
  ending : Option Progress

def Turn.answer (turn : Turn) : Text :=
  match turn.ending with
  | none => turn.chunks.flatten
  | some ending => endText turn.chunks.flatten ending

structure Chat where
  earlier : List (ChatRole × Text)
  turns : List Turn

def Turn.shown (turn : Turn) : List (ChatRole × Text) := [(.user, turn.question), (.assistant, turn.answer)]

def Chat.shown (chat : Chat) : List (ChatRole × Text) := chat.earlier ++ chat.turns.flatMap Turn.shown

def Turn.hear (number : Nat) (progress : Progress) (turn : Turn) : Turn :=
  if turn.number = number ∧ turn.ending.isNone then
    match progress with
    | .winner _ => turn
    | .chunk text => { turn with chunks := turn.chunks ++ [text] }
    | ending => { turn with ending := some ending }
  else turn

/-- A chat on its own: a `send` writes to its own turn, wherever that stands. -/
def follow (id : Text) (chat : Option Chat) (event : Nat × Event) : Option Chat :=
  match event.2 with
  | .create created _ => if created = id then some ⟨[], []⟩ else chat
  | .delete deleted => if deleted = id then none else chat
  | .rename _ _ => chat
  | .send number sessionId userText _ _ =>
      if sessionId = id then
        chat.map fun chat => { chat with turns := chat.turns ++ [⟨number, userText, [], none⟩] }
      else chat
  | .progress number progress =>
      chat.map fun chat => { chat with turns := chat.turns.map (Turn.hear number progress) }

def Quiet (sends : Nat → Option Phase) (id : Text) : Prop :=
  ∀ number send, sends number = some (.running send) → send.sessionId ≠ id

/-- A `send` does not start in this session while another one there goes on, and the session's id is a new one. -/
def Alone (id : Text) (browser : Browser) (event : Nat × Event) : Prop :=
  match event.2 with
  | .create created _ => created = id → Quiet browser.sends id
  | .send number sessionId _ _ _ => sessionId = id → browser.sends number = none ∧ Quiet browser.sends id
  | .delete _ | .rename _ _ | .progress _ _ => True

section

variable {all : Sessions} {id other : Text}

theorem getSession_create_other (different : other ≠ id) (modelId : Text) (now : Nat) :
    getSession (createSession all other modelId now) id = getSession all id := by
  simp [getSession, createSession, different]

theorem getSession_delete_self : getSession (deleteSession all id) id = none := by
  simp [getSession, deleteSession]

theorem getSession_delete_other (different : other ≠ id) :
    getSession (deleteSession all other) id = getSession all id := by
  rw [getSession, deleteSession, List.find?_filter, getSession]
  congr 1
  funext session
  by_cases here : session.id = id
  · simp [here, Ne.symm different]
  · simp [here]

theorem change_cons (session : SessionRecord) (rest : Sessions) (id : Text) (update : SessionRecord → SessionRecord) :
    change (session :: rest) id update =
      if session.id = id then some (update session :: rest) else (change rest id update).map (session :: ·) := by
  unfold change
  rw [List.findIdx?_cons]
  by_cases here : session.id = id
  · simp [here]
  · cases rest.findIdx? fun session => decide (session.id = id) with
    | none => simp [here]
    | some index => cases rest[index]? <;> simp [*]

theorem change_none (absent : getSession all id = none) (update : SessionRecord → SessionRecord) :
    change all id update = none := by
  induction all with
  | nil => rfl
  | cons session rest ih =>
      rw [getSession, List.find?_cons] at absent
      split at absent
      · cases absent
      · rename_i different
        rw [change_cons, if_neg (of_decide_eq_false different), ih absent]
        rfl

theorem change_some {session : SessionRecord} (present : getSession all id = some session)
    (update : SessionRecord → SessionRecord) (keeps : (update session).id = session.id) :
    ∃ after, change all id update = some after ∧ getSession after id = some (update session) ∧
      ∀ other, other ≠ id → getSession after other = getSession all other := by
  induction all with
  | nil => cases present
  | cons head rest ih =>
      rw [getSession, List.find?_cons] at present
      rw [change_cons]
      split at present
      · rename_i here
        obtain rfl := Option.some.inj present
        have same := of_decide_eq_true here
        refine ⟨_, if_pos same, ?_, ?_⟩
        · rw [getSession, List.find?_cons_of_pos]
          simp [keeps, same]
        · intro other different
          have hidden : head.id ≠ other := fun equal => different (equal.symm.trans same)
          simp [getSession, keeps, hidden]
      · rename_i different
        obtain ⟨after, changed, found, others⟩ := ih present
        have hidden := of_decide_eq_false different
        refine ⟨head :: after, ?_, ?_, ?_⟩
        · rw [if_neg hidden, changed]
          rfl
        · rw [getSession, List.find?_cons_of_neg (by simpa using hidden)]
          exact found
        · intro other distinct
          have same := others other distinct
          unfold getSession at same ⊢
          rw [List.find?_cons, List.find?_cons, same]

end

@[simp]
theorem answer_id (session : SessionRecord) (content : Text) (extra : Extra) (now : Nat) :
    (session.answer content extra now).id = session.id := by
  unfold SessionRecord.answer
  split
  · rfl
  · split <;> rfl

theorem answer_shown {session : SessionRecord} {front : List (ChatRole × Text)} {old : Text}
    (before : session.shown = front ++ [(.assistant, old)]) (content : Text) (extra : Extra) (now : Nat) :
    (session.answer content extra now).shown = front ++ [(.assistant, content)] := by
  obtain ⟨messages, last, whole, start, final⟩ := List.map_eq_append_iff.mp before
  obtain ⟨message, rfl, shows⟩ := List.map_eq_singleton_iff.mp final
  rw [Prod.mk.injEq] at shows
  have final : session.messages.getLast? = some message := by rw [whole, List.getLast?_concat]
  have rest : session.messages.dropLast = messages := by rw [whole, List.dropLast_concat]
  simp only [SessionRecord.answer, final, shows.1, if_true, SessionRecord.shown, List.map_append, rest, start]
  simp [Message.rewrite, shows.1]

section

variable {all : Sessions} {id other : Text}

theorem update_other (different : other ≠ id) (content : Text) (extra : Extra) (now : Nat) :
    getSession (updateLastAssistantMessage all other content extra now) id = getSession all id := by
  unfold updateLastAssistantMessage
  cases present : getSession all other with
  | none =>
      rw [change_none present]
      rfl
  | some session =>
      obtain ⟨after, changed, -, others⟩ := change_some present (fun session => session.answer content extra now)
        (answer_id session content extra now)
      rw [changed]
      exact others id (Ne.symm different)

theorem update_self (content : Text) (extra : Extra) (now : Nat) :
    getSession (updateLastAssistantMessage all id content extra now) id =
      (getSession all id).map fun session => session.answer content extra now := by
  unfold updateLastAssistantMessage
  cases present : getSession all id with
  | none =>
      rw [change_none present]
      exact present
  | some session =>
      obtain ⟨after, changed, found, -⟩ := change_some present (fun session => session.answer content extra now)
        (answer_id session content extra now)
      rw [changed]
      exact found

theorem rename_shown (renamed title : Text) :
    (getSession (updateSessionTitle all renamed title) id).map SessionRecord.shown =
      (getSession all id).map SessionRecord.shown := by
  unfold updateSessionTitle
  cases present : getSession all renamed with
  | none =>
      rw [change_none present]
      rfl
  | some session =>
      obtain ⟨after, changed, found, others⟩ :=
        change_some present (fun session => { session with title := title }) rfl
      rw [changed, Option.getD_some]
      by_cases same : id = renamed
      · rw [same, found, present]
        rfl
      · rw [others id same]

theorem append_missing (absent : getSession all id = none) (role : ChatRole) (content messageId : Text) (now : Nat) :
    appendMessage all id role content messageId now = none := change_none absent _

theorem append_present {session : SessionRecord} (present : getSession all id = some session) (role : ChatRole)
    (content messageId : Text) (now : Nat) :
    ∃ after next, appendMessage all id role content messageId now = some after ∧ getSession after id = some next ∧
      next.shown = session.shown ++ [(role, content)] ∧ ∀ other, other ≠ id →
        getSession after other = getSession all other := by
  obtain ⟨after, changed, found, others⟩ := change_some present (fun session =>
    { session with
      messages := session.messages ++ [⟨messageId, role, content, now, none, none⟩]
      updatedAt := now
      title := autoTitle session.title role content }) rfl
  exact ⟨after, _, changed, found, by simp [SessionRecord.shown], others⟩

end

/-- `plain` is `session` less what the history that is sent does not need. -/
def Reads (encode : String → Text) (plain : Web.SessionRecord) (session : SessionRecord) : Prop :=
  session.id = encode plain.id ∧
    session.shown = plain.messages.map fun message => (message.role, encode message.content)

theorem plain_cons (plain : Web.SessionRecord) (rest : List Web.SessionRecord) (id : String)
    (message : Web.ChatMessage) :
    Web.appendMessage (plain :: rest) id message =
      if plain.id = id then some ({ plain with messages := plain.messages ++ [message] } :: rest)
      else (Web.appendMessage rest id message).map (plain :: ·) := by
  unfold Web.appendMessage
  rw [List.findIdx?_cons]
  by_cases here : plain.id = id
  · simp [here]
  · cases rest.findIdx? fun session => session.id == id with
    | none => simp [here]
    | some index => cases rest[index]? <;> simp [*]

theorem rel_map {First Second Third Fourth : Type} {before : First → Second → Prop} {after : Third → Fourth → Prop}
    {first : First → Third} {second : Second → Fourth} (keeps : ∀ a b, before a b → after (first a) (second b))
    {a : Option First} {b : Option Second} (related : Option.Rel before a b) :
    Option.Rel after (a.map first) (b.map second) := by
  cases related with
  | none => exact .none
  | some holds => exact .some (keeps _ _ holds)

theorem append_reads {encode : String → Text} (injective : Function.Injective encode)
    {plains : List Web.SessionRecord} {all : Sessions} (same : List.Forall₂ (Reads encode) plains all) (id : String)
    (message : Web.ChatMessage) (messageId : Text) (now : Nat) :
    Option.Rel (List.Forall₂ (Reads encode)) (Web.appendMessage plains id message)
      (appendMessage all (encode id) message.role (encode message.content) messageId now) := by
  induction same with
  | nil => exact .none
  | @cons plain session plains all reads rest ih =>
      rw [plain_cons, appendMessage, change_cons, reads.1]
      by_cases here : plain.id = id
      · rw [if_pos here, if_pos (congrArg encode here)]
        refine .some (.cons ⟨rfl, ?_⟩ rest)
        simpa [SessionRecord.shown] using reads.2
      · rw [if_neg here, if_neg fun same => here (injective same)]
        exact rel_map (fun _ _ tail => .cons reads tail) ih

theorem hear_ended {number : Nat} {progress : Progress} {turn : Turn} (ended : turn.ending.isNone = false) :
    turn.hear number progress = turn := by
  simp [Turn.hear, ended]

theorem hear_other {number : Nat} {progress : Progress} {turn : Turn} (different : turn.number ≠ number) :
    turn.hear number progress = turn := by
  simp [Turn.hear, different]

theorem hear_number (turn : Turn) (number : Nat) (progress : Progress) :
    (turn.hear number progress).number = turn.number := by
  unfold Turn.hear
  split
  · cases progress <;> rfl
  · rfl

theorem hear_question (turn : Turn) (number : Nat) (progress : Progress) :
    (turn.hear number progress).question = turn.question := by
  unfold Turn.hear
  split
  · cases progress <;> rfl
  · rfl

theorem not_ended {turn : Turn} (unfinished : turn.ending = none) : turn.ending.isNone ≠ false := by
  rw [unfinished]
  exact Bool.noConfusion

/-- The store has what the chat says, and an unfinished turn of the chat is its last one and has its `send`. -/
structure Follows (id : Text) (all : Sessions) (sends : Nat → Option Phase) (chat : Option Chat) : Prop where
  shown : (getSession all id).map SessionRecord.shown = chat.map Chat.shown
  current : ∀ number send, sends number = some (.running send) → send.sessionId = id →
    ∀ known, chat = some known → ∃ earlier turn, known.turns = earlier ++ [turn] ∧
      (∀ other ∈ earlier, other.ending.isNone = false) ∧ turn.number = number ∧ turn.ending = none ∧
      turn.chunks.flatten = send.accumulated
  owned : ∀ known, chat = some known → ∀ turn ∈ known.turns, turn.ending = none →
    ∃ send, sends turn.number = some (.running send) ∧ send.sessionId = id

section

variable {id : Text} {all after : Sessions} {sends : Nat → Option Phase} {chat : Option Chat} {browser : Browser}

theorem Follows.keep (follows : Follows id all sends chat)
    (same : (getSession after id).map SessionRecord.shown = (getSession all id).map SessionRecord.shown) :
    Follows id after sends chat :=
  ⟨same.trans follows.shown, follows.current, follows.owned⟩

theorem Follows.create (follows : Follows id all sends chat) (created modelId : Text) (now : Nat)
    (quiet : created = id → Quiet sends id) :
    Follows id (createSession all created modelId now) sends
      (if created = id then some ⟨[], []⟩ else chat) := by
  by_cases same : created = id
  · rw [if_pos same]
    refine ⟨?_, ?_, ?_⟩
    · simp [getSession, createSession, same, SessionRecord.shown, Chat.shown]
    · intro number send running mine
      exact absurd mine (quiet same number send running)
    · intro known same turn member
      cases same
      cases member
  · rw [if_neg same]
    exact follows.keep (by rw [getSession_create_other same])

theorem Follows.delete (follows : Follows id all sends chat) (deleted : Text) :
    Follows id (deleteSession all deleted) sends (if deleted = id then none else chat) := by
  by_cases same : deleted = id
  · subst same
    rw [if_pos rfl]
    refine ⟨?_, ?_, ?_⟩
    · rw [getSession_delete_self]
      rfl
    · intro number send _ _ known gone
      cases gone
    · intro known gone
      cases gone
  · rw [if_neg same]
    exact follows.keep (by rw [getSession_delete_other same])

theorem Follows.update (follows : Follows id all sends chat) {number : Nat} {phase : Phase}
    (same : (getSession after id).map SessionRecord.shown = (getSession all id).map SessionRecord.shown)
    (before : ∀ send, sends number = some (.running send) → send.sessionId ≠ id)
    (later : ∀ send, phase = .running send → send.sessionId ≠ id) :
    Follows id after (Function.update sends number (some phase)) chat := by
  refine ⟨same.trans follows.shown, ?_, ?_⟩
  · intro other send running mine
    by_cases this : other = number
    · subst this
      rw [Function.update_self] at running
      exact absurd mine (later send (Option.some.inj running))
    · rw [Function.update_of_ne this] at running
      exact follows.current other send running mine
  · intro known there turn member unfinished
    obtain ⟨send, running, mine⟩ := follows.owned known there turn member unfinished
    have different : turn.number ≠ number := by
      rintro rfl
      exact before send running mine
    refine ⟨send, ?_, mine⟩
    rw [Function.update_of_ne different]
    exact running

theorem begin_missing {sessionId : Text} (absent : getSession browser.all sessionId = none) (number : Nat)
    (userText userMessageId placeholderId : Text) (now : Nat) :
    browser.begin number sessionId userText userMessageId placeholderId now = browser := by
  rw [Browser.begin, append_missing absent]

theorem begin_present {sessionId : Text} {session : SessionRecord}
    (present : getSession browser.all sessionId = some session) (number : Nat)
    (userText userMessageId placeholderId : Text) (now : Nat) :
    ∃ all last, browser.begin number sessionId userText userMessageId placeholderId now =
        ⟨all, Function.update browser.sends number (some (.running ⟨sessionId, [], none, now⟩))⟩ ∧
      getSession all sessionId = some last ∧
      last.shown = session.shown ++ [(.user, userText), (.assistant, [])] ∧
      ∀ other, other ≠ sessionId → getSession all other = getSession browser.all other := by
  obtain ⟨withUser, next, first, found, shows, others⟩ := append_present present .user userText userMessageId now
  obtain ⟨all, last, second, there, showsNext, othersNext⟩ := append_present found .assistant [] placeholderId now
  refine ⟨all, last, ?_, there, ?_, ?_⟩
  · rw [Browser.begin, first]
    simp only [second]
  · rw [showsNext, shows, List.append_assoc]
    rfl
  · intro other different
    rw [othersNext other different, others other different]

theorem Follows.all_ended {known : Chat} (follows : Follows id all sends (some known)) (quiet : Quiet sends id) :
    ∀ turn ∈ known.turns, turn.ending.isNone = false := by
  intro turn member
  cases ending : turn.ending with
  | some _ => rfl
  | none =>
      obtain ⟨send, running, mine⟩ := follows.owned known rfl turn member ending
      exact absurd mine (quiet turn.number send running)

theorem Follows.ask {known : Chat} {session last : SessionRecord} (follows : Follows id all sends (some known))
    (quiet : Quiet sends id) (present : getSession all id = some session) (there : getSession after id = some last)
    (userText : Text) (shows : last.shown = session.shown ++ [(.user, userText), (.assistant, [])]) (number now : Nat) :
    Follows id after (Function.update sends number (some (.running ⟨id, [], none, now⟩)))
      (some { known with turns := known.turns ++ [⟨number, userText, [], none⟩] }) := by
  have ended := follows.all_ended quiet
  have reads : session.shown = known.shown := by
    have shown := follows.shown
    rw [present] at shown
    exact Option.some.inj shown
  refine ⟨?_, ?_, ?_⟩
  · simp only [there, Option.map_some, shows, reads, Chat.shown, List.flatMap_append, List.append_assoc]
    rfl
  · intro other send running mine _ grown
    cases grown
    by_cases this : other = number
    · subst this
      rw [Function.update_self] at running
      cases running
      exact ⟨known.turns, _, rfl, ended, rfl, rfl, rfl⟩
    · rw [Function.update_of_ne this] at running
      exact absurd mine (quiet other send running)
  · intro _ grown turn member unfinished
    cases grown
    rcases List.mem_append.mp member with old | new
    · exact absurd (ended turn old) (not_ended unfinished)
    · rw [List.mem_singleton.mp new]
      exact ⟨_, Function.update_self .., rfl⟩

theorem Follows.send (follows : Follows id browser.all browser.sends chat) {number : Nat}
    (fresh : browser.sends number = none) (sessionId userText userMessageId placeholderId : Text) (now : Nat)
    (quiet : sessionId = id → Quiet browser.sends id) :
    let after := browser.begin number sessionId userText userMessageId placeholderId now
    Follows id after.all after.sends
      (if sessionId = id then
        chat.map fun chat => { chat with turns := chat.turns ++ [⟨number, userText, [], none⟩] }
      else chat) := by
  intro after
  cases present : getSession browser.all sessionId with
  | none =>
      have begun : after = browser := begin_missing present number userText userMessageId placeholderId now
      rw [begun]
      by_cases same : sessionId = id
      · subst same
        have gone : chat = none := by
          have shown := follows.shown
          rw [present] at shown
          exact Option.map_eq_none_iff.mp shown.symm
        subst gone
        rw [if_pos rfl]
        exact follows
      · rw [if_neg same]
        exact follows
  | some session =>
      obtain ⟨all, last, begun, there, shows, others⟩ :=
        begin_present present number userText userMessageId placeholderId now
      rw [show after = _ from begun]
      dsimp only
      by_cases same : sessionId = id
      · subst same
        have shown := follows.shown
        rw [present] at shown
        obtain ⟨known, rfl, -⟩ := Option.map_eq_some_iff.mp shown.symm
        rw [if_pos rfl]
        exact follows.ask (quiet rfl) present there userText shows number now
      · rw [if_neg same]
        apply follows.update
        · rw [others id (Ne.symm same)]
        · intro send running
          rw [fresh] at running
          cases running
        · rintro send running
          cases running
          exact same

theorem step_session (send : Send) (all : Sessions) (now : Nat) (progress : Progress) :
    ∀ next, (send.step all now progress).2 = some next → next.sessionId = send.sessionId := by
  intro next goes
  cases progress with
  | winner node =>
      rw [Send.step] at goes
      split at goes <;> (cases goes; rfl)
  | chunk text => cases goes; rfl
  | done => cases goes
  | stopped => cases goes
  | failed message => cases goes

theorem step_other {send : Send} (other : send.sessionId ≠ id) (now : Nat) (progress : Progress) :
    getSession (send.step all now progress).1 id = getSession all id := by
  cases progress with
  | winner node =>
      rw [Send.step]
      split
      · exact update_other other _ _ _
      · rfl
  | _ => exact update_other other _ _ _

theorem step_gone {send : Send} (gone : getSession all send.sessionId = none) (now : Nat) (progress : Progress) :
    getSession (send.step all now progress).1 send.sessionId = none := by
  have updated : ∀ content extra, getSession (updateLastAssistantMessage all send.sessionId content extra now)
      send.sessionId = none := by
    intro content extra
    rw [update_self, gone]
    rfl
  cases progress with
  | winner node =>
      rw [Send.step]
      split
      · exact updated _ _
      · exact gone
  | _ => exact updated _ _

def Progress.ends : Progress → Bool
  | .winner _ | .chunk _ => false
  | .done | .stopped | .failed _ => true

theorem step_ends (send : Send) (all : Sessions) (now : Nat) {progress : Progress} (ends : progress.ends = true) :
    ∃ extra, send.step all now progress =
      (updateLastAssistantMessage all send.sessionId (endText send.accumulated progress) extra now, none) := by
  cases progress with
  | winner node => cases ends
  | chunk text => cases ends
  | _ => exact ⟨_, rfl⟩

theorem hear_ends {turn : Turn} (unfinished : turn.ending = none) {progress : Progress} (ends : progress.ends = true) :
    turn.hear turn.number progress = { turn with ending := some progress } := by
  cases progress with
  | winner node => cases ends
  | chunk text => cases ends
  | _ => simp [Turn.hear, unfinished]

theorem step_own {send : Send} {session : SessionRecord} {front : List (ChatRole × Text)} {turn : Turn}
    (present : getSession all send.sessionId = some session) (unfinished : turn.ending = none)
    (heard : turn.chunks.flatten = send.accumulated) (reads : session.shown = front ++ [(.assistant, turn.answer)])
    (now : Nat) (progress : Progress) :
    let next := turn.hear turn.number progress
    (∃ last, getSession (send.step all now progress).1 send.sessionId = some last ∧
        last.shown = front ++ [(.assistant, next.answer)]) ∧
      (∀ later, (send.step all now progress).2 = some later → next.ending = none ∧
        next.chunks.flatten = later.accumulated) ∧
      ((send.step all now progress).2 = none → next.ending.isNone = false) := by
  have answered : turn.answer = send.accumulated := by rw [Turn.answer, unfinished, heard]
  have updated : ∀ content extra,
      ∃ last, getSession (updateLastAssistantMessage all send.sessionId content extra now) send.sessionId = some last ∧
        last.shown = front ++ [(.assistant, content)] := by
    intro content extra
    refine ⟨session.answer content extra now, ?_, answer_shown reads content extra now⟩
    rw [update_self, present]
    rfl
  intro next
  by_cases ends : progress.ends = true
  · obtain ⟨extra, writes⟩ := step_ends send all now ends
    have ended : next = { turn with ending := some progress } := hear_ends unfinished ends
    rw [writes, ended]
    refine ⟨?_, ?_, fun _ => rfl⟩
    · rw [Turn.answer, heard]
      exact updated _ extra
    · intro later goes
      cases goes
  · cases progress with
    | winner node =>
        have same : next = turn := by simp [next, Turn.hear]
        rw [same, Send.step]
        split
        · rename_i silent
          refine ⟨?_, ?_, fun ends => by cases ends⟩
          · rw [answered, silent]
            exact updated [] _
          · intro later goes
            cases goes
            exact ⟨unfinished, heard⟩
        · refine ⟨⟨session, present, reads⟩, ?_, fun ends => by cases ends⟩
          intro later goes
          cases goes
          exact ⟨unfinished, heard⟩
    | chunk text =>
        have grown : next = { turn with chunks := turn.chunks ++ [text] } := by simp [next, Turn.hear, unfinished]
        have longer : next.chunks.flatten = send.accumulated ++ text := by simp [grown, heard]
        have goesOn : next.ending = none := by rw [grown, unfinished]
        refine ⟨?_, ?_, fun ends => by cases ends⟩
        · rw [Turn.answer, goesOn, longer]
          exact updated _ _
        · intro later goes
          cases goes
          exact ⟨goesOn, longer⟩
    | done => exact absurd rfl ends
    | stopped => exact absurd rfl ends
    | failed message => exact absurd rfl ends

theorem hear_all {turns : List Turn} {number : Nat} (apart : ∀ turn ∈ turns, turn.ending = none → turn.number ≠ number)
    (progress : Progress) : turns.map (Turn.hear number progress) = turns := by
  refine (List.map_congr_left ?_).trans (List.map_id turns)
  intro turn member
  cases ending : turn.ending with
  | none => exact hear_other (apart turn member ending)
  | some _ => exact hear_ended (by rw [ending]; rfl)

theorem follow_apart {number : Nat} {progress : Progress}
    (apart : ∀ known, chat = some known → ∀ turn ∈ known.turns, turn.ending = none → turn.number ≠ number) :
    (chat.map fun chat => { chat with turns := chat.turns.map (Turn.hear number progress) }) = chat := by
  cases chat with
  | none => rfl
  | some known => rw [Option.map_some, hear_all (apart known rfl)]

theorem Follows.own (follows : Follows id all sends chat) {number : Nat} {send : Send}
    (running : sends number = some (.running send)) (mine : send.sessionId = id) (now : Nat) (progress : Progress) :
    let after := send.step all now progress
    Follows id after.1 (Function.update sends number (some (after.2.elim .ended .running)))
      (chat.map fun chat => { chat with turns := chat.turns.map (Turn.hear number progress) }) := by
  subst mine
  intro after
  have shown := follows.shown
  cases chat with
  | none =>
      have gone := step_gone (Option.map_eq_none_iff.mp shown) now progress
      refine ⟨?_, ?_, ?_⟩
      · rw [gone]
        rfl
      · intro _ _ _ _ known there
        cases there
      · intro known there
        cases there
  | some known =>
      obtain ⟨session, present, reads⟩ := Option.map_eq_some_iff.mp shown
      obtain ⟨earlier, turn, whole, ended, rfl, unfinished, heard⟩ := follows.current _ send running rfl known rfl
      have others : earlier.map (Turn.hear turn.number progress) = earlier := by
        apply hear_all
        intro other member open'
        exact absurd (ended other member) (not_ended open')
      have front : session.shown =
          (known.earlier ++ earlier.flatMap Turn.shown ++ [(.user, turn.question)]) ++ [(.assistant, turn.answer)] := by
        simp [reads, Chat.shown, whole, Turn.shown]
      obtain ⟨⟨last, found, reply⟩, goes, stops⟩ := step_own present unfinished heard front now progress
      have same : (turn.hear turn.number progress).number = turn.number := hear_number turn turn.number progress
      rw [Option.map_some, whole, List.map_append, others, List.map_singleton]
      refine ⟨?_, ?_, ?_⟩
      · rw [found, Option.map_some, reply]
        simp [Chat.shown, Turn.shown, hear_question]
      · intro number later active mine _ grown
        cases grown
        by_cases this : number = turn.number
        · subst this
          rw [Function.update_self] at active
          cases continues : after.2 with
          | none =>
              rw [continues] at active
              cases active
          | some next =>
              rw [continues] at active
              cases active
              obtain ⟨open', text⟩ := goes later continues
              exact ⟨earlier, _, rfl, ended, same, open', text⟩
        · rw [Function.update_of_ne this] at active
          obtain ⟨_, last', whole', _, number', _⟩ := follows.current number later active mine known rfl
          rw [whole] at whole'
          obtain ⟨-, rfl⟩ := List.append_inj' whole' rfl |>.imp_right List.singleton_inj.mp
          exact absurd number'.symm this
      · intro _ grown other member open'
        cases grown
        rcases List.mem_append.mp member with old | new
        · exact absurd (ended other old) (not_ended open')
        · rw [List.mem_singleton.mp new] at open' ⊢
          rw [same, Function.update_self]
          cases continues : after.2 with
          | none => exact absurd (stops continues) (not_ended open')
          | some next => exact ⟨next, rfl, step_session send all now progress next continues⟩

theorem Follows.progress (follows : Follows id browser.all browser.sends chat) (now number : Nat)
    (progress : Progress) :
    let after := step browser (now, .progress number progress)
    Follows id after.all after.sends (follow id chat (now, .progress number progress)) := by
  intro after
  have idle : (∀ send, browser.sends number = some (.running send) → send.sessionId ≠ id) →
      follow id chat (now, .progress number progress) = chat := by
    intro foreign
    apply follow_apart
    intro known there turn member open'
    rintro rfl
    obtain ⟨send, running, mine⟩ := follows.owned known there turn member open'
    exact foreign send running mine
  cases phase : browser.sends number with
  | none =>
      have stays : after = browser := by simp [after, step, phase]
      rw [stays, idle (by simp [phase])]
      exact follows
  | some active =>
      cases active with
      | ended =>
          have stays : after = browser := by simp [after, step, phase]
          rw [stays, idle (by simp [phase])]
          exact follows
      | running send =>
          have moves : after = ⟨(send.step browser.all now progress).1, Function.update browser.sends number
              (some ((send.step browser.all now progress).2.elim .ended .running))⟩ := by simp [after, step, phase]
          rw [moves]
          by_cases mine : send.sessionId = id
          · exact follows.own phase mine now progress
          · rw [idle (by simp [phase, mine])]
            apply follows.update
            · rw [step_other mine]
            · intro other running
              rw [phase] at running
              cases running
              exact mine
            · intro other later
              cases continues : (send.step browser.all now progress).2 with
              | none =>
                  rw [continues] at later
                  cases later
              | some next =>
                  rw [continues] at later
                  cases later
                  rw [step_session send browser.all now progress _ continues]
                  exact mine

theorem Follows.step (follows : Follows id browser.all browser.sends chat) (event : Nat × Event)
    (alone : Alone id browser event) :
    Follows id (WebChat.step browser event).all (WebChat.step browser event).sends (follow id chat event) := by
  obtain ⟨now, action⟩ := event
  cases action with
  | create created modelId => exact follows.create created modelId now alone
  | delete deleted => exact follows.delete deleted
  | rename renamed title => exact follows.keep (rename_shown renamed title)
  | send number sessionId userText userMessageId placeholderId =>
      by_cases fresh : browser.sends number = none
      · have begins : WebChat.step browser (now, .send number sessionId userText userMessageId placeholderId) =
            browser.begin number sessionId userText userMessageId placeholderId now := if_pos fresh
        rw [begins]
        exact follows.send fresh sessionId userText userMessageId placeholderId now fun same => (alone same).2
      · have stays : WebChat.step browser (now, .send number sessionId userText userMessageId placeholderId) =
            browser := if_neg fresh
        have foreign : sessionId ≠ id := fun same => fresh (alone same).1
        have same : follow id chat (now, .send number sessionId userText userMessageId placeholderId) = chat :=
          if_neg foreign
        rw [stays, same]
        exact follows
  | progress number progress => exact follows.progress now number progress

theorem Follows.run (follows : Follows id browser.all browser.sends chat) (events : List (Nat × Event))
    (alone : Runs.Always WebChat.step (Alone id) browser events) :
    Follows id (Runs.run WebChat.step browser events).all (Runs.run WebChat.step browser events).sends
      (Runs.run (follow id) chat events) := by
  induction events generalizing browser chat with
  | nil => exact follows
  | cons event rest ih => exact ih (follows.step event alone.1) alone.2

end

def saved (all : Sessions) (id : Text) : Option Chat := (getSession all id).map fun session => ⟨session.shown, []⟩

theorem saved_follows (all : Sessions) (id : Text) : Follows id all (fun _ => none) (saved all id) := by
  refine ⟨?_, ?_, ?_⟩
  · simp [saved, Chat.shown, Option.map_map, Function.comp_def]
  · intro number send running
    cases running
  · intro known there turn member
    obtain ⟨session, -, rfl⟩ := Option.map_eq_some_iff.mp there
    cases member

/--
In a page whose calls of `send` run side by side, with their bids, pieces, stops and errors in any order, a chat in
which they take turns shows each question with what its own call heard: no stream writes to another chat, to an
earlier answer, or to a chat that was deleted.
-/
theorem chat_streams (all : Sessions) (id : Text) (events : List (Nat × Event))
    (alone : Runs.Always step (Alone id) ⟨all, fun _ => none⟩ events) :
    (getSession (Runs.run step ⟨all, fun _ => none⟩ events).all id).map SessionRecord.shown =
      (Runs.run (follow id) (saved all id) events).map Chat.shown :=
  (Follows.run (saved_follows all id) events alone).shown

/-- Two chats at once; the first is stopped and asked again while the other goes on. -/
def sampleStreams : List (Nat × Event) := [
  (1, .create [97] (units "llama3")),
  (2, .create [98] (units "llama3")),
  (3, .send 0 [97] (units "Hello") [1] [2]),
  (4, .send 1 [98] (units "Why?") [3] [4]),
  (5, .progress 1 (.winner (units "peer"))),
  (6, .progress 0 (.chunk (units "Hi"))),
  (7, .progress 1 (.chunk (units "Be"))),
  (8, .progress 0 .stopped),
  (9, .send 2 [97] (units "Again") [5] [6]),
  (10, .progress 1 (.chunk (units "cause"))),
  (11, .progress 2 .stopped),
  (12, .progress 1 .done)]

theorem sampleStreams_alone : Runs.Always step (Alone [97]) ⟨[], fun _ => none⟩ sampleStreams := by
  refine ⟨?_, ?_, ?_, ?_, trivial, trivial, trivial, trivial, ?_, trivial, trivial, trivial, trivial⟩
  · rintro - number send running
    cases running
  · intro same
    cases same
  · rintro -
    refine ⟨rfl, ?_⟩
    intro number send running
    cases running
  · intro same
    cases same
  · rintro -
    refine ⟨rfl, ?_⟩
    intro number send running mine
    match number with
    | 0 => cases running
    | 1 =>
        cases running
        cases mine
    | number + 2 => cases running

theorem chat_streams_sample :
    (getSession (Runs.run step ⟨[], fun _ => none⟩ sampleStreams).all [97]).map SessionRecord.shown =
      some [(.user, units "Hello"), (.assistant, units "Hi"), (.user, units "Again"),
        (.assistant, units "[Stopped]")] := by
  rw [chat_streams [] [97] sampleStreams sampleStreams_alone]
  rfl

end Pinaivu.WebChat
