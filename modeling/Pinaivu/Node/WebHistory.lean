import Pinaivu.Node.EncryptedPrompts

/-!
What the web chat sends along with a new message: the local path of `send` in
`web/lib/hooks/useStream.ts`, after its two writes to the store of `web/lib/session-store.ts`.
Of a session only its id and its messages are kept, and of a message its role and content.
-/

namespace Pinaivu.Web

inductive ChatRole where
  | user
  | assistant
  deriving DecidableEq, Repr

structure ChatMessage where
  role : ChatRole
  content : String
  deriving DecidableEq, Repr

structure SessionRecord where
  id : String
  messages : List ChatMessage
  deriving DecidableEq, Repr

/-- `none` is the error for a session that the store does not have. -/
def appendMessage (all : List SessionRecord) (sessionId : String) (message : ChatMessage) :
    Option (List SessionRecord) := do
  let idx ← all.findIdx? fun session => session.id == sessionId
  let session ← all[idx]?
  return all.set idx { session with messages := session.messages ++ [message] }

/-- What is handed on: the list, or one text that it is flattened to. -/
inductive Handed where
  | chatCompletions (messages : List ChatMessage) (model : String) (maxTokens : UInt32) (sessionId : String)
  | inferEncrypted (request : InferRequest)

def hasText (message : ChatMessage) : Bool := Js.trim message.content.toList ≠ []

def roleLabel : ChatRole → String
  | .user => "User"
  | .assistant => "Assistant"

def promptLine (message : ChatMessage) : String := roleLabel message.role ++ ": " ++ message.content

def flatten (messages : List ChatMessage) : String := "\n".intercalate (messages.map promptLine)

def handOver (session : SessionRecord) (modelId : String) (isRemoteDaemon : Bool) (messages : List ChatMessage) :
    Handed :=
  if isRemoteDaemon then
    .inferEncrypted {
      modelId := modelId
      prompt := flatten messages
      sessionId := some session.id
      maxTokens := some 2048
      temperature := none }
  else .chatCompletions messages modelId 2048 session.id

/-- The history is cut from the session value that the hook was given, not from the store. -/
def allMessages (session : SessionRecord) (userText : String) : List ChatMessage :=
  (session.messages.filter hasText).dropLast ++ [⟨.user, userText⟩]

def sendLocal (all : List SessionRecord) (session : SessionRecord) (userText modelId : String)
    (isRemoteDaemon : Bool) : Option (List SessionRecord × Handed) := do
  let withUser ← appendMessage all session.id ⟨.user, userText⟩
  let withPlaceholder ← appendMessage withUser session.id ⟨.assistant, ""⟩
  return (withPlaceholder, handOver session modelId isRemoteDaemon (allMessages session userText))

def wholeConversation (session : SessionRecord) (userText : String) : List ChatMessage :=
  session.messages.filter hasText ++ [⟨.user, userText⟩]

theorem appendMessage_some {all : List SessionRecord} {sessionId : String}
    (stored : ∃ record ∈ all, record.id = sessionId) (message : ChatMessage) :
    ∃ after, appendMessage all sessionId message = some after ∧ ∃ record ∈ after, record.id = sessionId := by
  have present : (all.findIdx? fun other => other.id == sessionId).isSome = true := by
    rw [List.findIdx?_isSome, List.any_eq_true]
    obtain ⟨record, member, same⟩ := stored
    exact ⟨record, member, beq_iff_eq.mpr same⟩
  obtain ⟨idx, found⟩ := Option.isSome_iff_exists.mp present
  obtain ⟨bound, same, _⟩ := List.findIdx?_eq_some_iff_getElem.mp found
  refine ⟨all.set idx { all[idx] with messages := all[idx].messages ++ [message] }, ?_,
    { all[idx] with messages := all[idx].messages ++ [message] }, ?_, ?_⟩
  · simp [appendMessage, found, bound]
  · exact List.mem_set bound _
  · exact beq_iff_eq.mp same

theorem sendLocal_hands {all : List SessionRecord} {session : SessionRecord}
    (stored : ∃ record ∈ all, record.id = session.id) (userText modelId : String) (isRemoteDaemon : Bool) :
    ∃ after, sendLocal all session userText modelId isRemoteDaemon =
      some (after, handOver session modelId isRemoteDaemon (allMessages session userText)) := by
  obtain ⟨withUser, appended, kept⟩ := appendMessage_some stored ⟨.user, userText⟩
  obtain ⟨withPlaceholder, again, _⟩ := appendMessage_some kept ⟨.assistant, ""⟩
  exact ⟨withPlaceholder, by simp [sendLocal, appended, again]⟩

theorem flatten_append {first second : List ChatMessage} (nonempty : first ≠ []) (rest : second ≠ []) :
    flatten (first ++ second) = flatten first ++ "\n" ++ flatten second := by
  rw [flatten, List.map_append, String.intercalate_append_of_ne_nil (by simpa using nonempty) (by simpa using rest)]
  rfl

theorem flatten_longer (earlier : List ChatMessage) (dropped last : ChatMessage) :
    flatten (earlier ++ [last]) ≠ flatten (earlier ++ [dropped] ++ [last]) := by
  intro same
  have line : "\n".length = 1 := by decide
  have pair : (flatten ([dropped] ++ [last])).length =
      (flatten [dropped]).length + 1 + (flatten [last]).length := by
    rw [flatten_append (by simp) (by simp), String.length_append, String.length_append, line]
  rw [List.append_assoc] at same
  have lengths := congrArg String.length same
  by_cases empty : earlier = []
  · rw [empty, List.nil_append, List.nil_append] at lengths
    omega
  · rw [flatten_append empty (by simp), flatten_append empty (by simp)] at lengths
    simp only [String.length_append] at lengths
    omega

theorem handOver_iff (session : SessionRecord) (userText modelId : String) (isRemoteDaemon : Bool) :
    handOver session modelId isRemoteDaemon (allMessages session userText) =
        handOver session modelId isRemoteDaemon (wholeConversation session userText) ↔
      session.messages.filter hasText = [] := by
  constructor
  · intro same
    by_contra nonempty
    obtain ⟨earlier, dropped, split⟩ := (List.eq_nil_or_concat' _).resolve_left nonempty
    rw [allMessages, wholeConversation, split, List.dropLast_concat] at same
    cases isRemoteDaemon with
    | true =>
        simp only [handOver, if_true, Handed.inferEncrypted.injEq, InferRequest.mk.injEq, true_and, and_true] at same
        exact flatten_longer earlier dropped _ same
    | false =>
        simp only [handOver, Bool.false_eq_true, if_false, Handed.chatCompletions.injEq, and_true] at same
        have lengths := congrArg List.length same
        simp at lengths
  · intro none
    rw [allMessages, wholeConversation, none, List.dropLast_nil]

/-- The whole conversation is handed on exactly when no earlier message has text. -/
theorem sendLocal_whole_iff (all : List SessionRecord) (session : SessionRecord) (userText modelId : String)
    (isRemoteDaemon : Bool) (stored : ∃ record ∈ all, record.id = session.id) :
    (∃ after, sendLocal all session userText modelId isRemoteDaemon =
        some (after, handOver session modelId isRemoteDaemon (wholeConversation session userText))) ↔
      ∀ message ∈ session.messages, hasText message = false := by
  obtain ⟨after, hands⟩ := sendLocal_hands stored userText modelId isRemoteDaemon
  have blank : (∀ message ∈ session.messages, hasText message = false) ↔ session.messages.filter hasText = [] := by
    simp [List.filter_eq_nil_iff]
  rw [hands, blank, ← handOver_iff session userText modelId isRemoteDaemon]
  constructor
  · rintro ⟨_, same⟩
    exact (Prod.mk.inj (Option.some.inj same)).2
  · intro same
    exact ⟨after, by rw [same]⟩

def newChat : SessionRecord := ⟨"4f1c", []⟩

theorem sendLocal_whole_first :
    ∃ after, sendLocal [newChat] newChat "Hello" "llama3.1:8b" false =
      some (after, handOver newChat "llama3.1:8b" false (wholeConversation newChat "Hello")) :=
  (sendLocal_whole_iff [newChat] newChat "Hello" "llama3.1:8b" false (by simp)).mpr (by simp [newChat])

def answered : SessionRecord := ⟨"4f1c", [⟨.user, "Name a river."⟩, ⟨.assistant, "The Aare."⟩]⟩

theorem last_answer_dropped :
    allMessages answered "Where does it end?" = [⟨.user, "Name a river."⟩, ⟨.user, "Where does it end?"⟩] ∧
      ¬∃ after, sendLocal [answered] answered "Where does it end?" "llama3.1:8b" false =
        some (after, handOver answered "llama3.1:8b" false (wholeConversation answered "Where does it end?")) := by
  have river : hasText ⟨.user, "Name a river."⟩ = true := by decide +kernel
  have answer : hasText ⟨.assistant, "The Aare."⟩ = true := by decide +kernel
  have kept : answered.messages.filter hasText = answered.messages := by simp [answered, river, answer]
  constructor
  · rw [allMessages, kept]
    rfl
  · rintro ⟨_, whole⟩
    obtain ⟨after, hands⟩ := @sendLocal_hands [answered] answered (by simp) "Where does it end?" "llama3.1:8b" false
    have same := (Prod.mk.inj (Option.some.inj (hands.symm.trans whole))).2
    rw [handOver_iff, kept] at same
    simp [answered] at same

end Pinaivu.Web
