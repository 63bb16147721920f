import Pinaivu.Node.RemoteExecution

/-!
Where `messages_to_context` puts each message of a chat.
-/

namespace Pinaivu.Api

def OaiChatMessage.isSystem (message : OaiChatMessage) : Bool := message.role = "system"

def systemContents (messages : List OaiChatMessage) : List String :=
  (messages.filter OaiChatMessage.isSystem).map OaiChatMessage.content

def joinedSystem (parts : List String) : Option String :=
  if parts = [] then none else some ("\n".intercalate parts)

/-- A message of the history: every role but two is a user's. -/
def placedMessage (message : OaiChatMessage) : Message where
  role := if message.role = "assistant" then .assistant else .user
  content := message.content
  timestamp := 0
  nodeId := none
  tokenCount := 0

def placedHistory (messages : List OaiChatMessage) : List Message :=
  (messages.filter fun message => !message.isSystem).map placedMessage

/-- Every content in one place of the context window or as the prompt. -/
def KeepsEachOnce (messages : List OaiChatMessage) (placed : ContextWindow × String) : Prop :=
  placed.1.systemPrompt = joinedSystem (systemContents messages) ∧
    (systemContents messages ++ placed.1.recentMessages.map Message.content ++ [placed.2]).Perm
      (messages.map OaiChatMessage.content)

def KeepsRoles (messages : List OaiChatMessage) (placed : ContextWindow × String) : Prop :=
  placed.1.recentMessages.map (fun message => (roleName message.role, message.content)) =
    (messages.dropLast.filter fun message => !message.isSystem).map fun message => (message.role, message.content)

theorem historyMessage_placed {message : OaiChatMessage} (chat : message.isSystem = false) :
    historyMessage message.role message.content = placedMessage message := by
  have other : message.role ≠ "system" := by simpa [OaiChatMessage.isSystem] using chat
  simp [historyMessage, historyRole, placedMessage, other]

theorem splitMessage_earlier {count position : Nat} (split : MessageSplit) (message : OaiChatMessage)
    (earlier : position + 1 < count) :
    splitMessage count split (message, position) =
      { split with
        recentMessages := split.recentMessages ++ placedHistory [message]
        systemParts := split.systemParts ++ systemContents [message] } := by
  cases kind : message.isSystem with
  | true =>
      have system : message.role = "system" := by simpa [OaiChatMessage.isSystem] using kind
      simp [splitMessage, system, placedHistory, systemContents, kind]
  | false =>
      have other : message.role ≠ "system" := by simpa [OaiChatMessage.isSystem] using kind
      have before : position < count - 1 := by omega
      have inner : position + 1 ≠ count := by omega
      simp [splitMessage, other, inner, before, placedHistory, systemContents, kind, historyMessage_placed kind]

theorem systemContents_append (first second : List OaiChatMessage) :
    systemContents (first ++ second) = systemContents first ++ systemContents second := by
  simp [systemContents]

theorem placedHistory_append (first second : List OaiChatMessage) :
    placedHistory (first ++ second) = placedHistory first ++ placedHistory second := by
  simp [placedHistory]

theorem split_earlier {count : Nat} (earlier : List OaiChatMessage) (start : Nat) (split : MessageSplit)
    (bound : start + earlier.length < count) :
    (earlier.zipIdx start).foldl (splitMessage count) split =
      { split with
        recentMessages := split.recentMessages ++ placedHistory earlier
        systemParts := split.systemParts ++ systemContents earlier } := by
  induction earlier generalizing start split with
  | nil => simp [placedHistory, systemContents]
  | cons message rest ih =>
      rw [List.length_cons] at bound
      rw [List.zipIdx_cons, List.foldl_cons, splitMessage_earlier split message (by omega),
        ih (start + 1) _ (by omega)]
      have history := placedHistory_append [message] rest
      have system := systemContents_append [message] rest
      rw [List.singleton_append] at history system
      rw [history, system]
      simp only [List.append_assoc]

/-- What the last message adds: it goes to the system parts, or becomes the prompt, or is left to
the case after the loop. -/
theorem splitMessage_last (split : MessageSplit) (last : OaiChatMessage) (count : Nat) :
    splitMessage (count + 1) split (last, count) =
      { split with
        systemParts := split.systemParts ++ systemContents [last]
        prompt := if last.role = "user" then last.content else split.prompt } := by
  by_cases system : last.role = "system"
  · simp [splitMessage, system, systemContents, OaiChatMessage.isSystem]
  · by_cases user : last.role = "user"
    · simp [splitMessage, user, systemContents, OaiChatMessage.isSystem]
    · simp [splitMessage, system, user, systemContents, OaiChatMessage.isSystem]

theorem messagesToContext_append (earlier : List OaiChatMessage) (last : OaiChatMessage) :
    messagesToContext (earlier ++ [last]) =
      ({ defaultContext with
          systemPrompt := joinedSystem (systemContents (earlier ++ [last]))
          recentMessages := placedHistory earlier }, last.content) := by
  have loop : ((earlier ++ [last]).zipIdx).foldl (splitMessage (earlier ++ [last]).length) ⟨[], [], ""⟩ =
      ⟨placedHistory earlier, systemContents (earlier ++ [last]),
        if last.role = "user" then last.content else ""⟩ := by
    rw [List.zipIdx_append, List.foldl_append, split_earlier earlier 0 _ (by simp), List.length_append,
      List.length_singleton, Nat.zero_add, List.zipIdx_singleton, List.foldl_cons, List.foldl_nil,
      splitMessage_last, systemContents_append]
    rfl
  unfold messagesToContext
  rw [loop]
  by_cases user : last.role = "user"
  · simp [joinedSystem, user]
  · simp [joinedSystem, user]

theorem contents_perm (earlier : List OaiChatMessage) :
    (systemContents earlier ++ (placedHistory earlier).map Message.content).Perm
      (earlier.map OaiChatMessage.content) := by
  have history : (placedHistory earlier).map Message.content =
      (earlier.filter fun message => !message.isSystem).map OaiChatMessage.content := by
    rw [placedHistory, List.map_map]
    rfl
  rw [history, systemContents, ← List.map_append]
  exact (List.filter_append_perm OaiChatMessage.isSystem earlier).map OaiChatMessage.content

/-- Each content is kept once; that of a system message at the end is the prompt as well. -/
theorem messagesToContext_places (messages : List OaiChatMessage) :
    (messagesToContext messages).1 =
        { defaultContext with
          systemPrompt := joinedSystem (systemContents messages)
          recentMessages := placedHistory messages.dropLast } ∧
      (messagesToContext messages).2 = (messages.getLast?.map OaiChatMessage.content).getD "" ∧
      (systemContents messages ++ (messagesToContext messages).1.recentMessages.map Message.content ++
          (messages.getLast?.map fun _ => (messagesToContext messages).2).toList).Perm
        (messages.map OaiChatMessage.content ++
          ((messages.getLast?.filter OaiChatMessage.isSystem).map OaiChatMessage.content).toList) := by
  induction messages using List.reverseRecOn with
  | nil => exact ⟨rfl, rfl, List.Perm.nil⟩
  | append_singleton earlier last _ =>
      rw [messagesToContext_append, List.dropLast_concat, List.getLast?_concat]
      refine ⟨rfl, rfl, ?_⟩
      have kept := contents_perm earlier
      rw [systemContents_append, List.map_append]
      cases kind : last.isSystem with
      | true =>
          have own : systemContents [last] = [last.content] := by simp [systemContents, kind]
          simp only [own, kind, Option.map_some, Option.toList_some, Option.filter_some, if_true, List.map_cons,
            List.map_nil]
          refine List.Perm.append_right _ ?_
          rw [List.append_assoc]
          refine (List.perm_append_comm.append_left _).trans ?_
          rw [← List.append_assoc]
          exact kept.append_right _
      | false =>
          have none : systemContents [last] = [] := by simp [systemContents, kind]
          simp only [none, kind, Option.map_some, Option.toList_some, Option.filter_some, List.append_nil,
            List.map_cons, List.map_nil, Bool.false_eq_true, if_false, Option.map_none, Option.toList_none]
          exact kept.append_right _

/-- A tool's answer is stored as the user's, and the closing system message is sent twice. -/
theorem messagesToContext_repeats :
    ¬KeepsEachOnce [⟨"tool", "4"⟩, ⟨"system", "Be brief."⟩]
        (messagesToContext [⟨"tool", "4"⟩, ⟨"system", "Be brief."⟩]) ∧
      ¬KeepsRoles [⟨"tool", "4"⟩, ⟨"system", "Be brief."⟩]
        (messagesToContext [⟨"tool", "4"⟩, ⟨"system", "Be brief."⟩]) := by
  constructor
  · rintro ⟨_, once⟩
    have longer := once.length_eq
    simp [messagesToContext, splitMessage, systemContents, OaiChatMessage.isSystem] at longer
  · intro same
    simp [KeepsRoles, messagesToContext, splitMessage, OaiChatMessage.isSystem, historyMessage, historyRole,
      roleName] at same

end Pinaivu.Api
