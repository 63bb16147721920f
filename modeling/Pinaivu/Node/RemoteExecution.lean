import Pinaivu.Inference.BidPrices
import Pinaivu.Node.ApiProofs

/-!
What a node that executes a request for another node gives to its engine: the model
against the list that its bid was decided on, and the chat messages against those of a
local run.
-/

namespace Pinaivu.Api

open P2P Inference Context

structure OllamaMessage where
  role : String
  content : String
  deriving DecidableEq, Repr

def roleName : Role → String
  | .user => "user"
  | .assistant => "assistant"
  | .system => "system"

def summaryText (summary : String) : String := "[Earlier conversation summary]: " ++ summary

/-- `OllamaEngine::build_messages`: the history, and after it the new user turn. -/
def buildMessages (context : ContextWindow) (prompt : String) : List OllamaMessage :=
  (context.systemPrompt.map (OllamaMessage.mk "system")).toList ++
    (context.summary.map fun summary => OllamaMessage.mk "system" (summaryText summary)).toList ++
    context.recentMessages.map (fun message => ⟨roleName message.role, message.content⟩) ++
    [⟨"user", prompt⟩]

def EngineCall.messages (call : EngineCall) : List OllamaMessage := buildMessages call.context call.prompt

/-- The engine call of `execute_p2p_inference`; a request without a topic for the answer
is dropped. -/
def executedCall (request : InferenceRequest) : Option EngineCall :=
  request.responseTopic.map fun _ => remoteCall request

/-- The list has the requested name with a tag added, and not the name itself. -/
def OnlyTagged (available : List String) (preference : String) : Prop :=
  preference ∉ available ∧ ∃ name ∈ available, (preference ++ ":").toList <+: name.toList

theorem listed_or_tagged {available : List String} {preference : String}
    (matched : haveModel (.ok available) preference = true) :
    preference ∈ available ∨ ∃ name ∈ available, (preference ++ ":").toList <+: name.toList := by
  obtain ⟨name, member, found⟩ := List.any_eq_true.mp matched
  rw [modelMatches, Bool.or_eq_true, beq_iff_eq] at found
  rcases found with same | tagged
  · exact Or.inl (same ▸ member)
  · exact Or.inr ⟨name, member, List.isPrefixOf_iff_prefix.mp tagged⟩

theorem bid_model_listed_iff (engine : BidDecisionEngine) (available : List String) (load later : Load)
    (now : Int) (request : InferenceRequest) (peerId : String) (target topic : Option String)
    (bids : (engine.shouldBid (.ok available) load now request).1 = true) :
    ((∀ call ∈ executedCall { request with targetPeerId := target, responseTopic := topic },
        call.modelId ∈ available) ∧
      (buildBid engine.config later request peerId).modelId ∈ available) ↔
      ¬OnlyTagged available request.modelPreference := by
  constructor
  · rintro ⟨_, listed⟩ ⟨unlisted, _⟩
    exact unlisted listed
  · intro untagged
    have listed : request.modelPreference ∈ available := by
      obtain ⟨matched, _⟩ := (shouldBid_iff _ _ _ _ _).mp bids
      rcases listed_or_tagged matched with listed | tagged
      · exact listed
      · by_contra unlisted
        exact untagged ⟨unlisted, tagged⟩
    refine ⟨?_, listed⟩
    intro call executed
    obtain ⟨_, _, rfl⟩ := Option.map_eq_some_iff.mp executed
    exact listed

theorem bid_model_listed_exact :
    (∀ call ∈ executedCall { requestFor "m" 100 with targetPeerId := some "node", responseTopic := some "t" },
      call.modelId ∈ ["m"]) ∧
    (buildBid (bidderWith 0).config ⟨0, 0⟩ (requestFor "m" 100) "node").modelId ∈ ["m"] :=
  (bid_model_listed_iff (bidderWith 0) ["m"] ⟨0, 0⟩ ⟨0, 0⟩ 0 (requestFor "m" 100) "node" (some "node") (some "t")
    (by decide)).mpr fun tagged => tagged.1 (by decide)

/-- A request for `m` at a node that has `m:8b`. -/
theorem bid_model_unlisted :
    ((bidderWith 0).shouldBid (.ok ["m:8b"]) ⟨0, 0⟩ 0 (requestFor "m" 100)).1 = true ∧
    (buildBid (bidderWith 0).config ⟨0, 0⟩ (requestFor "m" 100) "node").modelId ∉ ["m:8b"] ∧
    ¬∀ call ∈ executedCall { requestFor "m" 100 with targetPeerId := some "node", responseTopic := some "t" },
      call.modelId ∈ ["m:8b"] := by
  refine ⟨by decide, by decide, ?_⟩
  intro listed
  exact absurd (listed _ rfl) (by decide)

section

variable {SigningKey : Type} (node : NodeState SigningKey) (circumstances : Circumstances) (body : InferRequest)

def storedHistory : List StoredMessage :=
  match body.sessionId, circumstances.history with
  | some _, .ok history => history
  | _, _ => []

theorem sessionContext_empty (fresh : storedHistory circumstances body = []) :
    sessionContext circumstances body = defaultContext := by
  cases session : body.sessionId with
  | none => simp only [sessionContext, session]
  | some sessionId =>
      cases history : circumstances.history with
      | error detail => simp only [sessionContext, session, history]
      | ok messages =>
          simp only [storedHistory, session, history] at fresh
          simp only [sessionContext, session, history, fresh]
          rfl

theorem trim_defaultContext (maxTokens : UInt32) : trimContextWindow defaultContext maxTokens = defaultContext := by
  by_cases unlimited : maxTokens = 0
  · rw [trimContextWindow, if_pos unlimited]
  · rw [trimContextWindow, if_neg unlimited]
    rfl

theorem messages_local (fresh : storedHistory circumstances body = []) :
    (inferCall node circumstances body).messages = [⟨"user", body.prompt⟩] := by
  rw [EngineCall.messages, inferCall, sessionContext_empty circumstances body fresh, trim_defaultContext]
  rfl

/-- The prompt is in the context window that the executing node makes up, and is the
new turn as well. -/
theorem messages_remote (request : InferenceRequest) :
    (remoteCall request).messages =
      [⟨"user", request.promptPlain.getD ""⟩, ⟨"user", request.promptPlain.getD ""⟩] := rfl

theorem remote_conversation_differs (peerId : String) (remote : Circumstances)
    (fresh : storedHistory circumstances body = []) :
    (executedCall (p2pRequest remote body peerId)).map EngineCall.messages ≠
      some (inferCall node circumstances body).messages := by
  have executed : executedCall (p2pRequest remote body peerId) = some (remoteCall (p2pRequest remote body peerId)) :=
    rfl
  rw [executed, Option.map_some, messages_remote, messages_local node circumstances body fresh]
  intro same
  have lengths := congrArg (Option.map List.length) same
  simp at lengths

end

theorem remote_conversation_differs_sample :
    (executedCall (p2pRequest (sampleCircumstances []) samplePeerRequest "12D3KooWpeer")).map EngineCall.messages ≠
      some (inferCall (sampleNode []) (sampleCircumstances []) samplePeerRequest).messages :=
  remote_conversation_differs (sampleNode []) (sampleCircumstances []) samplePeerRequest "12D3KooWpeer"
    (sampleCircumstances []) rfl

/-- The remote engine gets the question twice, the local one once. -/
theorem remote_prompt_twice :
    (remoteCall (p2pRequest (sampleCircumstances []) samplePeerRequest "12D3KooWpeer")).messages =
      [⟨"user", "Capital of France?"⟩, ⟨"user", "Capital of France?"⟩] ∧
    (inferCall (sampleNode []) (sampleCircumstances []) samplePeerRequest).messages =
      [⟨"user", "Capital of France?"⟩] ∧
    (remoteCall (p2pRequest (sampleCircumstances []) samplePeerRequest "12D3KooWpeer")).messages ≠
      (inferCall (sampleNode []) (sampleCircumstances []) samplePeerRequest).messages := by
  refine ⟨rfl, rfl, ?_⟩
  intro same
  have lengths := congrArg List.length same
  cases lengths

end Pinaivu.Api
