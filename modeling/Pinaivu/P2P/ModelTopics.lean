import Pinaivu.Inference.BidPrices
import Pinaivu.P2P.TargetedRequests

/-!
The topics that the swarm task subscribes to on command, and what becomes of a request that
arrives on one of them.
-/

namespace Pinaivu.P2P

def inferenceTopic (modelId : String) : String := "inference/" ++ modelId

structure TopicTables where
  modelTopics : List (String × String)
  responseIds : List String

inductive TopicCommand where
  | subscribeModel (modelId : String) (accepted : Bool)
  | subscribeResponseTopic (responseId : String)
  | unsubscribeResponseTopic (responseId : String)

namespace TopicTables

def start : TopicTables := ⟨[], []⟩

/-- A model is noted only if gossip took the subscription. -/
def handleCommand (tables : TopicTables) : TopicCommand → TopicTables
  | .subscribeModel modelId accepted =>
      if accepted then
        { tables with
          modelTopics := (inferenceTopic modelId, modelId) ::
            tables.modelTopics.filter fun entry => entry.1 ≠ inferenceTopic modelId }
      else tables
  | .subscribeResponseTopic responseId =>
      { tables with responseIds := responseId :: tables.responseIds.filter (· ≠ responseId) }
  | .unsubscribeResponseTopic responseId =>
      { tables with responseIds := tables.responseIds.filter (· ≠ responseId) }

/-- The dispatcher is given both maps and reads the second. -/
def dispatch (tables : TopicTables) (floats : FloatReader) (message : GossipMessage) : Option P2PEvent :=
  dispatchGossipsubMessage floats (responseTopics tables.responseIds) message

def Heard (tables : TopicTables) (floats : FloatReader) (modelId : String) (request : InferenceRequest) : Prop :=
  tables.dispatch floats (requestMessage (inferenceTopic modelId) request) =
    some (.inferenceRequestReceived request)

/-- A subscription of a model brings its requests only for the name of the catch-all topic. -/
theorem model_heard_iff (floats : FloatReader) (commands : List TopicCommand) (modelId : String)
    (request : InferenceRequest)
    (subscribed : (inferenceTopic modelId, modelId) ∈ (Runs.run handleCommand start commands).modelTopics)
    (kept : floats.single request.temperature = some request.temperature) :
    (Runs.run handleCommand start commands).Heard floats modelId request ↔ modelId = "any" := by
  constructor
  · intro heard
    obtain ⟨topic, _⟩ := dispatch_request heard
    have letters := congrArg String.toList topic
    simp only [requestMessage, inferenceTopic, String.toList_append] at letters
    have rest : modelId.toList = "any".toList := List.append_cancel_left (letters.trans (by decide))
    exact String.toList_injective rest
  · rintro rfl
    exact (dispatch_payload_iff floats _ (.request request)).mpr kept

theorem any_heard :
    (Runs.run handleCommand start [.subscribeModel "any" true]).Heard roundingReader "any"
      (Inference.requestFor "any" 100) :=
  (model_heard_iff roundingReader [.subscribeModel "any" true] "any" (Inference.requestFor "any" 100)
    (by simp [Runs.run, handleCommand]) rfl).mpr rfl

theorem model_unheard :
    (inferenceTopic "llama3.1:8b", "llama3.1:8b") ∈
        (Runs.run handleCommand start [.subscribeModel "llama3.1:8b" true]).modelTopics ∧
      ¬∃ floats, (Runs.run handleCommand start [.subscribeModel "llama3.1:8b" true]).Heard floats "llama3.1:8b"
        (Inference.requestFor "llama3.1:8b" 100) := by
  refine ⟨by simp [Runs.run, handleCommand], ?_⟩
  rintro ⟨floats, heard⟩
  obtain ⟨topic, _⟩ := dispatch_request heard
  revert topic
  simp only [requestMessage, inferenceTopic]
  decide +kernel

end TopicTables

end Pinaivu.P2P
