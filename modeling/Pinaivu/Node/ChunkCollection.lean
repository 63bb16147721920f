import Pinaivu.Lib.Mailboxes
import Pinaivu.Node.ResponseCleanup
import Pinaivu.P2P.GossipDelivery

/-!
The chunks of any number of remote inferences that the daemon's event loop passes on at the same time: each call
of `infer_via_p2p` has a collector under a response id of its own.
-/

namespace Pinaivu.Api

open P2P Mailboxes

section

variable {Handler : Type} [DecidableEq Handler] (responseId : Handler → String)

/-- The event loop looks a collector up by the response id of the event, not by that of the chunk. -/
def responseCollectors : Office Handler String (String × P2PInferenceChunk) := ⟨responseId, Prod.fst, 256⟩

def readChunks (events : List (Event Handler (String × P2PInferenceChunk))) (handler : Handler) :
    List P2PInferenceChunk :=
  ((Mail.after (responseCollectors responseId) events).box handler).read.map Prod.snd

def routedChunks (mail : Mail Handler String (String × P2PInferenceChunk))
    (events : List (Event Handler (String × P2PInferenceChunk))) (handler : Handler) : List P2PInferenceChunk :=
  (Mail.own (responseCollectors responseId) handler
    (Mail.received (responseCollectors responseId) mail events)).map Prod.snd

/-- A call reads on until a chunk ends the stream, so that what lies behind that one has no effect. -/
def remoteTokens (events : List (Event Handler (String × P2PInferenceChunk))) (handler : Handler) : List String :=
  collectTokens (readChunks responseId events handler)

end

theorem collectTokens_part (requestId : RequestId) (responseTopic : String) (engine : EngineRun)
    (chunks : List P2PInferenceChunk) (part : chunks.Sublist (executeP2pInference requestId responseTopic engine)) :
    (collectTokens chunks).Sublist (workerTokens engine) := by
  cases engine with
  | error message =>
      rcases List.sublist_singleton.mp part with rfl | rfl
      · simp [collectTokens]
      · simp [collectTokens, errorChunk]
  | ok stream =>
      rw [executeP2pInference] at part
      rw [workerTokens]
      induction stream generalizing chunks with
      | nil =>
          obtain rfl := List.sublist_nil.mp part
          simp [collectTokens]
      | cons item rest ih =>
          cases item with
          | error message =>
              rcases List.sublist_singleton.mp part with rfl | rfl
              · simp [collectTokens]
              · simp [collectTokens, errorChunk]
          | ok chunk =>
              rw [publishStream] at part
              rw [streamTokens]
              rcases List.sublist_cons_iff.mp part with later | ⟨tail, rfl, later⟩
              · by_cases final : chunk.isFinal = true
                · rw [if_pos final] at later
                  obtain rfl := List.sublist_nil.mp later
                  simp [collectTokens]
                · rw [if_neg final] at later ⊢
                  exact (ih chunks later).cons _
              · by_cases final : chunk.isFinal = true
                · simp [collectTokens, tokenChunk, final]
                · rw [if_neg final] at later ⊢
                  simpa [collectTokens, tokenChunk, final] using ih tail later

theorem collectTokens_prefix (requestId : RequestId) (responseTopic : String) (engine : EngineRun)
    (chunks : List P2PInferenceChunk) (begins : chunks <+: executeP2pInference requestId responseTopic engine) :
    collectTokens chunks <+: workerTokens engine ∧
      ((∃ chunk ∈ chunks, endsCollecting chunk = true) → collectTokens chunks = workerTokens engine) := by
  cases engine with
  | error message =>
      rcases List.sublist_singleton.mp begins.sublist with rfl | rfl
      · simp [collectTokens]
      · simp [collectTokens, errorChunk, workerTokens]
  | ok stream =>
      rw [executeP2pInference] at begins
      rw [workerTokens]
      induction stream generalizing chunks with
      | nil =>
          obtain rfl := List.prefix_nil.mp begins
          simp [collectTokens]
      | cons item rest ih =>
          rcases chunks with _ | ⟨first, tail⟩
          · simp [collectTokens]
          · cases item with
            | error message =>
                obtain ⟨rfl, later⟩ := List.cons_prefix_cons.mp begins
                simp [collectTokens, errorChunk, streamTokens]
            | ok chunk =>
                obtain ⟨rfl, later⟩ := List.cons_prefix_cons.mp begins
                rw [streamTokens]
                by_cases final : chunk.isFinal = true
                · simp [collectTokens, tokenChunk, final]
                · rw [if_neg final] at later ⊢
                  obtain ⟨initial, whole⟩ := ih tail later
                  simpa [collectTokens, tokenChunk, endsCollecting, final, initial] using whole

section

variable {Handler : Type} [DecidableEq Handler] {responseId : Handler → String}

theorem readChunks_sublist (distinct : Function.Injective responseId)
    (events : List (Event Handler (String × P2PInferenceChunk))) (handler : Handler) :
    (readChunks responseId events handler).Sublist (routedChunks responseId Mail.start events handler) := by
  have reached := @Mail.reached_sublist _ _ _ _ _ (responseCollectors responseId) distinct handler events
  apply List.Sublist.map
  apply List.Sublist.trans _ reached
  rw [Mail.reached, Slot.reached, List.append_assoc]
  exact List.sublist_append_left _ _

/-- Among any number of calls, the answer of one has tokens of its own worker only, in order, when all that came
under its response id is part of the worker's chunks: nobody asks who has published a chunk. When what came since it
registered is an initial part of the worker's chunks and its channel was never full, the answer is an initial part of
the worker's tokens; it is all of them when the call stopped because a chunk ended the stream. -/
theorem remote_tokens (distinct : Function.Injective responseId)
    (events : List (Event Handler (String × P2PInferenceChunk))) (handler : Handler) (requestId : RequestId)
    (engine : EngineRun)
    (sent : (routedChunks responseId Mail.start events handler).Sublist
      (executeP2pInference requestId (responseId handler) engine)) :
    (remoteTokens responseId events handler).Sublist (workerTokens engine) ∧
      ∀ first middle rest, events = first ++ [.register handler] ++ middle ++ .stop handler :: rest →
        ((Mail.after (responseCollectors responseId) first).box handler).phase = .idle →
        (∀ event ∈ middle, event ≠ .stop handler ∧ event ≠ .abandon handler) →
        let opened := Mail.after (responseCollectors responseId) (first ++ [.register handler])
        Runs.Always (Mail.step (responseCollectors responseId)) (Mail.Room (responseCollectors responseId) handler)
            opened middle →
        routedChunks responseId opened middle handler <+:
            executeP2pInference requestId (responseId handler) engine →
          remoteTokens responseId events handler <+: workerTokens engine ∧
            ((∃ chunk ∈ readChunks responseId events handler, endsCollecting chunk = true) →
              remoteTokens responseId events handler = workerTokens engine) := by
  constructor
  · apply collectTokens_part requestId (responseId handler)
    exact (readChunks_sublist distinct events handler).trans sent
  · rintro first middle rest rfl unopened stays opened room begins
    apply collectTokens_prefix requestId (responseId handler)
    apply List.IsPrefix.trans _ begins
    have whole := (Mail.reached_iff distinct unopened stays).mpr room
    rw [readChunks, Mail.read_stopped distinct unopened stays rest, Mail.after_append, routedChunks, ← whole]
    apply List.IsPrefix.map
    rw [Mail.reached, Slot.reached, List.append_assoc]
    exact List.prefix_append _ _

def sampleRequestId : RequestId := ⟨Vector.replicate 16 3⟩

def riverEngine : EngineRun :=
  .ok [.ok ⟨sampleRequestId, 0, "The ", false, 1, none⟩, .ok ⟨sampleRequestId, 1, "Aare", true, 2, some "stop"⟩]

def riverTraffic : List (Event String (String × P2PInferenceChunk)) :=
  (executeP2pInference sampleRequestId "river" riverEngine).flatMap fun chunk =>
    [.look ("lake", tokenChunk sampleRequestId "lake" ⟨sampleRequestId, 0, "Lac", false, 1, none⟩), .forward,
      .look ("river", chunk), .forward, .receive "river"]

theorem remote_tokens_sample :
    remoteTokens id ([.register "lake"] ++ [.register "river"] ++ riverTraffic ++ .stop "river" :: []) "river" =
      ["The ", "Aare"] := by
  have whole := remote_tokens Function.injective_id
    ([.register "lake"] ++ [.register "river"] ++ riverTraffic ++ .stop "river" :: []) "river" sampleRequestId
    riverEngine (by decide)
  refine (whole.2 [.register "lake"] riverTraffic [] rfl rfl ?_ ?_ (by decide)).2 (by decide)
  · simp [riverTraffic, executeP2pInference, publishStream, riverEngine]
  · refine ⟨?_, ?_, ?_, ?_, ?_, ?_, ?_, ?_, ?_, ?_, trivial⟩ <;> intro _ _ <;> decide

end

end Pinaivu.Api
