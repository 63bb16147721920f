import Mathlib.Logic.Function.Basic
import Pinaivu.Lib.Runs
import Pinaivu.P2P.WireCore

/-!
The two registrations of `infer_via_p2p` in `crates/node/src/api/mod.rs`, among any number of such
calls: the collector of a response id, and the swarm task's subscription to its topic. The task takes
its commands off a channel; the call waits for its answers to the first two, and not for the third.
-/

namespace Pinaivu.Api

open P2P Runs

/-- Where a call is; an idle one has not drawn its response id yet. -/
inductive RoutePhase where
  | idle
  | registered
  | subscribing
  | subscribed
  | broadcasting
  | failed
  | collecting
  | ended
  | removed
  | closing
  | returned
  deriving DecidableEq, Repr

/-- A call that waits for an answer goes on with an error when the task drops its sender. -/
def RoutePhase.dropped : RoutePhase → RoutePhase
  | .subscribing => .subscribed
  | .broadcasting => .failed
  | phase => phase

inductive RouteCommand where
  | subscribeResponseTopic
  | broadcastInferenceRequest
  | unsubscribeResponseTopic
  deriving DecidableEq, Repr

/-- `swarm` holds the response topics while the swarm task runs. -/
structure P2PNode where
  responseCollectors : List String
  commands : List (String × RouteCommand)
  swarm : Option (List String)
  phases : String → RoutePhase

/-- Steps of a call, by its response id, and of the swarm task. -/
inductive RouteEvent where
  | register (id : String)
  | subscribe (id : String)
  | broadcast (id : String)
  | chunk (id : String) (chunk : P2PInferenceChunk)
  | timeout (id : String)
  | removeCollector (id : String)
  | unsubscribe (id : String)
  | finish (id : String)
  | handleCommand (published : Bool)
  | stopSwarm

def endsCollecting (chunk : P2PInferenceChunk) : Bool := chunk.error.isSome || chunk.isFinal

namespace P2PNode

def start : P2PNode := ⟨[], [], some [], fun _ => .idle⟩

def topics (node : P2PNode) : List String := node.swarm.getD []

def enter (node : P2PNode) (id : String) (phase : RoutePhase) : P2PNode :=
  { node with phases := Function.update node.phases id phase }

/-- A command for a task that is gone is refused. -/
def send (node : P2PNode) (id : String) (command : RouteCommand) (sent refused : RoutePhase) : P2PNode :=
  match node.swarm with
  | some _ => { node.enter id sent with commands := node.commands ++ [(id, command)] }
  | none => node.enter id refused

def handle (published : Bool) (node : P2PNode) (topics : List String) (id : String) : RouteCommand → P2PNode
  | .subscribeResponseTopic =>
      { node.enter id .subscribed with swarm := some (id :: topics.filter (· ≠ id)) }
  | .broadcastInferenceRequest => node.enter id (if published then .collecting else .failed)
  | .unsubscribeResponseTopic => { node with swarm := some (topics.filter (· ≠ id)) }

/-- An event that is not next in its call changes nothing. A failed subscription is logged, and a
failed broadcast answers at once. -/
def step (node : P2PNode) : RouteEvent → P2PNode
  | .register id =>
      if node.phases id = .idle then
        { node.enter id .registered with responseCollectors := id :: node.responseCollectors }
      else node
  | .subscribe id =>
      if node.phases id = .registered then node.send id .subscribeResponseTopic .subscribing .subscribed
      else node
  | .broadcast id =>
      if node.phases id = .subscribed then node.send id .broadcastInferenceRequest .broadcasting .failed
      else node
  | .chunk id chunk =>
      if node.phases id = .collecting ∧ endsCollecting chunk = true then node.enter id .ended else node
  | .timeout id => if node.phases id = .collecting then node.enter id .ended else node
  | .removeCollector id =>
      if node.phases id = .ended then
        { node.enter id .removed with responseCollectors := node.responseCollectors.filter (· ≠ id) }
      else node
  | .unsubscribe id =>
      if node.phases id = .removed then node.send id .unsubscribeResponseTopic .closing .closing else node
  | .finish id =>
      if node.phases id = .closing ∨ node.phases id = .failed then node.enter id .returned else node
  | .handleCommand published =>
      match node.swarm, node.commands with
      | some topics, (id, command) :: rest => handle published { node with commands := rest } topics id command
      | _, _ => node
  | .stopSwarm => { node with swarm := none, commands := [], phases := fun id => (node.phases id).dropped }

end P2PNode

def RouteEvent.owner (node : P2PNode) : RouteEvent → Option String
  | .register id => some id
  | .subscribe id => some id
  | .broadcast id => some id
  | .chunk id _ => some id
  | .timeout id => some id
  | .removeCollector id => some id
  | .unsubscribe id => some id
  | .finish id => some id
  | .handleCommand _ => node.commands.head?.map Prod.fst
  | .stopSwarm => none

/-- What concerns one call: its phase, whether its id has a collector and a topic, its commands
that are not handled yet, and whether the swarm task runs. -/
structure RouteView where
  phase : RoutePhase
  collector : Bool
  topic : Bool
  pending : List RouteCommand
  alive : Bool

def P2PNode.view (node : P2PNode) (id : String) : RouteView where
  phase := node.phases id
  collector := node.responseCollectors.contains id
  topic := node.topics.contains id
  pending := (node.commands.filter fun entry => entry.1 == id).map Prod.snd
  alive := node.swarm.isSome

inductive RouteStep : RouteView → RouteView → Prop where
  | foreign (view : RouteView) : RouteStep view view
  | register (view : RouteView) (next : view.phase = .idle) :
      RouteStep view { view with phase := .registered, collector := true }
  | subscribe (view : RouteView) (next : view.phase = .registered) (alive : view.alive = true) :
      RouteStep view { view with phase := .subscribing, pending := view.pending ++ [.subscribeResponseTopic] }
  | unsubscribed (view : RouteView) (next : view.phase = .registered) (gone : view.alive = false) :
      RouteStep view { view with phase := .subscribed }
  | broadcast (view : RouteView) (next : view.phase = .subscribed) (alive : view.alive = true) :
      RouteStep view { view with phase := .broadcasting, pending := view.pending ++ [.broadcastInferenceRequest] }
  | unsent (view : RouteView) (next : view.phase = .subscribed) (gone : view.alive = false) :
      RouteStep view { view with phase := .failed }
  | leave (view : RouteView) (next : view.phase = .collecting) : RouteStep view { view with phase := .ended }
  | removeCollector (view : RouteView) (next : view.phase = .ended) :
      RouteStep view { view with phase := .removed, collector := false }
  | unsubscribe (view : RouteView) (next : view.phase = .removed) (alive : view.alive = true) :
      RouteStep view { view with phase := .closing, pending := view.pending ++ [.unsubscribeResponseTopic] }
  | closed (view : RouteView) (next : view.phase = .removed) (gone : view.alive = false) :
      RouteStep view { view with phase := .closing }
  | finish (view : RouteView) (next : view.phase = .closing ∨ view.phase = .failed) :
      RouteStep view { view with phase := .returned }
  | handleSubscribe (view : RouteView) (rest : List RouteCommand) (alive : view.alive = true)
      (first : view.pending = .subscribeResponseTopic :: rest) :
      RouteStep view { view with phase := .subscribed, topic := true, pending := rest }
  | handleBroadcast (view : RouteView) (rest : List RouteCommand) (published : Bool) (alive : view.alive = true)
      (first : view.pending = .broadcastInferenceRequest :: rest) :
      RouteStep view { view with phase := if published then .collecting else .failed, pending := rest }
  | handleUnsubscribe (view : RouteView) (rest : List RouteCommand) (alive : view.alive = true)
      (first : view.pending = .unsubscribeResponseTopic :: rest) :
      RouteStep view { view with topic := false, pending := rest }
  | stopSwarm (view : RouteView) :
      RouteStep view { view with phase := view.phase.dropped, topic := false, pending := [], alive := false }

def Registered (view : RouteView) : Prop :=
  match view.phase with
  | .idle => view.collector = false ∧ view.topic = false ∧ view.pending = []
  | .registered => view.collector = true ∧ view.topic = false ∧ view.pending = []
  | .subscribing => view.collector = true ∧ view.pending = [.subscribeResponseTopic]
  | .subscribed | .failed | .collecting | .ended =>
      view.collector = true ∧ view.topic = view.alive ∧ view.pending = []
  | .broadcasting =>
      view.collector = true ∧ view.topic = view.alive ∧ view.pending = [.broadcastInferenceRequest]
  | .removed => view.collector = false ∧ view.topic = view.alive ∧ view.pending = []
  | .closing =>
      view.collector = false ∧ (view.pending = [] ∧ view.topic = false ∨
        view.pending = [.unsubscribeResponseTopic] ∧ view.topic = true)
  | .returned => ∀ command ∈ view.pending, command = .unsubscribeResponseTopic

theorem registered_step {view after : RouteView} (registered : Registered view) (step : RouteStep view after) :
    Registered after := by
  cases step with
  | foreign => exact registered
  | register next => simp_all [Registered]
  | subscribe next alive => simp_all [Registered]
  | unsubscribed next gone => simp_all [Registered]
  | broadcast next alive => simp_all [Registered]
  | unsent next gone => simp_all [Registered]
  | leave next => simp_all [Registered]
  | removeCollector next => simp_all [Registered]
  | unsubscribe next alive => simp_all [Registered]
  | closed next gone => simp_all [Registered]
  | finish next =>
      rcases next with next | next
      · simp only [Registered, next] at registered
        rcases registered.2 with ⟨none, _⟩ | ⟨one, _⟩
        · simp [Registered, none]
        · simp [Registered, one]
      · simp_all [Registered]
  | handleSubscribe rest alive first =>
      rcases view with ⟨phase, collector, topic, pending, running⟩
      cases phase <;> simp_all [Registered]
  | handleBroadcast rest published alive first =>
      rcases view with ⟨phase, collector, topic, pending, running⟩
      cases phase <;> cases published <;> simp_all [Registered]
  | handleUnsubscribe rest alive first =>
      rcases view with ⟨phase, collector, topic, pending, running⟩
      cases phase <;> simp_all [Registered]
  | stopSwarm =>
      rcases view with ⟨phase, collector, topic, pending, running⟩
      cases phase <;> simp_all [Registered, RoutePhase.dropped]

namespace P2PNode

variable {node : P2PNode} {id other : String}

theorem view_enter_self (phase : RoutePhase) :
    (node.enter id phase).view id = { node.view id with phase := phase } := by
  simp [view, enter, topics]

theorem view_enter_other (different : id ≠ other) (phase : RoutePhase) :
    (node.enter other phase).view id = node.view id := by
  simp [view, enter, topics, Function.update_of_ne different]

theorem view_send_other (different : id ≠ other) (command : RouteCommand) (sent refused : RoutePhase) :
    (node.send other command sent refused).view id = node.view id := by
  unfold send
  split
  · simp [view, enter, topics, Function.update_of_ne different, List.filter_append, Ne.symm different]
  · exact view_enter_other different refused

theorem view_send_alive (alive : (node.view id).alive = true) (command : RouteCommand) (sent refused : RoutePhase) :
    (node.send id command sent refused).view id =
      { node.view id with phase := sent, pending := (node.view id).pending ++ [command] } := by
  obtain ⟨topics, running⟩ := Option.isSome_iff_exists.mp alive
  simp [send, running, view, enter, P2PNode.topics, List.filter_append]

theorem view_send_gone (gone : (node.view id).alive = false) (command : RouteCommand) (sent refused : RoutePhase) :
    (node.send id command sent refused).view id = { node.view id with phase := refused } := by
  have stopped : node.swarm = none := Option.isSome_eq_false_iff.mp gone |> Option.isNone_iff_eq_none.mp
  rw [send, stopped]
  exact view_enter_self refused

theorem view_handle_other (different : id ≠ other) (published : Bool) {topics : List String}
    {command : RouteCommand} {rest : List (String × RouteCommand)} (running : node.swarm = some topics)
    (queued : node.commands = (other, command) :: rest) :
    (handle published { node with commands := rest } topics other command).view id = node.view id := by
  cases command with
  | subscribeResponseTopic =>
      simp [handle, view, enter, P2PNode.topics, running, queued, different, Ne.symm different]
  | broadcastInferenceRequest =>
      simp [handle, view, enter, P2PNode.topics, running, queued, Function.update_of_ne different, Ne.symm different]
  | unsubscribeResponseTopic => simp [handle, view, P2PNode.topics, running, queued, different, Ne.symm different]

theorem view_handle_self (published : Bool) {topics : List String} {command : RouteCommand}
    {rest : List (String × RouteCommand)} (running : node.swarm = some topics)
    (queued : node.commands = (id, command) :: rest) :
    RouteStep (node.view id) ((handle published { node with commands := rest } topics id command).view id) := by
  have alive : (node.view id).alive = true := by simp [view, running]
  have first : (node.view id).pending = command :: (rest.filter fun entry => entry.1 == id).map Prod.snd := by
    simp [view, queued]
  cases command with
  | subscribeResponseTopic =>
      have moved := RouteStep.handleSubscribe (node.view id) _ alive first
      simpa [handle, view, enter, P2PNode.topics, running] using moved
  | broadcastInferenceRequest =>
      have moved := RouteStep.handleBroadcast (node.view id) _ published alive first
      simpa [handle, view, enter, P2PNode.topics, running] using moved
  | unsubscribeResponseTopic =>
      have moved := RouteStep.handleUnsubscribe (node.view id) _ alive first
      simpa [handle, view, enter, P2PNode.topics, running] using moved

theorem view_send_self (command : RouteCommand) (sent refused : RoutePhase)
    (alive : (node.view id).alive = true →
      RouteStep (node.view id) { node.view id with phase := sent, pending := (node.view id).pending ++ [command] })
    (gone : (node.view id).alive = false → RouteStep (node.view id) { node.view id with phase := refused }) :
    RouteStep (node.view id) ((node.send id command sent refused).view id) := by
  cases running : (node.view id).alive with
  | true =>
      rw [view_send_alive running]
      exact alive running
  | false =>
      rw [view_send_gone running]
      exact gone running

theorem view_guard_other {ready : Prop} [Decidable ready] {moved : P2PNode}
    (unseen : moved.view id = node.view id) : (if ready then moved else node).view id = node.view id := by
  split
  · exact unseen
  · rfl

theorem view_guard_own {ready : Prop} [Decidable ready] {moved : P2PNode}
    (own : ready → RouteStep (node.view id) (moved.view id)) :
    RouteStep (node.view id) ((if ready then moved else node).view id) := by
  split
  · next holds => exact own holds
  · exact RouteStep.foreign _

theorem step_handleCommand {published : Bool}
    (belongs : (RouteEvent.handleCommand published).owner node = some other) :
    node.step (.handleCommand published) = node ∨
      ∃ topics command rest, node.swarm = some topics ∧ node.commands = (other, command) :: rest ∧
        node.step (.handleCommand published) =
          handle published { node with commands := rest } topics other command := by
  rw [step]
  split
  · next topics owner command rest running queued =>
      rw [RouteEvent.owner, queued] at belongs
      obtain rfl := Option.some.inj belongs
      exact .inr ⟨topics, command, rest, running, queued, rfl⟩
  · exact .inl rfl

theorem view_step_other {event : RouteEvent} (belongs : event.owner node = some other) (different : id ≠ other) :
    (node.step event).view id = node.view id := by
  cases event with
  | register owner | removeCollector owner =>
      obtain rfl := Option.some.inj belongs
      apply view_guard_other
      simp [view, enter, topics, different]
  | subscribe owner | broadcast owner | unsubscribe owner =>
      obtain rfl := Option.some.inj belongs
      apply view_guard_other
      exact view_send_other different _ _ _
  | chunk owner _ | timeout owner | finish owner =>
      obtain rfl := Option.some.inj belongs
      apply view_guard_other
      exact view_enter_other different _
  | handleCommand published =>
      rcases step_handleCommand belongs with same | ⟨topics, command, rest, running, queued, handled⟩
      · rw [same]
      · rw [handled]
        exact view_handle_other different published running queued
  | stopSwarm => contradiction

theorem view_step_own {event : RouteEvent} (belongs : event.owner node = some id) :
    RouteStep (node.view id) ((node.step event).view id) := by
  cases event with
  | register owner =>
      obtain rfl := Option.some.inj belongs
      apply view_guard_own
      intro idle
      have moved := RouteStep.register (node.view owner) idle
      simpa [view, enter, topics] using moved
  | subscribe owner =>
      obtain rfl := Option.some.inj belongs
      apply view_guard_own
      intro ready
      exact view_send_self _ _ _ (RouteStep.subscribe _ ready) (RouteStep.unsubscribed _ ready)
  | broadcast owner =>
      obtain rfl := Option.some.inj belongs
      apply view_guard_own
      intro ready
      exact view_send_self _ _ _ (RouteStep.broadcast _ ready) (RouteStep.unsent _ ready)
  | chunk owner chunk =>
      obtain rfl := Option.some.inj belongs
      apply view_guard_own
      intro last
      rw [view_enter_self]
      exact RouteStep.leave _ last.1
  | timeout owner =>
      obtain rfl := Option.some.inj belongs
      apply view_guard_own
      intro waiting
      rw [view_enter_self]
      exact RouteStep.leave _ waiting
  | removeCollector owner =>
      obtain rfl := Option.some.inj belongs
      apply view_guard_own
      intro ended
      have moved := RouteStep.removeCollector (node.view owner) ended
      simpa [view, enter, topics] using moved
  | unsubscribe owner =>
      obtain rfl := Option.some.inj belongs
      apply view_guard_own
      intro ready
      exact view_send_self _ _ _ (RouteStep.unsubscribe _ ready) (RouteStep.closed _ ready)
  | finish owner =>
      obtain rfl := Option.some.inj belongs
      apply view_guard_own
      intro ready
      rw [view_enter_self]
      exact RouteStep.finish _ ready
  | handleCommand published =>
      rcases step_handleCommand belongs with same | ⟨topics, command, rest, running, queued, handled⟩
      · rw [same]
        exact RouteStep.foreign _
      · rw [handled]
        exact view_handle_self published running queued
  | stopSwarm => contradiction

theorem view_step (node : P2PNode) (event : RouteEvent) (id : String) :
    RouteStep (node.view id) ((node.step event).view id) := by
  cases belongs : event.owner node with
  | some owner =>
      by_cases same : id = owner
      · exact view_step_own (same ▸ belongs)
      · rw [view_step_other belongs same]
        exact RouteStep.foreign _
  | none =>
      cases event with
      | stopSwarm =>
          have moved := RouteStep.stopSwarm (node.view id)
          simpa [step, view, topics] using moved
      | handleCommand published =>
          have empty : node.commands = [] := by simpa [RouteEvent.owner] using belongs
          have idle : node.step (.handleCommand published) = node := by
            rw [step]
            split
            · simp_all
            · rfl
          rw [idle]
          exact RouteStep.foreign _
      | _ => contradiction

end P2PNode

theorem registered_run (events : List RouteEvent) (id : String) :
    Registered ((run P2PNode.step .start events).view id) := by
  apply invariant_run fun node : P2PNode => Registered (node.view id)
  · intro node event registered
    exact registered_step registered (node.view_step event id)
  · simp [Registered, P2PNode.view, P2PNode.start, P2PNode.topics]

def Restored (before after : P2PNode) (id : String) : Prop :=
  (id ∈ after.responseCollectors ↔ id ∈ before.responseCollectors) ∧ (id ∈ after.topics ↔ id ∈ before.topics)

/-- A call cleans up when its own entries are as before it, and its steps leave those of the others. -/
structure CleansUp (before after : P2PNode) (id : String) : Prop where
  own : Restored before after id
  others : ∀ node event other, RouteEvent.owner node event = some id → other ≠ id →
    Restored node (node.step event) other

theorem restored_of_view {before after : P2PNode} {id : String} (same : after.view id = before.view id) :
    Restored before after id := by
  have collector := Bool.eq_iff_iff.mp (congrArg RouteView.collector same)
  have topic := Bool.eq_iff_iff.mp (congrArg RouteView.topic same)
  simp only [P2PNode.view, List.contains_iff_mem] at collector topic
  exact ⟨collector, topic⟩

theorem restored_iff {before after : P2PNode} {id : String} (registered : Registered (before.view id))
    (fresh : before.phases id = .idle) :
    Restored before after id ↔ (after.view id).collector = false ∧ (after.view id).topic = false := by
  have phase : (before.view id).phase = .idle := fresh
  rw [Registered, phase] at registered
  obtain ⟨collector, topic, _⟩ := registered
  simp only [P2PNode.view, ← Bool.not_eq_true, List.contains_iff_mem] at collector topic ⊢
  simp [Restored, collector, topic]

/-- The call has undone both registrations when it returns exactly if its broadcast did not fail and the
swarm task has handled its last command. -/
theorem returns_clean_iff (first middle : List RouteEvent) (id : String)
    (fresh : (run P2PNode.step .start first).phases id = .idle)
    (returning : (run P2PNode.step .start (first ++ .register id :: middle)).phases id = .closing ∨
      (run P2PNode.step .start (first ++ .register id :: middle)).phases id = .failed) :
    CleansUp (run P2PNode.step .start first)
        ((run P2PNode.step .start (first ++ .register id :: middle)).step (.finish id)) id ↔
      (run P2PNode.step .start (first ++ .register id :: middle)).phases id ≠ .failed ∧
        (id, .unsubscribeResponseTopic) ∉
          (run P2PNode.step .start (first ++ .register id :: middle)).commands := by
  have registered := registered_run (first ++ .register id :: middle) id
  generalize run P2PNode.step .start (first ++ .register id :: middle) = node at registered returning ⊢
  have finished : (node.step (.finish id)).view id = { node.view id with phase := .returned } := by
    rw [P2PNode.step, if_pos returning, P2PNode.view_enter_self]
  have queued : (id, .unsubscribeResponseTopic) ∈ node.commands ↔
      RouteCommand.unsubscribeResponseTopic ∈ (node.view id).pending := by
    simp [P2PNode.view]
  have clean : CleansUp (run P2PNode.step .start first) (node.step (.finish id)) id ↔
      (node.view id).collector = false ∧ (node.view id).topic = false := by
    have own := @restored_iff _ (node.step (.finish id)) id (registered_run first id) fresh
    rw [finished] at own
    rw [← own]
    refine ⟨CleansUp.own, fun restored => ⟨restored, ?_⟩⟩
    intro earlier event other belongs different
    exact restored_of_view (P2PNode.view_step_other belongs different)
  rw [clean, queued]
  rcases returning with closing | failed
  · have phase : (node.view id).phase = .closing := closing
    rw [Registered, phase] at registered
    obtain ⟨collector, ⟨none, topic⟩ | ⟨one, topic⟩⟩ := registered
    · simp [collector, topic, none, closing]
    · simp [collector, topic, one]
  · have phase : (node.view id).phase = .failed := failed
    rw [Registered, phase] at registered
    simp [registered.1, failed]

def answeredCall : List RouteEvent :=
  [.subscribe "9b2c", .handleCommand true, .broadcast "9b2c", .handleCommand true,
    .chunk "9b2c" ⟨⟨Vector.replicate 16 3⟩, "9b2c", "Hello", true, none⟩, .removeCollector "9b2c",
    .unsubscribe "9b2c", .handleCommand true]

theorem answered_call_clean :
    CleansUp .start ((run P2PNode.step .start ([] ++ .register "9b2c" :: answeredCall)).step (.finish "9b2c"))
      "9b2c" :=
  (returns_clean_iff [] answeredCall "9b2c" rfl (by decide)).mpr (by decide)

/-- The task has no peers to publish to: collector and topic stay behind. -/
theorem failed_broadcast_leaks :
    ¬CleansUp .start ((run P2PNode.step .start [.register "9b2c", .subscribe "9b2c", .handleCommand true,
      .broadcast "9b2c", .handleCommand false]).step (.finish "9b2c")) "9b2c" := by
  intro clean
  have collector := clean.own.1.mp
  revert collector
  decide

end Pinaivu.Api
