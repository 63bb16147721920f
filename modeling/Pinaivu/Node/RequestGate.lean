import Pinaivu.Lib.Roster
import Pinaivu.Lib.Runs
import Pinaivu.Node.JobJournal
import Pinaivu.Persistence.JobCore

/-!
The concurrency gate of `chat_completions_handler` and `infer_handler` in `crates/node/src/api/mod.rs`, and what
follows behind it. Handlers run side by side, each under a request id of its own, and the deadline watcher writes
to the same jobs. A client that goes away drops its handler at the point where it awaits.
-/

namespace Pinaivu.RequestGate

open Job (JobMetrics InMemoryJobStore)
open Node (Append)

inductive Endpoint where
  | chat
  | infer
  deriving DecidableEq, Repr

/-- The `status` labels of `REQUESTS_TOTAL` from the gate on. -/
inductive RequestStatus where
  | ok
  | error
  | capacity
  deriving DecidableEq, Repr

/-- The `outcome` labels of `JOBS_TOTAL`. -/
inductive JobOutcome where
  | completed
  | timedOut
  | failed
  deriving DecidableEq, Repr

inductive Stage where
  | waiting
  | counted
  | turnedAway
  | refused
  | admitted
  | dispatched (model : String)
  | generated (model : String) (metrics : JobMetrics)
  | journaled (model : String) (metrics : JobMetrics)
  | completed (model : String) (metrics : JobMetrics)
  | answered (model : String) (metrics : JobMetrics)
  | failing (model : String)
  | failed (model : String)
  | answeredError (model : String)
  deriving DecidableEq, Repr

/-- A handler that was dropped stays where it was, and no longer lives. -/
structure Handler where
  endpoint : Endpoint
  stage : Stage
  live : Bool
  deriving DecidableEq, Repr

abbrev Handler.idle : Handler := ⟨.infer, .waiting, true⟩

inductive Act where
  | arrive (endpoint : Endpoint)
  | tryAcquire
  | refuse
  | push (now : UInt64) (model : String)
  | generate (promptWords tokens : Nat) (latencyMs : UInt32) (fallbackFrom : Option String)
  | generateFails
  | append (ts : UInt64) (written : Nat)
  | complete
  | markFailed
  | answer
  | drop
  deriving DecidableEq, Repr

inductive Event where
  | handler (requestId : RequestId) (act : Act)
  | sweepTimedOut (requestId : RequestId)
  | sweepFailed (requestId : RequestId)
  deriving DecidableEq

/-- The counts are `as u32` and at least one. -/
def countedTokens (count : Nat) : UInt32 := max (UInt32.ofNat count) 1

def finishedMetrics (promptWords tokens : Nat) (latencyMs : UInt32) (fallbackFrom : Option String) : JobMetrics where
  inputTokens := countedTokens promptWords
  outputTokens := countedTokens tokens
  latencyMs := latencyMs.toUInt64
  fallbackFrom := fallbackFrom

def Stage.awaits : Stage → Bool
  | .admitted | .dispatched _ | .journaled .. | .completed .. | .failing _ => true
  | _ => false

def Stage.advance (free : Bool) : Stage → Act → Option Stage
  | .counted, .tryAcquire => some (if free then .admitted else .turnedAway)
  | .turnedAway, .refuse => some .refused
  | .admitted, .push _ model => some (.dispatched model)
  | .dispatched model, .generate promptWords tokens latencyMs fallbackFrom =>
      some (.generated model (finishedMetrics promptWords tokens latencyMs fallbackFrom))
  | .dispatched model, .generateFails => some (.failing model)
  | .generated model metrics, .append _ _ => some (.journaled model metrics)
  | .journaled model metrics, .complete => some (.completed model metrics)
  | .completed model metrics, .answer => some (.answered model metrics)
  | .failing model, .markFailed => some (.failed model)
  | .failed model, .answer => some (.answeredError model)
  | _, _ => none

def Handler.advance (free : Bool) (handler : Handler) (act : Act) : Option Handler :=
  if handler.live then
    match act with
    | .arrive endpoint => if handler.stage = .waiting then some ⟨endpoint, .counted, true⟩ else none
    | .drop => if handler.stage.awaits then some { handler with live := false } else none
    | act => (handler.stage.advance free act).map fun stage => { handler with stage := stage }
  else none

structure Gate where
  jobTimeoutMs : UInt64
  inferenceSem : Nat
  concurrentRequests : Int
  requestsTotal : Endpoint → RequestStatus → Nat
  jobsTotal : JobOutcome → Nat
  jobStore : InMemoryJobStore
  jobJournal : List Append
  handlers : Roster RequestId Handler.idle

def Gate.new (concurrentJobs : Nat) (jobTimeoutMs : UInt64) : Gate where
  jobTimeoutMs := jobTimeoutMs
  inferenceSem := max concurrentJobs 1
  concurrentRequests := 0
  requestsTotal := fun _ _ => 0
  jobsTotal := fun _ => 0
  jobStore := .new
  jobJournal := []
  handlers := .start

def Gate.countRequest (gate : Gate) (endpoint : Endpoint) (status : RequestStatus) : Gate :=
  { gate with requestsTotal := fun place label =>
      gate.requestsTotal place label + if place = endpoint ∧ label = status then 1 else 0 }

def Gate.countJob (gate : Gate) (outcome : JobOutcome) : Gate :=
  { gate with jobsTotal := fun label => gate.jobsTotal label + if label = outcome then 1 else 0 }

def journalRecord (requestId : RequestId) (model : String) (metrics : JobMetrics) (ts : UInt64) : Node.JobRecord where
  requestId := requestId.toText
  model := model
  fallbackFrom := metrics.fallbackFrom
  inputTokens := metrics.inputTokens
  outputTokens := metrics.outputTokens
  latencyMs := metrics.latencyMs
  ts := ts

def Gate.effect (gate : Gate) (requestId : RequestId) (handler : Handler) : Act → Gate
  | .arrive _ => { gate with concurrentRequests := gate.concurrentRequests + 1 }
  | .tryAcquire => { gate with inferenceSem := gate.inferenceSem - 1 }
  | .refuse =>
      { gate with concurrentRequests := gate.concurrentRequests - 1 }.countRequest handler.endpoint .capacity
  | .push now model =>
      { gate with jobStore := gate.jobStore.push (.dispatched now requestId model none gate.jobTimeoutMs) }
  | .generate _ _ _ _ =>
      { gate with concurrentRequests := gate.concurrentRequests - 1 }.countRequest handler.endpoint .ok
  | .generateFails =>
      { gate with concurrentRequests := gate.concurrentRequests - 1 }.countRequest handler.endpoint .error
  | .append ts written =>
      match handler.stage with
      | .generated model metrics =>
          { gate with jobJournal := gate.jobJournal ++ [⟨journalRecord requestId model metrics ts, written⟩] }
      | _ => gate
  | .complete =>
      match handler.stage with
      | .journaled _ metrics => { gate with jobStore := gate.jobStore.complete requestId metrics }.countJob .completed
      | _ => gate
  | .markFailed => { gate with jobStore := gate.jobStore.mark requestId .failed }.countJob .failed
  -- the permit goes with the handler
  | .answer | .drop => { gate with inferenceSem := gate.inferenceSem + 1 }

def Gate.step (gate : Gate) : Event → Gate
  | .handler requestId act =>
      match (gate.handlers.place requestId).advance (decide (0 < gate.inferenceSem)) act with
      | none => gate
      | some next =>
          { gate.effect requestId (gate.handlers.place requestId) act with
            handlers := gate.handlers.move requestId next }
  | .sweepTimedOut requestId =>
      { gate with jobStore := gate.jobStore.mark requestId .timedOut }.countJob .timedOut
  | .sweepFailed requestId =>
      { gate with jobStore := gate.jobStore.mark requestId .failed }.countJob .failed

def Gate.after (concurrentJobs : Nat) (jobTimeoutMs : UInt64) (events : List Event) : Gate :=
  Runs.run Gate.step (.new concurrentJobs jobTimeoutMs) events

def Stage.holdsPermit : Stage → Bool
  | .waiting | .counted | .turnedAway | .refused | .answered .. | .answeredError _ => false
  | _ => true

def Handler.holdsPermit (handler : Handler) : Bool := handler.live && handler.stage.holdsPermit

def Stage.inGauge : Stage → Bool
  | .counted | .turnedAway | .admitted | .dispatched _ => true
  | _ => false

def Handler.inGauge (handler : Handler) : Bool := handler.stage.inGauge

def Handler.inFlight (handler : Handler) : Bool := handler.live && handler.stage.inGauge

def Handler.leaked (handler : Handler) : Bool := !handler.live && handler.stage.inGauge

def Stage.status : Stage → Option RequestStatus
  | .generated .. | .journaled .. | .completed .. | .answered .. => some .ok
  | .failing _ | .failed _ | .answeredError _ => some .error
  | .refused => some .capacity
  | _ => none

def Handler.concluded (endpoint : Endpoint) (status : RequestStatus) (handler : Handler) : Bool :=
  handler.endpoint == endpoint && handler.stage.status == some status

def Handler.completed (handler : Handler) : Bool :=
  match handler.stage with
  | .completed .. | .answered .. => true
  | _ => false

inductive Moves (free : Bool) : Handler → Act → Handler → Prop where
  | arrive (before endpoint : Endpoint) :
      Moves free ⟨before, .waiting, true⟩ (.arrive endpoint) ⟨endpoint, .counted, true⟩
  | acquire (endpoint : Endpoint) (permit : free = true) :
      Moves free ⟨endpoint, .counted, true⟩ .tryAcquire ⟨endpoint, .admitted, true⟩
  | turnAway (endpoint : Endpoint) (taken : free = false) :
      Moves free ⟨endpoint, .counted, true⟩ .tryAcquire ⟨endpoint, .turnedAway, true⟩
  | refuse (endpoint : Endpoint) : Moves free ⟨endpoint, .turnedAway, true⟩ .refuse ⟨endpoint, .refused, true⟩
  | push (endpoint : Endpoint) (now : UInt64) (model : String) :
      Moves free ⟨endpoint, .admitted, true⟩ (.push now model) ⟨endpoint, .dispatched model, true⟩
  | generate (endpoint : Endpoint) (model : String) (promptWords tokens : Nat) (latencyMs : UInt32)
      (fallbackFrom : Option String) :
      Moves free ⟨endpoint, .dispatched model, true⟩ (.generate promptWords tokens latencyMs fallbackFrom)
        ⟨endpoint, .generated model (finishedMetrics promptWords tokens latencyMs fallbackFrom), true⟩
  | generateFails (endpoint : Endpoint) (model : String) :
      Moves free ⟨endpoint, .dispatched model, true⟩ .generateFails ⟨endpoint, .failing model, true⟩
  | append (endpoint : Endpoint) (model : String) (metrics : JobMetrics) (ts : UInt64) (written : Nat) :
      Moves free ⟨endpoint, .generated model metrics, true⟩ (.append ts written)
        ⟨endpoint, .journaled model metrics, true⟩
  | complete (endpoint : Endpoint) (model : String) (metrics : JobMetrics) :
      Moves free ⟨endpoint, .journaled model metrics, true⟩ .complete ⟨endpoint, .completed model metrics, true⟩
  | answer (endpoint : Endpoint) (model : String) (metrics : JobMetrics) :
      Moves free ⟨endpoint, .completed model metrics, true⟩ .answer ⟨endpoint, .answered model metrics, true⟩
  | markFailed (endpoint : Endpoint) (model : String) :
      Moves free ⟨endpoint, .failing model, true⟩ .markFailed ⟨endpoint, .failed model, true⟩
  | answerError (endpoint : Endpoint) (model : String) :
      Moves free ⟨endpoint, .failed model, true⟩ .answer ⟨endpoint, .answeredError model, true⟩
  | drop (endpoint : Endpoint) (stage : Stage) (awaits : stage.awaits = true) :
      Moves free ⟨endpoint, stage, true⟩ .drop ⟨endpoint, stage, false⟩

theorem moves_of_stage {free : Bool} {stage next : Stage} {act : Act} (endpoint : Endpoint)
    (moved : stage.advance free act = some next) : Moves free ⟨endpoint, stage, true⟩ act ⟨endpoint, next, true⟩ := by
  unfold Stage.advance at moved
  split at moved
  all_goals simp only [Option.some.injEq, reduceCtorEq] at moved
  all_goals subst moved
  case h_1 =>
      cases permit : free with
      | true => exact .acquire endpoint rfl
      | false => exact .turnAway endpoint rfl
  all_goals constructor

theorem moves_of_advance {free : Bool} {handler next : Handler} {act : Act}
    (moved : handler.advance free act = some next) : Moves free handler act next := by
  obtain ⟨endpoint, stage, live⟩ := handler
  unfold Handler.advance at moved
  cases live with
  | false => simp at moved
  | true =>
      rw [if_pos rfl] at moved
      split at moved
      · simp only [Option.ite_none_right_eq_some, Option.some.injEq] at moved
        obtain ⟨rfl, rfl⟩ := moved
        exact .arrive _ _
      · simp only [Option.ite_none_right_eq_some, Option.some.injEq] at moved
        obtain ⟨awaits, rfl⟩ := moved
        exact .drop _ _ awaits
      · obtain ⟨after, advanced, rfl⟩ := Option.map_eq_some_iff.mp moved
        exact moves_of_stage endpoint advanced

theorem step_handler (gate : Gate) (requestId : RequestId) (act : Act) :
    gate.step (.handler requestId act) = gate ∨
      ∃ next, Moves (decide (0 < gate.inferenceSem)) (gate.handlers.place requestId) act next ∧
        gate.step (.handler requestId act) =
          { gate.effect requestId (gate.handlers.place requestId) act with
            handlers := gate.handlers.move requestId next } := by
  cases moved : (gate.handlers.place requestId).advance (decide (0 < gate.inferenceSem)) act with
  | none =>
      left
      simp only [Gate.step, moved]
  | some next =>
      right
      refine ⟨next, moves_of_advance moved, ?_⟩
      simp only [Gate.step, moved]

theorem moves_live {free : Bool} {handler next : Handler} {act : Act} (moves : Moves free handler act next) :
    handler.live = true := by
  cases moves <;> rfl

theorem holdsPermit_of_awaits {stage : Stage} (awaits : stage.awaits = true) : stage.holdsPermit = true := by
  cases stage <;> first | rfl | cases awaits

section

variable {gate : Gate} {requestId : RequestId} {handler next : Handler} {act : Act}
  (moves : Moves (decide (0 < gate.inferenceSem)) handler act next)

include moves

theorem moves_permits :
    (gate.effect requestId handler act).inferenceSem + next.holdsPermit.toNat =
      gate.inferenceSem + handler.holdsPermit.toNat := by
  cases moves with
  | acquire endpoint permit =>
      have free : 0 < gate.inferenceSem := of_decide_eq_true permit
      show gate.inferenceSem - 1 + 1 = gate.inferenceSem + 0
      omega
  | turnAway endpoint taken =>
      have none' : ¬0 < gate.inferenceSem := of_decide_eq_false taken
      show gate.inferenceSem - 1 + 0 = gate.inferenceSem + 0
      omega
  | drop endpoint stage awaits => simp [Gate.effect, Handler.holdsPermit, holdsPermit_of_awaits awaits]
  | _ => rfl

theorem moves_gauge :
    (gate.effect requestId handler act).concurrentRequests + handler.inGauge.toNat =
      gate.concurrentRequests + next.inGauge.toNat := by
  cases moves with
  | arrive | refuse | generate | generateFails =>
      simp [Gate.effect, Gate.countRequest, Handler.inGauge, Stage.inGauge]
  | _ => rfl

theorem moves_requests (endpoint : Endpoint) (status : RequestStatus) :
    (gate.effect requestId handler act).requestsTotal endpoint status + (handler.concluded endpoint status).toNat =
      gate.requestsTotal endpoint status + (next.concluded endpoint status).toNat := by
  cases moves with
  | refuse place | generate place | generateFails place =>
      cases place <;> cases endpoint <;> cases status <;> rfl
  | arrive | acquire | turnAway | push => simp [Gate.effect, Handler.concluded, Stage.status]
  | _ => rfl

theorem moves_jobs :
    (gate.effect requestId handler act).jobsTotal .completed + handler.completed.toNat =
      gate.jobsTotal .completed + next.completed.toNat := by
  cases moves with
  | _ => rfl

end

/-- The permits, the gauge and the counters agree with where the handlers are. -/
structure Accurate (capacity : Nat) (gate : Gate) : Prop where
  permits : gate.inferenceSem + gate.handlers.count Handler.holdsPermit = capacity
  gauge : gate.concurrentRequests = gate.handlers.count Handler.inGauge
  requests : ∀ endpoint status,
    gate.requestsTotal endpoint status = gate.handlers.count (Handler.concluded endpoint status)
  jobs : gate.jobsTotal .completed = gate.handlers.count Handler.completed

theorem concluded_idle (endpoint : Endpoint) (status : RequestStatus) :
    Handler.idle.concluded endpoint status = false := by
  simp [Handler.concluded, Stage.status]

theorem Accurate.new (concurrentJobs : Nat) (jobTimeoutMs : UInt64) :
    Accurate (max concurrentJobs 1) (.new concurrentJobs jobTimeoutMs) where
  permits := congrArg (max concurrentJobs 1 + ·) (Roster.count_start Handler.holdsPermit rfl)
  gauge := congrArg Nat.cast (Roster.count_start Handler.inGauge rfl).symm
  requests := fun endpoint status => (Roster.count_start _ (concluded_idle endpoint status)).symm
  jobs := (Roster.count_start Handler.completed rfl).symm

theorem Accurate.step {capacity : Nat} (gate : Gate) (event : Event) (accurate : Accurate capacity gate) :
    Accurate capacity (gate.step event) := by
  obtain ⟨permits, gauge, requests, jobs⟩ := accurate
  cases event with
  | sweepTimedOut requestId | sweepFailed requestId => exact ⟨permits, gauge, requests, jobs⟩
  | handler requestId act =>
      rcases step_handler gate requestId act with same | ⟨next, moves, after⟩
      · rw [same]
        exact ⟨permits, gauge, requests, jobs⟩
      · have held := gate.handlers.count_move Handler.holdsPermit rfl requestId next
        have seen := gate.handlers.count_move Handler.inGauge rfl requestId next
        have done := gate.handlers.count_move Handler.completed rfl requestId next
        have permit := @moves_permits gate requestId _ _ _ moves
        have change := @moves_gauge gate requestId _ _ _ moves
        have finished := @moves_jobs gate requestId _ _ _ moves
        rw [after]
        refine ⟨?_, ?_, ?_, ?_⟩
        · dsimp only
          omega
        · dsimp only
          omega
        · intro endpoint status
          have concluded := gate.handlers.count_move (Handler.concluded endpoint status)
            (concluded_idle endpoint status) requestId next
          have counted := @moves_requests gate requestId _ _ _ moves endpoint status
          have before := requests endpoint status
          dsimp only
          omega
        · dsimp only
          omega

theorem Accurate.after (concurrentJobs : Nat) (jobTimeoutMs : UInt64) (events : List Event) :
    Accurate (max concurrentJobs 1) (.after concurrentJobs jobTimeoutMs events) := by
  exact Runs.invariant_run _ Accurate.step (Accurate.new concurrentJobs jobTimeoutMs) events

theorem count_inGauge (handlers : Roster RequestId Handler.idle) :
    handlers.count Handler.inGauge = handlers.count Handler.inFlight + handlers.count Handler.leaked := by
  have split : Handler.inGauge = fun handler => handler.inFlight || handler.leaked := by
    funext handler
    simp only [Handler.inGauge, Handler.inFlight, Handler.leaked]
    cases handler.live <;> simp
  rw [split]
  refine handlers.count_or _ _ rfl rfl ?_
  intro handler flying
  simp only [Handler.inFlight, Bool.and_eq_true] at flying
  simp [Handler.leaked, flying.1]

/-- Nothing takes a dropped request out of the gauge. -/
theorem leaked_step (gate : Gate) (event : Event) :
    gate.handlers.count Handler.leaked ≤ (gate.step event).handlers.count Handler.leaked := by
  cases event with
  | sweepTimedOut requestId | sweepFailed requestId => exact le_rfl
  | handler requestId act =>
      rcases step_handler gate requestId act with same | ⟨next, moves, after⟩
      · rw [same]
      · have moved := gate.handlers.count_move Handler.leaked rfl requestId next
        have before : (gate.handlers.place requestId).leaked = false := by simp [Handler.leaked, moves_live moves]
        rw [before] at moved
        rw [after]
        dsimp only [Bool.toNat_false] at moved ⊢
        omega

theorem leaked_run (gate : Gate) (events : List Event) :
    gate.handlers.count Handler.leaked ≤ (Runs.run Gate.step gate events).handlers.count Handler.leaked := by
  induction events generalizing gate with
  | nil => exact le_rfl
  | cons event rest ih => exact (leaked_step gate event).trans (ih (gate.step event))

theorem turnedAway_iff {gate : Gate} {requestId : RequestId} {endpoint : Endpoint}
    (counted : gate.handlers.place requestId = ⟨endpoint, .counted, true⟩) :
    ((gate.step (.handler requestId .tryAcquire)).handlers.place requestId).stage = .turnedAway ↔
      gate.inferenceSem = 0 := by
  have advanced : (gate.handlers.place requestId).advance (decide (0 < gate.inferenceSem)) .tryAcquire =
      some ⟨endpoint, if decide (0 < gate.inferenceSem) then .admitted else .turnedAway, true⟩ := by
    rw [counted]
    rfl
  simp only [Gate.step, advanced, Roster.place_move]
  by_cases free : 0 < gate.inferenceSem
  · simp only [free, decide_true, if_true, reduceCtorEq, false_iff]
    omega
  · simp only [free, decide_false, Bool.false_eq_true, if_false, true_iff]
    omega

/-- At any moment, whatever the clients and the watcher do: each permit is free or held by one live request; a
request is turned away just when all of them are held; and the counters are exact, but for the gauge, which counts
every request that was dropped under it for ever. -/
theorem gate_accurate (concurrentJobs : Nat) (jobTimeoutMs : UInt64) (events : List Event) :
    let gate := Gate.after concurrentJobs jobTimeoutMs events
    gate.inferenceSem + gate.handlers.count Handler.holdsPermit = max concurrentJobs 1 ∧
      (∀ requestId endpoint, gate.handlers.place requestId = ⟨endpoint, .counted, true⟩ →
        (((gate.step (.handler requestId .tryAcquire)).handlers.place requestId).stage = .turnedAway ↔
          gate.handlers.count Handler.holdsPermit = max concurrentJobs 1)) ∧
      (∀ endpoint status, gate.requestsTotal endpoint status =
        gate.handlers.count (Handler.concluded endpoint status)) ∧
      gate.jobsTotal .completed = gate.handlers.count Handler.completed ∧
      gate.concurrentRequests = gate.handlers.count Handler.inFlight + gate.handlers.count Handler.leaked ∧
      ∀ later, (gate.handlers.count Handler.leaked : Int) ≤
        (Gate.after concurrentJobs jobTimeoutMs (events ++ later)).concurrentRequests := by
  intro gate
  have accurate : Accurate (max concurrentJobs 1) gate := .after concurrentJobs jobTimeoutMs events
  have permits := accurate.permits
  have gauge := accurate.gauge
  rw [count_inGauge] at gauge
  refine ⟨permits, ?_, accurate.requests, accurate.jobs, by exact_mod_cast gauge, ?_⟩
  · intro requestId endpoint counted
    rw [turnedAway_iff counted]
    omega
  · intro later
    have after := (Accurate.after concurrentJobs jobTimeoutMs (events ++ later)).gauge
    have kept := leaked_run gate later
    rw [count_inGauge] at after
    rw [after, Gate.after, Runs.run_append]
    exact_mod_cast kept.trans (Nat.le_add_left _ _)

end Pinaivu.RequestGate
