import Pinaivu.Lib.Roster
import Pinaivu.Lib.Runs

/-!
`NodeScheduler` of `inference/scheduler.rs` under concurrent `submit` calls. A call and the job that it
spawns take one step for each lock, for the permit, for the work and for the hand-over of the stream.
The stages of the jobs tell who has taken which step, the list `queue` and the permits are counted by them.
-/

namespace Pinaivu.Inference

/-- Where a `submit` call and its job are. From the end of the work on the stage says whether there is a
token stream that has not been finished or dropped. -/
inductive Stage where
  | called
  | rejected
  | admitted
  | queued
  | permitted
  | dequeued
  | marked
  | running
  | worked (stream : Bool)
  | handed (stream : Bool)
  | removed (stream : Bool)
  | completed (stream : Bool)
  | panicked
  deriving DecidableEq

inductive Outcome where
  | stream
  | error
  | panic
  deriving DecidableEq

/-- `handOver` says whether the caller still holds its receipt, `dropStream` is the caller's. -/
inductive Act where
  | checkDepth
  | pushBack
  | acquire
  | leaveQueue
  | markActive
  | startWork
  | endWork (outcome : Outcome)
  | handOver (awaited : Bool)
  | leaveActive
  | dropPermit
  | dropStream
  deriving DecidableEq

def Stage.advance (full free : Bool) : Stage → Act → Option Stage
  | .called, .checkDepth => some (if full then .rejected else .admitted)
  | .admitted, .pushBack => some .queued
  | .queued, .acquire => if free then some .permitted else none
  | .permitted, .leaveQueue => some .dequeued
  | .dequeued, .markActive => some .marked
  | .marked, .startWork => some .running
  | .running, .endWork .stream => some (.worked true)
  | .running, .endWork .error => some (.worked false)
  | .running, .endWork .panic => some .panicked
  | .worked stream, .handOver awaited => some (.handed (stream && awaited))
  | .handed stream, .leaveActive => some (.removed stream)
  | .removed stream, .dropPermit => some (.completed stream)
  | .handed true, .dropStream => some (.handed false)
  | .removed true, .dropStream => some (.removed false)
  | .completed true, .dropStream => some (.completed false)
  | _, _ => none

structure NodeScheduler (RequestId : Type) where
  maxConcurrent : Nat
  maxQueue : Nat
  semaphore : Nat
  activeJobs : List RequestId
  queue : List RequestId
  jobs : Roster RequestId Stage.called

variable {RequestId : Type}

def NodeScheduler.new (maxConcurrent maxQueue : Nat) : NodeScheduler RequestId :=
  ⟨max maxConcurrent 1, maxQueue, max maxConcurrent 1, [], [], Roster.start⟩

def NodeScheduler.advance (scheduler : NodeScheduler RequestId) (id : RequestId) (act : Act) : Option Stage :=
  (scheduler.jobs.place id).advance (decide (scheduler.maxQueue ≤ scheduler.queue.length))
    (decide (0 < scheduler.semaphore)) act

variable [DecidableEq RequestId]

def NodeScheduler.effect (scheduler : NodeScheduler RequestId) (id : RequestId) : Act → NodeScheduler RequestId
  | .pushBack => { scheduler with queue := scheduler.queue ++ [id] }
  | .acquire => { scheduler with semaphore := scheduler.semaphore - 1 }
  | .leaveQueue => { scheduler with queue := scheduler.queue.filter (· ≠ id) }
  | .markActive => { scheduler with activeJobs := scheduler.activeJobs.insert id }
  -- a panic unwinds the task and leaves the entry of `active_jobs`
  | .endWork .panic => { scheduler with semaphore := scheduler.semaphore + 1 }
  | .leaveActive => { scheduler with activeJobs := scheduler.activeJobs.erase id }
  | .dropPermit => { scheduler with semaphore := scheduler.semaphore + 1 }
  | _ => scheduler

def NodeScheduler.step (scheduler : NodeScheduler RequestId) (event : RequestId × Act) : NodeScheduler RequestId :=
  match scheduler.advance event.1 event.2 with
  | none => scheduler
  | some next => { scheduler.effect event.1 event.2 with jobs := scheduler.jobs.move event.1 next }

inductive Stage.Moves : Stage → Act → Stage → Prop
  | reject : Moves .called .checkDepth .rejected
  | accept : Moves .called .checkDepth .admitted
  | push : Moves .admitted .pushBack .queued
  | acquire : Moves .queued .acquire .permitted
  | leave : Moves .permitted .leaveQueue .dequeued
  | mark : Moves .dequeued .markActive .marked
  | start : Moves .marked .startWork .running
  | succeed : Moves .running (.endWork .stream) (.worked true)
  | fail : Moves .running (.endWork .error) (.worked false)
  | panic : Moves .running (.endWork .panic) .panicked
  | hand (stream awaited : Bool) : Moves (.worked stream) (.handOver awaited) (.handed (stream && awaited))
  | remove (stream : Bool) : Moves (.handed stream) .leaveActive (.removed stream)
  | complete (stream : Bool) : Moves (.removed stream) .dropPermit (.completed stream)
  | dropHanded : Moves (.handed true) .dropStream (.handed false)
  | dropRemoved : Moves (.removed true) .dropStream (.removed false)
  | dropCompleted : Moves (.completed true) .dropStream (.completed false)

theorem Stage.moves_of_advance {full free : Bool} {stage next : Stage} {act : Act}
    (moved : stage.advance full free act = some next) : stage.Moves act next := by
  unfold Stage.advance at moved
  split at moved
  all_goals simp only [Option.some.injEq, Option.ite_none_right_eq_some, reduceCtorEq] at moved
  case h_1 =>
    subst moved
    cases full with
    | true => exact .reject
    | false => exact .accept
  case h_3 =>
    obtain ⟨-, rfl⟩ := moved
    exact .acquire
  all_goals subst moved; constructor

/-! ## Steps of one kind -/

def Act.pushes : Act → Bool
  | .pushBack => true
  | _ => false

def Act.takes : Act → Bool
  | .acquire => true
  | _ => false

def Act.leaves : Act → Bool
  | .leaveQueue => true
  | _ => false

def Act.gives : Act → Bool
  | .endWork .panic => true
  | .dropPermit => true
  | _ => false

def Stage.hasPushed : Stage → Bool
  | .called | .rejected | .admitted => false
  | _ => true

def Stage.hasTaken : Stage → Bool
  | .called | .rejected | .admitted | .queued => false
  | _ => true

def Stage.hasLeft : Stage → Bool
  | .called | .rejected | .admitted | .queued | .permitted => false
  | _ => true

def Stage.hasGiven : Stage → Bool
  | .completed _ | .panicked => true
  | _ => false

omit [DecidableEq RequestId] in
def NodeScheduler.acted (kind : Act → Bool) (scheduler : NodeScheduler RequestId) (event : RequestId × Act) :
    List RequestId :=
  if kind event.2 = true ∧ (scheduler.advance event.1 event.2).isSome = true then [event.1] else []

def NodeScheduler.actors (kind : Act → Bool) (scheduler : NodeScheduler RequestId) (events : List (RequestId × Act)) :
    List RequestId :=
  Runs.outputs NodeScheduler.step (NodeScheduler.acted kind) scheduler events

def Shows (kind : Act → Bool) (shows : Stage → Bool) : Prop :=
  ∀ stage act next, Stage.Moves stage act next →
    if kind act = true then shows stage = false ∧ shows next = true else shows next = shows stage

/-- The actors are the jobs whose stage tells it, each once. -/
structure Recorded (shows : Stage → Bool) (scheduler : NodeScheduler RequestId) (actors : List RequestId) : Prop where
  once : actors.Nodup
  recorded : ∀ id, id ∈ actors ↔ shows (scheduler.jobs.place id) = true

theorem shows_pushed : Shows Act.pushes Stage.hasPushed := by
  intro stage act next moves
  cases moves <;> simp [Act.pushes, Stage.hasPushed]

theorem shows_taken : Shows Act.takes Stage.hasTaken := by
  intro stage act next moves
  cases moves <;> simp [Act.takes, Stage.hasTaken]

theorem shows_left : Shows Act.leaves Stage.hasLeft := by
  intro stage act next moves
  cases moves <;> simp [Act.leaves, Stage.hasLeft]

theorem shows_given : Shows Act.gives Stage.hasGiven := by
  intro stage act next moves
  cases moves <;> simp [Act.gives, Stage.hasGiven]

section

variable {scheduler : NodeScheduler RequestId} {kind : Act → Bool} {shows : Stage → Bool}

theorem step_blocked {id : RequestId} {act : Act} (blocked : scheduler.advance id act = none) :
    scheduler.step (id, act) = scheduler := by
  simp [NodeScheduler.step, blocked]

omit [DecidableEq RequestId] in
theorem acted_blocked {id : RequestId} {act : Act} (blocked : scheduler.advance id act = none) :
    scheduler.acted kind (id, act) = [] := by
  simp [NodeScheduler.acted, blocked]

theorem step_moved {id : RequestId} {act : Act} {next : Stage} (moved : scheduler.advance id act = some next) :
    scheduler.step (id, act) = { scheduler.effect id act with jobs := scheduler.jobs.move id next } := by
  simp [NodeScheduler.step, moved]

omit [DecidableEq RequestId] in
theorem acted_moved {id : RequestId} {act : Act} {next : Stage} (moved : scheduler.advance id act = some next) :
    scheduler.acted kind (id, act) = if kind act = true then [id] else [] := by
  simp [NodeScheduler.acted, moved]

theorem place_step_self {id : RequestId} {act : Act} {next : Stage} (moved : scheduler.advance id act = some next) :
    (scheduler.step (id, act)).jobs.place id = next := by
  rw [step_moved moved, Roster.place_move]

theorem place_step_other {event : RequestId × Act} {other : RequestId} (differs : other ≠ event.1) :
    (scheduler.step event).jobs.place other = scheduler.jobs.place other := by
  unfold NodeScheduler.step
  split
  · rfl
  · exact Roster.place_move_of_ne _ differs _

theorem recorded_step (shown : Shows kind shows) {actors : List RequestId}
    (recorded : Recorded shows scheduler actors) (event : RequestId × Act) :
    Recorded shows (scheduler.step event) (actors ++ scheduler.acted kind event) := by
  obtain ⟨id, act⟩ := event
  cases moved : scheduler.advance id act with
  | none =>
      rwa [step_blocked moved, acted_blocked moved, List.append_nil]
  | some next =>
      have shown := shown _ _ _ (Stage.moves_of_advance moved)
      have self := place_step_self moved
      rw [acted_moved moved]
      split at shown
      · next acts =>
          have absent : id ∉ actors := by
            rw [recorded.recorded, shown.1]
            decide
          rw [if_pos acts]
          refine ⟨List.nodup_append_comm.mp (List.nodup_cons.mpr ⟨absent, recorded.once⟩), ?_⟩
          intro other
          by_cases own : other = id
          · subst own
            simp [self, shown.2]
          · rw [place_step_other own, ← recorded.recorded]
            simp [own]
      · next other =>
          rw [if_neg other, List.append_nil]
          refine ⟨recorded.once, ?_⟩
          intro member
          by_cases own : member = id
          · subst own
            rw [self, shown, recorded.recorded]
          · rw [place_step_other own, recorded.recorded]

theorem recorded_run (shown : Shows kind shows) (home : shows .called = false) (maxConcurrent maxQueue : Nat)
    (events : List (RequestId × Act)) :
    Recorded shows (Runs.run NodeScheduler.step (NodeScheduler.new maxConcurrent maxQueue) events)
      ((NodeScheduler.new maxConcurrent maxQueue).actors kind events) := by
  induction events using List.reverseRecOn with
  | nil => exact ⟨List.nodup_nil, by simp [NodeScheduler.actors, Runs.outputs, NodeScheduler.new, Roster.start, home]⟩
  | append_singleton events last ih =>
      rw [Runs.run_concat, NodeScheduler.actors, Runs.outputs_append, Runs.outputs, Runs.outputs, List.append_nil]
      exact recorded_step shown ih last

end

theorem actors_concat (kind : Act → Bool) (scheduler : NodeScheduler RequestId) (events : List (RequestId × Act))
    (last : RequestId × Act) : scheduler.actors kind (events ++ [last]) =
      scheduler.actors kind events ++ (Runs.run NodeScheduler.step scheduler events).acted kind last := by
  rw [NodeScheduler.actors, Runs.outputs_append, Runs.outputs, Runs.outputs, List.append_nil]
  rfl

/-! ## The permits and the queue -/

def Stage.holdsPermit : Stage → Bool
  | .permitted | .dequeued | .marked | .running | .worked _ | .handed _ | .removed _ => true
  | _ => false

def Stage.waits : Stage → Bool
  | .queued => true
  | _ => false

def Stage.overstays : Stage → Bool
  | .permitted => true
  | _ => false

def Stage.listed (stage : Stage) : Bool := stage.waits || stage.overstays

def PermitsCounted (scheduler : NodeScheduler RequestId) : Prop :=
  scheduler.semaphore + scheduler.jobs.count Stage.holdsPermit = scheduler.maxConcurrent

structure QueueListed (scheduler : NodeScheduler RequestId) : Prop where
  once : scheduler.queue.Nodup
  listed : ∀ id, id ∈ scheduler.queue ↔ (scheduler.jobs.place id).listed = true

@[simp]
theorem effect_maxQueue (scheduler : NodeScheduler RequestId) (id : RequestId) (act : Act) :
    (scheduler.effect id act).maxQueue = scheduler.maxQueue := by
  unfold NodeScheduler.effect
  split <;> rfl

@[simp]
theorem effect_maxConcurrent (scheduler : NodeScheduler RequestId) (id : RequestId) (act : Act) :
    (scheduler.effect id act).maxConcurrent = scheduler.maxConcurrent := by
  unfold NodeScheduler.effect
  split <;> rfl

theorem effect_semaphore (scheduler : NodeScheduler RequestId) (id : RequestId) (act : Act) :
    (scheduler.effect id act).semaphore = scheduler.semaphore - act.takes.toNat + act.gives.toNat := by
  cases act with
  | endWork outcome => cases outcome <;> rfl
  | _ => rfl

theorem effect_queue_other (scheduler : NodeScheduler RequestId) (id : RequestId) {act : Act}
    (pushes : act ≠ .pushBack) (leaves : act ≠ .leaveQueue) :
    (scheduler.effect id act).queue = scheduler.queue := by
  unfold NodeScheduler.effect
  split
  case h_1 => exact absurd rfl pushes
  case h_3 => exact absurd rfl leaves
  all_goals rfl

theorem Stage.Moves.permit {stage next : Stage} {act : Act} (moves : stage.Moves act next) :
    next.holdsPermit.toNat + act.gives.toNat = stage.holdsPermit.toNat + act.takes.toNat := by
  cases moves <;> rfl

theorem Stage.Moves.listed {stage next : Stage} {act : Act} (moves : stage.Moves act next)
    (pushes : act ≠ .pushBack) (leaves : act ≠ .leaveQueue) : next.listed = stage.listed := by
  cases moves <;> first | rfl | contradiction

theorem Stage.Moves.of_pushBack {stage next : Stage} (moves : stage.Moves .pushBack next) :
    stage = .admitted ∧ next = .queued := by
  cases moves
  exact ⟨rfl, rfl⟩

theorem Stage.Moves.of_leaveQueue {stage next : Stage} (moves : stage.Moves .leaveQueue next) :
    stage = .permitted ∧ next = .dequeued := by
  cases moves
  exact ⟨rfl, rfl⟩

omit [DecidableEq RequestId] in
theorem takes_le {scheduler : NodeScheduler RequestId} {id : RequestId} {act : Act} {next : Stage}
    (moved : scheduler.advance id act = some next) : act.takes.toNat ≤ scheduler.semaphore := by
  cases act with
  | acquire =>
      have free : decide (0 < scheduler.semaphore) = true := by
        unfold NodeScheduler.advance at moved
        cases stage : scheduler.jobs.place id <;> simp_all [Stage.advance]
      exact of_decide_eq_true free
  | _ => exact Nat.zero_le _

section

variable {scheduler : NodeScheduler RequestId}

theorem step_maxConcurrent (event : RequestId × Act) :
    (scheduler.step event).maxConcurrent = scheduler.maxConcurrent := by
  unfold NodeScheduler.step
  split <;> simp

theorem step_maxQueue (event : RequestId × Act) : (scheduler.step event).maxQueue = scheduler.maxQueue := by
  unfold NodeScheduler.step
  split <;> simp

theorem permitsCounted_step (event : RequestId × Act) (counted : PermitsCounted scheduler) :
    PermitsCounted (scheduler.step event) := by
  obtain ⟨id, act⟩ := event
  cases moved : scheduler.advance id act with
  | none => rwa [step_blocked moved]
  | some next =>
      have permit := (Stage.moves_of_advance moved).permit
      have jobs := scheduler.jobs.count_move Stage.holdsPermit rfl id next
      have taken := takes_le moved
      rw [step_moved moved]
      unfold PermitsCounted at counted ⊢
      simp only [effect_maxConcurrent, effect_semaphore]
      omega

theorem queueListed_step (event : RequestId × Act) (queue : QueueListed scheduler) :
    QueueListed (scheduler.step event) := by
  obtain ⟨id, act⟩ := event
  obtain ⟨once, listed⟩ := queue
  cases moved : scheduler.advance id act with
  | none =>
      rw [step_blocked moved]
      exact ⟨once, listed⟩
  | some next =>
      have moves := Stage.moves_of_advance moved
      have self := place_step_self moved
      by_cases pushes : act = .pushBack
      · subst pushes
        obtain ⟨admitted, rfl⟩ := moves.of_pushBack
        have absent : id ∉ scheduler.queue := by
          rw [listed, admitted]
          decide
        rw [step_moved moved]
        refine ⟨List.nodup_append_comm.mp (List.nodup_cons.mpr ⟨absent, once⟩), ?_⟩
        intro other
        by_cases own : other = id
        · subst own
          simp [NodeScheduler.effect, Stage.listed, Stage.waits]
        · simp [NodeScheduler.effect, Roster.place_move_of_ne _ own, listed, own]
      · by_cases leaves : act = .leaveQueue
        · subst leaves
          obtain ⟨-, rfl⟩ := moves.of_leaveQueue
          rw [step_moved moved]
          refine ⟨once.filter _, ?_⟩
          intro other
          by_cases own : other = id
          · subst own
            simp [NodeScheduler.effect, Stage.listed, Stage.waits, Stage.overstays]
          · simp [NodeScheduler.effect, Roster.place_move_of_ne _ own, listed, own]
        · have same := effect_queue_other scheduler id pushes leaves
          rw [step_moved moved]
          refine ⟨by simpa only [same] using once, ?_⟩
          intro other
          simp only [same]
          by_cases own : other = id
          · subst own
            rw [listed, Roster.place_move, moves.listed pushes leaves]
          · rw [listed, Roster.place_move_of_ne _ own]

end

section

variable (maxConcurrent maxQueue : Nat) (events : List (RequestId × Act))

theorem scheduler_run :
    let scheduler := Runs.run NodeScheduler.step (NodeScheduler.new maxConcurrent maxQueue) events
    scheduler.maxConcurrent = max maxConcurrent 1 ∧ scheduler.maxQueue = maxQueue ∧ PermitsCounted scheduler ∧
      QueueListed scheduler := by
  have counted : PermitsCounted (NodeScheduler.new maxConcurrent maxQueue : NodeScheduler RequestId) := by
    exact congrArg (max maxConcurrent 1 + ·) (Roster.count_start Stage.holdsPermit rfl)
  have listed : QueueListed (NodeScheduler.new maxConcurrent maxQueue : NodeScheduler RequestId) := by
    refine ⟨List.nodup_nil, ?_⟩
    intro id
    simp [NodeScheduler.new, Roster.start, Stage.listed, Stage.waits, Stage.overstays]
  refine Runs.invariant_run (fun scheduler => scheduler.maxConcurrent = max maxConcurrent 1 ∧
    scheduler.maxQueue = maxQueue ∧ PermitsCounted scheduler ∧ QueueListed scheduler)
    ?_ ⟨rfl, rfl, counted, listed⟩ events
  rintro scheduler event ⟨concurrent, queue, counted, listed⟩
  exact ⟨(step_maxConcurrent event).trans concurrent, (step_maxQueue event).trans queue,
    permitsCounted_step event counted, queueListed_step event listed⟩

theorem actors_length {kind : Act → Bool} {shows : Stage → Bool} (shown : Shows kind shows)
    (home : shows .called = false) :
    ((NodeScheduler.new maxConcurrent maxQueue).actors kind events).length =
      (Runs.run NodeScheduler.step (NodeScheduler.new maxConcurrent maxQueue) events).jobs.count shows := by
  have recorded := recorded_run shown home maxConcurrent maxQueue events
  rw [Roster.count_eq_length _ recorded.once fun id => (recorded.recorded id).mpr]
  exact congrArg List.length (List.filter_eq_self.mpr fun id member => (recorded.recorded id).mp member).symm

theorem permits_balance :
    (Runs.run NodeScheduler.step (NodeScheduler.new maxConcurrent maxQueue) events).semaphore +
        ((NodeScheduler.new maxConcurrent maxQueue).actors Act.takes events).length =
      max maxConcurrent 1 + ((NodeScheduler.new maxConcurrent maxQueue).actors Act.gives events).length := by
  obtain ⟨concurrent, -, counted, -⟩ := scheduler_run maxConcurrent maxQueue events
  have kinds := (Runs.run NodeScheduler.step (NodeScheduler.new maxConcurrent maxQueue) events).jobs.count_or
    Stage.holdsPermit Stage.hasGiven rfl rfl fun stage => by cases stage <;> simp [Stage.holdsPermit, Stage.hasGiven]
  have held : (fun stage => Stage.holdsPermit stage || Stage.hasGiven stage) = Stage.hasTaken := by
    funext stage
    cases stage <;> rfl
  rw [held] at kinds
  rw [actors_length _ _ _ shows_taken rfl, actors_length _ _ _ shows_given rfl, kinds]
  unfold PermitsCounted at counted
  omega

theorem queue_balance :
    (Runs.run NodeScheduler.step (NodeScheduler.new maxConcurrent maxQueue) events).queue.length +
        ((NodeScheduler.new maxConcurrent maxQueue).actors Act.leaves events).length =
      ((NodeScheduler.new maxConcurrent maxQueue).actors Act.pushes events).length := by
  obtain ⟨-, -, -, once, listed⟩ := scheduler_run maxConcurrent maxQueue events
  have kinds := (Runs.run NodeScheduler.step (NodeScheduler.new maxConcurrent maxQueue) events).jobs.count_or
    Stage.listed Stage.hasLeft rfl rfl fun stage => by
      cases stage <;> simp [Stage.listed, Stage.waits, Stage.overstays, Stage.hasLeft]
  have pushed : (fun stage => Stage.listed stage || Stage.hasLeft stage) = Stage.hasPushed := by
    funext stage
    cases stage <;> rfl
  have whole := Roster.count_eq_length _ once fun id => (listed id).mpr
  rw [List.filter_eq_self.mpr fun id member => (listed id).mp member] at whole
  rw [pushed] at kinds
  rw [actors_length _ _ _ shows_left rfl, actors_length _ _ _ shows_pushed rfl, kinds, whole]

end

end Pinaivu.Inference
