import Pinaivu.Inference.SchedulerCore

/-!
When the queue and the slots stay within their bounds. Between the check and the push of a call others may push
their ids, and a job gives its permit back while its stream may still be open.
-/

namespace Pinaivu.Inference

/-- The work runs, or its stream has not been finished or dropped. -/
def Stage.occupies : Stage → Bool
  | .running => true
  | .worked stream | .handed stream | .removed stream | .completed stream => stream
  | _ => false

def Stage.unstarted : Stage → Bool
  | .permitted | .dequeued | .marked => true
  | _ => false

def Stage.idles (stage : Stage) : Bool := stage.holdsPermit && !stage.occupies

/-- The stream outlives the permit of its job. -/
def Stage.lingers (stage : Stage) : Bool := stage.occupies && !stage.holdsPermit

variable {RequestId : Type}

def WithinCapacity (scheduler : NodeScheduler RequestId) : Prop :=
  scheduler.queue.length ≤ scheduler.maxQueue ∧ scheduler.jobs.count Stage.occupies ≤ scheduler.maxConcurrent

theorem count_occupies (jobs : Roster RequestId Stage.called) :
    jobs.count Stage.occupies + jobs.count Stage.idles = jobs.count Stage.holdsPermit + jobs.count Stage.lingers := by
  let works (stage : Stage) : Bool := stage.holdsPermit && stage.occupies
  have held : Stage.holdsPermit = fun stage => works stage || stage.idles := by
    funext stage
    simp only [works, Stage.idles]
    cases stage.holdsPermit <;> cases stage.occupies <;> rfl
  have occupied : Stage.occupies = fun stage => works stage || stage.lingers := by
    funext stage
    simp only [works, Stage.lingers]
    cases stage.holdsPermit <;> cases stage.occupies <;> rfl
  have heldCount := jobs.count_or works Stage.idles rfl rfl fun stage => by
    simp only [works, Stage.idles]
    cases stage.holdsPermit <;> cases stage.occupies <;> simp
  have occupiedCount := jobs.count_or works Stage.lingers rfl rfl fun stage => by
    simp only [works, Stage.lingers]
    cases stage.holdsPermit <;> cases stage.occupies <;> simp
  rw [← held] at heldCount
  rw [← occupied] at occupiedCount
  omega

section

variable [DecidableEq RequestId] (scheduler : NodeScheduler RequestId) (events : List (RequestId × Act))

/-- Between a check that admits a job and the push of its id, the ids pushed are no more than those that leave the
queue and those that the check has left room for besides its own. -/
def PushesFit : Prop :=
  ∀ first id middle rest, events = first ++ (id, .checkDepth) :: (middle ++ (id, .pushBack) :: rest) →
    (Runs.run NodeScheduler.step scheduler first).jobs.place id = .called →
    (Runs.run NodeScheduler.step scheduler (first ++ (id, .checkDepth) :: middle)).jobs.place id = .admitted →
      let checked := Runs.run NodeScheduler.step scheduler (first ++ [(id, .checkDepth)])
      (checked.actors Act.pushes middle).length ≤ (checked.actors Act.leaves middle).length +
        (scheduler.maxQueue - ((Runs.run NodeScheduler.step scheduler first).queue.length + 1))

/-- A permit is used again when the stream of the job that gave it back is closed: of the jobs that take permits, the
one that is `max_concurrent` behind the `n`th starts its work when the `n`th that gave its permit back has no stream. -/
def StreamsClosed : Prop :=
  ∀ first id rest n giver, events = first ++ (id, .startWork) :: rest →
    (Runs.run NodeScheduler.step scheduler first).jobs.place id = .marked →
    (scheduler.actors Act.takes first)[n + scheduler.maxConcurrent]? = some id →
    (scheduler.actors Act.gives first)[n]? = some giver →
      ((Runs.run NodeScheduler.step scheduler first).jobs.place giver).occupies = false

end

/-! ## The queue -/

section

variable [DecidableEq RequestId] {maxConcurrent maxQueue : Nat} {events : List (RequestId × Act)}

omit [DecidableEq RequestId] in
theorem advance_admitted {scheduler : NodeScheduler RequestId} {id : RequestId} {act : Act}
    (moved : scheduler.advance id act = some .admitted) :
    act = .checkDepth ∧ scheduler.jobs.place id = .called ∧ scheduler.queue.length < scheduler.maxQueue := by
  unfold NodeScheduler.advance at moved
  have moves := Stage.moves_of_advance moved
  generalize stage : scheduler.jobs.place id = place at moves moved
  cases moves
  refine ⟨rfl, rfl, ?_⟩
  by_contra full
  simp [Stage.advance, not_lt.mp full] at moved

theorem admitted_split {id : RequestId}
    (admitted : (Runs.run NodeScheduler.step (NodeScheduler.new maxConcurrent maxQueue) events).jobs.place id =
      .admitted) :
    ∃ first middle, events = first ++ (id, .checkDepth) :: middle ∧
      (Runs.run NodeScheduler.step (NodeScheduler.new maxConcurrent maxQueue) first).jobs.place id = .called ∧
      (Runs.run NodeScheduler.step (NodeScheduler.new maxConcurrent maxQueue) first).queue.length < maxQueue := by
  induction events using List.reverseRecOn with
  | nil => cases admitted
  | append_singleton events last ih =>
      rw [Runs.run_concat] at admitted
      have earlier : (Runs.run NodeScheduler.step (NodeScheduler.new maxConcurrent maxQueue) events).jobs.place id =
          .admitted → ∃ first middle, events ++ [last] = first ++ (id, .checkDepth) :: middle ∧
            (Runs.run NodeScheduler.step (NodeScheduler.new maxConcurrent maxQueue) first).jobs.place id = .called ∧
            (Runs.run NodeScheduler.step (NodeScheduler.new maxConcurrent maxQueue) first).queue.length < maxQueue := by
        intro before
        obtain ⟨first, middle, rfl, called, room⟩ := ih before
        exact ⟨first, middle ++ [last], by simp, called, room⟩
      by_cases own : id = last.1
      · obtain ⟨_, act⟩ := last
        obtain rfl := own
        cases moved : (Runs.run NodeScheduler.step (NodeScheduler.new maxConcurrent maxQueue)
              events).advance id act with
        | none =>
            rw [step_blocked moved] at admitted
            exact earlier admitted
        | some next =>
            rw [place_step_self moved] at admitted
            subst admitted
            obtain ⟨rfl, called, room⟩ := advance_admitted moved
            rw [(scheduler_run maxConcurrent maxQueue events).2.1] at room
            exact ⟨events, [], rfl, called, room⟩
      · rw [place_step_other own] at admitted
        exact earlier admitted

/-- Between a check and what follows, the queue changes by the pushes and the leaves. -/
theorem queue_since (maxConcurrent maxQueue : Nat) (first middle : List (RequestId × Act)) (id : RequestId) :
    (Runs.run NodeScheduler.step (NodeScheduler.new maxConcurrent maxQueue)
          (first ++ (id, .checkDepth) :: middle)).queue.length +
        ((Runs.run NodeScheduler.step (NodeScheduler.new maxConcurrent maxQueue)
          (first ++ [(id, .checkDepth)])).actors Act.leaves middle).length =
      (Runs.run NodeScheduler.step (NodeScheduler.new maxConcurrent maxQueue) first).queue.length +
        ((Runs.run NodeScheduler.step (NodeScheduler.new maxConcurrent maxQueue)
          (first ++ [(id, .checkDepth)])).actors Act.pushes middle).length := by
  have before := queue_balance maxConcurrent maxQueue first
  have after := queue_balance maxConcurrent maxQueue (first ++ (id, .checkDepth) :: middle)
  have parts : ∀ kind : Act → Bool, kind .checkDepth = false →
      ((NodeScheduler.new maxConcurrent maxQueue).actors kind (first ++ (id, .checkDepth) :: middle)).length =
        ((NodeScheduler.new maxConcurrent maxQueue).actors kind first).length +
          ((Runs.run NodeScheduler.step (NodeScheduler.new maxConcurrent maxQueue)
            (first ++ [(id, .checkDepth)])).actors kind middle).length := by
    intro kind other
    have silent : ∀ scheduler : NodeScheduler RequestId, scheduler.acted kind (id, .checkDepth) = [] := by
      intro scheduler
      simp [NodeScheduler.acted, other]
    rw [List.append_cons, NodeScheduler.actors, Runs.outputs_append, List.length_append]
    congr 1
    have checked := actors_concat kind (NodeScheduler.new maxConcurrent maxQueue) first (id, .checkDepth)
    rw [silent, List.append_nil] at checked
    exact congrArg List.length checked
  rw [parts Act.leaves rfl, parts Act.pushes rfl] at after
  omega

theorem push_length {scheduler : NodeScheduler RequestId} {id : RequestId}
    (admitted : scheduler.jobs.place id = .admitted) :
    (scheduler.step (id, .pushBack)).queue.length = scheduler.queue.length + 1 := by
  have moved : scheduler.advance id .pushBack = some .queued := by
    simp [NodeScheduler.advance, admitted, Stage.advance]
  rw [step_moved moved]
  exact List.length_append

theorem queue_length_step {scheduler : NodeScheduler RequestId} {event : RequestId × Act}
    (other : event.2 = .pushBack → scheduler.jobs.place event.1 ≠ .admitted) :
    (scheduler.step event).queue.length ≤ scheduler.queue.length := by
  obtain ⟨id, act⟩ := event
  cases moved : scheduler.advance id act with
  | none => rw [step_blocked moved]
  | some next =>
      have pushes : act ≠ .pushBack := by
        rintro rfl
        exact other rfl (Stage.moves_of_advance moved).of_pushBack.1
      rw [step_moved moved]
      by_cases leaves : act = .leaveQueue
      · subst leaves
        exact List.length_filter_le _ _
      · exact (congrArg List.length (effect_queue_other scheduler id pushes leaves)).le

/-- The queue keeps its bound in a run when what is pushed between a check and its push fits, and only then. -/
theorem queue_kept_iff (maxConcurrent maxQueue : Nat) (events : List (RequestId × Act)) :
    (∀ first rest, events = first ++ rest →
        (Runs.run NodeScheduler.step (NodeScheduler.new maxConcurrent maxQueue) first).queue.length ≤ maxQueue) ↔
      PushesFit (NodeScheduler.new maxConcurrent maxQueue) events := by
  constructor
  · intro kept first id middle rest parts _ admitted
    have pushed := kept (first ++ (id, .checkDepth) :: middle ++ [(id, .pushBack)]) rest (by simp [parts])
    have balance := queue_since maxConcurrent maxQueue first middle id
    rw [Runs.run_concat, push_length admitted] at pushed
    show _ ≤ _ + (maxQueue - _)
    omega
  · intro fit first
    induction first using List.reverseRecOn with
    | nil => exact fun _ _ => Nat.zero_le _
    | append_singleton first last ih =>
        intro rest parts
        have earlier := ih (last :: rest) (by simp [parts])
        rw [Runs.run_concat]
        by_cases push : last.2 = .pushBack ∧
            (Runs.run NodeScheduler.step (NodeScheduler.new maxConcurrent maxQueue) first).jobs.place last.1 = .admitted
        · obtain ⟨id, act⟩ := last
          obtain ⟨rfl, admitted⟩ := push
          change Roster.place _ id = _ at admitted
          obtain ⟨before, middle, rfl, called, room⟩ := admitted_split admitted
          have fits := fit before id middle rest (by simp [parts]) called admitted
          have balance := queue_since maxConcurrent maxQueue before middle id
          rw [push_length admitted]
          change _ ≤ _ + (maxQueue - _) at fits
          omega
        · exact (queue_length_step fun pushes admitted => push ⟨pushes, admitted⟩).trans earlier

/-! ## The slots -/

omit [DecidableEq RequestId] in
theorem filter_length_le {p q : RequestId → Bool} {givers takers : List RequestId}
    (paired : ∀ (n : Nat) giver taker, givers[n]? = some giver → takers[n]? = some taker → p giver = true →
      q taker = true) :
    (givers.filter p).length ≤ (takers.filter q).length + (givers.length - takers.length) := by
  induction givers generalizing takers with
  | nil => exact Nat.zero_le _
  | cons giver givers ih =>
      cases takers with
      | nil =>
          rw [List.filter_nil, List.length_nil, Nat.zero_add, Nat.sub_zero]
          exact List.length_filter_le _ _
      | cons taker takers =>
          have later := @ih takers fun n => paired (n + 1)
          have first := paired 0 giver taker rfl rfl
          rw [List.filter_cons, List.filter_cons, List.length_cons, List.length_cons, Nat.add_sub_add_right]
          by_cases counted : p giver = true
          · rw [if_pos counted, if_pos (first counted), List.length_cons, List.length_cons]
            omega
          · rw [if_neg counted]
            split
            · rw [List.length_cons]
              omega
            · exact later

structure Reused (maxConcurrent : Nat) (scheduler : NodeScheduler RequestId) (takers givers : List RequestId) :
    Prop where
  taken : Recorded Stage.hasTaken scheduler takers
  given : Recorded Stage.hasGiven scheduler givers
  permits : takers.length ≤ maxConcurrent + givers.length
  unstarted : ∀ (n : Nat) giver taker, givers[n]? = some giver → takers[n + maxConcurrent]? = some taker →
    (scheduler.jobs.place giver).occupies = true → (scheduler.jobs.place taker).unstarted = true

theorem Stage.Moves.occupies_of_given {stage next : Stage} {act : Act} (moves : stage.Moves act next)
    (given : stage.hasGiven = true) : next.occupies = false := by
  cases moves <;> first | rfl | contradiction

theorem Stage.Moves.unstarted {stage next : Stage} {act : Act} (moves : stage.Moves act next)
    (unstarted : stage.unstarted = true) (starts : act ≠ .startWork) : next.unstarted = true := by
  cases moves <;> first | rfl | contradiction

theorem Stage.Moves.of_startWork {stage next : Stage} (moves : stage.Moves .startWork next) : stage = .marked := by
  cases moves
  rfl

theorem Stage.Moves.of_takes {stage next : Stage} {act : Act} (moves : stage.Moves act next)
    (takes : act.takes = true) : next.unstarted = true ∧ act.gives = false := by
  cases moves <;> first | exact ⟨rfl, rfl⟩ | contradiction

omit [DecidableEq RequestId] in
theorem getElem?_concat_cases {items : List RequestId} {item last : RequestId} {n : Nat}
    (found : (items ++ [last])[n]? = some item) : items[n]? = some item ∨ items.length ≤ n ∧ item = last := by
  by_cases before : n < items.length
  · rw [List.getElem?_append_left before] at found
    exact .inl found
  · rw [List.getElem?_append_right (not_lt.mp before)] at found
    exact .inr ⟨not_lt.mp before, List.mem_singleton.mp (List.mem_of_getElem? found)⟩

theorem reused_step {scheduler : NodeScheduler RequestId} {takers givers : List RequestId}
    (reused : Reused maxConcurrent scheduler takers givers) {id : RequestId} {act : Act} {next : Stage}
    (moved : scheduler.advance id act = some next)
    (permits : (takers ++ scheduler.acted Act.takes (id, act)).length ≤
      maxConcurrent + (givers ++ scheduler.acted Act.gives (id, act)).length)
    (closed : act = .startWork → ∀ (n : Nat) giver, takers[n + maxConcurrent]? = some id → givers[n]? = some giver →
      (scheduler.jobs.place giver).occupies = false) :
    Reused maxConcurrent (scheduler.step (id, act)) (takers ++ scheduler.acted Act.takes (id, act))
      (givers ++ scheduler.acted Act.gives (id, act)) := by
  have moves := Stage.moves_of_advance moved
  have self := place_step_self moved
  refine ⟨recorded_step shows_taken reused.taken _, recorded_step shows_given reused.given _, permits, ?_⟩
  intro n giver taker gave took occupies
  rw [acted_moved moved] at gave took permits
  have earlier : givers[n]? = some giver := by
    by_cases gives : act.gives = true
    · have takes : act.takes ≠ true := fun takes => Bool.false_ne_true ((moves.of_takes takes).2.symm.trans gives)
      rw [if_neg takes, List.append_nil] at took
      rw [if_pos gives] at gave
      rcases getElem?_concat_cases gave with before | ⟨late, -⟩
      · exact before
      · -- nobody follows the one who gives its permit back now
        have follows := (List.getElem?_eq_some_iff.mp took).1
        have known := reused.permits
        omega
    · rwa [if_neg gives, List.append_nil] at gave
  have given := (reused.given.recorded giver).mp (List.mem_of_getElem? earlier)
  have apart : giver ≠ id := by
    rintro rfl
    rw [self, moves.occupies_of_given given] at occupies
    contradiction
  rw [place_step_other apart] at occupies
  have late : takers[n + maxConcurrent]? = some taker ∨ act.takes = true ∧ taker = id := by
    by_cases takes : act.takes = true
    · rw [if_pos takes] at took
      exact (getElem?_concat_cases took).imp_right fun last => ⟨takes, last.2⟩
    · rw [if_neg takes, List.append_nil] at took
      exact .inl took
  rcases late with known | ⟨takes, rfl⟩
  · have before := reused.unstarted n giver taker earlier known occupies
    by_cases own : taker = id
    · subst own
      rw [self]
      refine moves.unstarted before ?_
      intro starts
      rw [closed starts n giver known earlier] at occupies
      contradiction
    · rwa [place_step_other own]
  · rw [self]
    exact (moves.of_takes takes).1

theorem reused_run (maxConcurrent maxQueue : Nat) (events : List (RequestId × Act))
    (closed : StreamsClosed (NodeScheduler.new maxConcurrent maxQueue) events) :
    Reused (max maxConcurrent 1) (Runs.run NodeScheduler.step (NodeScheduler.new maxConcurrent maxQueue) events)
      ((NodeScheduler.new maxConcurrent maxQueue).actors Act.takes events)
      ((NodeScheduler.new maxConcurrent maxQueue).actors Act.gives events) := by
  have permits : ∀ events : List (RequestId × Act),
      ((NodeScheduler.new maxConcurrent maxQueue).actors Act.takes events).length ≤
        max maxConcurrent 1 + ((NodeScheduler.new maxConcurrent maxQueue).actors Act.gives events).length := by
    intro events
    have balance := permits_balance maxConcurrent maxQueue events
    omega
  induction events using List.reverseRecOn with
  | nil => exact ⟨recorded_run shows_taken rfl _ _ [], recorded_run shows_given rfl _ _ [], permits [], nofun⟩
  | append_singleton events last ih =>
      obtain ⟨id, act⟩ := last
      have reused := ih fun first starter rest n giver parts =>
        closed first starter (rest ++ [(id, act)]) n giver (by simp [parts])
      have known := permits (events ++ [(id, act)])
      rw [actors_concat, actors_concat] at known
      rw [Runs.run_concat, actors_concat, actors_concat]
      cases moved : (Runs.run NodeScheduler.step (NodeScheduler.new maxConcurrent maxQueue) events).advance id act with
      | none =>
          rw [step_blocked moved, acted_blocked moved, acted_blocked moved, List.append_nil, List.append_nil]
          exact reused
      | some next =>
          refine reused_step reused moved known ?_
          rintro rfl n giver took gave
          exact closed events id [] n giver rfl (Stage.moves_of_advance moved).of_startWork took gave

omit [DecidableEq RequestId] in
/-- The streams that outlive their permits are matched by idle jobs and free permits. -/
theorem lingers_le {scheduler : NodeScheduler RequestId} {takers givers : List RequestId}
    (reused : Reused scheduler.maxConcurrent scheduler takers givers)
    (balance : scheduler.semaphore + takers.length = scheduler.maxConcurrent + givers.length) :
    scheduler.jobs.count Stage.lingers ≤ scheduler.jobs.count Stage.idles + scheduler.semaphore := by
  have lingering := scheduler.jobs.count_eq_length reused.given.once fun id (lingers : Stage.lingers _ = true) => by
    rw [reused.given.recorded]
    revert lingers
    cases scheduler.jobs.place id <;> simp [Stage.lingers, Stage.occupies, Stage.holdsPermit, Stage.hasGiven]
  have idling := scheduler.jobs.count_eq_length reused.taken.once fun id (idles : Stage.idles _ = true) => by
    rw [reused.taken.recorded]
    revert idles
    cases scheduler.jobs.place id <;> simp [Stage.idles, Stage.occupies, Stage.holdsPermit, Stage.hasTaken]
  have matched : (givers.filter fun id => (scheduler.jobs.place id).lingers).length ≤
      ((takers.drop scheduler.maxConcurrent).filter fun id => (scheduler.jobs.place id).idles).length +
        (givers.length - (takers.drop scheduler.maxConcurrent).length) := by
    refine filter_length_le ?_
    intro n giver taker gave took lingers
    rw [List.getElem?_drop, Nat.add_comm] at took
    have occupies : (scheduler.jobs.place giver).occupies = true := by
      rw [Stage.lingers, Bool.and_eq_true] at lingers
      exact lingers.1
    have unstarted := reused.unstarted n giver taker gave took occupies
    revert unstarted
    cases scheduler.jobs.place taker <;> simp [Stage.unstarted, Stage.idles, Stage.occupies, Stage.holdsPermit]
  have dropped := ((List.drop_sublist scheduler.maxConcurrent takers).filter
    fun id => (scheduler.jobs.place id).idles).length_le
  rw [List.length_drop] at matched
  rw [lingering, idling]
  omega

/-- The slots keep their bound in a run in which no permit is used for work while its last stream is open. The queue
keeps its own when the pushes fit, and only then. -/
theorem capacity_kept_iff (maxConcurrent maxQueue : Nat) (events : List (RequestId × Act))
    (closed : StreamsClosed (NodeScheduler.new maxConcurrent maxQueue) events) :
    (∀ first rest, events = first ++ rest →
        WithinCapacity (Runs.run NodeScheduler.step (NodeScheduler.new maxConcurrent maxQueue) first)) ↔
      PushesFit (NodeScheduler.new maxConcurrent maxQueue) events := by
  have bounds (first : List (RequestId × Act)) := scheduler_run maxConcurrent maxQueue first
  rw [← queue_kept_iff]
  constructor
  · intro kept first rest parts
    exact (kept first rest parts).1.trans (bounds first).2.1.le
  · intro kept first rest parts
    obtain ⟨concurrent, queue, counted, -⟩ := bounds first
    refine ⟨(kept first rest parts).trans queue.ge, ?_⟩
    have reused := reused_run maxConcurrent maxQueue first fun before id between n giver split =>
      closed before id (between ++ rest) n giver (by simp [parts, split])
    have balance := permits_balance maxConcurrent maxQueue first
    rw [← concurrent] at reused balance
    have lingers := lingers_le reused balance
    have occupied := count_occupies
      (Runs.run NodeScheduler.step (NodeScheduler.new maxConcurrent maxQueue) first).jobs
    unfold PermitsCounted at counted
    omega

end

def wholeJob (id : Bool) : List (Bool × Act) :=
  [(id, .checkDepth), (id, .pushBack), (id, .acquire), (id, .leaveQueue), (id, .markActive), (id, .startWork),
    (id, .endWork .stream), (id, .handOver true), (id, .leaveActive), (id, .dropPermit)]

/-- The second job starts when the stream of the first has been read. -/
def readFirst : List (Bool × Act) := wholeJob false ++ (false, .dropStream) :: wholeJob true

theorem streamsClosed_readFirst : StreamsClosed (NodeScheduler.new 1 1) readFirst := by
  have checked : ∀ k < readFirst.length, ∀ id : Bool, readFirst[k]? = some (id, .startWork) →
      ∀ giver ∈ (NodeScheduler.new 1 1).actors Act.gives (readFirst.take k),
        ((Runs.run NodeScheduler.step (NodeScheduler.new 1 1) (readFirst.take k)).jobs.place giver).occupies =
          false := by
    decide +kernel
  intro first id rest n giver parts _ _ gave
  have start : readFirst[first.length]? = some (id, .startWork) := by simp [parts]
  have closed := checked first.length (List.getElem?_eq_some_iff.mp start).1 id start giver
  have part : readFirst.take first.length = first := by rw [parts, List.take_left]
  rw [part] at closed
  exact closed (List.mem_of_getElem? gave)

theorem pushesFit_readFirst : PushesFit (NodeScheduler.new 1 1) readFirst := by
  have checks : ∀ k < readFirst.length, ∀ id : Bool, readFirst[k]? = some (id, .checkDepth) →
      k = if id then 11 else 0 := by
    decide +kernel
  have pushes : ∀ k < readFirst.length, ∀ id : Bool, readFirst[k]? = some (id, .pushBack) →
      k = if id then 12 else 1 := by
    decide +kernel
  intro first id middle rest parts _ _
  have check : readFirst[first.length]? = some (id, .checkDepth) := by simp [parts]
  have push : readFirst[first.length + (middle.length + 1)]? = some (id, .pushBack) := by
    rw [parts, List.getElem?_append_right (Nat.le_add_right _ _), Nat.add_sub_cancel_left, List.getElem?_cons_succ,
      List.getElem?_append_right (le_refl _), Nat.sub_self, List.getElem?_cons_zero]
  have checked := checks _ (List.getElem?_eq_some_iff.mp check).1 id check
  have pushed := pushes _ (List.getElem?_eq_some_iff.mp push).1 id push
  have none : middle.length = 0 := by
    cases id with
    | false => simp only [Bool.false_eq_true, if_false] at checked pushed; omega
    | true => simp only [if_true] at checked pushed; omega
  obtain rfl := List.length_eq_zero_iff.mp none
  exact Nat.zero_le _

theorem capacity_kept_readFirst :
    PushesFit (NodeScheduler.new 1 1) readFirst ∧ ∀ first rest, readFirst = first ++ rest →
      WithinCapacity (Runs.run NodeScheduler.step (NodeScheduler.new 1 1) first) :=
  ⟨pushesFit_readFirst, (capacity_kept_iff 1 1 readFirst streamsClosed_readFirst).mpr pushesFit_readFirst⟩

/-- Two calls both check the depth before either of them pushes its id. -/
def crowdedQueue : NodeScheduler Bool :=
  Runs.run NodeScheduler.step (NodeScheduler.new 1 1)
    [(false, .checkDepth), (true, .checkDepth), (false, .pushBack), (true, .pushBack)]

/-- Two jobs run one after the other, and the caller of the first has not read its stream yet. -/
def crowdedSlot : NodeScheduler Bool :=
  Runs.run NodeScheduler.step (NodeScheduler.new 1 1) (wholeJob false ++ wholeJob true)

theorem capacity_exceeded :
    (crowdedQueue.maxQueue = 1 ∧ crowdedQueue.queue.length = 2) ∧
      crowdedSlot.maxConcurrent = 1 ∧ crowdedSlot.jobs.count Stage.occupies = 2 := by
  refine ⟨by decide, by decide, ?_⟩
  have both : {id | (crowdedSlot.jobs.place id).occupies = true} = Set.univ := by
    refine Set.eq_univ_of_forall ?_
    intro id
    cases id with
    | false => decide
    | true => decide
  rw [Roster.count, both, Set.ncard_univ, Nat.card_eq_fintype_card, Fintype.card_bool]

end Pinaivu.Inference
