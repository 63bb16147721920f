import Pinaivu.Inference.SchedulerCapacity

/-!
When `submit` rejects a job. It looks at the queue alone, and a job stays in the queue until its task
has run up to the line that takes it out.
-/

namespace Pinaivu.Inference

variable {RequestId : Type}

def RejectsWhenFull (scheduler : NodeScheduler RequestId) : RequestId × Act → Prop
  | (id, .checkDepth) => scheduler.advance id .checkDepth = some .rejected →
      scheduler.jobs.count Stage.holdsPermit = scheduler.maxConcurrent ∧
        scheduler.maxQueue ≤ scheduler.jobs.count Stage.waits
  | _ => True

theorem queue_length {scheduler : NodeScheduler RequestId} (queue : QueueListed scheduler) :
    scheduler.queue.length = scheduler.jobs.count Stage.waits +
      (scheduler.queue.filter fun id => (scheduler.jobs.place id).overstays).length := by
  have whole : scheduler.queue.filter (fun id => (scheduler.jobs.place id).listed) = scheduler.queue := by
    exact List.filter_eq_self.mpr fun id member => (queue.listed id).mp member
  have all := scheduler.jobs.count_eq_length queue.once fun id => (queue.listed id).mpr
  have overstaying := scheduler.jobs.count_eq_length queue.once fun id (stays : Stage.overstays _ = true) => by
    rw [queue.listed, Stage.listed, stays, Bool.or_true]
  have kinds := scheduler.jobs.count_or Stage.waits Stage.overstays rfl rfl fun stage => by
    cases stage <;> simp [Stage.waits, Stage.overstays]
  rw [whole] at all
  rw [← overstaying, ← kinds, ← all]
  rfl

theorem rejects_iff {scheduler : NodeScheduler RequestId} {id : RequestId} :
    scheduler.advance id .checkDepth = some .rejected ↔
      scheduler.jobs.place id = .called ∧ scheduler.maxQueue ≤ scheduler.queue.length := by
  unfold NodeScheduler.advance
  cases scheduler.jobs.place id <;> simp [Stage.advance]

variable [DecidableEq RequestId]

/-- When a call finds the queue at its bound, each job that has its permit has taken its id out of the queue, and
each job in the queue has its permit unless all permits are taken. -/
def ChecksSettled (scheduler : NodeScheduler RequestId) (events : List (RequestId × Act)) : Prop :=
  ∀ first id rest, events = first ++ (id, .checkDepth) :: rest →
    (Runs.run NodeScheduler.step scheduler first).jobs.place id = .called →
    scheduler.maxQueue ≤ (Runs.run NodeScheduler.step scheduler first).queue.length →
      0 < scheduler.maxQueue ∧
        (∀ job ∈ scheduler.actors Act.takes first, job ∈ scheduler.actors Act.leaves first) ∧
        ((scheduler.actors Act.takes first).length <
            scheduler.maxConcurrent + (scheduler.actors Act.gives first).length →
          ∀ job ∈ scheduler.actors Act.pushes first, job ∈ scheduler.actors Act.takes first)

section

variable (maxConcurrent maxQueue : Nat) (events : List (RequestId × Act))

theorem always_rejects_iff :
    Runs.Always NodeScheduler.step RejectsWhenFull (NodeScheduler.new maxConcurrent maxQueue) events ↔
      ∀ first id rest, events = first ++ (id, .checkDepth) :: rest →
        (Runs.run NodeScheduler.step (NodeScheduler.new maxConcurrent maxQueue) first).jobs.place id = .called →
        maxQueue ≤ (Runs.run NodeScheduler.step (NodeScheduler.new maxConcurrent maxQueue) first).queue.length →
          (Runs.run NodeScheduler.step (NodeScheduler.new maxConcurrent maxQueue) first).jobs.count Stage.holdsPermit =
              max maxConcurrent 1 ∧
            maxQueue ≤
              (Runs.run NodeScheduler.step (NodeScheduler.new maxConcurrent maxQueue) first).jobs.count
                Stage.waits := by
  rw [Runs.always_iff_split]
  constructor
  · intro always first id rest parts called full
    obtain ⟨concurrent, queue, -⟩ := scheduler_run maxConcurrent maxQueue first
    have rejects := always first (id, .checkDepth) rest parts (rejects_iff.mpr ⟨called, queue.le.trans full⟩)
    rwa [concurrent, queue] at rejects
  · rintro split first ⟨id, act⟩ rest parts
    cases act with
    | checkDepth =>
        intro rejected
        obtain ⟨called, full⟩ := rejects_iff.mp rejected
        obtain ⟨concurrent, queue, -⟩ := scheduler_run maxConcurrent maxQueue first
        rw [queue] at full
        rw [concurrent, queue]
        exact split first id rest parts called full
    | _ => trivial

theorem left_iff (first : List (RequestId × Act)) :
    (∀ job ∈ (NodeScheduler.new maxConcurrent maxQueue).actors Act.takes first,
        job ∈ (NodeScheduler.new maxConcurrent maxQueue).actors Act.leaves first) ↔
      (Runs.run NodeScheduler.step (NodeScheduler.new maxConcurrent maxQueue) first).queue.length =
        (Runs.run NodeScheduler.step (NodeScheduler.new maxConcurrent maxQueue) first).jobs.count Stage.waits := by
  have taken := recorded_run shows_taken rfl maxConcurrent maxQueue first
  have left := recorded_run shows_left rfl maxConcurrent maxQueue first
  obtain ⟨-, -, -, listed⟩ := scheduler_run maxConcurrent maxQueue first
  have length := queue_length listed
  have kinds : ∀ stage : Stage, (stage.hasTaken = true → stage.hasLeft = true) ↔ ¬ stage.overstays = true := by
    intro stage
    cases stage <;> simp [Stage.hasTaken, Stage.hasLeft, Stage.overstays]
  simp only [taken.recorded, left.recorded, kinds]
  rw [length, Nat.add_eq_left, List.length_eq_zero_iff, List.filter_eq_nil_iff]
  constructor
  · exact fun none job _ => none job
  · intro none job overstays
    refine none job ((listed.listed job).mpr ?_) overstays
    rw [Stage.listed, overstays, Bool.or_true]

theorem free_iff (first : List (RequestId × Act)) :
    ((NodeScheduler.new maxConcurrent maxQueue).actors Act.takes first).length <
        max maxConcurrent 1 + ((NodeScheduler.new maxConcurrent maxQueue).actors Act.gives first).length ↔
      (Runs.run NodeScheduler.step (NodeScheduler.new maxConcurrent maxQueue) first).jobs.count Stage.holdsPermit ≠
        max maxConcurrent 1 := by
  have balance := permits_balance maxConcurrent maxQueue first
  obtain ⟨concurrent, -, counted, -⟩ := scheduler_run maxConcurrent maxQueue first
  rw [PermitsCounted, concurrent] at counted
  omega

theorem pushed_iff (first : List (RequestId × Act)) :
    (∀ job ∈ (NodeScheduler.new maxConcurrent maxQueue).actors Act.pushes first,
        job ∈ (NodeScheduler.new maxConcurrent maxQueue).actors Act.takes first) ↔
      (Runs.run NodeScheduler.step (NodeScheduler.new maxConcurrent maxQueue) first).jobs.count Stage.waits = 0 := by
  have taken := recorded_run shows_taken rfl maxConcurrent maxQueue first
  have pushed := recorded_run shows_pushed rfl maxConcurrent maxQueue first
  have kinds : ∀ stage : Stage, (stage.hasPushed = true → stage.hasTaken = true) ↔ ¬ stage.waits = true := by
    intro stage
    cases stage <;> simp [Stage.hasPushed, Stage.hasTaken, Stage.waits]
  rw [Roster.count, Set.ncard_eq_zero (Roster.finite_kind _ rfl), Set.eq_empty_iff_forall_notMem]
  simp only [taken.recorded, pushed.recorded, kinds, Set.mem_ofPred_eq]

/-- With a bound of zero every call is rejected, and no permit is ever taken. -/
theorem nobody_admitted (first : List (RequestId × Act)) :
    (NodeScheduler.new maxConcurrent 0).actors Act.pushes first = [] := by
  induction first using List.reverseRecOn with
  | nil => rfl
  | append_singleton first last ih =>
      obtain ⟨id, act⟩ := last
      rw [actors_concat, ih, List.nil_append]
      cases moved : (Runs.run NodeScheduler.step (NodeScheduler.new maxConcurrent 0) first).advance id act with
      | none => exact acted_blocked moved
      | some next =>
          rw [acted_moved moved, if_neg]
          intro pushes
          have push : act = .pushBack := by cases act <;> first | rfl | contradiction
          subst push
          obtain ⟨_, _, _, _, room⟩ := admitted_split (Stage.moves_of_advance moved).of_pushBack.1
          exact Nat.not_lt_zero _ room

theorem nobody_holds (first : List (RequestId × Act)) :
    (Runs.run NodeScheduler.step (NodeScheduler.new maxConcurrent 0) first).jobs.count Stage.holdsPermit = 0 := by
  have pushed := recorded_run shows_pushed rfl maxConcurrent 0 first
  rw [Roster.count, Set.ncard_eq_zero (Roster.finite_kind _ rfl), Set.eq_empty_iff_forall_notMem]
  intro id holds
  have member : id ∈ (NodeScheduler.new maxConcurrent 0).actors Act.pushes first := by
    rw [pushed.recorded]
    revert holds
    rw [Set.mem_ofPred_eq]
    cases Roster.place _ id <;> simp [Stage.holdsPermit, Stage.hasPushed]
  rw [nobody_admitted] at member
  exact List.not_mem_nil member

/-- Each rejection of a run finds every slot held and the queue full of waiting jobs when no check at the bound falls
between the steps of a job. Where the queue keeps its bound, it does so only then. -/
theorem rejects_when_full :
    (ChecksSettled (NodeScheduler.new maxConcurrent maxQueue) events →
        Runs.Always NodeScheduler.step RejectsWhenFull (NodeScheduler.new maxConcurrent maxQueue) events) ∧
      (PushesFit (NodeScheduler.new maxConcurrent maxQueue) events →
        Runs.Always NodeScheduler.step RejectsWhenFull (NodeScheduler.new maxConcurrent maxQueue) events →
          ChecksSettled (NodeScheduler.new maxConcurrent maxQueue) events) := by
  rw [always_rejects_iff]
  constructor
  · intro settled first id rest parts called full
    have bound := (scheduler_run maxConcurrent maxQueue first).2.1
    obtain ⟨positive, left, taken⟩ := settled first id rest parts called full
    rw [left_iff] at left
    change 0 < maxQueue at positive
    refine ⟨?_, full.trans left.le⟩
    by_contra free
    have none := (pushed_iff maxConcurrent maxQueue first).mp (taken ((free_iff maxConcurrent maxQueue first).mpr free))
    omega
  · intro fit rejects first id rest parts called full
    obtain ⟨held, waiting⟩ := rejects first id rest parts called full
    have kept := (queue_kept_iff maxConcurrent maxQueue events).mpr fit first _ parts
    have length := queue_length (scheduler_run maxConcurrent maxQueue first).2.2.2
    have free := mt (free_iff maxConcurrent maxQueue first).mp (not_not.mpr held)
    refine ⟨?_, (left_iff maxConcurrent maxQueue first).mpr (by omega), fun room => absurd room free⟩
    rcases Nat.eq_zero_or_pos maxQueue with rfl | positive
    · rw [nobody_holds] at held
      omega
    · exact positive

end

def thirdRejected : List (Fin 3 × Act) :=
  [(0, .checkDepth), (0, .pushBack), (0, .acquire), (0, .leaveQueue), (1, .checkDepth), (1, .pushBack),
    (2, .checkDepth)]

theorem checksSettled_thirdRejected : ChecksSettled (NodeScheduler.new 1 1) thirdRejected := by
  have last : ∀ k < thirdRejected.length, ∀ id : Fin 3, thirdRejected[k]? = some (id, .checkDepth) →
      1 ≤ (Runs.run NodeScheduler.step (NodeScheduler.new 1 1) (thirdRejected.take k)).queue.length → k = 6 := by
    decide +kernel
  intro first id rest parts _ full
  have check : thirdRejected[first.length]? = some (id, .checkDepth) := by simp [parts]
  have part : thirdRejected.take first.length = first := by rw [parts, List.take_left]
  have six := last first.length (List.getElem?_eq_some_iff.mp check).1 id check
  rw [part] at six
  rw [← part, six full]
  decide

theorem rejects_when_full_third :
    Runs.Always NodeScheduler.step RejectsWhenFull (NodeScheduler.new 1 1) thirdRejected ∧
      (Runs.run NodeScheduler.step (NodeScheduler.new 1 1) thirdRejected).jobs.place 2 = .rejected :=
  ⟨(rejects_when_full 1 1 thirdRejected).1 checksSettled_thirdRejected, by decide⟩

/-- The second call of a burst, before any task has run, and a first call where `max_queue` is zero. -/
theorem rejects_idle :
    (¬ Runs.Always NodeScheduler.step RejectsWhenFull (NodeScheduler.new 1 1)
        [(false, .checkDepth), (false, .pushBack), (true, .checkDepth)]) ∧
      ¬ Runs.Always NodeScheduler.step RejectsWhenFull (NodeScheduler.new 1 0) [(false, .checkDepth)] := by
  constructor
  · rintro ⟨-, -, rejects, -⟩
    have held := (rejects (by decide)).1
    have none : ({id | Stage.holdsPermit ((NodeScheduler.step (NodeScheduler.step (NodeScheduler.new 1 1)
        (false, .checkDepth)) (false, .pushBack)).jobs.place id) = true} : Set Bool) = ∅ := by
      refine Set.eq_empty_of_forall_notMem ?_
      intro id
      cases id with
      | false => decide
      | true => decide
    rw [Roster.count, none, Set.ncard_empty] at held
    contradiction
  · rintro ⟨rejects, -⟩
    have held := (rejects (by decide)).1
    have none : Roster.count (NodeScheduler.new 1 0 : NodeScheduler Bool).jobs Stage.holdsPermit = 0 :=
      Roster.count_start Stage.holdsPermit rfl
    rw [none] at held
    contradiction

end Pinaivu.Inference
