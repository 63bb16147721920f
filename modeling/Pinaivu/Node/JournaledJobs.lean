import Pinaivu.Node.RequestGate

/-!
The journal and the in-memory job store behind the gate. A handler journals its inference before it completes the
job, and between the two its client may go away and the watcher may time the job out. It is not told whether the
append has reached the file.
-/

namespace Pinaivu.RequestGate

open Job (JobMetrics InMemoryJobStore)
open Node (Append)

def Stage.pushed : Stage → Option String
  | .dispatched model | .failing model | .failed model | .answeredError model => some model
  | .generated model _ | .journaled model _ | .completed model _ | .answered model _ => some model
  | _ => none

def Stage.journaled? : Stage → Option (String × JobMetrics)
  | .journaled model metrics | .completed model metrics | .answered model metrics => some (model, metrics)
  | _ => none

def Stage.stored : Stage → Option JobMetrics
  | .completed _ metrics | .answered _ metrics => some metrics
  | _ => none

def jobMetrics (job : Job.JobRecord) : JobMetrics :=
  ⟨job.inputTokens, job.outputTokens, job.latencyMs, job.fallbackFrom⟩

def recordSummary (record : Node.JobRecord) : String × JobMetrics :=
  (record.model, ⟨record.inputTokens, record.outputTokens, record.latencyMs, record.fallbackFrom⟩)

def summaries (records : List Node.JobRecord) (requestId : RequestId) : List (String × JobMetrics) :=
  (records.filter (·.requestId = requestId.toText)).map recordSummary

/-- The records that handlers have appended, whatever has become of the writes. -/
def Gate.appended (gate : Gate) : List Node.JobRecord := gate.jobJournal.map Append.record

/-- What a reader of the file makes of it. -/
def Gate.journaled (gate : Gate) : List Node.JobRecord :=
  Node.JobJournal.records (Runs.run Node.JobJournal.append [] gate.jobJournal)

structure Settled (stage : Stage) (journal : List (String × JobMetrics)) (job : Option Job.JobRecord) : Prop where
  journal : journal = stage.journaled?.toList
  model : job.map Job.JobRecord.model = stage.pushed
  metrics : ∀ metrics, stage.stored = some metrics → job.map jobMetrics = some metrics
  completed : ∀ found, job = some found → found.status = .completed → stage.stored.isSome = true

structure Agrees (gate : Gate) : Prop where
  settled : ∀ requestId, Settled (gate.handlers.place requestId).stage (summaries gate.appended requestId)
    (gate.jobStore.get requestId)
  named : ∀ record ∈ gate.appended, ∃ requestId : RequestId, record.requestId = requestId.toText

theorem summaries_append (first rest : List Node.JobRecord) (requestId : RequestId) :
    summaries (first ++ rest) requestId = summaries first requestId ++ summaries rest requestId := by
  simp [summaries]

section

variable (store : InMemoryJobStore)

theorem get_push_self (job : Job.JobRecord) (fresh : store.get job.requestId = none) :
    (store.push job).get job.requestId = some job := by
  unfold InMemoryJobStore.get InMemoryJobStore.push at *
  rw [KeyedList.find_insertNew_self (KeyedList.find_none_iff.mp fresh)]

theorem get_push_other {job : Job.JobRecord} {other : RequestId} (differs : other ≠ job.requestId) :
    (store.push job).get other = store.get other := by
  unfold InMemoryJobStore.get InMemoryJobStore.push
  rw [KeyedList.find_insertNew_other differs.symm]

theorem get_modify_self (requestId : RequestId) (update : Job.JobRecord → Job.JobRecord)
    (keeps : ∀ job, (update job).requestId = job.requestId) :
    (store.modify requestId update keeps).get requestId = (store.get requestId).map update := by
  unfold InMemoryJobStore.get InMemoryJobStore.modify
  rw [KeyedList.find_change_self keeps]

theorem get_modify_other {requestId other : RequestId} (update : Job.JobRecord → Job.JobRecord)
    (keeps : ∀ job, (update job).requestId = job.requestId) (differs : other ≠ requestId) :
    (store.modify requestId update keeps).get other = store.get other := by
  unfold InMemoryJobStore.get InMemoryJobStore.modify
  rw [KeyedList.find_change_other keeps differs]

theorem get_mark_self (requestId : RequestId) (status : Job.JobStatus) :
    (store.mark requestId status).get requestId =
      (store.get requestId).map fun job => { job with status := status } := by
  rw [InMemoryJobStore.mark, get_modify_self]

theorem get_mark_other {requestId other : RequestId} (status : Job.JobStatus) (differs : other ≠ requestId) :
    (store.mark requestId status).get other = store.get other := by
  exact get_modify_other store _ _ differs

theorem get_complete_self (requestId : RequestId) (metrics : JobMetrics) :
    (store.complete requestId metrics).get requestId = (store.get requestId).map fun job => { job with
      status := .completed
      inputTokens := metrics.inputTokens
      outputTokens := metrics.outputTokens
      latencyMs := metrics.latencyMs
      fallbackFrom := metrics.fallbackFrom } := by
  rw [InMemoryJobStore.complete, get_modify_self]

theorem get_complete_other {requestId other : RequestId} (metrics : JobMetrics) (differs : other ≠ requestId) :
    (store.complete requestId metrics).get other = store.get other := by
  exact get_modify_other store _ _ differs

end

section

variable {gate : Gate} {requestId other : RequestId} (differs : other ≠ requestId)

include differs

theorem effect_job_other (handler : Handler) (act : Act) :
    (gate.effect requestId handler act).jobStore.get other = gate.jobStore.get other := by
  unfold Gate.effect
  cases act with
  | push now model => exact get_push_other _ differs
  | append ts written => cases handler.stage <;> rfl
  | complete =>
      cases handler.stage
      case journaled => exact get_complete_other _ _ differs
      all_goals rfl
  | markFailed => exact get_mark_other _ _ differs
  | _ => rfl

theorem effect_journal_other (handler : Handler) (act : Act) :
    summaries (gate.effect requestId handler act).appended other = summaries gate.appended other := by
  unfold Gate.effect
  cases act with
  | append ts written =>
      cases handler.stage
      case generated model metrics =>
        have another : requestId.toText ≠ other.toText := fun same => differs (Uuid.toText_injective same).symm
        rw [Gate.appended, List.map_append, summaries_append]
        simp [summaries, Gate.appended, journalRecord, another]
      all_goals rfl
  | complete => cases handler.stage <;> rfl
  | _ => rfl

end

theorem Settled.swept {stage : Stage} {journal : List (String × JobMetrics)} {job : Option Job.JobRecord}
    (settled : Settled stage journal job) {status : Job.JobStatus} (other : status ≠ .completed) :
    Settled stage journal (job.map fun found => { found with status := status }) where
  journal := settled.journal
  model := by rw [← settled.model, Option.map_map]; rfl
  metrics := by
    intro metrics stored
    rw [← settled.metrics metrics stored, Option.map_map]
    rfl
  completed := by
    intro found present finished
    obtain ⟨before, -, rfl⟩ := Option.map_eq_some_iff.mp present
    exact absurd finished other

theorem Settled.moved {gate : Gate} {requestId : RequestId} {free : Bool} {handler next : Handler} {act : Act}
    (moves : Moves free handler act next)
    (settled : Settled handler.stage (summaries gate.appended requestId) (gate.jobStore.get requestId)) :
    Settled next.stage (summaries (gate.effect requestId handler act).appended requestId)
      ((gate.effect requestId handler act).jobStore.get requestId) := by
  obtain ⟨journal, model, metrics, completed⟩ := settled
  cases moves with
  | push endpoint now name =>
      have fresh : gate.jobStore.get requestId = none := Option.map_eq_none_iff.mp model
      have pushed : (gate.effect requestId ⟨endpoint, .admitted, true⟩ (.push now name)).jobStore.get requestId =
          some (.dispatched now requestId name none gate.jobTimeoutMs) := get_push_self _ _ fresh
      rw [pushed]
      refine ⟨journal, rfl, (fun _ absent => nomatch absent), ?_⟩
      intro found same finished
      cases same
      cases finished
  | append endpoint name results ts written =>
      refine ⟨?_, model, metrics, completed⟩
      have appended : (gate.effect requestId ⟨endpoint, .generated name results, true⟩ (.append ts written)).appended =
          gate.appended ++ [journalRecord requestId name results ts] := List.map_append
      rw [appended, summaries_append, journal]
      simp [summaries, journalRecord, recordSummary, Stage.journaled?]
  | complete endpoint name results =>
      have stored := get_complete_self gate.jobStore requestId results
      obtain ⟨job, present, named⟩ := Option.map_eq_some_iff.mp model
      rw [present, Option.map_some] at stored
      have finished :
          (gate.effect requestId ⟨endpoint, .journaled name results, true⟩ .complete).jobStore.get requestId = _ :=
        stored
      rw [finished]
      exact ⟨journal, congrArg some named, fun _ same => same, fun _ _ _ => rfl⟩
  | markFailed endpoint name =>
      have marked : (gate.effect requestId ⟨endpoint, .failing name, true⟩ .markFailed).jobStore.get requestId = _ :=
        get_mark_self gate.jobStore requestId .failed
      have failed : Job.JobStatus.failed ≠ .completed := by decide
      rw [marked]
      have before : Settled (.failed name) (summaries gate.appended requestId) (gate.jobStore.get requestId) :=
        ⟨journal, model, (fun _ absent => nomatch absent), completed⟩
      exact before.swept failed
  | drop endpoint stage awaits => exact ⟨journal, model, metrics, completed⟩
  | _ => exact ⟨journal, model, metrics, completed⟩

theorem Agrees.new (concurrentJobs : Nat) (jobTimeoutMs : UInt64) : Agrees (.new concurrentJobs jobTimeoutMs) where
  settled := fun _ => ⟨rfl, rfl, (fun _ absent => nomatch absent), (fun _ absent => nomatch absent)⟩
  named := fun _ member => absurd member List.not_mem_nil

theorem Agrees.sweep {gate : Gate} (agrees : Agrees gate) (requestId : RequestId) {status : Job.JobStatus}
    (other : status ≠ .completed) :
    Agrees { gate with jobStore := gate.jobStore.mark requestId status } := by
  refine ⟨?_, agrees.named⟩
  intro another
  have settled := agrees.settled another
  by_cases same : another = requestId
  · subst same
    dsimp only
    rw [get_mark_self]
    exact settled.swept other
  · dsimp only
    rw [get_mark_other _ _ same]
    exact settled

theorem effect_named {gate : Gate} (requestId : RequestId) (handler : Handler) (act : Act) :
    ∀ record ∈ (gate.effect requestId handler act).appended,
      record ∈ gate.appended ∨ record.requestId = requestId.toText := by
  unfold Gate.effect
  intro record member
  cases act with
  | append ts written =>
      cases stage : handler.stage
      case generated model metrics =>
        simp only [stage, Gate.appended, List.map_append, List.map_cons, List.map_nil, List.mem_append,
          List.mem_singleton] at member
        rcases member with old | rfl
        · exact Or.inl old
        · exact Or.inr rfl
      all_goals
        simp only [stage] at member
        exact Or.inl member
  | complete =>
      left
      cases stage : handler.stage <;> simp only [stage] at member <;> exact member
  | _ => exact Or.inl member

theorem Agrees.step (gate : Gate) (event : Event) (agrees : Agrees gate) : Agrees (gate.step event) := by
  cases event with
  | sweepTimedOut requestId =>
      have timedOut : Job.JobStatus.timedOut ≠ .completed := by decide
      exact ⟨(agrees.sweep requestId timedOut).settled, agrees.named⟩
  | sweepFailed requestId =>
      have failed : Job.JobStatus.failed ≠ .completed := by decide
      exact ⟨(agrees.sweep requestId failed).settled, agrees.named⟩
  | handler requestId act =>
      rcases step_handler gate requestId act with same | ⟨next, moves, after⟩
      · rw [same]
        exact agrees
      · rw [after]
        constructor
        · intro other
          dsimp only
          have settled := agrees.settled other
          by_cases same : other = requestId
          · subst same
            rw [Roster.place_move]
            exact settled.moved moves
          · rw [Roster.place_move_of_ne _ same, effect_job_other same]
            rw [← effect_journal_other same (gate.handlers.place requestId) act] at settled
            exact settled
        · intro record member
          rcases effect_named requestId _ act record member with old | named
          · exact agrees.named record old
          · exact ⟨requestId, named⟩

theorem Agrees.after (concurrentJobs : Nat) (jobTimeoutMs : UInt64) (events : List Event) :
    Agrees (.after concurrentJobs jobTimeoutMs events) := by
  exact Runs.invariant_run _ Agrees.step (Agrees.new concurrentJobs jobTimeoutMs) events

theorem pushed_of_journaled {stage : Stage} {model : String} {metrics : JobMetrics}
    (journaled : stage.journaled? = some (model, metrics)) : stage.pushed = some model := by
  cases stage <;> simp_all [Stage.journaled?, Stage.pushed]

theorem journaled_of_stored {stage : Stage} {model : String} {metrics : JobMetrics}
    (stored : stage.stored = some metrics) (pushed : stage.pushed = some model) :
    stage.journaled? = some (model, metrics) := by
  cases stage <;> simp_all [Stage.stored, Stage.journaled?, Stage.pushed]

theorem Agrees.summaries_completed {gate : Gate} (agrees : Agrees gate) {requestId : RequestId}
    {job : Job.JobRecord} (present : gate.jobStore.get requestId = some job) (finished : job.status = .completed) :
    summaries gate.appended requestId = [(job.model, jobMetrics job)] := by
  obtain ⟨journal, model, metrics, completed⟩ := agrees.settled requestId
  obtain ⟨stored, holds⟩ := Option.isSome_iff_exists.mp (completed job present finished)
  have kept := metrics stored holds
  rw [present, Option.map_some] at model kept
  cases kept
  rw [journal, journaled_of_stored holds model.symm, Option.toList_some]

theorem Agrees.job_journaled {gate : Gate} (agrees : Agrees gate) {record : Node.JobRecord}
    (member : record ∈ gate.appended) :
    ∃ requestId job, record.requestId = requestId.toText ∧ gate.jobStore.get requestId = some job ∧
      job.model = record.model := by
  obtain ⟨requestId, named⟩ := agrees.named record member
  obtain ⟨journal, model, -, -⟩ := agrees.settled requestId
  have listed : recordSummary record ∈ summaries gate.appended requestId := by
    exact List.mem_map_of_mem (List.mem_filter.mpr ⟨member, decide_eq_true named⟩)
  rw [journal, Option.mem_toList] at listed
  rw [pushed_of_journaled listed] at model
  obtain ⟨job, present, same⟩ := Option.map_eq_some_iff.mp model
  exact ⟨requestId, job, named, present, same⟩

theorem length_summaries (records : List Node.JobRecord) (requestId : RequestId) :
    (summaries records requestId).length = (records.map Node.JobRecord.requestId).count requestId.toText := by
  induction records with
  | nil => rfl
  | cons record rest ih =>
      have split := summaries_append [record] rest requestId
      rw [List.singleton_append] at split
      rw [split, List.length_append, ih, List.map_cons, List.count_cons]
      by_cases same : record.requestId = requestId.toText
      · simp [summaries, same, Nat.add_comm]
      · simp [summaries, same]

theorem Agrees.appended_nodup {gate : Gate} (agrees : Agrees gate) :
    (gate.appended.map Node.JobRecord.requestId).Nodup := by
  rw [List.nodup_iff_count_le_one]
  intro text
  by_cases known : text ∈ gate.appended.map Node.JobRecord.requestId
  · obtain ⟨record, member, rfl⟩ := List.mem_map.mp known
    obtain ⟨requestId, named⟩ := agrees.named record member
    rw [named, ← length_summaries, (agrees.settled requestId).journal]
    cases (gate.handlers.place requestId).stage.journaled? <;> simp
  · rw [List.count_eq_zero_of_not_mem known]
    exact Nat.zero_le 1

/-- Whatever the clients and the watcher do: for a job that is completed one record has been appended, with its
model and its metrics; every record appended belongs to a job that ran on its model; and none is of the same request
as another. The file reads back as these records when no write has failed. -/
theorem journal_agrees (concurrentJobs : Nat) (jobTimeoutMs : UInt64) (events : List Event) :
    let gate := Gate.after concurrentJobs jobTimeoutMs events
    (∀ requestId job, gate.jobStore.get requestId = some job → job.status = .completed →
        summaries gate.appended requestId = [(job.model, jobMetrics job)]) ∧
      (∀ record ∈ gate.appended, ∃ requestId job, record.requestId = requestId.toText ∧
        gate.jobStore.get requestId = some job ∧ job.model = record.model) ∧
      (gate.appended.map Node.JobRecord.requestId).Nodup ∧
      ((∀ append ∈ gate.jobJournal, append.write.Complete) → gate.journaled = gate.appended) := by
  have agrees := Agrees.after concurrentJobs jobTimeoutMs events
  refine ⟨?_, ?_, agrees.appended_nodup, Node.records_complete⟩
  · intro requestId job present finished
    exact agrees.summaries_completed present finished
  · intro record member
    exact agrees.job_journaled member

end Pinaivu.RequestGate
