import Pinaivu.Persistence.PostgresJobs
import Pinaivu.Persistence.RedisNonces

/-!
The watcher's sweep of `crates/node/src/jobs.rs` when calls of the job store fail: the loop
is left at the first of them, which may have taken effect. The sweep is written over what the
two stores have in common.
-/

namespace Pinaivu.Job

open Nonce (Delivery)

/-- The trait, as far as a sweep uses it. `passed` is how a store compares a deadline. -/
structure JobStore (Store : Type) where
  all : Store → List JobRecord
  due : Store → UInt64 → List JobRecord
  mark : Store → RequestId → JobStatus → Store
  passed : UInt64 → UInt64 → Bool
  unique : ∀ store, ((all store).map JobRecord.requestId).Nodup
  due_eq : ∀ store now, due store now =
    (all store).filter fun job => job.status.isActive && passed job.deadlineMs now
  all_mark : ∀ store requestId status, all (mark store requestId status) =
    KeyedList.change JobRecord.requestId requestId (fun job => { job with status := status }) (all store)

def inMemory : JobStore InMemoryJobStore where
  all := InMemoryJobStore.all
  due := InMemoryJobStore.due
  mark := InMemoryJobStore.mark
  passed deadline now := decide (deadline ≤ now)
  unique := InMemoryJobStore.unique
  due_eq _ _ := rfl
  all_mark _ _ _ := rfl

theorem isActive_rowToRecord (row : JobRow) :
    (rowToRecord row).status.isActive = (row.status == "Dispatched" || row.status == "Acked") := by
  simp only [rowToRecord, JobStatus.fromStr]
  split_ifs with dispatched acked completed timedOut failed
  · simp [dispatched, JobStatus.isActive, JobStatus.isTerminal]
  · simp [acked, JobStatus.isActive, JobStatus.isTerminal]
  · simp [completed, JobStatus.isActive, JobStatus.isTerminal]
  · simp [timedOut, JobStatus.isActive, JobStatus.isTerminal]
  · simp [failed, JobStatus.isActive, JobStatus.isTerminal]
  · simp [dispatched, acked, JobStatus.isActive, JobStatus.isTerminal]

theorem PostgresJobStore.due_eq (store : PostgresJobStore) (now : UInt64) :
    store.due now = store.all.filter fun job =>
      job.status.isActive && decide (job.deadlineMs.toInt64 ≤ now.toInt64) := by
  rw [PostgresJobStore.due, PostgresJobStore.all, List.filter_map]
  congr 1
  apply List.filter_congr
  intro row _
  rw [Function.comp_apply, isActive_rowToRecord]
  simp [rowToRecord]

theorem PostgresJobStore.all_mark (store : PostgresJobStore) (requestId : RequestId) (status : JobStatus) :
    (store.mark requestId status).all =
      KeyedList.change JobRecord.requestId requestId (fun job => { job with status := status }) store.all := by
  simp only [PostgresJobStore.all, PostgresJobStore.mark, PostgresJobStore.update, KeyedList.change, List.map_map]
  apply List.map_congr_left
  intro row _
  have key : (rowToRecord row).requestId = row.requestId := rfl
  simp only [Function.comp_apply, key]
  split
  · simp [rowToRecord, fromStr_asStr]
  · rfl

def postgres : JobStore PostgresJobStore where
  all := PostgresJobStore.all
  due := PostgresJobStore.due
  mark := PostgresJobStore.mark
  passed deadline now := decide (deadline.toInt64 ≤ now.toInt64)
  unique store := by
    have keys : (store.all.map JobRecord.requestId) = store.inferenceJobs.map JobRow.requestId := by
      rw [PostgresJobStore.all, List.map_map]
      rfl
    rw [keys]
    exact store.primaryKey
  due_eq := PostgresJobStore.due_eq
  all_mark := PostgresJobStore.all_mark

/-- The clock of a sweep, the order in which the due jobs come, and how its calls go: a mark without an
answer fails, and was made. -/
structure SweepCalls where
  now : UInt64
  dueFails : Bool
  order : List JobRecord → List JobRecord
  marks : RequestId → JobStatus → Delivery
  reorders : ∀ jobs, (order jobs).Perm jobs

def spares (marks : RequestId → JobStatus → Delivery) (job : JobRecord) : Bool :=
  marks job.requestId .timedOut = .answered && marks job.requestId .failed = .answered

def compensated (marks : RequestId → JobStatus → Delivery) : List JobRecord → JobRecord → JobRecord
  | [], record => record
  | job :: rest, record =>
      let become (status : JobStatus) := if record.requestId = job.requestId then { record with status } else record
      match marks job.requestId .timedOut, marks job.requestId .failed with
      | .unreached, _ => record
      | .unanswered, _ => become .timedOut
      | .answered, .unreached => become .timedOut
      | .answered, .unanswered => become .failed
      | .answered, .answered => compensated marks rest (become .failed)

/-- Of the two writes of a job none is made, or both are. -/
def Whole (marks : RequestId → JobStatus → Delivery) (job : JobRecord) : Prop :=
  marks job.requestId .timedOut = .unreached ∨
    marks job.requestId .timedOut = .answered ∧ marks job.requestId .failed ≠ .unreached

/-- The first job with a failing call has none or both of its writes made, unless its deadline is still to
come, and no later job would have been spared. -/
def Harmless (now : UInt64) (marks : RequestId → JobStatus → Delivery) : List JobRecord → Prop
  | [] => True
  | job :: rest =>
      if spares marks job then Harmless now marks rest
      else (job.deadlineMs ≤ now → Whole marks job) ∧ ∀ other ∈ rest, spares marks other = false

namespace JobStore

variable {Store : Type} (jobStore : JobStore Store)

/-- The loop, left by `?` at the first failing call. -/
def compensate (marks : RequestId → JobStatus → Delivery) : List JobRecord → Store → Store
  | [], store => store
  | job :: rest, store =>
      let timedOut := jobStore.mark store job.requestId .timedOut
      let failed := jobStore.mark timedOut job.requestId .failed
      match marks job.requestId .timedOut, marks job.requestId .failed with
      | .unreached, _ => store
      | .unanswered, _ => timedOut
      | .answered, .unreached => timedOut
      | .answered, .unanswered => failed
      | .answered, .answered => compensate marks rest failed

def sweep (store : Store) (calls : SweepCalls) : Store :=
  if calls.dueFails then store
  else jobStore.compensate calls.marks (calls.order (jobStore.due store calls.now)) store

/-- Every job whose deadline has passed is done with, or will be found again. -/
def Kept (store : Store) (now : UInt64) : Prop :=
  ∀ job ∈ jobStore.all store, job.deadlineMs ≤ now → job.status.isTerminal = true ∨ job ∈ jobStore.due store now

def Finished (store : Store) (calls : SweepCalls) : Prop :=
  ∀ job ∈ jobStore.due store calls.now, calls.dueFails = false → spares calls.marks job = true →
    ∃ found ∈ jobStore.all (jobStore.sweep store calls),
      found.requestId = job.requestId ∧ found.status.isTerminal = true

def NothingStranded (store : Store) (calls : SweepCalls) : Prop :=
  jobStore.Kept (jobStore.sweep store calls) calls.now ∧ jobStore.Finished store calls

def SweepHarmless (store : Store) (calls : SweepCalls) : Prop :=
  jobStore.Kept store calls.now ∧
    (calls.dueFails = false →
      Harmless calls.now calls.marks (calls.order (jobStore.due store calls.now)))

end JobStore

section

variable (marks : RequestId → JobStatus → Delivery)

theorem compensated_eq (order : List JobRecord) (record : JobRecord) :
    ∃ status, compensated marks order record = { record with status := status } := by
  induction order generalizing record with
  | nil => exact ⟨record.status, rfl⟩
  | cons job rest ih =>
      have become : ∀ status, ∃ final,
          (if record.requestId = job.requestId then { record with status := status } else record) =
            { record with status := final } := by
        intro status
        split
        · exact ⟨status, rfl⟩
        · exact ⟨record.status, rfl⟩
      simp only [compensated]
      split
      · exact ⟨record.status, rfl⟩
      · exact become .timedOut
      · exact become .timedOut
      · exact become .failed
      · obtain ⟨final, same⟩ := become .failed
        rw [same]
        exact ih { record with status := final }

theorem compensated_requestId (order : List JobRecord) (record : JobRecord) :
    (compensated marks order record).requestId = record.requestId := by
  obtain ⟨status, same⟩ := compensated_eq marks order record
  rw [same]

theorem compensated_deadlineMs (order : List JobRecord) (record : JobRecord) :
    (compensated marks order record).deadlineMs = record.deadlineMs := by
  obtain ⟨status, same⟩ := compensated_eq marks order record
  rw [same]

theorem compensated_other (order : List JobRecord) {record : JobRecord}
    (other : record.requestId ∉ order.map JobRecord.requestId) : compensated marks order record = record := by
  induction order with
  | nil => rfl
  | cons job rest ih =>
      rw [List.map_cons, List.mem_cons, not_or] at other
      simp only [compensated, other.1, if_false]
      split
      · rfl
      · rfl
      · rfl
      · rfl
      · exact ih other.2

theorem status_of_active {status : JobStatus} (active : status.isActive = true) :
    status.isTerminal = false ∧ status ≠ .timedOut := by
  cases status <;> simp_all [JobStatus.isActive, JobStatus.isTerminal]

section

variable {marks} {job other : JobRecord}

theorem compensated_stopped (refused : spares marks job = false) (rest : List JobRecord)
    (different : other.requestId ≠ job.requestId) : compensated marks (job :: rest) other = other := by
  simp only [compensated, different, if_false]
  split
  · rfl
  · rfl
  · rfl
  · rfl
  · next first second => simp [spares, first, second] at refused

theorem compensated_stuck_iff (refused : spares marks job = false) (rest : List JobRecord)
    (active : job.status.isActive = true) :
    (compensated marks (job :: rest) job).status ≠ .timedOut ↔ Whole marks job := by
  have unstuck := (status_of_active active).2
  simp only [compensated, if_true, Whole]
  split
  · next first => simp [first, unstuck]
  · next first => simp [first]
  · next first second => simp [first, second]
  · next first second => simp [first, second]
  · next first second => simp [spares, first, second] at refused

theorem compensated_later (spared : spares marks job = true) (rest : List JobRecord)
    (different : other.requestId ≠ job.requestId) :
    compensated marks (job :: rest) other = compensated marks rest other := by
  simp only [spares, Bool.and_eq_true, decide_eq_true_eq] at spared
  simp only [compensated, spared.1, spared.2, if_false, different]

theorem compensated_finished (spared : spares marks job = true) {rest : List JobRecord}
    (absent : job.requestId ∉ rest.map JobRecord.requestId) :
    compensated marks (job :: rest) job = { job with status := .failed } := by
  simp only [spares, Bool.and_eq_true, decide_eq_true_eq] at spared
  simp only [compensated, spared.1, spared.2, if_true]
  exact compensated_other marks rest absent

end

/-- The pattern of failures is harmless exactly when the loop leaves no overdue job between its
two writes and finishes every job that it would be spared for. -/
theorem harmless_iff (now : UInt64) (order : List JobRecord) (unique : (order.map JobRecord.requestId).Nodup)
    (active : ∀ job ∈ order, job.status.isActive = true) :
    Harmless now marks order ↔
      ∀ job ∈ order,
        (spares marks job = true → (compensated marks order job).status.isTerminal = true) ∧
          (job.deadlineMs ≤ now → (compensated marks order job).status ≠ .timedOut) := by
  induction order with
  | nil => simp [Harmless]
  | cons job rest ih =>
      rw [List.map_cons, List.nodup_cons] at unique
      rw [List.forall_mem_cons] at active
      have different : ∀ other ∈ rest, other.requestId ≠ job.requestId := by
        intro other member same
        exact unique.1 (List.mem_map.mpr ⟨other, member, same⟩)
      rw [List.forall_mem_cons, Harmless]
      cases spared : spares marks job with
      | false =>
          simp only [Bool.false_eq_true, if_false, false_imp_iff, true_and,
            compensated_stuck_iff spared rest active.1]
          apply and_congr_right'
          apply forall₂_congr
          intro other member
          rw [compensated_stopped spared rest (different other member)]
          simp [status_of_active (active.2 other member)]
      | true =>
          rw [if_pos rfl, ih unique.2 active.2, compensated_finished spared unique.1]
          have finished : JobStatus.isTerminal .failed = true := rfl
          simp only [finished, implies_true, ne_eq, reduceCtorEq, not_false_eq_true, true_and]
          apply forall₂_congr
          intro other member
          rw [compensated_later spared rest (different other member)]

end

namespace JobStore

variable {Store : Type} (jobStore : JobStore Store)

theorem all_compensate (marks : RequestId → JobStatus → Delivery) (order : List JobRecord) (store : Store) :
    jobStore.all (jobStore.compensate marks order store) =
      (jobStore.all store).map (compensated marks order) := by
  induction order generalizing store with
  | nil => exact (List.map_id' _).symm
  | cons job rest ih =>
      have twice : jobStore.all (jobStore.mark (jobStore.mark store job.requestId .timedOut) job.requestId .failed) =
          (jobStore.all store).map fun record =>
            if record.requestId = job.requestId then { record with status := .failed } else record := by
        rw [all_mark, all_mark, KeyedList.change, KeyedList.change, List.map_map]
        apply List.map_congr_left
        intro record _
        by_cases same : record.requestId = job.requestId
        · simp [same]
        · simp [same]
      simp only [compensate, compensated]
      split
      · exact (List.map_id' _).symm
      · exact jobStore.all_mark store job.requestId .timedOut
      · exact jobStore.all_mark store job.requestId .timedOut
      · exact twice
      · rw [ih, twice, List.map_map]
        rfl

theorem mem_due_iff (store : Store) (now : UInt64) (job : JobRecord) :
    job ∈ jobStore.due store now ↔
      job ∈ jobStore.all store ∧ job.status.isActive = true ∧ jobStore.passed job.deadlineMs now = true := by
  rw [due_eq, List.mem_filter, Bool.and_eq_true]

theorem eq_of_requestId {store : Store} {first second : JobRecord} (member : first ∈ jobStore.all store)
    (other : second ∈ jobStore.all store) (same : first.requestId = second.requestId) : first = second :=
  List.inj_on_of_nodup_map (jobStore.unique store) member other same

theorem all_sweep {store : Store} {calls : SweepCalls} (answered : calls.dueFails = false) :
    jobStore.all (jobStore.sweep store calls) =
      (jobStore.all store).map (compensated calls.marks (calls.order (jobStore.due store calls.now))) := by
  rw [sweep, if_neg (by simp [answered]), all_compensate]

theorem status_cases (status : JobStatus) : status.isTerminal = true ∨ status.isActive = true ∨ status = .timedOut := by
  cases status <;> decide

/-- The in-process store finds every overdue job but those that are timed out. -/
theorem inMemory_kept_iff (store : InMemoryJobStore) (now : UInt64) :
    inMemory.Kept store now ↔ ∀ job ∈ store.all, job.deadlineMs ≤ now → job.status ≠ .timedOut := by
  apply forall₃_congr
  intro job member overdue
  have listed : job ∈ inMemory.due store now ↔ job.status.isActive = true := by
    rw [mem_due_iff]
    exact ⟨fun found => found.2.1, fun active => ⟨member, active, decide_eq_true overdue⟩⟩
  rw [listed]
  cases job.status <;> decide

section

variable {jobStore} {store : Store} {calls : SweepCalls}

theorem mem_order_iff (job : JobRecord) :
    job ∈ calls.order (jobStore.due store calls.now) ↔ job ∈ jobStore.due store calls.now :=
  (calls.reorders _).mem_iff

theorem order_unique : ((calls.order (jobStore.due store calls.now)).map JobRecord.requestId).Nodup := by
  rw [((calls.reorders _).map JobRecord.requestId).nodup_iff, due_eq]
  exact List.Nodup.sublist (List.Sublist.map _ List.filter_sublist) (jobStore.unique store)

theorem order_active : ∀ job ∈ calls.order (jobStore.due store calls.now), job.status.isActive = true := by
  intro job member
  rw [mem_order_iff, mem_due_iff] at member
  exact member.2.1

theorem compensated_undue {record : JobRecord} (member : record ∈ jobStore.all store)
    (undue : record ∉ jobStore.due store calls.now) :
    compensated calls.marks (calls.order (jobStore.due store calls.now)) record = record := by
  apply compensated_other
  intro listed
  obtain ⟨job, found, same⟩ := List.mem_map.mp listed
  rw [mem_order_iff] at found
  have present := ((mem_due_iff jobStore store calls.now job).mp found).1
  rw [eq_of_requestId jobStore present member same] at found
  exact undue found

theorem compensated_due_iff (answered : calls.dueFails = false) {record : JobRecord}
    (member : record ∈ jobStore.all store) :
    compensated calls.marks (calls.order (jobStore.due store calls.now)) record ∈
        jobStore.due (jobStore.sweep store calls) calls.now ↔
      (compensated calls.marks (calls.order (jobStore.due store calls.now)) record).status.isActive = true ∧
        jobStore.passed record.deadlineMs calls.now = true := by
  rw [mem_due_iff, compensated_deadlineMs, jobStore.all_sweep answered]
  exact and_iff_right (List.mem_map_of_mem member)

theorem kept_before (answered : calls.dueFails = false)
    (kept : jobStore.Kept (jobStore.sweep store calls) calls.now) : jobStore.Kept store calls.now := by
  intro record member overdue
  by_cases found : record ∈ jobStore.due store calls.now
  · exact Or.inr found
  · have same := compensated_undue member found
    have after := kept record (by
      rw [jobStore.all_sweep answered]
      exact List.mem_map.mpr ⟨record, member, same⟩) overdue
    rcases after with terminal | again
    · exact Or.inl terminal
    · obtain ⟨_, active, passed⟩ := (mem_due_iff jobStore _ _ _).mp again
      exact Or.inr ((mem_due_iff jobStore _ _ _).mpr ⟨member, active, passed⟩)

theorem harmless_of_stranded (answered : calls.dueFails = false) (nothing : jobStore.NothingStranded store calls) :
    Harmless calls.now calls.marks (calls.order (jobStore.due store calls.now)) := by
  obtain ⟨kept, finished⟩ := nothing
  rw [harmless_iff calls.marks calls.now _ order_unique order_active]
  intro job listed
  have found := (mem_order_iff job).mp listed
  have member := ((mem_due_iff jobStore store calls.now job).mp found).1
  constructor
  · intro spared
    obtain ⟨after, present, same, terminal⟩ := finished job found answered spared
    rw [jobStore.all_sweep answered] at present
    obtain ⟨record, before, rfl⟩ := List.mem_map.mp present
    rw [compensated_requestId] at same
    rw [eq_of_requestId jobStore before member same] at terminal
    exact terminal
  · intro overdue stuck
    have after := kept _ (by
      rw [jobStore.all_sweep answered]
      exact List.mem_map_of_mem member) (by rw [compensated_deadlineMs]; exact overdue)
    rw [compensated_due_iff answered member, stuck] at after
    simp [JobStatus.isTerminal, JobStatus.isActive] at after

theorem stranded_of_harmless (answered : calls.dueFails = false) (kept : jobStore.Kept store calls.now)
    (harmless : Harmless calls.now calls.marks (calls.order (jobStore.due store calls.now))) :
    jobStore.NothingStranded store calls := by
  rw [harmless_iff calls.marks calls.now _ order_unique order_active] at harmless
  constructor
  · intro after present overdue
    rw [jobStore.all_sweep answered] at present
    obtain ⟨record, member, rfl⟩ := List.mem_map.mp present
    rw [compensated_deadlineMs] at overdue
    rw [compensated_due_iff answered member]
    by_cases found : record ∈ jobStore.due store calls.now
    · have unstuck := (harmless record ((mem_order_iff record).mpr found)).2 overdue
      have passed := ((mem_due_iff jobStore store calls.now record).mp found).2.2
      rcases status_cases (compensated calls.marks (calls.order (jobStore.due store calls.now)) record).status
        with terminal | active | stuck
      · exact Or.inl terminal
      · exact Or.inr ⟨active, passed⟩
      · contradiction
    · rw [compensated_undue member found]
      rcases kept record member overdue with terminal | again
      · exact Or.inl terminal
      · contradiction
  · intro job found _ spared
    have member := ((mem_due_iff jobStore store calls.now job).mp found).1
    refine ⟨_, ?_, compensated_requestId calls.marks _ job,
      (harmless job ((mem_order_iff job).mpr found)).1 spared⟩
    rw [jobStore.all_sweep answered]
    exact List.mem_map_of_mem member

end

/-- One sweep strands nothing exactly when nothing was stranded before it and its failures
are harmless. -/
theorem nothingStranded_iff (store : Store) (calls : SweepCalls) :
    jobStore.NothingStranded store calls ↔ jobStore.SweepHarmless store calls := by
  cases answered : calls.dueFails with
  | true =>
      have same : jobStore.sweep store calls = store := by rw [sweep, if_pos answered]
      simp [NothingStranded, Finished, SweepHarmless, answered, same]
  | false =>
      constructor
      · intro nothing
        exact ⟨kept_before answered nothing.1, fun _ => harmless_of_stranded answered nothing⟩
      · intro harmless
        exact stranded_of_harmless answered harmless.1 (harmless.2 answered)

/-- Every sweep of a sequence strands nothing exactly when each of them is harmless in
the state that it finds. -/
theorem sweeps_strand_nothing_iff (store : Store) (sweeps : List SweepCalls) :
    (∀ first calls rest, sweeps = first ++ calls :: rest →
        jobStore.NothingStranded (Runs.run jobStore.sweep store first) calls) ↔
      Runs.Always jobStore.sweep jobStore.SweepHarmless store sweeps := by
  rw [Runs.always_iff_split]
  simp only [nothingStranded_iff]

end JobStore

def lateJob : JobRecord := .dispatched 0 ⟨Vector.replicate 16 1⟩ "llama3.1:8b" none 0

def failingSweep : SweepCalls where
  now := 1
  dueFails := false
  order jobs := jobs
  marks _ status := if status = .failed then .unreached else .answered
  reorders _ := .refl _

/-- The job stays timed out, where no later sweep looks for it. -/
theorem late_job_stranded :
    ¬∀ first calls rest, [failingSweep] = first ++ calls :: rest →
      postgres.NothingStranded (Runs.run postgres.sweep (PostgresJobStore.migrate.push lateJob) first) calls := by
  intro nothing
  have kept := (nothing [] failingSweep [] rfl).1
  have records : postgres.all (postgres.sweep (PostgresJobStore.migrate.push lateJob) failingSweep) =
      [{ lateJob with status := .timedOut }] := rfl
  have stuck := kept { lateJob with status := .timedOut } (by
    rw [Runs.run_nil, records]
    exact List.mem_singleton_self _) (by decide)
  rw [JobStore.mem_due_iff] at stuck
  simp [JobStatus.isTerminal, JobStatus.isActive] at stuck

end Pinaivu.Job
