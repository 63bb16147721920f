import Pinaivu.Lib.Runs
import Pinaivu.Persistence.JobCore

/-!
The second store of `crates/persistence/src/job.rs`: the table `inference_jobs`, whose times are
signed 64-bit columns and whose counts are signed 32-bit columns, beside the in-process store.
-/

namespace Pinaivu.Job

def JobStatus.asStr : JobStatus → String
  | .dispatched => "Dispatched"
  | .acked => "Acked"
  | .completed => "Completed"
  | .timedOut => "TimedOut"
  | .failed => "Failed"

def JobStatus.fromStr (text : String) : Option JobStatus :=
  if text = "Dispatched" then some .dispatched
  else if text = "Acked" then some .acked
  else if text = "Completed" then some .completed
  else if text = "TimedOut" then some .timedOut
  else if text = "Failed" then some .failed
  else none

structure JobRow where
  requestId : RequestId
  model : String
  primaryPeerId : Option String
  status : String
  dispatchedAtMs : Int64
  deadlineMs : Int64
  attempts : Int32
  inputTokens : Int32
  outputTokens : Int32
  latencyMs : Int64
  fallbackFrom : Option String

def rowToRecord (row : JobRow) : JobRecord where
  requestId := row.requestId
  model := row.model
  primaryPeerId := row.primaryPeerId
  status := (JobStatus.fromStr row.status).getD .failed
  dispatchedAtMs := row.dispatchedAtMs.toUInt64
  deadlineMs := row.deadlineMs.toUInt64
  attempts := row.attempts.toUInt32
  inputTokens := row.inputTokens.toUInt32
  outputTokens := row.outputTokens.toUInt32
  latencyMs := row.latencyMs.toUInt64
  fallbackFrom := row.fallbackFrom

structure PostgresJobStore where
  inferenceJobs : List JobRow
  primaryKey : (inferenceJobs.map JobRow.requestId).Nodup

namespace PostgresJobStore

def migrate : PostgresJobStore := ⟨[], List.nodup_nil⟩

/-- The columns that the statement does not name take their defaults. -/
def push (store : PostgresJobStore) (job : JobRecord) : PostgresJobStore :=
  let row : JobRow := {
    requestId := job.requestId
    model := job.model
    primaryPeerId := job.primaryPeerId
    status := job.status.asStr
    dispatchedAtMs := job.dispatchedAtMs.toInt64
    deadlineMs := job.deadlineMs.toInt64
    attempts := job.attempts.toInt32
    inputTokens := 0
    outputTokens := 0
    latencyMs := 0
    fallbackFrom := none }
  ⟨KeyedList.insertNew JobRow.requestId row store.inferenceJobs,
    KeyedList.insertNew_nodup row store.primaryKey⟩

def get (store : PostgresJobStore) (requestId : RequestId) : Option JobRecord :=
  (KeyedList.find JobRow.requestId requestId store.inferenceJobs).map rowToRecord

def update (store : PostgresJobStore) (requestId : RequestId) (set : JobRow → JobRow)
    (keeps : ∀ row, (set row).requestId = row.requestId) : PostgresJobStore :=
  ⟨KeyedList.change JobRow.requestId requestId set store.inferenceJobs, by
    rw [KeyedList.map_key_change keeps]
    exact store.primaryKey⟩

def mark (store : PostgresJobStore) (requestId : RequestId) (status : JobStatus) : PostgresJobStore :=
  store.update requestId (fun row => { row with status := status.asStr }) fun _ => rfl

def complete (store : PostgresJobStore) (requestId : RequestId) (metrics : JobMetrics) :
    PostgresJobStore :=
  store.update requestId (fun row => { row with
    status := "Completed"
    inputTokens := metrics.inputTokens.toInt32
    outputTokens := metrics.outputTokens.toInt32
    latencyMs := metrics.latencyMs.toInt64
    fallbackFrom := metrics.fallbackFrom }) fun _ => rfl

def due (store : PostgresJobStore) (nowMs : UInt64) : List JobRecord :=
  (store.inferenceJobs.filter fun row =>
    (row.status == "Dispatched" || row.status == "Acked") &&
      decide (row.deadlineMs ≤ nowMs.toInt64)).map rowToRecord

def all (store : PostgresJobStore) : List JobRecord := store.inferenceJobs.map rowToRecord

end PostgresJobStore

/-- A call of the job store; a pushed job is a freshly dispatched one. -/
inductive StoreCall where
  | push (now : UInt64) (requestId : RequestId) (model : String) (primaryPeerId : Option String)
      (timeoutMs : UInt64)
  | mark (requestId : RequestId) (status : JobStatus)
  | complete (requestId : RequestId) (metrics : JobMetrics)
  | due (nowMs : UInt64)
  | get (requestId : RequestId)
  | all

inductive Answer where
  | done
  | found (job : Option JobRecord)
  | listed (jobs : List JobRecord)

def Answer.Same : Answer → Answer → Prop
  | .done, .done => True
  | .found first, .found second => first = second
  | .listed first, .listed second => first.Perm second
  | _, _ => False

def InMemoryJobStore.call (store : InMemoryJobStore) : StoreCall → InMemoryJobStore × Answer
  | .push now requestId model primaryPeerId timeoutMs =>
      (store.push (.dispatched now requestId model primaryPeerId timeoutMs), .done)
  | .mark requestId status => (store.mark requestId status, .done)
  | .complete requestId metrics => (store.complete requestId metrics, .done)
  | .due nowMs => (store, .listed (store.due nowMs))
  | .get requestId => (store, .found (store.get requestId))
  | .all => (store, .listed store.all)

def PostgresJobStore.call (store : PostgresJobStore) : StoreCall → PostgresJobStore × Answer
  | .push now requestId model primaryPeerId timeoutMs =>
      (store.push (.dispatched now requestId model primaryPeerId timeoutMs), .done)
  | .mark requestId status => (store.mark requestId status, .done)
  | .complete requestId metrics => (store.complete requestId metrics, .done)
  | .due nowMs => (store, .listed (store.due nowMs))
  | .get requestId => (store, .found (store.get requestId))
  | .all => (store, .listed store.all)

abbrev InMemoryJobStore.step (store : InMemoryJobStore) (call : StoreCall) : InMemoryJobStore :=
  (store.call call).1

abbrev PostgresJobStore.step (store : PostgresJobStore) (call : StoreCall) : PostgresJobStore :=
  (store.call call).1

def JobRecord.row (job : JobRecord) : JobRow where
  requestId := job.requestId
  model := job.model
  primaryPeerId := job.primaryPeerId
  status := job.status.asStr
  dispatchedAtMs := job.dispatchedAtMs.toInt64
  deadlineMs := job.deadlineMs.toInt64
  attempts := job.attempts.toInt32
  inputTokens := job.inputTokens.toInt32
  outputTokens := job.outputTokens.toInt32
  latencyMs := job.latencyMs.toInt64
  fallbackFrom := job.fallbackFrom

theorem fromStr_asStr (status : JobStatus) : JobStatus.fromStr status.asStr = some status := by
  cases status <;> decide

/-- The casts to the signed columns and back lose nothing. -/
theorem rowToRecord_row (job : JobRecord) : rowToRecord job.row = job := by
  simp [rowToRecord, JobRecord.row, fromStr_asStr]

def Mirrors (memory : InMemoryJobStore) (table : PostgresJobStore) : Prop :=
  table.inferenceJobs = memory.inner.map JobRecord.row

theorem mirrors_insert {memory : InMemoryJobStore} {table : PostgresJobStore} (mirrors : Mirrors memory table)
    (job : JobRecord) :
    KeyedList.insertNew JobRow.requestId job.row table.inferenceJobs =
      (memory.push job).inner.map JobRecord.row := by
  rw [mirrors]
  exact KeyedList.insertNew_form (fun _ => rfl) job memory.inner

theorem mirrors_change {memory : InMemoryJobStore} {table : PostgresJobStore} (mirrors : Mirrors memory table)
    (requestId : RequestId) {update : JobRecord → JobRecord} {set : JobRow → JobRow}
    (agree : ∀ job, set job.row = (update job).row) :
    KeyedList.change JobRow.requestId requestId set table.inferenceJobs =
      (KeyedList.change JobRecord.requestId requestId update memory.inner).map JobRecord.row := by
  rw [mirrors]
  exact KeyedList.change_form (fun _ => rfl) agree memory.inner

theorem mirrors_step (memory : InMemoryJobStore) (table : PostgresJobStore) (call : StoreCall)
    (mirrors : Mirrors memory table) : Mirrors (memory.step call) (table.step call) := by
  cases call with
  | push now requestId model primaryPeerId timeoutMs => exact mirrors_insert mirrors _
  | mark requestId status => exact mirrors_change mirrors requestId fun _ => rfl
  | complete requestId metrics => exact mirrors_change mirrors requestId fun _ => rfl
  | due nowMs => exact mirrors
  | get requestId => exact mirrors
  | all => exact mirrors

def JobStatus.isActive (status : JobStatus) : Bool := !status.isTerminal && status != .timedOut

/-- The comparison of a deadline as the table makes it. -/
def dueSigned (nowMs : UInt64) (job : JobRecord) : Bool :=
  job.status.isActive && decide (job.deadlineMs.toInt64 ≤ nowMs.toInt64)

theorem asStr_in (status : JobStatus) :
    (status.asStr == "Dispatched" || status.asStr == "Acked") = status.isActive := by
  cases status <;> decide

theorem map_rowToRecord (jobs : List JobRecord) : (jobs.map JobRecord.row).map rowToRecord = jobs := by
  rw [List.map_map]
  exact List.map_id'' rowToRecord_row jobs

section

variable {memory : InMemoryJobStore} {table : PostgresJobStore} (mirrors : Mirrors memory table)

include mirrors

theorem mirrors_all : table.all = memory.all := by
  rw [PostgresJobStore.all, mirrors, map_rowToRecord]
  rfl

theorem mirrors_get (requestId : RequestId) : table.get requestId = memory.get requestId := by
  have found := KeyedList.find_form (fun job : JobRecord => (rfl : job.row.requestId = job.requestId))
    requestId memory.inner
  have back : rowToRecord ∘ JobRecord.row = id := funext rowToRecord_row
  rw [PostgresJobStore.get, mirrors, found, Option.map_map, back, Option.map_id]
  rfl

theorem mirrors_due (nowMs : UInt64) : table.due nowMs = memory.inner.filter (dueSigned nowMs) := by
  rw [PostgresJobStore.due, mirrors, List.filter_map, map_rowToRecord]
  apply List.filter_congr
  intro job _
  exact congrArg (· && _) (asStr_in job.status)

end

/-- 2^63, from where on a cast to the signed column is negative. -/
def signBit : Nat := 9223372036854775808

theorem toInt_toInt64 (value : UInt64) :
    value.toInt64.toInt = if value.toNat < signBit then (value.toNat : Int) else value.toNat - 2 * signBit := by
  have cond := BitVec.toInt_eq_toNat_cond value.toBitVec
  have whole : value.toNat < 18446744073709551616 := value.toNat_lt
  have same : value.toInt64.toInt = value.toBitVec.toInt := rfl
  rw [same, cond, UInt64.toNat_toBitVec, signBit]
  split <;> split <;> omega

theorem signed_le_iff (deadline now : UInt64) :
    (deadline.toInt64 ≤ now.toInt64 ↔ deadline ≤ now) ↔
      (deadline.toNat < signBit ↔ now.toNat < signBit) := by
  rw [Int64.le_iff_toInt_le, UInt64.le_iff_toNat_le, toInt_toInt64, toInt_toInt64]
  have first : deadline.toNat < 18446744073709551616 := deadline.toNat_lt
  have second : now.toNat < 18446744073709551616 := now.toNat_lt
  unfold signBit
  split <;> split <;> omega

theorem perm_filter_iff {Row : Type} {rows : List Row} {first second : Row → Bool} :
    (rows.filter first).Perm (rows.filter second) ↔ ∀ row ∈ rows, (first row = true ↔ second row = true) := by
  constructor
  · intro same row member
    have moved := @List.Perm.mem_iff _ row _ _ same
    simpa [List.mem_filter, member] using moved
  · intro agree
    have equal : rows.filter first = rows.filter second :=
      List.filter_congr fun row member => Bool.eq_iff_iff.mpr (agree row member)
    rw [equal]

/-- Every job that waits for its deadline has it on the same side of the sign bit as the clock
that `due` is asked with. -/
def SignsMeet (store : InMemoryJobStore) : StoreCall → Prop
  | .due nowMs => ∀ job ∈ store.all, job.status.isActive = true →
      (job.deadlineMs.toNat < signBit ↔ nowMs.toNat < signBit)
  | _ => True

def SameAnswers (memory : InMemoryJobStore) (table : PostgresJobStore) (call : StoreCall) : Prop :=
  (memory.call call).2.Same (table.call call).2

/-- Of related stores only `due` can answer differently, and exactly across the sign bit. -/
theorem same_iff_signsMeet (memory : InMemoryJobStore) (table : PostgresJobStore) (call : StoreCall)
    (mirrors : Mirrors memory table) : SameAnswers memory table call ↔ SignsMeet memory call := by
  cases call with
  | push now requestId model primaryPeerId timeoutMs => exact Iff.rfl
  | mark requestId status => exact Iff.rfl
  | complete requestId metrics => exact Iff.rfl
  | get requestId => exact iff_of_true (mirrors_get mirrors requestId).symm trivial
  | all => exact iff_of_true (List.Perm.of_eq (mirrors_all mirrors).symm) trivial
  | due nowMs =>
      have lists : SameAnswers memory table (.due nowMs) ↔
          (memory.due nowMs).Perm (memory.inner.filter (dueSigned nowMs)) := by
        rw [← mirrors_due mirrors]
        exact Iff.rfl
      rw [lists, InMemoryJobStore.due, perm_filter_iff]
      apply forall₂_congr
      intro job _
      have unsigned : (!job.status.isTerminal && job.status != .timedOut) = job.status.isActive := rfl
      rw [unsigned, dueSigned, ← signed_le_iff]
      cases job.status.isActive
      · simp
      · simp [iff_comm]

/-- The stores answer alike through a sequence of calls exactly when no call of `due` compares
across the sign bit. -/
theorem stores_agree_iff (calls : List StoreCall) :
    (∀ first call rest, calls = first ++ call :: rest →
      SameAnswers (Runs.run InMemoryJobStore.step .new first)
        (Runs.run PostgresJobStore.step .migrate first) call) ↔
      Runs.Always InMemoryJobStore.step SignsMeet .new calls := by
  have related : Mirrors .new .migrate := rfl
  exact Runs.agree_iff_always SameAnswers SignsMeet mirrors_step same_iff_signsMeet related calls

def patientPush : StoreCall :=
  .push 1700000000000 ⟨Vector.replicate 16 1⟩ "llama3.1:8b" none 18446744073709551615

theorem patient_job_due_at_once : ¬∀ first call rest,
    [patientPush, .due 1700000001000] = first ++ call :: rest →
    SameAnswers (Runs.run InMemoryJobStore.step .new first)
      (Runs.run PostgresJobStore.step .migrate first) call := by
  intro agree
  have listed : List.Perm _ _ := agree [patientPush] (.due 1700000001000) [] rfl
  have lengths := listed.length_eq
  exact absurd lengths (by decide)

end Pinaivu.Job
