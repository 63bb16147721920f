import Pinaivu.Common.Types
import Pinaivu.Lib.KeyedList

/-!
`crates/persistence/src/job.rs`: tracked inference jobs and the in-process store.
-/

namespace Pinaivu.Job

inductive JobStatus where
  | dispatched
  | acked
  | completed
  | timedOut
  | failed
  deriving DecidableEq, Repr

def JobStatus.isTerminal : JobStatus → Bool
  | .completed | .failed => true
  | _ => false

structure JobRecord where
  requestId : RequestId
  model : String
  primaryPeerId : Option String
  status : JobStatus
  dispatchedAtMs : UInt64
  deadlineMs : UInt64
  attempts : UInt32
  inputTokens : UInt32
  outputTokens : UInt32
  latencyMs : UInt64
  fallbackFrom : Option String
  deriving DecidableEq, Repr

structure JobMetrics where
  inputTokens : UInt32
  outputTokens : UInt32
  latencyMs : UInt64
  fallbackFrom : Option String
  deriving DecidableEq, Repr

def saturatingAdd (first second : UInt64) : UInt64 :=
  UInt64.ofNat (min (first.toNat + second.toNat) (2 ^ 64 - 1))

def JobRecord.dispatched (now : UInt64) (requestId : RequestId) (model : String)
    (primaryPeerId : Option String) (timeoutMs : UInt64) : JobRecord where
  requestId := requestId
  model := model
  primaryPeerId := primaryPeerId
  status := .dispatched
  dispatchedAtMs := now
  deadlineMs := saturatingAdd now timeoutMs
  attempts := 1
  inputTokens := 0
  outputTokens := 0
  latencyMs := 0
  fallbackFrom := none

/-- The hash map of the store: one record a request id, in no particular order. -/
structure InMemoryJobStore where
  inner : List JobRecord
  unique : (inner.map JobRecord.requestId).Nodup

namespace InMemoryJobStore

def new : InMemoryJobStore := ⟨[], List.nodup_nil⟩

def push (store : InMemoryJobStore) (job : JobRecord) : InMemoryJobStore :=
  ⟨KeyedList.insertNew JobRecord.requestId job store.inner, KeyedList.insertNew_nodup job store.unique⟩

def get (store : InMemoryJobStore) (requestId : RequestId) : Option JobRecord :=
  KeyedList.find JobRecord.requestId requestId store.inner

def modify (store : InMemoryJobStore) (requestId : RequestId) (update : JobRecord → JobRecord)
    (keeps : ∀ job, (update job).requestId = job.requestId) : InMemoryJobStore :=
  ⟨KeyedList.change JobRecord.requestId requestId update store.inner, by
    rw [KeyedList.map_key_change keeps]
    exact store.unique⟩

def mark (store : InMemoryJobStore) (requestId : RequestId) (status : JobStatus) : InMemoryJobStore :=
  store.modify requestId (fun job => { job with status := status }) fun _ => rfl

def complete (store : InMemoryJobStore) (requestId : RequestId) (metrics : JobMetrics) :
    InMemoryJobStore :=
  store.modify requestId (fun job => { job with
    status := .completed
    inputTokens := metrics.inputTokens
    outputTokens := metrics.outputTokens
    latencyMs := metrics.latencyMs
    fallbackFrom := metrics.fallbackFrom }) fun _ => rfl

def due (store : InMemoryJobStore) (nowMs : UInt64) : List JobRecord :=
  store.inner.filter fun job =>
    !job.status.isTerminal && job.status != .timedOut && decide (job.deadlineMs ≤ nowMs)

def all (store : InMemoryJobStore) : List JobRecord := store.inner

def statusOf (store : InMemoryJobStore) (requestId : RequestId) : Option JobStatus :=
  (store.get requestId).map JobRecord.status

variable (store : InMemoryJobStore)

@[simp]
theorem statusOf_new (requestId : RequestId) : new.statusOf requestId = none := rfl

theorem statusOf_push_other (job : JobRecord) {requestId : RequestId}
    (different : job.requestId ≠ requestId) :
    (store.push job).statusOf requestId = store.statusOf requestId := by
  unfold statusOf get push
  rw [KeyedList.find_insertNew_other different]

theorem statusOf_push_of_some (job : JobRecord) {requestId : RequestId} {status : JobStatus}
    (before : store.statusOf requestId = some status) :
    (store.push job).statusOf requestId = some status := by
  obtain ⟨found, present, rfl⟩ := Option.map_eq_some_iff.mp before
  unfold statusOf get push
  rw [KeyedList.find_insertNew_of_some present]
  rfl

theorem statusOf_push_of_none (job : JobRecord) (fresh : store.statusOf job.requestId = none) :
    (store.push job).statusOf job.requestId = some job.status := by
  have absent := KeyedList.find_none_iff.mp (Option.map_eq_none_iff.mp fresh)
  unfold statusOf get push
  rw [KeyedList.find_insertNew_self absent]
  rfl

theorem statusOf_modify_self (requestId : RequestId) (update : JobRecord → JobRecord)
    (keeps : ∀ job, (update job).requestId = job.requestId) (status : JobStatus)
    (sets : ∀ job, (update job).status = status) :
    (store.modify requestId update keeps).statusOf requestId =
      (store.statusOf requestId).map fun _ => status := by
  unfold statusOf get modify
  rw [KeyedList.find_change_self keeps, Option.map_map, Option.map_map]
  congr 1
  funext job
  exact sets job

theorem statusOf_modify_other {requestId other : RequestId} (update : JobRecord → JobRecord)
    (keeps : ∀ job, (update job).requestId = job.requestId) (different : other ≠ requestId) :
    (store.modify requestId update keeps).statusOf other = store.statusOf other := by
  unfold statusOf get modify
  rw [KeyedList.find_change_other keeps different]

@[simp]
theorem statusOf_mark_self (requestId : RequestId) (status : JobStatus) :
    (store.mark requestId status).statusOf requestId =
      (store.statusOf requestId).map fun _ => status := by
  exact store.statusOf_modify_self requestId _ _ status fun _ => rfl

theorem statusOf_mark_other {requestId other : RequestId} (status : JobStatus)
    (different : other ≠ requestId) :
    (store.mark requestId status).statusOf other = store.statusOf other := by
  exact store.statusOf_modify_other _ _ different

@[simp]
theorem statusOf_complete_self (requestId : RequestId) (metrics : JobMetrics) :
    (store.complete requestId metrics).statusOf requestId =
      (store.statusOf requestId).map fun _ => .completed := by
  exact store.statusOf_modify_self requestId _ _ .completed fun _ => rfl

theorem statusOf_complete_other {requestId other : RequestId} (metrics : JobMetrics)
    (different : other ≠ requestId) :
    (store.complete requestId metrics).statusOf other = store.statusOf other := by
  exact store.statusOf_modify_other _ _ different

theorem statusOf_of_mem_due {nowMs : UInt64} {job : JobRecord} (listed : job ∈ store.due nowMs) :
    store.statusOf job.requestId = some job.status ∧
      (job.status = .dispatched ∨ job.status = .acked) := by
  obtain ⟨member, passed⟩ := List.mem_filter.mp listed
  constructor
  · unfold statusOf get
    rw [KeyedList.find_of_mem store.unique member]
    rfl
  · cases status : job.status <;> simp_all [JobStatus.isTerminal]

theorem due_nodup (nowMs : UInt64) : ((store.due nowMs).map JobRecord.requestId).Nodup := by
  exact List.Nodup.sublist (List.Sublist.map _ List.filter_sublist) store.unique

end InMemoryJobStore

end Pinaivu.Job
