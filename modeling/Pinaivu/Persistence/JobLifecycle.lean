import Mathlib.Data.List.Perm.Basic
import Pinaivu.Lib.Runs
import Pinaivu.Persistence.JobCore

/-!
Request handlers and the deadline watcher of `crates/node/src/jobs.rs` on one store.
Each store call is a step of its own, so a handler may finish a job between the
watcher's reading of the due list and its two writes.
-/

namespace Pinaivu.Job

/-- Between two sweeps, or between two store calls of a sweep: the job it compensates,
whether that one is marked `TimedOut` yet, and the jobs still to come. -/
inductive Watcher where
  | idle
  | compensating (job : JobRecord) (timedOut : Bool) (rest : List JobRecord)

def Watcher.next : List JobRecord → Watcher
  | [] => .idle
  | job :: rest => .compensating job false rest

structure System where
  store : InMemoryJobStore
  running : List RequestId
  watcher : Watcher

def System.start : System := ⟨.new, [], .idle⟩

inductive Event where
  | push (now timeoutMs : UInt64) (requestId : RequestId) (model : String)
  | complete (requestId : RequestId) (metrics : JobMetrics)
  | fail (requestId : RequestId)
  | due (now : UInt64) (order : List JobRecord)
  | markTimedOut
  | markFailed

/-- A handler pushes its job and finishes it at most once; the watcher works through
one due list at a time, in any order. An event that is not next changes nothing. -/
def step (system : System) : Event → System
  | .push now timeoutMs requestId model =>
      { system with
        store := system.store.push (.dispatched now requestId model none timeoutMs)
        running := requestId :: system.running }
  | .complete requestId metrics =>
      if requestId ∈ system.running then
        { system with
          store := system.store.complete requestId metrics
          running := system.running.erase requestId }
      else system
  | .fail requestId =>
      if requestId ∈ system.running then
        { system with
          store := system.store.mark requestId .failed
          running := system.running.erase requestId }
      else system
  | .due now order =>
      match system.watcher with
      | .idle =>
          if order.Perm (system.store.due now) then { system with watcher := .next order } else system
      | .compensating .. => system
  | .markTimedOut =>
      match system.watcher with
      | .compensating job false rest =>
          { system with
            store := system.store.mark job.requestId .timedOut
            watcher := .compensating job true rest }
      | _ => system
  | .markFailed =>
      match system.watcher with
      | .compensating job true rest =>
          { system with
            store := system.store.mark job.requestId .failed
            watcher := .next rest }
      | _ => system

def System.statusOf (system : System) (requestId : RequestId) : Option JobStatus :=
  system.store.statusOf requestId

def after (events : List Event) : System := Runs.run step .start events

def JobStatus.leadsTo : JobStatus → JobStatus → Bool
  | .dispatched, .acked | .acked, .completed => true
  | .dispatched, .timedOut | .acked, .timedOut | .timedOut, .failed => true
  | _, _ => false

def TerminalAbsorbing (events : List Event) : Prop :=
  ∀ first middle rest, events = first ++ middle ++ rest → ∀ requestId status,
    status.isTerminal = true → (after first).statusOf requestId = some status →
      (after (first ++ middle)).statusOf requestId = some status

def FollowsLifecycle (events : List Event) : Prop :=
  ∀ first event rest, events = first ++ event :: rest → ∀ requestId old new,
    (after first).statusOf requestId = some old →
      (after (first ++ [event])).statusOf requestId = some new → old ≠ new → old.leadsTo new = true

def writes (system : System) : Event → Option (RequestId × JobStatus)
  | .push .. | .due .. => none
  | .complete requestId _ => if requestId ∈ system.running then some (requestId, .completed) else none
  | .fail requestId => if requestId ∈ system.running then some (requestId, .failed) else none
  | .markTimedOut =>
      match system.watcher with
      | .compensating job false _ => some (job.requestId, .timedOut)
      | _ => none
  | .markFailed =>
      match system.watcher with
      | .compensating job true _ => some (job.requestId, .failed)
      | _ => none

theorem markTimedOut_writes {system : System} {requestId : RequestId} {status : JobStatus}
    (written : writes system .markTimedOut = some (requestId, status)) :
    ∃ job rest, system.watcher = .compensating job false rest ∧ job.requestId = requestId ∧ status = .timedOut := by
  rcases watching : system.watcher with _ | ⟨job, _ | _, rest⟩
  · simp [writes, watching] at written
  · simp only [writes, watching, Option.some.injEq, Prod.mk.injEq] at written
    exact ⟨job, rest, rfl, written.1, written.2.symm⟩
  · simp [writes, watching] at written

theorem markFailed_writes {system : System} {requestId : RequestId} {status : JobStatus}
    (written : writes system .markFailed = some (requestId, status)) :
    ∃ job rest, system.watcher = .compensating job true rest ∧ job.requestId = requestId ∧ status = .failed := by
  rcases watching : system.watcher with _ | ⟨job, _ | _, rest⟩
  · simp [writes, watching] at written
  · simp [writes, watching] at written
  · simp only [writes, watching, Option.some.injEq, Prod.mk.injEq] at written
    exact ⟨job, rest, rfl, written.1, written.2.symm⟩

theorem statusOf_step_written {system : System} {event : Event} {requestId : RequestId}
    {status : JobStatus} (written : writes system event = some (requestId, status)) :
    (step system event).statusOf requestId = (system.statusOf requestId).map fun _ => status := by
  cases event with
  | push => simp [writes] at written
  | due => simp [writes] at written
  | complete finished _ | fail finished =>
      by_cases inside : finished ∈ system.running
      · simp only [writes, inside, if_true, Option.some.injEq, Prod.mk.injEq] at written
        obtain ⟨rfl, rfl⟩ := written
        simp [step, inside, System.statusOf]
      · simp [writes, inside] at written
  | markTimedOut =>
      obtain ⟨job, rest, watching, rfl, rfl⟩ := markTimedOut_writes written
      simp [step, watching, System.statusOf]
  | markFailed =>
      obtain ⟨job, rest, watching, rfl, rfl⟩ := markFailed_writes written
      simp [step, watching, System.statusOf]

def Event.pushes : Event → Option RequestId
  | .push _ _ requestId _ => some requestId
  | _ => none

theorem statusOf_step_other {system : System} {event : Event} {requestId : RequestId}
    (unpushed : event.pushes ≠ some requestId)
    (unwritten : ∀ status, writes system event ≠ some (requestId, status)) :
    (step system event).statusOf requestId = system.statusOf requestId := by
  unfold System.statusOf
  cases event with
  | push now timeoutMs pushed model =>
      have different : pushed ≠ requestId := by
        rintro rfl
        exact unpushed rfl
      exact InMemoryJobStore.statusOf_push_other _ _ different
  | due now order =>
      rcases watching : system.watcher with _ | ⟨job, timedOut, rest⟩
      · simp only [step, watching]
        split <;> rfl
      · simp only [step, watching]
  | complete finished metrics =>
      by_cases inside : finished ∈ system.running
      · have different : requestId ≠ finished := by
          rintro rfl
          exact unwritten .completed (by simp [writes, inside])
        simp only [step, inside, if_true]
        rw [InMemoryJobStore.statusOf_complete_other _ _ different]
      · simp only [step, inside, if_false]
  | fail finished =>
      by_cases inside : finished ∈ system.running
      · have different : requestId ≠ finished := by
          rintro rfl
          exact unwritten .failed (by simp [writes, inside])
        simp only [step, inside, if_true]
        rw [InMemoryJobStore.statusOf_mark_other _ _ different]
      · simp only [step, inside, if_false]
  | markTimedOut =>
      rcases watching : system.watcher with _ | ⟨job, _ | _, rest⟩
      · simp only [step, watching]
      · have different : requestId ≠ job.requestId := by
          rintro rfl
          exact unwritten .timedOut (by simp [writes, watching])
        simp only [step, watching]
        rw [InMemoryJobStore.statusOf_mark_other _ _ different]
      · simp only [step, watching]
  | markFailed =>
      rcases watching : system.watcher with _ | ⟨job, _ | _, rest⟩
      · simp only [step, watching]
      · simp only [step, watching]
      · have different : requestId ≠ job.requestId := by
          rintro rfl
          exact unwritten .failed (by simp [writes, watching])
        simp only [step, watching]
        rw [InMemoryJobStore.statusOf_mark_other _ _ different]

theorem statusOf_step_push {system : System} {event : Event} {requestId : RequestId}
    (pushed : event.pushes = some requestId) :
    (step system event).statusOf requestId = some ((system.statusOf requestId).getD .dispatched) := by
  cases event with
  | push now timeoutMs pushedId model =>
      obtain rfl : pushedId = requestId := by simpa [Event.pushes] using pushed
      unfold System.statusOf
      rcases before : system.store.statusOf pushedId with _ | status
      · exact InMemoryJobStore.statusOf_push_of_none _
          (JobRecord.dispatched now pushedId model none timeoutMs) before
      · exact InMemoryJobStore.statusOf_push_of_some _ _ before
  | _ => simp [Event.pushes] at pushed

theorem statusOf_step_unwritten {system : System} {event : Event} {requestId : RequestId}
    {status : JobStatus} (before : system.statusOf requestId = some status)
    (unwritten : ∀ other, writes system event ≠ some (requestId, other)) :
    (step system event).statusOf requestId = some status := by
  by_cases pushed : event.pushes = some requestId
  · rw [statusOf_step_push pushed, before, Option.getD_some]
  · rw [statusOf_step_other pushed unwritten, before]

/-- Where a status comes from: it was there, the event wrote it, or the job is new. -/
theorem statusOf_step_cases {system : System} {event : Event} {requestId : RequestId}
    {status : JobStatus} (now : (step system event).statusOf requestId = some status) :
    system.statusOf requestId = some status ∨ writes system event = some (requestId, status) ∨
      status = .dispatched := by
  by_cases written : ∃ other, writes system event = some (requestId, other)
  · obtain ⟨other, written⟩ := written
    rw [statusOf_step_written written, Option.map_eq_some_iff] at now
    obtain ⟨_, _, rfl⟩ := now
    exact Or.inr (Or.inl written)
  · rcases before : system.statusOf requestId with _ | old
    · by_cases pushed : event.pushes = some requestId
      · rw [statusOf_step_push pushed, before] at now
        exact Or.inr (Or.inr (Option.some.inj now).symm)
      · rw [statusOf_step_other pushed fun other found => written ⟨other, found⟩, before] at now
        contradiction
    · rw [statusOf_step_unwritten before fun other found => written ⟨other, found⟩] at now
      exact Or.inl now

theorem stored_step {system : System} (event : Event) {requestId : RequestId}
    (stored : ∃ status, system.statusOf requestId = some status) :
    ∃ status, (step system event).statusOf requestId = some status := by
  obtain ⟨old, before⟩ := stored
  by_cases written : ∃ other, writes system event = some (requestId, other)
  · obtain ⟨other, written⟩ := written
    exact ⟨other, by rw [statusOf_step_written written, before, Option.map_some]⟩
  · exact ⟨old, statusOf_step_unwritten before fun other found => written ⟨other, found⟩⟩

/-- No handler completes a job, and one fails only jobs that the watcher has timed out. -/
def Orderly (system : System) : Event → Prop
  | .complete requestId _ => requestId ∉ system.running
  | .fail requestId => requestId ∈ system.running →
      system.statusOf requestId = some .timedOut ∨ system.statusOf requestId = some .failed
  | _ => True

def KeepsTerminal (system : System) (event : Event) : Prop :=
  ∀ requestId status, status.isTerminal = true → system.statusOf requestId = some status →
    (step system event).statusOf requestId = some status

def StepFollows (system : System) (event : Event) : Prop :=
  ∀ requestId old new, system.statusOf requestId = some old →
    (step system event).statusOf requestId = some new → old ≠ new → old.leadsTo new = true

theorem terminalAbsorbing_iff_always (events : List Event) :
    TerminalAbsorbing events ↔ Runs.Always step KeepsTerminal .start events := by
  rw [Runs.always_iff_split]
  constructor
  · rintro absorbing first event rest rfl requestId status terminal before
    have kept := absorbing first [event] rest (by simp) requestId status terminal before
    rwa [after, Runs.run_concat] at kept
  · intro keeps first middle rest split requestId status terminal
    have stable : Runs.Always step (fun system event => system.statusOf requestId = some status →
        (step system event).statusOf requestId = some status) .start events := by
      rw [Runs.always_iff_split]
      intro first event rest split
      exact keeps first event rest split requestId status terminal
    exact (Runs.stable_iff (fun system : System => system.statusOf requestId = some status) _ _).mpr stable
      first middle rest split

theorem followsLifecycle_iff_always (events : List Event) :
    FollowsLifecycle events ↔ Runs.Always step StepFollows .start events := by
  rw [Runs.always_iff_split]
  simp only [FollowsLifecycle, StepFollows, after, Runs.run_concat]

theorem keepsTerminal_iff_writes (system : System) (event : Event) :
    KeepsTerminal system event ↔ ∀ requestId new old, writes system event = some (requestId, new) →
      system.statusOf requestId = some old → old.isTerminal = true → old = new := by
  constructor
  · intro keeps requestId new old written before terminal
    have kept := keeps requestId old terminal before
    rw [statusOf_step_written written, before] at kept
    simpa using kept.symm
  · intro agree requestId status terminal before
    by_cases written : ∃ new, writes system event = some (requestId, new)
    · obtain ⟨new, written⟩ := written
      rw [statusOf_step_written written, before, agree requestId new status written before terminal]
      rfl
    · exact statusOf_step_unwritten before fun other found => written ⟨other, found⟩

theorem stepFollows_iff_writes (system : System) (event : Event) :
    StepFollows system event ↔ ∀ requestId new old, writes system event = some (requestId, new) →
      system.statusOf requestId = some old → old ≠ new → old.leadsTo new = true := by
  constructor
  · intro follows requestId new old written before different
    apply follows requestId old new before _ different
    rw [statusOf_step_written written, before]
    rfl
  · intro agree requestId old new before now different
    by_cases written : ∃ other, writes system event = some (requestId, other)
    · obtain ⟨other, written⟩ := written
      rw [statusOf_step_written written, before] at now
      obtain rfl : other = new := by simpa using now
      exact agree requestId other old written before different
    · rw [statusOf_step_unwritten before fun other found => written ⟨other, found⟩] at now
      exact absurd (Option.some.inj now) different

/-- What the watcher relies on: the jobs on its list are as the due list found them. -/
def Watcher.Current (system : System) : Watcher → Prop
  | .idle => True
  | .compensating job timedOut rest =>
      (if timedOut then
        system.statusOf job.requestId = some .timedOut ∨ system.statusOf job.requestId = some .failed
      else system.statusOf job.requestId = some .dispatched) ∧
      (∀ later ∈ rest, system.statusOf later.requestId = some .dispatched) ∧
      ((job :: rest).map JobRecord.requestId).Nodup

/-- The states of a run in which no handler gets ahead of the watcher. -/
structure Calm (system : System) : Prop where
  known : ∀ requestId status, system.statusOf requestId = some status →
    status = .dispatched ∨ status = .timedOut ∨ status = .failed
  stored : ∀ requestId ∈ system.running, ∃ status, system.statusOf requestId = some status
  current : system.watcher.Current system

theorem calm_start : Calm .start where
  known := by
    intro requestId status before
    simp [System.statusOf, System.start] at before
  stored := by simp [System.start]
  current := trivial

theorem current_next {system : System} {jobs : List JobRecord}
    (dispatched : ∀ job ∈ jobs, system.statusOf job.requestId = some .dispatched)
    (unique : (jobs.map JobRecord.requestId).Nodup) : (Watcher.next jobs).Current system := by
  cases jobs with
  | nil => trivial
  | cons job rest =>
      refine ⟨?_, ?_, unique⟩
      · exact dispatched job (List.mem_cons_self ..)
      · intro later member
        exact dispatched later (List.mem_cons_of_mem _ member)

theorem Watcher.Current.kept {system : System} {watcher : Watcher} {event : Event}
    (current : watcher.Current system)
    (kept : ∀ requestId status, writes system event = some (requestId, status) →
      status = .failed ∧
        (system.statusOf requestId = some .timedOut ∨ system.statusOf requestId = some .failed)) :
    watcher.Current (step system event) := by
  have dispatched : ∀ requestId, system.statusOf requestId = some .dispatched →
      (step system event).statusOf requestId = some .dispatched := by
    intro requestId before
    apply statusOf_step_unwritten before
    intro other written
    rcases (kept requestId other written).2 with found | found <;> simp [before] at found
  have compensated : ∀ requestId, system.statusOf requestId = some .timedOut ∨
      system.statusOf requestId = some .failed →
      (step system event).statusOf requestId = some .timedOut ∨
        (step system event).statusOf requestId = some .failed := by
    intro requestId before
    by_cases written : ∃ other, writes system event = some (requestId, other)
    · obtain ⟨other, written⟩ := written
      obtain ⟨rfl, _⟩ := kept requestId other written
      right
      rw [statusOf_step_written written]
      rcases before with before | before <;> rw [before, Option.map_some]
    · have unwritten := fun other found => written ⟨other, found⟩
      rcases before with before | before
      · exact Or.inl (statusOf_step_unwritten before unwritten)
      · exact Or.inr (statusOf_step_unwritten before unwritten)
  rcases watcher with _ | ⟨job, _ | _, rest⟩
  · trivial
  · obtain ⟨first, later, unique⟩ := current
    exact ⟨dispatched _ first, fun job member => dispatched _ (later job member), unique⟩
  · obtain ⟨first, later, unique⟩ := current
    exact ⟨compensated _ first, fun job member => dispatched _ (later job member), unique⟩

theorem writes_of_orderly {system : System} {event : Event} (orderly : Orderly system event)
    {requestId : RequestId} {status : JobStatus}
    (written : writes system event = some (requestId, status)) :
    status = .timedOut ∨ status = .failed := by
  cases event with
  | push => simp [writes] at written
  | due => simp [writes] at written
  | complete finished metrics =>
      have outside : finished ∉ system.running := orderly
      simp [writes, outside] at written
  | fail finished =>
      simp only [writes] at written
      split at written <;> simp_all
  | markTimedOut =>
      obtain ⟨job, rest, -, -, rfl⟩ := markTimedOut_writes written
      exact .inl rfl
  | markFailed =>
      obtain ⟨job, rest, -, -, rfl⟩ := markFailed_writes written
      exact .inr rfl

theorem dispatched_kept {system : System} {event : Event} {job : JobRecord} {status : JobStatus}
    {rest : List JobRecord} (written : writes system event = some (job.requestId, status))
    (fresh : job.requestId ∉ rest.map JobRecord.requestId)
    (later : ∀ other ∈ rest, system.statusOf other.requestId = some .dispatched) :
    ∀ other ∈ rest, (step system event).statusOf other.requestId = some .dispatched := by
  intro other member
  apply statusOf_step_unwritten (later other member)
  intro status found
  simp only [written, Option.some.injEq, Prod.mk.injEq] at found
  exact fresh (found.1 ▸ List.mem_map_of_mem member)

theorem Calm.due_dispatched {system : System} (calm : Calm system) {now : UInt64} {job : JobRecord}
    (member : job ∈ system.store.due now) : system.statusOf job.requestId = some .dispatched := by
  obtain ⟨before, unfinished⟩ := system.store.statusOf_of_mem_due member
  have possible := calm.known job.requestId job.status before
  have dispatched : job.status = .dispatched := by
    rcases unfinished with found | found <;> simp_all
  exact dispatched ▸ before

theorem current_due {system : System} (calm : Calm system) (now : UInt64) (order : List JobRecord) :
    (step system (.due now order)).watcher.Current (step system (.due now order)) := by
  have current := calm.current
  rcases watching : system.watcher with _ | ⟨job, timedOut, rest⟩
  · by_cases listed : order.Perm (system.store.due now)
    · simp only [step, watching, listed, if_true]
      apply current_next
      · intro job member
        exact calm.due_dispatched (listed.mem_iff.mp member)
      · exact (listed.map _).nodup_iff.mpr (system.store.due_nodup now)
    · simp only [step, watching, listed, if_false]
      simp [Watcher.Current]
  · rw [watching] at current
    simpa only [step, watching] using current

theorem current_markTimedOut {system : System} (current : system.watcher.Current system) :
    (step system .markTimedOut).watcher.Current (step system .markTimedOut) := by
  rcases watching : system.watcher with _ | ⟨job, _ | _, rest⟩
  · simp [step, watching, Watcher.Current]
  · rw [watching] at current
    obtain ⟨first, later, unique⟩ := current
    have fresh := (List.nodup_cons.mp unique).1
    have written : writes system .markTimedOut = some (job.requestId, .timedOut) := by
      simp [writes, watching]
    have same : (step system .markTimedOut).watcher = .compensating job true rest := by
      simp [step, watching]
    rw [same]
    refine ⟨Or.inl ?_, dispatched_kept written fresh later, unique⟩
    rw [statusOf_step_written written, first, Option.map_some]
  · rw [watching] at current
    simpa only [step, watching] using current

theorem current_markFailed {system : System} (current : system.watcher.Current system) :
    (step system .markFailed).watcher.Current (step system .markFailed) := by
  rcases watching : system.watcher with _ | ⟨job, _ | _, rest⟩
  · simp [step, watching, Watcher.Current]
  · rw [watching] at current
    simpa only [step, watching] using current
  · rw [watching] at current
    obtain ⟨first, later, unique⟩ := current
    obtain ⟨fresh, unique⟩ := List.nodup_cons.mp unique
    have written : writes system .markFailed = some (job.requestId, .failed) := by
      simp [writes, watching]
    have same : (step system .markFailed).watcher = .next rest := by
      simp [step, watching]
    rw [same]
    exact current_next (dispatched_kept written fresh later) unique

theorem current_step {system : System} {event : Event} (calm : Calm system)
    (orderly : Orderly system event) :
    (step system event).watcher.Current (step system event) := by
  have current := calm.current
  cases event with
  | push now timeoutMs pushed model =>
      exact current.kept fun _ _ written => by simp [writes] at written
  | complete finished metrics =>
      have outside : finished ∉ system.running := orderly
      simpa [step, outside] using current
  | fail finished =>
      by_cases inside : finished ∈ system.running
      · have same : (step system (.fail finished)).watcher = system.watcher := by
          simp [step, inside]
        rw [same]
        apply current.kept
        intro requestId status written
        simp only [writes, inside, if_true, Option.some.injEq, Prod.mk.injEq] at written
        obtain ⟨rfl, rfl⟩ := written
        exact ⟨rfl, orderly inside⟩
      · simpa [step, inside] using current
  | due now order => exact current_due calm now order
  | markTimedOut => exact current_markTimedOut current
  | markFailed => exact current_markFailed current

theorem running_step {system : System} {event : Event} {requestId : RequestId}
    (inside : requestId ∈ (step system event).running) :
    event.pushes = some requestId ∨ requestId ∈ system.running := by
  cases event with
  | push now timeoutMs pushed model =>
      rcases List.mem_cons.mp inside with rfl | inside
      · exact Or.inl rfl
      · exact Or.inr inside
  | complete finished _ | fail finished =>
      right
      by_cases running : finished ∈ system.running
      · simp only [step, running, if_true] at inside
        exact List.mem_of_mem_erase inside
      · simpa [step, running] using inside
  | due now order =>
      right
      rcases watching : system.watcher with _ | ⟨job, timedOut, rest⟩
      · simp only [step, watching] at inside
        split at inside <;> exact inside
      · simpa [step, watching] using inside
  | markTimedOut =>
      right
      rcases watching : system.watcher with _ | ⟨job, _ | _, rest⟩ <;>
        simpa [step, watching] using inside
  | markFailed =>
      right
      rcases watching : system.watcher with _ | ⟨job, _ | _, rest⟩ <;>
        simpa [step, watching] using inside

theorem calm_step (system : System) (event : Event) (calm : Calm system)
    (orderly : Orderly system event) : Calm (step system event) where
  known := by
    intro requestId status now
    rcases statusOf_step_cases now with before | written | rfl
    · exact calm.known requestId status before
    · exact Or.inr (writes_of_orderly orderly written)
    · exact Or.inl rfl
  stored := by
    intro requestId inside
    rcases running_step inside with pushed | before
    · exact ⟨_, statusOf_step_push pushed⟩
    · exact stored_step event (calm.stored requestId before)
  current := current_step calm orderly

theorem stepFollows_unwritten {system : System} {event : Event} (unwritten : writes system event = none) :
    StepFollows system event := by
  rw [stepFollows_iff_writes]
  intro requestId new old written
  rw [unwritten] at written
  contradiction

theorem stepFollows_written {system : System} {event : Event} {requestId : RequestId} {new : JobStatus}
    (written : writes system event = some (requestId, new)) :
    StepFollows system event ↔
      ∀ old, system.statusOf requestId = some old → old ≠ new → old.leadsTo new = true := by
  rw [stepFollows_iff_writes]
  constructor
  · intro agree old
    exact agree requestId new old written
  · intro agree other status old found
    obtain ⟨rfl, rfl⟩ := Prod.mk.inj (Option.some.inj (written.symm.trans found))
    exact agree old

theorem stepFollows_watcher {system : System} {event : Event} (current : system.watcher.Current system)
    (own : event = .markTimedOut ∨ event = .markFailed) : StepFollows system event := by
  rw [stepFollows_iff_writes]
  intro requestId new old written before different
  rcases own with rfl | rfl
  · obtain ⟨job, rest, watching, rfl, rfl⟩ := markTimedOut_writes written
    rw [watching] at current
    have dispatched : system.statusOf job.requestId = some .dispatched := current.1
    obtain rfl := Option.some.inj (dispatched.symm.trans before)
    rfl
  · obtain ⟨job, rest, watching, rfl, rfl⟩ := markFailed_writes written
    rw [watching] at current
    have compensated : system.statusOf job.requestId = some .timedOut ∨
      system.statusOf job.requestId = some .failed := current.1
    rcases compensated with found | found
    · obtain rfl := Option.some.inj (found.symm.trans before)
      rfl
    · obtain rfl := Option.some.inj (found.symm.trans before)
      contradiction

theorem stepFollows_iff_orderly (system : System) (event : Event) (calm : Calm system) :
    StepFollows system event ↔ Orderly system event := by
  obtain ⟨known, stored, current⟩ := calm
  cases event with
  | push => exact iff_of_true (stepFollows_unwritten rfl) trivial
  | due => exact iff_of_true (stepFollows_unwritten rfl) trivial
  | complete finished metrics =>
      by_cases inside : finished ∈ system.running
      · have written : writes system (.complete finished metrics) = some (finished, .completed) := if_pos inside
        refine iff_of_false ?_ (not_not_intro inside)
        rw [stepFollows_written written]
        intro agree
        obtain ⟨status, before⟩ := stored finished inside
        have edge := agree status before
        rcases known finished status before with rfl | rfl | rfl <;> simp [JobStatus.leadsTo] at edge
      · exact iff_of_true (stepFollows_unwritten (if_neg inside)) inside
  | fail finished =>
      by_cases inside : finished ∈ system.running
      · have written : writes system (.fail finished) = some (finished, .failed) := if_pos inside
        obtain ⟨status, before⟩ := stored finished inside
        rw [stepFollows_written written]
        simp only [Orderly, inside, forall_const, before, Option.some.injEq]
        constructor
        · intro agree
          have edge := agree status rfl
          rcases known finished status before with rfl | rfl | rfl <;>
            simp [JobStatus.leadsTo] at edge ⊢
        · rintro possible old rfl different
          rcases possible with rfl | rfl
          · rfl
          · contradiction
      · exact iff_of_true (stepFollows_unwritten (if_neg inside)) fun running => absurd running inside
  | markTimedOut => exact iff_of_true (stepFollows_watcher current (.inl rfl)) trivial
  | markFailed => exact iff_of_true (stepFollows_watcher current (.inr rfl)) trivial

theorem keepsTerminal_of_stepFollows {system : System} {event : Event}
    (follows : StepFollows system event) : KeepsTerminal system event := by
  rw [keepsTerminal_iff_writes]
  rw [stepFollows_iff_writes] at follows
  intro requestId new old written before terminal
  by_contra different
  have edge := follows requestId new old written before different
  cases old <;> simp [JobStatus.isTerminal, JobStatus.leadsTo] at terminal edge

/-- The job lifecycle over every interleaving of handlers and sweeps: terminal states absorb and every
change is an arrow of the diagram exactly when no handler gets ahead of the watcher. -/
theorem lifecycle_iff (events : List Event) :
    TerminalAbsorbing events ∧ FollowsLifecycle events ↔ Runs.Always step Orderly .start events := by
  rw [terminalAbsorbing_iff_always, followsLifecycle_iff_always,
    ← Runs.always_congr Calm StepFollows Orderly calm_step stepFollows_iff_orderly _ _ calm_start]
  constructor
  · exact And.right
  · intro follows
    exact ⟨Runs.always_mono (fun _ _ => keepsTerminal_of_stepFollows) follows, follows⟩

/-- The handler completes the job after the watcher has read the due list. -/
def overtaken : List Event :=
  let requestId : RequestId := ⟨Vector.replicate 16 7⟩
  let job := JobRecord.dispatched 1000 requestId "llama3.1:8b" none 60000
  [.push 1000 60000 requestId "llama3.1:8b", .due 61000 [job], .complete requestId ⟨12, 340, 60500, none⟩,
    .markTimedOut, .markFailed]

theorem completed_job_fails :
    (after (overtaken.take 3)).statusOf ⟨Vector.replicate 16 7⟩ = some .completed ∧
      (after overtaken).statusOf ⟨Vector.replicate 16 7⟩ = some .failed ∧
      ¬(TerminalAbsorbing overtaken ∧ FollowsLifecycle overtaken) := by
  have completed : (after (overtaken.take 3)).statusOf ⟨Vector.replicate 16 7⟩ = some .completed := by
    decide
  have failed : (after overtaken).statusOf ⟨Vector.replicate 16 7⟩ = some .failed := by decide
  refine ⟨completed, failed, ?_⟩
  rintro ⟨absorbing, _⟩
  have kept := absorbing (overtaken.take 3) (overtaken.drop 3) [] (by simp) _ _ rfl completed
  rw [List.take_append_drop, failed] at kept
  contradiction

end Pinaivu.Job
