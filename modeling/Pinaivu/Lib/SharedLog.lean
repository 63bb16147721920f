import Mathlib.Data.Fintype.Card
import Pinaivu.Lib.Runs

/-!
Any number of callers that each read a shared log, add their own items to what they read
and write it back, with the reads and the writes interleaved in any way. A write may be refused.
-/

namespace SharedLog

/-- How a caller reads the log out of the cell, and writes it with its own items, if it can. -/
structure Store (Caller Cell Item : Type) where
  read : Cell → List Item
  write : Caller → List Item → Cell → Option Cell

inductive Phase (Item : Type) where
  | begun
  | holding (items : List Item)
  | finished
  | failed

/-- The callers that have written are listed in the order of their writes. -/
structure State (Caller Cell Item : Type) where
  cell : Cell
  phase : Caller → Phase Item
  written : List Caller

variable {Caller Cell Item : Type}

def start (cell : Cell) : State Caller Cell Item := ⟨cell, fun _ => .begun, []⟩

def step [DecidableEq Caller] (store : Store Caller Cell Item) (state : State Caller Cell Item) (who : Caller) :
    State Caller Cell Item :=
  match state.phase who with
  | .begun => { state with phase := Function.update state.phase who (.holding (store.read state.cell)) }
  | .holding items =>
      match store.write who items state.cell with
      | some cell =>
          { cell
            phase := Function.update state.phase who .finished
            written := state.written ++ [who] }
      | none => { state with phase := Function.update state.phase who .failed }
  | .finished => state
  | .failed => state

section

variable (store : Store Caller Cell Item) (added : Caller → List Item) (initial : List Item) (weight : Nat)

/-- A caller that writes finds the log as it read it. -/
def Undisturbed (state : State Caller Cell Item) (who : Caller) : Prop :=
  ∀ items cell, state.phase who = .holding items → store.write who items state.cell = some cell →
    store.read state.cell = items

structure Appends [Fintype Caller] : Prop where
  positive : 0 < weight
  weighs : ∀ who, (added who).length = weight
  appends : ∀ who items cell after, items.length + weight ≤ initial.length + Fintype.card Caller * weight →
    store.write who items cell = some after → store.read after = items ++ added who

def Full (state : State Caller Cell Item) : Prop :=
  (store.read state.cell).length = initial.length + state.written.length * weight

/-- What holds at any time: a log that a caller holds is the log in the cell, or is too short
to bring back all that was written. -/
structure Bounded (state : State Caller Cell Item) : Prop where
  once : state.written.Nodup
  written : ∀ who, state.phase who = .finished ↔ who ∈ state.written
  cell : (store.read state.cell).length ≤ initial.length + state.written.length * weight
  holding : ∀ who items, state.phase who = .holding items →
    items = store.read state.cell ∨ items.length < initial.length + state.written.length * weight
  full : Full store initial weight state → store.read state.cell = initial ++ state.written.flatMap added

end

section

variable {store : Store Caller Cell Item} {added : Caller → List Item} {initial : List Item} {weight : Nat}

theorem length_flatMap_added (weighs : ∀ who, (added who).length = weight) (callers : List Caller) :
    (callers.flatMap added).length = callers.length * weight := by
  induction callers with
  | nil => simp
  | cons who callers ih =>
      rw [List.flatMap_cons, List.length_append, ih, weighs, List.length_cons, Nat.succ_mul, Nat.add_comm]

theorem bounded_start {cell : Cell} (initially : store.read cell = initial) :
    Bounded store added initial weight (start cell) where
  once := List.nodup_nil
  written := by simp [start]
  cell := by simp [start, initially]
  holding := by simp [start]
  full := by simp [start, initially]

variable {state : State Caller Cell Item} {who : Caller} {items : List Item}

theorem Bounded.length_le (bounded : Bounded store added initial weight state)
    (holds : state.phase who = .holding items) :
    items.length ≤ initial.length + state.written.length * weight := by
  rcases bounded.holding who items holds with rfl | short
  · exact bounded.cell
  · exact short.le

theorem Bounded.not_written (bounded : Bounded store added initial weight state)
    (holds : state.phase who = .holding items) : who ∉ state.written := by
  rw [← bounded.written, holds]
  simp

section

variable [DecidableEq Caller]

theorem step_begun (begun : state.phase who = .begun) : step store state who =
    { state with phase := Function.update state.phase who (.holding (store.read state.cell)) } := by
  simp only [step, begun]

theorem step_written {cell : Cell} (holds : state.phase who = .holding items)
    (writes : store.write who items state.cell = some cell) : step store state who =
    { cell
      phase := Function.update state.phase who .finished
      written := state.written ++ [who] } := by
  simp only [step, holds, writes]

theorem step_refused (holds : state.phase who = .holding items) (refused : store.write who items state.cell = none) :
    step store state who = { state with phase := Function.update state.phase who .failed } := by
  simp only [step, holds, refused]

theorem step_finished (finished : state.phase who = .finished) : step store state who = state := by
  simp only [step, finished]

theorem step_failed (failed : state.phase who = .failed) : step store state who = state := by
  simp only [step, failed]

theorem bounded_read (bounded : Bounded store added initial weight state) (begun : state.phase who = .begun) :
    Bounded store added initial weight (step store state who) := by
  rw [step_begun begun]
  refine { bounded with written := ?_, holding := ?_ }
  · intro caller
    rw [← bounded.written]
    by_cases same : caller = who
    · simp [same, begun]
    · simp [same]
  · intro caller items
    dsimp only
    by_cases same : caller = who
    · subst same
      rw [Function.update_self]
      intro holds
      exact .inl (Phase.holding.inj holds).symm
    · rw [Function.update_of_ne same]
      exact bounded.holding caller items

theorem bounded_refused (bounded : Bounded store added initial weight state)
    (holds : state.phase who = .holding items) (refused : store.write who items state.cell = none) :
    Bounded store added initial weight (step store state who) := by
  rw [step_refused holds refused]
  refine { bounded with written := ?_, holding := ?_ }
  · intro caller
    rw [← bounded.written]
    by_cases same : caller = who
    · simp [same, holds]
    · simp [same]
  · intro caller items
    dsimp only
    by_cases same : caller = who
    · simp [same]
    · rw [Function.update_of_ne same]
      exact bounded.holding caller items

end

variable [Fintype Caller]

theorem Bounded.room (bounded : Bounded store added initial weight state)
    (holds : state.phase who = .holding items) :
    state.written.length * weight + weight ≤ Fintype.card Caller * weight := by
  have once : (who :: state.written).Nodup := List.nodup_cons.mpr ⟨bounded.not_written holds, bounded.once⟩
  rw [← Nat.succ_mul]
  exact Nat.mul_le_mul_right weight once.length_le_card

variable {cell : Cell}

theorem Bounded.read_write (log : Appends store added initial weight)
    (bounded : Bounded store added initial weight state) (holds : state.phase who = .holding items)
    (writes : store.write who items state.cell = some cell) : store.read cell = items ++ added who := by
  have room := bounded.room holds
  have length := bounded.length_le holds
  exact log.appends who items state.cell cell (by omega) writes

variable [DecidableEq Caller]

theorem full_write_iff (log : Appends store added initial weight)
    (bounded : Bounded store added initial weight state) (holds : state.phase who = .holding items)
    (writes : store.write who items state.cell = some cell) :
    Full store initial weight (step store state who) ↔
      Full store initial weight state ∧ store.read state.cell = items := by
  have length := log.weighs who
  rw [Full, Full, step_written holds writes, bounded.read_write log holds writes,
    List.length_append, List.length_append,
    List.length_singleton, Nat.succ_mul]
  rcases bounded.holding who items holds with rfl | short
  · rw [and_iff_left rfl]
    omega
  · constructor
    · omega
    · rintro ⟨full, rfl⟩
      omega

theorem bounded_write (log : Appends store added initial weight)
    (bounded : Bounded store added initial weight state) (holds : state.phase who = .holding items)
    (writes : store.write who items state.cell = some cell) :
    Bounded store added initial weight (step store state who) := by
  have full := full_write_iff log bounded holds writes
  have positive := log.positive
  have length := log.weighs who
  have before := bounded.length_le holds
  have grown : (state.written ++ [who]).length * weight = state.written.length * weight + weight := by
    rw [List.length_append, List.length_singleton, Nat.succ_mul]
  rw [step_written holds writes] at full ⊢
  refine ⟨?_, ?_, ?_, ?_, ?_⟩
  · rw [List.nodup_append_comm]
    exact List.nodup_cons.mpr ⟨bounded.not_written holds, bounded.once⟩
  · intro caller
    by_cases same : caller = who
    · simp [same]
    · simp [same, bounded.written]
  · rw [bounded.read_write log holds writes, List.length_append, grown]
    omega
  · intro caller held
    dsimp only
    by_cases same : caller = who
    · simp [same]
    · rw [Function.update_of_ne same, grown]
      intro holding
      have short := bounded.length_le holding
      exact .inr (by omega)
  · intro filled
    obtain ⟨was, rfl⟩ := full.mp filled
    rw [bounded.read_write log holds writes, bounded.full was, List.flatMap_append, List.flatMap_singleton,
      List.append_assoc]

theorem bounded_step (log : Appends store added initial weight)
    (bounded : Bounded store added initial weight state) (who : Caller) :
    Bounded store added initial weight (step store state who) := by
  cases phase : state.phase who with
  | begun => exact bounded_read bounded phase
  | holding items =>
      cases writes : store.write who items state.cell with
      | none => exact bounded_refused bounded phase writes
      | some cell => exact bounded_write log bounded phase writes
  | finished => rwa [step_finished phase]
  | failed => rwa [step_failed phase]

theorem full_step_iff (log : Appends store added initial weight)
    (bounded : Bounded store added initial weight state) (who : Caller) :
    Full store initial weight (step store state who) ↔
      Full store initial weight state ∧ Undisturbed store state who := by
  cases phase : state.phase who with
  | begun => simp [step_begun phase, Full, Undisturbed, phase]
  | holding items =>
      cases writes : store.write who items state.cell with
      | none =>
          rw [step_refused phase writes]
          refine (and_iff_left ?_).symm
          intro held cell holds accepted
          rw [← Phase.holding.inj (phase.symm.trans holds), writes] at accepted
          contradiction
      | some cell =>
          rw [full_write_iff log bounded phase writes]
          refine and_congr_right fun _ => ⟨?_, fun undisturbed => undisturbed items cell phase writes⟩
          rintro same held other holds -
          rw [same, Phase.holding.inj (phase.symm.trans holds)]
  | finished => simp [step_finished phase, Undisturbed, phase]
  | failed => simp [step_failed phase, Undisturbed, phase]

/-- When all callers have written, the log has the items of each of them once, in some order,
exactly when no write found the log changed since its read. -/
theorem all_kept_iff {cell : Cell} (log : Appends store added (store.read cell) weight) (schedule : List Caller)
    (finished : ∀ who, (Runs.run (step store) (start cell) schedule).phase who = .finished) :
    (∃ order : List Caller, order.Nodup ∧ (∀ who, who ∈ order) ∧
        store.read (Runs.run (step store) (start cell) schedule).cell = store.read cell ++ order.flatMap added) ↔
      Runs.Always (step store) (Undisturbed store) (start cell) schedule := by
  have begin : Bounded store added (store.read cell) weight (start cell) := bounded_start rfl
  have bounded := Runs.invariant_run (Bounded store added (store.read cell) weight)
    (fun _ who bounded => bounded_step log bounded who) begin schedule
  have always := Runs.property_run_iff (Bounded store added (store.read cell) weight)
    (Full store (store.read cell) weight) (Undisturbed store) (fun _ who bounded => bounded_step log bounded who)
    (fun _ who bounded => full_step_iff log bounded who) (start cell) schedule begin
  have full : Full store (store.read cell) weight (start cell : State Caller Cell Item) := by
    simp [Full, start]
  have all : ∀ who, who ∈ (Runs.run (step store) (start cell) schedule).written :=
    fun who => (bounded.written who).mp (finished who)
  rw [and_iff_right full] at always
  rw [← always]
  constructor
  · rintro ⟨order, once, complete, kept⟩
    have same : order.length = (Runs.run (step store) (start cell) schedule).written.length := by
      refine List.Perm.length_eq ((List.perm_ext_iff_of_nodup once bounded.once).mpr fun who => ?_)
      exact iff_of_true (complete who) (all who)
    rw [Full, kept, List.length_append, length_flatMap_added log.weighs, same]
  · intro kept
    exact ⟨_, bounded.once, all, bounded.full kept⟩

end

end SharedLog
