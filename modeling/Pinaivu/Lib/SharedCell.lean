import Mathlib.Logic.Function.Basic

/-!
Two callers that each read a shared cell, change what they read and write the result
back, with the steps of the two interleaved in any way. A caller may forget what it read.
-/

namespace SharedCell

inductive Phase (Value : Type) where
  | idle
  | pending (value : Value)
  | done

structure State (Value : Type) where
  cell : Value
  phase : Bool → Phase Value

variable {Value : Type} (update : Bool → Value → Value) (Has : Bool → Value → Prop) (Forgets : Bool → Prop)

def step (state : State Value) (who : Bool) : State Value :=
  match state.phase who with
  | .idle => { state with phase := Function.update state.phase who (.pending (update who state.cell)) }
  | .pending value => { cell := value, phase := Function.update state.phase who .done }
  | .done => state

/-- The value that a finished caller's work ends up in: the cell, unless the other is
about to overwrite it. -/
def State.outcome (state : State Value) (who : Bool) : Value :=
  match state.phase !who with
  | .pending value => value
  | _ => state.cell

def Kept (state : State Value) : Prop := ∀ who, state.phase who = .done → Has who (state.outcome who)

/-- The caller writes while the other is about to, and the other's value lacks its work;
or it reads the other's work and forgets it. -/
def Loses (state : State Value) (who : Bool) : Prop :=
  (∃ mine value, state.phase who = .pending mine ∧ state.phase (!who) = .pending value ∧ ¬ Has who value) ∨
    (state.phase who = .idle ∧ state.phase (!who) = .done ∧ Forgets who)

def PendingHas (state : State Value) : Prop := ∀ who value, state.phase who = .pending value → Has who value

variable {update Has Forgets}

theorem pendingHas_step (own : ∀ who value, Has who (update who value)) {state : State Value} {who : Bool}
    (pendingHas : PendingHas Has state) : PendingHas Has (step update state who) := by
  intro caller value
  cases mine : state.phase who with
  | idle =>
      by_cases same : caller = who
      · subst same
        simp only [step, mine, Function.update_self, Phase.pending.injEq]
        rintro rfl
        exact own caller state.cell
      · simpa [step, mine, same] using pendingHas caller value
  | pending written =>
      by_cases same : caller = who
      · simp [step, mine, same]
      · simpa [step, mine, same] using pendingHas caller value
  | done => simpa [step, mine] using pendingHas caller value

/-- A step keeps the work of the finished callers unless it loses its own. -/
theorem kept_step_iff (other : ∀ who value, Has (!who) (update who value) ↔ ¬ Forgets who ∧ Has (!who) value)
    (state : State Value) (who : Bool) (pendingHas : PendingHas Has state) :
    Kept Has (step update state who) ↔ Kept Has state ∧ ¬ Loses Has Forgets state who := by
  have split : ∀ after : State Value, Kept Has after ↔
      (after.phase who = .done → Has who (after.outcome who)) ∧
        (after.phase (!who) = .done → Has (!who) (after.outcome !who)) := by
    intro after
    cases who <;> simp [Kept, Bool.forall_bool, and_comm]
  rw [split, split]
  cases mine : state.phase who with
  | idle =>
      cases theirs : state.phase !who <;> simp [step, mine, theirs, Loses, State.outcome, other, and_comm]
  | pending value =>
      have has := pendingHas who value mine
      cases theirs : state.phase !who <;> simp [step, mine, theirs, Loses, State.outcome, has]
  | done => simp [step, mine, Loses]

end SharedCell
