import Mathlib.Data.List.Induction
import Mathlib.Data.List.Nodup

/-!
Callers that share a log. Each enters itself in the log, takes a copy of it at once, and publishes
its copy at some later time; the copy that was published last is the current one.
-/

namespace Snapshots

inductive Act where
  | append
  | publish
  deriving DecidableEq, Repr

structure State (Caller : Type) where
  log : List Caller
  copy : Caller → Option (List Caller)
  current : Option Caller

variable {Caller : Type}

def start : State Caller := ⟨[], fun _ => none, none⟩

def State.take [DecidableEq Caller] (state : State Caller) (who : Caller) : Act → State Caller
  | .append =>
      { state with
        log := state.log ++ [who]
        copy := Function.update state.copy who (some (state.log ++ [who])) }
  | .publish => { state with current := some who }

def State.takeAll [DecidableEq Caller] (state : State Caller) (acts : List (Act × Caller)) : State Caller :=
  acts.foldl (fun state act => state.take act.2 act.1) state

def lastTo (act : Act) (acts : List (Act × Caller)) : Option Caller :=
  ((acts.filter fun done => done.1 = act).getLast?).map Prod.snd

structure WellFormed (state : State Caller) : Prop where
  once : state.log.Nodup
  entered : ∀ who, who ∈ state.log ↔ (state.copy who).isSome
  copied : ∀ who items, state.copy who = some items →
    ∃ later, state.log = items ++ later ∧ items.getLast? = some who

theorem wellFormed_start : WellFormed (start : State Caller) where
  once := List.nodup_nil
  entered := by simp [start]
  copied := by simp [start]

/-- A copy is complete exactly when nobody has entered the log since. -/
theorem WellFormed.complete_iff {state : State Caller} (wf : WellFormed state) {who : Caller}
    {items : List Caller} (copied : state.copy who = some items) :
    items = state.log ↔ state.log.getLast? = some who := by
  obtain ⟨later, split, ends⟩ := wf.copied who items copied
  constructor
  · rintro rfl
    exact ends
  · intro last
    cases later with
    | nil => simpa using split.symm
    | cons next later =>
        have entered : who ∈ items := List.mem_of_getLast? ends
        have after : who ∈ next :: later := by
          rw [split, List.getLast?_append_of_ne_nil _ (List.cons_ne_nil _ _)] at last
          exact List.mem_of_getLast? last
        have once := wf.once
        rw [split, List.nodup_append] at once
        exact absurd rfl (once.2.2 who entered who after)

theorem lastTo_concat (act : Act) (acts : List (Act × Caller)) (last : Act × Caller) :
    lastTo act (acts ++ [last]) = if last.1 = act then some last.2 else lastTo act acts := by
  by_cases same : last.1 = act <;> simp [lastTo, same]

variable [DecidableEq Caller]

theorem wellFormed_append {state : State Caller} (wf : WellFormed state) {who : Caller}
    (fresh : state.copy who = none) : WellFormed (state.take who .append) where
  once := by
    have absent : who ∉ state.log := by simp [wf.entered, fresh]
    refine List.nodup_append.mpr ⟨wf.once, List.nodup_singleton who, ?_⟩
    rintro entered member last single rfl
    exact absent (List.mem_singleton.mp single ▸ member)
  entered other := by
    by_cases same : other = who
    · simp [State.take, same]
    · simp [State.take, same, wf.entered]
  copied other items := by
    by_cases same : other = who
    · subst same
      intro found
      obtain rfl : state.log ++ [other] = items := by simpa [State.take] using found
      exact ⟨[], by simp [State.take], by simp⟩
    · intro found
      obtain ⟨later, split, ends⟩ := wf.copied other items (by simpa [State.take, same] using found)
      exact ⟨later ++ [who], by simp [State.take, split], ends⟩

theorem wellFormed_publish {state : State Caller} (wf : WellFormed state) (who : Caller) :
    WellFormed (state.take who .publish) := ⟨wf.once, wf.entered, wf.copied⟩

theorem takeAll_append (state : State Caller) (first rest : List (Act × Caller)) :
    state.takeAll (first ++ rest) = (state.takeAll first).takeAll rest := List.foldl_append

/-- What only one kind of act changes, to whoever does it, shows who did it last. -/
theorem takeAll_latest (read : State Caller → Option Caller) (act : Act) (none_yet : read start = none)
    (each : ∀ state who done, read (state.take who done) = if done = act then some who else read state)
    (acts : List (Act × Caller)) : read (start.takeAll acts) = lastTo act acts := by
  induction acts using List.reverseRecOn with
  | nil => exact none_yet
  | append_singleton acts last ih =>
      rw [takeAll_append, lastTo_concat, ← ih]
      exact each _ last.2 last.1

theorem takeAll_log_getLast? (acts : List (Act × Caller)) :
    (start.takeAll acts).log.getLast? = lastTo .append acts := by
  apply takeAll_latest (fun state => state.log.getLast?) .append rfl
  intro state who done
  cases done <;> simp [State.take]

theorem takeAll_current (acts : List (Act × Caller)) :
    (start.takeAll acts).current = lastTo .publish acts := by
  apply takeAll_latest State.current .publish rfl
  intro state who done
  cases done <;> simp [State.take]

end Snapshots
