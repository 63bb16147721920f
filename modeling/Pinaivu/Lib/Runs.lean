import Mathlib.Data.List.Induction

/-!
Runs of a system that takes one event after another, and predicates that hold at
every step of a run.
-/

namespace Runs

variable {State Event : Type} (step : State → Event → State)

def run (start : State) (events : List Event) : State := events.foldl step start

/-- `P` holds of every event of the run and the state in which it happens. -/
def Always (P : State → Event → Prop) : State → List Event → Prop
  | _, [] => True
  | state, event :: rest => P state event ∧ Always P (step state event) rest

@[simp]
theorem run_nil (start : State) : run step start [] = start := rfl

@[simp]
theorem run_cons (start : State) (event : Event) (rest : List Event) :
    run step start (event :: rest) = run step (step start event) rest := rfl

theorem run_append (start : State) (first rest : List Event) :
    run step start (first ++ rest) = run step (run step start first) rest := by
  simp [run, List.foldl_append]

theorem run_concat (start : State) (events : List Event) (last : Event) :
    run step start (events ++ [last]) = step (run step start events) last := by
  rw [run_append, run_cons, run_nil]

variable {step}

theorem always_append (P : State → Event → Prop) (start : State) (first rest : List Event) :
    Always step P start (first ++ rest) ↔
      Always step P start first ∧ Always step P (run step start first) rest := by
  induction first generalizing start with
  | nil => simp [Always]
  | cons event first ih => simp only [List.cons_append, Always, run_cons, ih, and_assoc]

theorem always_iff_split (P : State → Event → Prop) (start : State) (events : List Event) :
    Always step P start events ↔
      ∀ first event rest, events = first ++ event :: rest → P (run step start first) event := by
  constructor
  · rintro always first event rest rfl
    exact ((always_append P start first _).mp always).2.1
  · intro split
    induction events generalizing start with
    | nil => trivial
    | cons event events ih =>
        refine ⟨split [] event events rfl, ih (step start event) ?_⟩
        rintro first later rest rfl
        exact split (event :: first) later rest rfl

theorem always_mono {P Q : State → Event → Prop} (weaker : ∀ state event, P state event → Q state event)
    {start : State} {events : List Event} (always : Always step P start events) :
    Always step Q start events := by
  induction events generalizing start with
  | nil => trivial
  | cons event rest ih => exact ⟨weaker start event always.1, ih always.2⟩

theorem invariant_run (Invariant : State → Prop)
    (keep : ∀ state event, Invariant state → Invariant (step state event)) {start : State}
    (holds : Invariant start) (events : List Event) : Invariant (run step start events) := by
  induction events generalizing start with
  | nil => exact holds
  | cons event rest ih => exact ih (keep start event holds)

/-- A property that holds only at the end of a run was brought about by one of its steps. -/
theorem exists_step_of_run (P : State → Prop) {start : State} (before : ¬P start) {events : List Event}
    (after : P (run step start events)) :
    ∃ first event rest, events = first ++ event :: rest ∧ ¬P (run step start first) ∧
      P (step (run step start first) event) := by
  induction events generalizing start with
  | nil => exact absurd after before
  | cons event events ih =>
      by_cases now : P (step start event)
      · exact ⟨[], event, events, rfl, before, now⟩
      · obtain ⟨first, later, rest, rfl, unchanged, changed⟩ := ih now after
        exact ⟨event :: first, later, rest, rfl, unchanged, changed⟩

/-- A property that each step keeps exactly when its condition holds, and never restores,
holds after a run exactly when the condition held at every step. -/
theorem property_run_iff (Base Property : State → Prop) (P : State → Event → Prop)
    (base : ∀ state event, Base state → Base (step state event))
    (exact : ∀ state event, Base state → (Property (step state event) ↔ Property state ∧ P state event))
    (start : State) (events : List Event) (holds : Base start) :
    Property (run step start events) ↔ Property start ∧ Always step P start events := by
  induction events generalizing start with
  | nil => simp [Always]
  | cons event rest ih =>
      rw [run_cons, ih (step start event) (base start event holds), exact start event holds, Always, and_assoc]

/-- Two predicates that agree as long as the invariant holds, which each good step
keeps, hold in the same runs. -/
theorem always_congr (Invariant : State → Prop) (P Q : State → Event → Prop)
    (keep : ∀ state event, Invariant state → Q state event → Invariant (step state event))
    (agree : ∀ state event, Invariant state → (P state event ↔ Q state event))
    (start : State) (events : List Event) (holds : Invariant start) :
    Always step P start events ↔ Always step Q start events := by
  induction events generalizing start with
  | nil => exact Iff.rfl
  | cons event rest ih =>
      constructor
      · rintro ⟨now, later⟩
        have good := (agree start event holds).mp now
        exact ⟨good, (ih _ (keep start event holds good)).mp later⟩
      · rintro ⟨good, later⟩
        exact ⟨(agree start event holds).mpr good, (ih _ (keep start event holds good)).mpr later⟩

theorem reached_iff_always (Property : State → Prop) {start : State} (holds : Property start)
    (events : List Event) :
    (∀ first rest, events = first ++ rest → Property (run step start first)) ↔
      Always step (fun state event => Property (step state event)) start events := by
  rw [always_iff_split]
  constructor
  · rintro reached first event rest rfl
    have after := reached (first ++ [event]) rest (by simp)
    rwa [run_concat] at after
  · intro stepped first rest split
    rcases first.eq_nil_or_concat with rfl | ⟨before, last, rfl⟩
    · exact holds
    · rw [List.concat_eq_append] at split ⊢
      rw [run_concat]
      exact stepped before last rest (by simpa using split)

section

variable {Other : Type} {otherStep : Other → Event → Other} {Related : State → Other → Prop}

theorem related_run
    (keep : ∀ state other event, Related state other → Related (step state event) (otherStep other event))
    {start : State} {otherStart : Other} (related : Related start otherStart) (events : List Event) :
    Related (run step start events) (run otherStep otherStart events) := by
  induction events generalizing start otherStart with
  | nil => exact related
  | cons event rest ih => exact ih (keep start otherStart event related)

theorem agree_iff_always (Agree : State → Other → Event → Prop) (P : State → Event → Prop)
    (keep : ∀ state other event, Related state other → Related (step state event) (otherStep other event))
    (exact : ∀ state other event, Related state other → (Agree state other event ↔ P state event))
    {start : State} {otherStart : Other} (related : Related start otherStart) (events : List Event) :
    (∀ first event rest, events = first ++ event :: rest →
        Agree (run step start first) (run otherStep otherStart first) event) ↔
      Always step P start events := by
  rw [always_iff_split]
  constructor
  · intro agree first event rest split
    exact (exact _ _ event (related_run keep related first)).mp (agree first event rest split)
  · intro condition first event rest split
    exact (exact _ _ event (related_run keep related first)).mpr (condition first event rest split)

/-- A relation of two systems holds at every point of a run exactly when each step of the first
meets the condition under which the relation is kept. -/
theorem reached_related_iff (Property : State → Other → Prop) (P : State → Event → Prop)
    (keep : ∀ state other event, Related state other → Related (step state event) (otherStep other event))
    (exact : ∀ state other event, Related state other → Property state other →
      (Property (step state event) (otherStep other event) ↔ P state event))
    {start : State} {otherStart : Other} (related : Related start otherStart)
    (holds : Property start otherStart) (events : List Event) :
    (∀ first rest, events = first ++ rest → Property (run step start first) (run otherStep otherStart first)) ↔
      Always step P start events := by
  induction events generalizing start otherStart with
  | nil =>
      refine iff_of_true ?_ trivial
      intro first rest split
      obtain ⟨rfl, -⟩ := List.append_eq_nil_iff.mp split.symm
      exact holds
  | cons event events ih =>
      have after := keep start otherStart event related
      have condition := exact start otherStart event related holds
      constructor
      · intro reached
        have next := reached [event] events rfl
        refine ⟨condition.mp next, (ih after next).mp ?_⟩
        rintro first rest rfl
        exact reached (event :: first) rest rfl
      · rintro ⟨now, later⟩ first rest split
        rcases first with _ | ⟨head, first⟩
        · exact holds
        · obtain ⟨rfl, rest⟩ := List.cons_eq_cons.mp split
          exact (ih after (condition.mpr now)).mpr later first _ rest

end

section

variable {Output : Type}

def outputs (step : State → Event → State) (output : State → Event → List Output) :
    State → List Event → List Output
  | _, [] => []
  | state, event :: rest => output state event ++ outputs step output (step state event) rest

variable {output : State → Event → List Output}

theorem outputs_append (start : State) (first rest : List Event) :
    outputs step output start (first ++ rest) =
      outputs step output start first ++ outputs step output (run step start first) rest := by
  induction first generalizing start with
  | nil => rfl
  | cons event first ih => rw [List.cons_append, outputs, outputs, ih, List.append_assoc, run_cons]

/-- An observer cannot tell that the hidden events of a run are left out when they change
nothing of what the states agree on. -/
theorem outputs_filter (visible : Event → Bool) (Agree : State → State → Prop)
    (hidden : ∀ state other event, visible event = false → Agree state other →
      Agree (step state event) other ∧ output state event = [])
    (shown : ∀ state other event, Agree state other →
      Agree (step state event) (step other event) ∧ output state event = output other event)
    {start other : State} (agree : Agree start other) (events : List Event) :
    outputs step output start events = outputs step output other (events.filter visible) := by
  induction events generalizing start other with
  | nil => rfl
  | cons event rest ih =>
      cases sees : visible event with
      | false =>
          obtain ⟨after, silent⟩ := hidden start other event sees agree
          rw [List.filter_cons_of_neg (by simp [sees]), outputs, silent, List.nil_append, ih after]
      | true =>
          obtain ⟨after, same⟩ := shown start other event agree
          rw [List.filter_cons_of_pos sees, outputs, outputs, same, ih after]

end

section

variable {Other Move : Type} {otherStep : Other → Move → Other} {abstract : State → Other}
  {moves : State → Event → List Move}

/-- A system whose every step makes some moves of a simpler one follows it over a run. -/
theorem abstract_run
    (simulates : ∀ state event, abstract (step state event) = run otherStep (abstract state) (moves state event))
    (start : State) (events : List Event) :
    abstract (run step start events) = run otherStep (abstract start) (outputs step moves start events) := by
  induction events generalizing start with
  | nil => rfl
  | cons event rest ih => rw [run_cons, ih, simulates, outputs, run_append]

theorem abstract_always
    (simulates : ∀ state event, abstract (step state event) = run otherStep (abstract state) (moves state event))
    {P : State → Event → Prop} {Q : Other → Move → Prop}
    (agree : ∀ state event, P state event ↔ Always otherStep Q (abstract state) (moves state event))
    (start : State) (events : List Event) :
    Always step P start events ↔ Always otherStep Q (abstract start) (outputs step moves start events) := by
  induction events generalizing start with
  | nil => exact Iff.rfl
  | cons event rest ih => rw [Always, outputs, always_append, agree, ih, simulates]

end

section

variable {Other Move : Type} {otherStep : Other → Move → Other} {abstract : State → Other}
  {moves : State → Event → List Move} (Invariant : State → Prop)
  (keep : ∀ state event, Invariant state → Invariant (step state event))
  (simulates : ∀ state event, Invariant state →
    abstract (step state event) = run otherStep (abstract state) (moves state event))

include keep simulates

theorem abstract_run_of {start : State} (holds : Invariant start) (events : List Event) :
    abstract (run step start events) = run otherStep (abstract start) (outputs step moves start events) := by
  induction events generalizing start with
  | nil => rfl
  | cons event rest ih => rw [run_cons, ih (keep start event holds), simulates start event holds, outputs, run_append]

theorem abstract_always_of {P : State → Event → Prop} {Q : Other → Move → Prop}
    (agree : ∀ state event, Invariant state →
      (P state event ↔ Always otherStep Q (abstract state) (moves state event)))
    {start : State} (holds : Invariant start) (events : List Event) :
    Always step P start events ↔ Always otherStep Q (abstract start) (outputs step moves start events) := by
  induction events generalizing start with
  | nil => exact Iff.rfl
  | cons event rest ih =>
      rw [Always, outputs, always_append, agree start event holds, ih (keep start event holds),
        simulates start event holds]

end

theorem stable_iff (Fact : State → Prop) (start : State) (events : List Event) :
    (∀ first middle rest, events = first ++ middle ++ rest → Fact (run step start first) →
        Fact (run step start (first ++ middle))) ↔
      Always step (fun state event => Fact state → Fact (step state event)) start events := by
  rw [always_iff_split]
  constructor
  · rintro stable first event rest rfl before
    have after := stable first [event] rest (by simp) before
    rwa [run_concat] at after
  · intro keep first middle
    induction middle using List.reverseRecOn with
    | nil =>
        intro rest _ before
        rwa [List.append_nil]
    | append_singleton middle last ih =>
        intro rest split before
        rw [← List.append_assoc, run_concat]
        exact keep (first ++ middle) last rest (by simp [split])
          (ih (last :: rest) (by simp [split]) before)

/-- What the first of two events in order hands on to the second, and each event keeps, holds before every
event of a run in order. -/
theorem holds_before {Time : Type} {R : Time → Time → Prop} {time : Event → Time} (P : Time → List Event → Prop)
    (nil : ∀ now, P now []) (later : ∀ bound now events, R bound now → P bound events → P now events)
    (next : ∀ events last, P (time last) events → P (time last) (events ++ [last])) {first rest : List Event}
    {event : Event} (ordered : ((first ++ event :: rest).map time).Pairwise R) : P (time event) first := by
  induction first using List.reverseRecOn generalizing event rest with
  | nil => exact nil _
  | append_singleton first last ih =>
      rw [List.append_assoc, List.singleton_append] at ordered
      have order : R (time last) (time event) := by
        rw [List.map_append, List.map_cons, List.pairwise_append, List.pairwise_cons] at ordered
        exact ordered.2.1.1 _ (by simp)
      exact later _ _ _ order (next first last (ih ordered))

end Runs
