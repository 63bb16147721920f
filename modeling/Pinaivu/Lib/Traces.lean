import Mathlib.Order.Defs.Unbundled

/-!
The states that are seen during a call, whose end may be missing when the call is undone: an
invariant of each of them, and an order in which each comes after the ones before it.
-/

namespace Traces

variable {State : Type} (Invariant : State → Prop) (Later : State → State → Prop)

structure Traced (start : State) (seen : List State) (outcome : Option State) : Prop where
  invariant : ∀ state ∈ seen, Invariant state
  ordered : (start :: seen).Pairwise Later
  ended : ∀ last, outcome = some last → Invariant last ∧ ∀ state ∈ start :: seen, Later state last

variable {Invariant Later}

theorem traced_nil [Std.Refl Later] {start : State} (holds : Invariant start) :
    Traced Invariant Later start [] (some start) where
  invariant := by simp
  ordered := List.pairwise_singleton Later start
  ended := by
    rintro last same
    obtain rfl := Option.some.inj same
    refine ⟨holds, ?_⟩
    simpa using Std.Refl.refl start

theorem traced_here [Std.Refl Later] {start : State} (holds : Invariant start) {outcome : Option State}
    (ends : ∀ last, outcome = some last → last = start) : Traced Invariant Later start [start] outcome where
  invariant := by simpa using holds
  ordered := by simpa using Std.Refl.refl start
  ended := by
    rintro last same
    obtain rfl := ends last same
    refine ⟨holds, ?_⟩
    simpa using Std.Refl.refl last

theorem Traced.step [IsTrans State Later] {start middle last : State} {seen : List State}
    (traced : Traced Invariant Later start seen (some middle)) (holds : Invariant last)
    (later : Later middle last) : Traced Invariant Later start seen (some last) where
  invariant := traced.invariant
  ordered := traced.ordered
  ended := by
    rintro other same
    obtain rfl := Option.some.inj same
    refine ⟨holds, ?_⟩
    intro state member
    exact IsTrans.trans _ _ _ ((traced.ended middle rfl).2 state member) later

theorem Traced.append [IsTrans State Later] {start middle : State} {seen rest : List State}
    {outcome : Option State} (first : Traced Invariant Later start seen (some middle))
    (second : Traced Invariant Later middle rest outcome) :
    Traced Invariant Later start (seen ++ rest) outcome where
  invariant := by
    intro state member
    rcases List.mem_append.mp member with before | after
    · exact first.invariant state before
    · exact second.invariant state after
  ordered := by
    rw [← List.cons_append, List.pairwise_append]
    refine ⟨first.ordered, (List.pairwise_cons.mp second.ordered).2, ?_⟩
    intro state before other after
    exact IsTrans.trans _ _ _ ((first.ended middle rfl).2 state before)
      ((List.pairwise_cons.mp second.ordered).1 other after)
  ended := by
    intro last same
    obtain ⟨holds, later⟩ := second.ended last same
    refine ⟨holds, ?_⟩
    intro state member
    rw [← List.cons_append] at member
    rcases List.mem_append.mp member with before | after
    · exact IsTrans.trans _ _ _ ((first.ended middle rfl).2 state before) (later middle List.mem_cons_self)
    · exact later state (List.mem_cons_of_mem middle after)

end Traces
