import Mathlib.Data.List.Nodup
import Mathlib.Data.List.Range
import Mathlib.Logic.Function.Basic
import Pinaivu.Lib.Runs

/-!
Tickets read off a shared counter. Each caller first reads the counter and later uses the number
that it read, which counts the counter up.
-/

namespace Tickets

variable {Caller : Type}

structure State (Caller : Type) where
  count : Nat
  used : List Nat
  held : Caller → Option Nat

inductive Move (Caller : Type) where
  | take (who : Caller)
  | use (who : Caller)
  | drop (who : Caller)

def start (count : Nat) : State Caller := ⟨count, [], fun _ => none⟩

variable [DecidableEq Caller]

def step (state : State Caller) : Move Caller → State Caller
  | .take who => { state with held := Function.update state.held who (some state.count) }
  | .use who =>
      match state.held who with
      | none => state
      | some ticket =>
          { count := state.count + 1
            used := state.used ++ [ticket]
            held := Function.update state.held who none }
  | .drop who => { state with held := Function.update state.held who none }

/-- A ticket is used while the counter still shows it. -/
def Fresh (state : State Caller) : Move Caller → Prop
  | .use who => ∀ ticket, state.held who = some ticket → ticket = state.count
  | _ => True

structure Orderly (first : Nat) (state : State Caller) : Prop where
  above : first ≤ state.count
  used : state.used = List.range' first (state.count - first)
  held : ∀ who ticket, state.held who = some ticket → first ≤ ticket ∧ ticket ≤ state.count

omit [DecidableEq Caller] in
theorem orderly_start (count : Nat) : Orderly count (start count : State Caller) := by
  refine ⟨le_rfl, ?_, ?_⟩
  · simp [start]
  · intro who ticket held
    contradiction

theorem Orderly.use {first : Nat} {state : State Caller} (orderly : Orderly first state) {who : Caller}
    (held : state.held who = some state.count) : Orderly first (step state (.use who)) := by
  have above := orderly.above
  refine ⟨?_, ?_, ?_⟩
  · simp only [step, held]
    omega
  · have next : state.count + 1 - first = state.count - first + 1 := by omega
    have last : first + (state.count - first) = state.count := by omega
    simp only [step, held]
    rw [orderly.used, next, List.range'_1_concat, last]
  · intro other ticket kept
    simp only [step, held, Function.update_apply] at kept ⊢
    split at kept
    · contradiction
    · obtain ⟨lower, upper⟩ := orderly.held other ticket kept
      exact ⟨lower, by omega⟩

theorem orderly_step {first : Nat} {state : State Caller} {move : Move Caller} (orderly : Orderly first state)
    (fresh : Fresh state move) : Orderly first (step state move) := by
  cases move with
  | take who =>
      refine ⟨orderly.above, orderly.used, ?_⟩
      intro other ticket held
      simp only [step, Function.update_apply] at held
      split at held
      · obtain rfl := Option.some.inj held
        exact ⟨orderly.above, le_rfl⟩
      · exact orderly.held other ticket held
  | use who =>
      cases held : state.held who with
      | none => simpa only [step, held] using orderly
      | some ticket =>
          obtain rfl := fresh ticket held
          exact orderly.use held
  | drop who =>
      refine ⟨orderly.above, orderly.used, ?_⟩
      intro other ticket held
      simp only [step, Function.update_apply] at held
      split at held
      · contradiction
      · exact orderly.held other ticket held

theorem nodup_step_iff {first : Nat} {state : State Caller} (orderly : Orderly first state) (move : Move Caller) :
    (step state move).used.Nodup ↔ Fresh state move := by
  have distinct : state.used.Nodup := orderly.used ▸ List.nodup_range'
  cases move with
  | take who => exact iff_of_true distinct trivial
  | drop who => exact iff_of_true distinct trivial
  | use who =>
      cases held : state.held who with
      | none => simpa only [step, held, Fresh, reduceCtorEq, false_imp_iff, implies_true, iff_true] using distinct
      | some ticket =>
          obtain ⟨lower, upper⟩ := orderly.held who ticket held
          have above := orderly.above
          have member : ticket ∈ state.used ↔ ticket < state.count := by
            rw [orderly.used, List.mem_range'_1]
            omega
          have once : (state.used ++ [ticket]).Nodup ↔ ticket ∉ state.used := by
            rw [List.nodup_append_comm, List.singleton_append, List.nodup_cons, and_iff_left distinct]
          simp only [step, held, Fresh, Option.some.injEq, forall_eq', once, member]
          omega

theorem used_extends (state : State Caller) (move : Move Caller) : state.used <+: (step state move).used := by
  cases move with
  | take who => exact List.prefix_rfl
  | drop who => exact List.prefix_rfl
  | use who =>
      cases held : state.held who with
      | none => simp only [step, held, List.prefix_rfl]
      | some ticket =>
          simp only [step, held]
          exact List.prefix_append _ _

/-- The used tickets are distinct exactly when each was fresh. -/
theorem used_nodup_iff (count : Nat) (moves : List (Move Caller)) :
    (Runs.run step (start count) moves).used.Nodup ↔ Runs.Always step Fresh (start count) moves := by
  have reached : (∀ first rest, moves = first ++ rest → (Runs.run step (start count) first).used.Nodup) ↔
      (Runs.run step (start count : State Caller) moves).used.Nodup := by
    constructor
    · intro all
      exact all moves [] (by simp)
    · rintro distinct first rest rfl
      rw [Runs.run_append] at distinct
      refine List.Nodup.sublist ?_ distinct
      exact (Runs.invariant_run (fun state : State Caller => (Runs.run step (start count) first).used <+: state.used)
        (fun state move before => before.trans (used_extends state move)) List.prefix_rfl rest).sublist
  rw [← reached, Runs.reached_iff_always (fun state : State Caller => state.used.Nodup) List.nodup_nil]
  exact Runs.always_congr (Orderly count) _ _ (fun _ _ => orderly_step)
    (fun _ move orderly => nodup_step_iff orderly move) _ _ (orderly_start count)

end Tickets
