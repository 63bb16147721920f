import Mathlib.Order.Lattice
import Mathlib.Data.List.TakeWhile

/-!
A queue of the times that a sliding window counts. New times enter at the back, and times before a cutoff
are taken away at the front only.
-/

namespace SlidingWindow

variable {Time : Type} [LinearOrder Time]

def prune (cutoff : Time) (queue : List Time) : List Time := queue.dropWhile (· < cutoff)

theorem prune_eq_filter (cutoff : Time) {queue : List Time} (sorted : queue.Pairwise (· ≤ ·)) :
    prune cutoff queue = queue.filter (cutoff ≤ ·) := by
  induction queue with
  | nil => rfl
  | cons time rest ih =>
      obtain ⟨first, later⟩ := List.pairwise_cons.mp sorted
      rw [prune, List.dropWhile_cons]
      by_cases early : time < cutoff
      · rw [if_pos (by simpa using early), List.filter_cons_of_neg (by simpa using early)]
        exact ih later
      · -- the times behind the first that stays are not earlier than it
        have kept : ∀ other ∈ time :: rest, cutoff ≤ other := by
          intro other member
          rcases List.mem_cons.mp member with rfl | behind
          · exact not_lt.mp early
          · exact (not_lt.mp early).trans (first other behind)
        rw [if_neg (by simpa using early), List.filter_eq_self.mpr (by simpa using kept)]

def Follows (bound : Time) (queue history : List Time) : Prop :=
  ∃ dropped, history = dropped ++ queue ∧ ∀ time ∈ dropped, time < bound

theorem follows_nil (bound : Time) : Follows bound [] [] := by
  refine ⟨[], rfl, ?_⟩
  intro time member
  simp at member

theorem Follows.mono {bound cutoff : Time} {queue history : List Time} (follows : Follows bound queue history)
    (later : bound ≤ cutoff) : Follows cutoff queue history := by
  obtain ⟨dropped, split, early⟩ := follows
  exact ⟨dropped, split, fun time member => (early time member).trans_le later⟩

theorem Follows.push {bound : Time} {queue history : List Time} (follows : Follows bound queue history)
    (time : Time) : Follows bound (queue ++ [time]) (history ++ [time]) := by
  obtain ⟨dropped, rfl, early⟩ := follows
  exact ⟨dropped, List.append_assoc .., early⟩

theorem Follows.prune {bound cutoff : Time} {queue history : List Time} (follows : Follows bound queue history)
    (later : bound ≤ cutoff) : Follows cutoff (prune cutoff queue) history := by
  obtain ⟨dropped, split, early⟩ := follows.mono later
  refine ⟨dropped ++ queue.takeWhile (· < cutoff), ?_, ?_⟩
  · rw [split, List.append_assoc, SlidingWindow.prune, List.takeWhile_append_dropWhile]
  · intro time member
    rcases List.mem_append.mp member with before | taken
    · exact early time before
    · simpa using List.mem_takeWhile_imp taken

/-- After any earlier cutoffs, what stays behind this one is what was recorded from it on. -/
theorem Follows.prune_eq {bound cutoff : Time} {queue history : List Time} (follows : Follows bound queue history)
    (later : bound ≤ cutoff) (sorted : history.Pairwise (· ≤ ·)) :
    SlidingWindow.prune cutoff queue = history.filter (cutoff ≤ ·) := by
  obtain ⟨dropped, rfl, early⟩ := follows.mono later
  have none_kept : dropped.filter (cutoff ≤ ·) = [] := by
    apply List.filter_eq_nil_iff.mpr
    intro time member
    simpa using early time member
  rw [prune_eq_filter cutoff (List.pairwise_append.mp sorted).2.1, List.filter_append, none_kept, List.nil_append]

end SlidingWindow
