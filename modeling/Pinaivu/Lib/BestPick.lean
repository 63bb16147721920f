import Mathlib.Data.List.Induction
import Mathlib.Order.WithBot

/-!
A scan of a list that keeps the first item of the greatest score, and what it keeps of a list that
is sorted by another key.
-/

namespace BestPick

variable {Item Score : Type} [LinearOrder Score]

/-- A later item is taken only when its score is greater. -/
def firstBest (score : Item → Score) (first : Item) (rest : List Item) : Item :=
  rest.foldl (fun best item => if score best < score item then item else best) first

/-- The same scan from a given score, which is below that of the first item when it is `⊥`. -/
def scan (score : Item → Score) (state : Item × WithBot Score) (items : List Item) : Item × WithBot Score :=
  items.foldl (fun state item => if state.2 < ↑(score item) then (item, ↑(score item)) else state) state

def IsFirstBest (score : Item → Score) (items : List Item) (best : Item) : Prop :=
  ∃ before after, items = before ++ best :: after ∧ (∀ item ∈ before, score item < score best) ∧
    ∀ item ∈ after, score item ≤ score best

theorem isFirstBest_firstBest (score : Item → Score) (first : Item) (rest : List Item) :
    IsFirstBest score (first :: rest) (firstBest score first rest) := by
  induction rest using List.reverseRecOn with
  | nil => exact ⟨[], [], rfl, by simp, by simp⟩
  | append_singleton rest last ih =>
      obtain ⟨before, after, split, below, above⟩ := ih
      have next : firstBest score first (rest ++ [last]) =
          if score (firstBest score first rest) < score last then last else firstBest score first rest := by
        rw [firstBest, List.foldl_append]
        rfl
      rw [next]
      split_ifs with greater
      · refine ⟨first :: rest, [], by simp, ?_, by simp⟩
        intro item member
        rw [split] at member
        rcases List.mem_append.mp member with earlier | later
        · exact (below item earlier).trans greater
        · rcases List.mem_cons.mp later with rfl | later
          · exact greater
          · exact (above item later).trans_lt greater
      · have longer : first :: (rest ++ [last]) = before ++ firstBest score first rest :: (after ++ [last]) := by
          rw [← List.cons_append, split, List.append_assoc, List.cons_append]
        refine ⟨before, after ++ [last], longer, below, ?_⟩
        intro item member
        rcases List.mem_append.mp member with later | single
        · exact above item later
        · rw [List.mem_singleton.mp single]
          exact not_lt.mp greater

theorem scan_firstBest (score : Item → Score) (best : Item) (items : List Item) :
    scan score (best, (score best : WithBot Score)) items =
      (firstBest score best items, (score (firstBest score best items) : WithBot Score)) := by
  induction items generalizing best with
  | nil => rfl
  | cons item rest ih =>
      rw [scan, List.foldl_cons, ← scan, firstBest, List.foldl_cons, ← firstBest]
      by_cases greater : score best < score item
      · rw [if_pos (WithBot.coe_lt_coe.mpr greater), if_pos greater]
        exact ih item
      · rw [if_neg fun less => greater (WithBot.coe_lt_coe.mp less), if_neg greater]
        exact ih best

theorem scan_bot (score : Item → Score) (start first : Item) (rest : List Item) :
    (scan score (start, ⊥) (first :: rest)).1 = firstBest score first rest := by
  rw [scan, List.foldl_cons, if_pos (WithBot.bot_lt_coe _), ← scan, scan_firstBest]

variable {score : Item → Score} {items : List Item} {best : Item}

theorem IsFirstBest.mem (isBest : IsFirstBest score items best) : best ∈ items := by
  obtain ⟨before, after, rfl, -⟩ := isBest
  simp

theorem IsFirstBest.le (isBest : IsFirstBest score items best) {item : Item} (member : item ∈ items) :
    score item ≤ score best := by
  obtain ⟨before, after, rfl, below, above⟩ := isBest
  rcases List.mem_append.mp member with earlier | later
  · exact (below item earlier).le
  · rcases List.mem_cons.mp later with rfl | later
    · exact le_rfl
    · exact above item later

theorem IsFirstBest.lt_of_key {Key : Type} [LinearOrder Key] {key : Item → Key} (isBest : IsFirstBest score items best)
    (sorted : items.Pairwise fun first second => key first ≤ key second) {item : Item} (member : item ∈ items)
    (less : key item < key best) : score item < score best := by
  obtain ⟨before, after, rfl, below, -⟩ := isBest
  rcases List.mem_append.mp member with earlier | later
  · exact below item earlier
  · have ordered := (List.pairwise_append.mp sorted).2.1
    rcases List.mem_cons.mp later with rfl | later
    · exact absurd less (lt_irrefl _)
    · exact absurd less (not_lt.mpr ((List.pairwise_cons.mp ordered).1 item later))

end BestPick
