import Mathlib.Data.List.Basic

/-!
Lists in the order of a rank: the elements of each rank stand together, and an
index tells on which side of a rank its element is.
-/

namespace Ranked

variable {Element : Type} {rank : Element → Nat}

def below (rank : Element → Nat) (bound : Nat) (elements : List Element) : List Element :=
  elements.filter fun element => rank element < bound

def above (rank : Element → Nat) (bound : Nat) (elements : List Element) : List Element :=
  elements.filter fun element => bound ≤ rank element

def group (rank : Element → Nat) (level : Nat) (elements : List Element) : List Element :=
  elements.filter fun element => rank element = level

theorem below_append_above {elements : List Element}
    (sorted : elements.Pairwise (rank · ≤ rank ·)) (bound : Nat) :
    below rank bound elements ++ above rank bound elements = elements := by
  induction elements with
  | nil => rfl
  | cons first rest ih =>
      obtain ⟨least, ordered⟩ := List.pairwise_cons.mp sorted
      have later := ih ordered
      by_cases low : rank first < bound
      · have out : ¬bound ≤ rank first := by omega
        simp only [below, above, List.filter_cons, low, out, decide_true, decide_false, if_true,
          Bool.false_eq_true, if_false, List.cons_append] at later ⊢
        rw [later]
      · -- Everything from here on has at least this rank.
        have reached : ∀ element ∈ first :: rest, bound ≤ rank element := by
          intro element member
          rcases List.mem_cons.mp member with rfl | inside
          · omega
          · have more := least element inside
            omega
        have none : below rank bound (first :: rest) = [] := by
          apply List.filter_eq_nil_iff.mpr
          intro element member
          have more := reached element member
          simp only [decide_eq_true_eq]
          omega
        have all : above rank bound (first :: rest) = first :: rest := by
          apply List.filter_eq_self.mpr
          intro element member
          exact decide_eq_true (reached element member)
        rw [none, all, List.nil_append]

theorem below_succ {elements : List Element} (sorted : elements.Pairwise (rank · ≤ rank ·))
    (bound : Nat) :
    below rank (bound + 1) elements = below rank bound elements ++ group rank bound elements := by
  have split := below_append_above (sorted.filter fun element => rank element < bound + 1) bound
  have low : below rank bound (below rank (bound + 1) elements) = below rank bound elements := by
    rw [below, below, below, List.filter_filter]
    apply List.filter_congr
    intro element _
    simp only [← Bool.decide_and, decide_eq_decide]
    omega
  have level : above rank bound (below rank (bound + 1) elements) = group rank bound elements := by
    rw [above, below, group, List.filter_filter]
    apply List.filter_congr
    intro element _
    simp only [← Bool.decide_and, decide_eq_decide]
    omega
  rw [← low, ← level]
  exact split.symm

theorem rank_lt_iff {elements : List Element} (sorted : elements.Pairwise (rank · ≤ rank ·))
    (bound : Nat) {index : Nat} {element : Element} (found : elements[index]? = some element) :
    rank element < bound ↔ index < (below rank bound elements).length := by
  rw [← below_append_above sorted bound] at found
  by_cases inside : index < (below rank bound elements).length
  · rw [List.getElem?_append_left inside] at found
    have low := (List.mem_filter.mp (List.mem_of_getElem? found)).2
    simp only [decide_eq_true_eq] at low
    exact iff_of_true low inside
  · rw [List.getElem?_append_right (Nat.le_of_not_lt inside)] at found
    have high := (List.mem_filter.mp (List.mem_of_getElem? found)).2
    simp only [decide_eq_true_eq] at high
    exact iff_of_false (Nat.not_lt.mpr high) inside

/-- A stable sort leaves the elements of a class in their order. -/
theorem filter_mergeSort {order : Element → Element → Bool}
    (trans : ∀ first second third, order first second → order second third → order first third)
    (total : ∀ first second, order first second || order second first) {keep : Element → Bool}
    (same : ∀ first second, keep first → keep second → order first second) (elements : List Element) :
    (elements.mergeSort order).filter keep = elements.filter keep := by
  have level : (elements.filter keep).Pairwise fun first second => order first second = true := by
    apply List.pairwise_of_forall_mem_list
    intro first member second other
    exact same first second (List.mem_filter.mp member).2 (List.mem_filter.mp other).2
  have inside := (List.sublist_mergeSort trans total level List.filter_sublist).filter keep
  rw [List.filter_filter] at inside
  simp only [Bool.and_self] at inside
  have sizes := ((List.mergeSort_perm elements order).filter keep).length_eq
  exact (inside.eq_of_length sizes.symm).symm

end Ranked
