import Mathlib.Data.List.Induction
import Mathlib.Algebra.Order.Ring.Nat

/-!
The longest suffix of a list whose costs stay within a budget, and the walk from the last item
back that finds it.
-/

namespace SuffixBudget

variable {Item : Type} (cost : Item → Nat)

def total : List Item → Nat
  | [] => 0
  | item :: rest => cost item + total rest

theorem total_append (first rest : List Item) :
    total cost (first ++ rest) = total cost first + total cost rest := by
  induction first with
  | nil => simp [total]
  | cons item first ih =>
      rw [List.cons_append, total, total, ih]
      omega

theorem total_reverse (items : List Item) : total cost items.reverse = total cost items := by
  induction items with
  | nil => rfl
  | cons item items ih =>
      rw [List.reverse_cons, total_append, ih, total, total, total]
      omega

theorem total_le_of_suffix {kept items : List Item} (suffix : kept <:+ items) :
    total cost kept ≤ total cost items := by
  obtain ⟨older, rfl⟩ := suffix
  rw [total_append]
  omega

structure LongestWithin (budget : Nat) (items kept : List Item) : Prop where
  suffix : kept <:+ items
  fits : total cost kept ≤ budget
  longest : ∀ other, other <:+ items → total cost other ≤ budget → other.length ≤ kept.length

variable {cost}

theorem LongestWithin.suffix_of_fits {budget : Nat} {items kept other : List Item}
    (within : LongestWithin cost budget items kept) (suffix : other <:+ items)
    (fits : total cost other ≤ budget) : other <:+ kept :=
  List.suffix_of_suffix_length_le suffix within.suffix (within.longest other suffix fits)

theorem LongestWithin.unique {budget : Nat} {items kept other : List Item}
    (first : LongestWithin cost budget items kept) (second : LongestWithin cost budget items other) :
    kept = other := by
  have inside := second.suffix_of_fits first.suffix first.fits
  exact inside.eq_of_length_le (first.longest other second.suffix second.fits)

theorem LongestWithin.total_le {budget : Nat} {items kept other : List Item}
    (within : LongestWithin cost budget items kept) (suffix : other <:+ items)
    (fits : total cost other ≤ budget) : total cost other ≤ total cost kept :=
  total_le_of_suffix cost (within.suffix_of_fits suffix fits)

theorem LongestWithin.mono {budget larger : Nat} {items kept other : List Item}
    (first : LongestWithin cost budget items kept) (second : LongestWithin cost larger items other)
    (more : budget ≤ larger) : kept.length ≤ other.length :=
  second.longest kept first.suffix (first.fits.trans more)

theorem LongestWithin.eq_self {budget : Nat} {items kept : List Item}
    (within : LongestWithin cost budget items kept) (fits : total cost items ≤ budget) : kept = items :=
  within.suffix.eq_of_length_le (within.longest items List.suffix_rfl fits)

theorem longestWithin_of_all {budget : Nat} {items : List Item} (fits : total cost items ≤ budget) :
    LongestWithin cost budget items items where
  suffix := List.suffix_rfl
  fits := fits
  longest _ suffix _ := suffix.length_le

theorem longestWithin_of_over {budget : Nat} {older kept : List Item} {item : Item}
    (fits : total cost kept ≤ budget) (beyond : budget < total cost (item :: kept)) :
    LongestWithin cost budget (older ++ item :: kept) kept where
  suffix := ⟨older ++ [item], by simp⟩
  fits := fits
  longest := by
    intro other suffix within
    by_contra longer
    have inside : item :: kept <:+ other :=
      List.suffix_of_suffix_length_le (List.suffix_append older (item :: kept)) suffix
        (by rw [List.length_cons]; omega)
    have more := total_le_of_suffix cost inside
    omega

variable (cost)

/-- How many items a walk takes, from the last one back, before one goes over the budget. -/
def taken (budget : Nat) : Nat → List Item → Nat
  | _, [] => 0
  | used, item :: older =>
      if used + cost item ≤ budget then taken budget (used + cost item) older + 1 else 0

theorem taken_le (budget used : Nat) (items : List Item) : taken cost budget used items ≤ items.length := by
  induction items generalizing used with
  | nil => exact Nat.zero_le _
  | cons item older ih =>
      rw [taken, List.length_cons]
      split
      · exact Nat.succ_le_succ (ih _)
      · exact Nat.zero_le _

def window (budget : Nat) (items : List Item) : List Item :=
  items.drop (items.length - taken cost budget 0 items.reverse)

theorem walk_longest {budget : Nat} (older kept : List Item) (fits : total cost kept ≤ budget) :
    LongestWithin cost budget (older ++ kept)
      (older.drop (older.length - taken cost budget (total cost kept) older.reverse) ++ kept) := by
  induction older using List.reverseRecOn generalizing kept with
  | nil => simpa using longestWithin_of_all fits
  | append_singleton older item ih =>
      have used : total cost (item :: kept) = total cost kept + cost item := by
        rw [total, Nat.add_comm]
      rw [List.reverse_concat, taken]
      split
      next more =>
        have rest := ih (item :: kept) (used ▸ more)
        have bound := taken_le cost budget (total cost kept + cost item) older.reverse
        rw [List.length_reverse] at bound
        rw [used] at rest
        rw [List.length_append, List.length_singleton, Nat.add_sub_add_right,
          List.drop_append_of_le_length (Nat.sub_le _ _), List.append_assoc, List.append_assoc,
          List.singleton_append]
        exact rest
      next beyond =>
        have stopped := @longestWithin_of_over _ cost budget older kept item fits (by omega)
        simpa using stopped

theorem window_longest (budget : Nat) (items : List Item) :
    LongestWithin cost budget items (window cost budget items) := by
  have found := walk_longest cost items [] (Nat.zero_le budget)
  rwa [List.append_nil, List.append_nil] at found

theorem window_eq_take (budget : Nat) (items : List Item) :
    window cost budget items = (items.reverse.take (taken cost budget 0 items.reverse)).reverse := by
  rw [window, List.take_reverse, List.reverse_reverse]

end SuffixBudget
