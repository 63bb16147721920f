import Mathlib.Data.List.Basic

/-!
The first wanted item of a list, and when it is a right one.
-/

namespace FirstMatch

variable {α : Type} {wanted right : α → Prop}

def IsFirst (wanted : α → Prop) (items : List α) (item : α) : Prop :=
  ∃ earlier later, items = earlier ++ item :: later ∧ wanted item ∧ ∀ other ∈ earlier, ¬wanted other

/-- A wanted item that is not a right one stands behind a right one. -/
def Preceded (wanted right : α → Prop) (items : List α) : Prop :=
  ∀ earlier item later, items = earlier ++ item :: later → wanted item → ¬right item → ∃ other ∈ earlier, right other

theorem find_eq_some_iff (test : α → Bool) (items : List α) (item : α) :
    items.find? test = some item ↔ IsFirst (fun other => test other = true) items item := by
  rw [List.find?_eq_some_iff_append]
  constructor
  · rintro ⟨found, earlier, later, split, before⟩
    exact ⟨earlier, later, split, found, fun other member => by simpa using before other member⟩
  · rintro ⟨earlier, later, split, found, before⟩
    exact ⟨found, earlier, later, split, fun other member => by simpa using before other member⟩

theorem IsFirst.mem {items : List α} {item : α} (first : IsFirst wanted items item) : item ∈ items := by
  obtain ⟨earlier, later, rfl, _⟩ := first
  simp

theorem isFirst_cons_iff {head item : α} {rest : List α} :
    IsFirst wanted (head :: rest) item ↔ (wanted head ∧ head = item) ∨ (¬wanted head ∧ IsFirst wanted rest item) := by
  constructor
  · rintro ⟨earlier, later, split, found, before⟩
    cases earlier with
    | nil =>
        obtain ⟨rfl, _⟩ := List.cons.inj split
        exact Or.inl ⟨found, rfl⟩
    | cons first earlier =>
        obtain ⟨rfl, rfl⟩ := List.cons.inj split
        refine Or.inr ⟨before head List.mem_cons_self, earlier, later, rfl, found, ?_⟩
        intro other member
        exact before other (List.mem_cons_of_mem head member)
  · rintro (⟨found, rfl⟩ | ⟨unwanted, earlier, later, rfl, found, before⟩)
    · exact ⟨[], rest, rfl, found, by simp⟩
    · refine ⟨head :: earlier, later, rfl, found, ?_⟩
      intro other member
      rcases List.mem_cons.mp member with rfl | inner
      · exact unwanted
      · exact before other inner

theorem IsFirst.unique {items : List α} {item other : α} (first : IsFirst wanted items item)
    (second : IsFirst wanted items other) : item = other := by
  induction items with
  | nil => exact absurd first.mem (by simp)
  | cons head rest ih =>
      rcases isFirst_cons_iff.mp first with ⟨_, rfl⟩ | ⟨unwanted, later⟩
      · rcases isFirst_cons_iff.mp second with ⟨_, rfl⟩ | ⟨unwanted, _⟩
        · rfl
        · contradiction
      · rcases isFirst_cons_iff.mp second with ⟨found, _⟩ | ⟨_, also⟩
        · contradiction
        · exact ih later also

theorem exists_first {items : List α} {item : α} (member : item ∈ items) (found : wanted item) :
    ∃ first, IsFirst wanted items first := by
  induction items with
  | nil => simp at member
  | cons head rest ih =>
      by_cases own : wanted head
      · exact ⟨head, isFirst_cons_iff.mpr (Or.inl ⟨own, rfl⟩)⟩
      · have tail : item ∈ rest := by
          rcases List.mem_cons.mp member with rfl | tail
          · contradiction
          · exact tail
        obtain ⟨first, later⟩ := ih tail
        exact ⟨first, isFirst_cons_iff.mpr (Or.inr ⟨own, later⟩)⟩

theorem preceded_iff (sub : ∀ item, right item → wanted item) (items : List α) :
    Preceded wanted right items ↔ ∀ item, IsFirst wanted items item → right item := by
  constructor
  · rintro preceded item ⟨earlier, later, split, found, before⟩
    by_contra wrong
    obtain ⟨other, member, good⟩ := preceded earlier item later split found wrong
    exact before other member (sub other good)
  · intro rightFirst earlier item later split found wrong
    have member : item ∈ earlier ++ [item] := by simp
    obtain ⟨first, front, back, shorter, holds, before⟩ := exists_first member found
    have whole : IsFirst wanted items first := by
      refine ⟨front, back ++ later, ?_, holds, before⟩
      rw [split, ← List.cons_append, ← List.append_assoc, ← shorter, List.append_assoc]
      rfl
    have good := rightFirst first whole
    have inside : first ∈ earlier ++ [item] := by rw [shorter]; simp
    rcases List.mem_append.mp inside with early | last
    · exact ⟨first, early, good⟩
    · rw [List.mem_singleton] at last
      exact absurd (last ▸ good) wrong

end FirstMatch
