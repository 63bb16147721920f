import Mathlib.Data.Set.Card
import Mathlib.Logic.Function.Basic

/-!
Where each of arbitrarily many members is, when all but finitely many are still at home, and how
many are at places of a kind.
-/

structure Roster (Member : Type) {Place : Type} (home : Place) where
  place : Member → Place
  away : {member | place member ≠ home}.Finite

namespace Roster

variable {Member Place : Type} {home : Place}

def start : Roster Member home where
  place := fun _ => home
  away := by simp

noncomputable def count (roster : Roster Member home) (kind : Place → Bool) : Nat :=
  {member | kind (roster.place member) = true}.ncard

theorem finite_kind (roster : Roster Member home) {kind : Place → Bool} (nowhere : kind home = false) :
    {member | kind (roster.place member) = true}.Finite := by
  refine roster.away.subset ?_
  intro member counted atHome
  rw [Set.mem_ofPred_eq, atHome, nowhere] at counted
  contradiction

@[simp]
theorem count_start (kind : Place → Bool) (nowhere : kind home = false) :
    (start : Roster Member home).count kind = 0 := by
  simp [count, start, nowhere]

theorem count_or (roster : Roster Member home) (first second : Place → Bool) (firstNowhere : first home = false)
    (secondNowhere : second home = false) (apart : ∀ place, first place = true → second place = false) :
    roster.count (fun place => first place || second place) = roster.count first + roster.count second := by
  have disjoint : Disjoint {member | first (roster.place member) = true}
      {member | second (roster.place member) = true} := by
    rw [Set.disjoint_left]
    intro member inFirst inSecond
    have outside := apart _ inFirst
    rw [inSecond] at outside
    contradiction
  unfold count
  rw [← Set.ncard_union_eq disjoint (roster.finite_kind firstNowhere) (roster.finite_kind secondNowhere)]
  congr 1
  ext member
  simp

theorem count_eq_length (roster : Roster Member home) {kind : Place → Bool} {members : List Member}
    (once : members.Nodup) (listed : ∀ member, kind (roster.place member) = true → member ∈ members) :
    roster.count kind = (members.filter fun member => kind (roster.place member)).length := by
  classical
  have same : {member | kind (roster.place member) = true} =
      ((members.filter fun member => kind (roster.place member)).toFinset : Set Member) := by
    ext member
    simp only [Set.mem_ofPred_eq, List.coe_toFinset, List.mem_filter]
    exact ⟨fun counted => ⟨listed member counted, counted⟩, And.right⟩
  rw [count, same, Set.ncard_coe_finset, List.toFinset_card_of_nodup (once.filter _)]

variable [DecidableEq Member]

def move (roster : Roster Member home) (who : Member) (next : Place) : Roster Member home where
  place := Function.update roster.place who next
  away := by
    refine (roster.away.insert who).subset ?_
    intro member moved
    by_cases same : member = who
    · exact Or.inl same
    · right
      rwa [Set.mem_ofPred_eq, Function.update_of_ne same] at moved

@[simp]
theorem place_move (roster : Roster Member home) (who : Member) (next : Place) :
    (roster.move who next).place who = next := by
  simp [move]

theorem place_move_of_ne (roster : Roster Member home) {who other : Member} (differs : other ≠ who) (next : Place) :
    (roster.move who next).place other = roster.place other := by
  simp [move, differs]

omit [DecidableEq Member] in
theorem count_split (roster : Roster Member home) (kind : Place → Bool) (nowhere : kind home = false)
    (who : Member) :
    roster.count kind =
      ({member | kind (roster.place member) = true} \ {who}).ncard + (kind (roster.place who)).toNat := by
  cases counted : kind (roster.place who) with
  | true =>
      have member : who ∈ {member | kind (roster.place member) = true} := counted
      exact (Set.ncard_sdiff_singleton_add_one member (roster.finite_kind nowhere)).symm
  | false =>
      have absent : who ∉ {member | kind (roster.place member) = true} := by simp [counted]
      rw [Set.sdiff_singleton_eq_self absent]
      rfl

theorem count_move (roster : Roster Member home) (kind : Place → Bool) (nowhere : kind home = false)
    (who : Member) (next : Place) :
    (roster.move who next).count kind + (kind (roster.place who)).toNat =
      roster.count kind + (kind next).toNat := by
  have others : {member | kind ((roster.move who next).place member) = true} \ {who} =
      {member | kind (roster.place member) = true} \ {who} := by
    ext member
    simp only [Set.mem_sdiff, Set.mem_ofPred_eq, Set.mem_singleton_iff, and_congr_left_iff]
    intro differs
    rw [roster.place_move_of_ne differs]
  rw [(roster.move who next).count_split kind nowhere who, roster.count_split kind nowhere who, others, place_move]
  omega

end Roster
