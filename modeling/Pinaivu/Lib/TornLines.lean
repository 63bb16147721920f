import Mathlib.Data.List.Basic

/-!
A file that grows by lines, each written behind what is there. A write may stop after any part of its line,
and the next line then goes on where it stopped.
-/

namespace TornLines

variable {Symbol : Type}

structure Write (Symbol : Type) where
  line : List Symbol
  written : Nat
  deriving DecidableEq, Repr

def Write.Complete (write : Write Symbol) : Prop := write.line.length < write.written

instance (write : Write Symbol) : Decidable write.Complete := Nat.decLt _ _

def Write.left (mark : Symbol) (write : Write Symbol) : List Symbol := (write.line ++ [mark]).take write.written

def file (mark : Symbol) (writes : List (Write Symbol)) : List Symbol := writes.flatMap (Write.left mark)

section

variable {Item : Type} (write : Item → Write Symbol)

/-- The items whose writes went through and began at a line's start; `fresh` tells whether the first one does. -/
def settled : Bool → List Item → List Item
  | _, [] => []
  | fresh, item :: rest =>
      if (write item).Complete then
        if fresh then item :: settled true rest else settled true rest
      else settled (fresh && (write item).written == 0) rest

end

theorem Write.left_complete {write : Write Symbol} (complete : write.Complete) (mark : Symbol) :
    write.left mark = write.line ++ [mark] := by
  apply List.take_of_length_le
  rw [List.length_append, List.length_singleton]
  exact complete

theorem Write.left_stopped {write : Write Symbol} (stopped : ¬write.Complete) (mark : Symbol) :
    write.left mark = write.line.take write.written := by
  unfold Write.Complete at stopped
  exact List.take_append_of_le_length (by omega)

section

variable {Item : Type} {write : Item → Write Symbol}

theorem settled_pair (fresh : Bool) {first rest : List Item} {before item : Item}
    (ended : (write before).Complete) (complete : (write item).Complete) :
    item ∈ settled write fresh (first ++ before :: item :: rest) := by
  have head : item ∈ settled write true (item :: rest) := by
    rw [settled, if_pos complete, if_pos rfl]
    exact List.mem_cons_self
  induction first generalizing fresh with
  | nil =>
      rw [List.nil_append, settled, if_pos ended]
      split
      · exact List.mem_cons_of_mem _ head
      · exact head
  | cons other first ih =>
      rw [List.cons_append, settled]
      split
      · split
        · exact List.mem_cons_of_mem _ (ih true)
        · exact ih true
      · exact ih _

variable [DecidableEq Symbol]

/-- The settled lines stand in the file as they are, whatever the other writes left between them. -/
theorem lines_sublist {mark : Symbol} (buffer : List Symbol) {items : List Item}
    (closed : ∀ item ∈ items, mark ∉ (write item).line) (unended : mark ∉ buffer) :
    ((settled write buffer.isEmpty items).map fun item => (write item).line).Sublist
      ((buffer ++ file mark (items.map write)).splitOn mark) := by
  induction items generalizing buffer with
  | nil => exact List.nil_sublist _
  | cons item rest ih =>
      obtain ⟨first, others⟩ := List.forall_mem_cons.mp closed
      have tail := ih [] others List.not_mem_nil
      rw [List.map_cons, file, List.flatMap_cons, settled]
      by_cases complete : (write item).Complete
      · have joined : mark ∉ buffer ++ (write item).line := by simp [unended, first]
        rw [if_pos complete, Write.left_complete complete, List.append_assoc, List.singleton_append,
          ← List.append_assoc, List.splitOn_append_cons_self_of_not_mem joined]
        cases buffer with
        | nil => exact tail.cons_cons (write item).line
        | cons symbol buffer => exact tail.cons _
      · have part : mark ∉ buffer ++ (write item).line.take (write item).written := by
          rw [List.mem_append, not_or]
          exact ⟨unended, fun member => first (List.mem_of_mem_take member)⟩
        have later := ih (buffer ++ (write item).line.take (write item).written) others part
        have empty : (buffer ++ (write item).line.take (write item).written).isEmpty =
            (buffer.isEmpty && (write item).written == 0) := by
          unfold Write.Complete at complete
          cases buffer with
          | cons symbol buffer => rfl
          | nil =>
              cases line : (write item).line with
              | nil => simp_all
              | cons symbol line => cases (write item).written <;> rfl
        rw [if_neg complete, Write.left_stopped complete, ← List.append_assoc, ← empty]
        exact later

theorem lines_complete {mark : Symbol} {items : List Item} (closed : ∀ item ∈ items, mark ∉ (write item).line)
    (complete : ∀ item ∈ items, (write item).Complete) :
    (file mark (items.map write)).splitOn mark = (items.map fun item => (write item).line) ++ [[]] := by
  induction items with
  | nil => simp [file]
  | cons item rest ih =>
      obtain ⟨first, others⟩ := List.forall_mem_cons.mp complete
      obtain ⟨open', rest'⟩ := List.forall_mem_cons.mp closed
      rw [List.map_cons, file, List.flatMap_cons, Write.left_complete first, List.append_assoc,
        List.singleton_append, List.splitOn_append_cons_self_of_not_mem open']
      exact congrArg ((write item).line :: ·) (ih rest' others)

end

end TornLines
