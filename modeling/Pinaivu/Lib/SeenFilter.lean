import Mathlib.Data.List.Flatten

/-!
A channel that passes a message once: it keeps the identities it has seen and rejects
a message with one of them. Other traffic may add identities in between.
-/

namespace SeenFilter

variable {Message Id : Type} [DecidableEq Id] (identify : Message → Id)

/-- The messages that pass; each comes with what was seen just before it. -/
def accepted : List Id → List (List Id × Message) → List Message
  | _, [] => []
  | seen, (between, message) :: rest =>
      if identify message ∈ between ++ seen then accepted (between ++ seen) rest
      else message :: accepted (identify message :: between ++ seen) rest

def RejectedAre (P : Message → Prop) : List Id → List (List Id × Message) → Prop
  | _, [] => True
  | seen, (between, message) :: rest =>
      if identify message ∈ between ++ seen then P message ∧ RejectedAre P (between ++ seen) rest
      else RejectedAre P (identify message :: between ++ seen) rest

theorem accepted_sublist (seen : List Id) (traffic : List (List Id × Message)) :
    (accepted identify seen traffic).Sublist (traffic.map Prod.snd) := by
  induction traffic generalizing seen with
  | nil => exact List.Sublist.slnil
  | cons entry rest ih =>
      obtain ⟨between, message⟩ := entry
      rw [accepted, List.map_cons]
      split
      · exact (ih _).cons _
      · exact (ih _).cons_cons _

variable {identify}

theorem accepted_map {Source : Type} (publish : Source → Message) (seen : List Id)
    (traffic : List (List Id × Source)) :
    accepted identify seen (traffic.map fun entry => (entry.1, publish entry.2)) =
      (accepted (identify ∘ publish) seen traffic).map publish := by
  induction traffic generalizing seen with
  | nil => rfl
  | cons entry rest ih =>
      obtain ⟨between, source⟩ := entry
      simp only [List.map_cons, accepted, Function.comp_apply, ih]
      split <;> rfl

variable (identify) in
/-- The text that passes is the whole text exactly when nothing but empty text is rejected. -/
theorem accepted_text_iff {Symbol : Type} (text : Message → List Symbol) (seen : List Id)
    (traffic : List (List Id × Message)) :
    (accepted identify seen traffic).flatMap text = (traffic.map Prod.snd).flatMap text ↔
      RejectedAre identify (fun message => text message = []) seen traffic := by
  induction traffic generalizing seen with
  | nil => simp [accepted, RejectedAre]
  | cons entry rest ih =>
      obtain ⟨between, message⟩ := entry
      simp only [accepted, RejectedAre, List.map_cons, List.flatMap_cons]
      split
      · constructor
        · intro same
          have shorter := ((accepted_sublist identify (between ++ seen) rest).flatMap text).length_le
          have lengths := congrArg List.length same
          rw [List.length_append] at lengths
          have empty : text message = [] := List.length_eq_zero_iff.mp (by omega)
          rw [empty, List.nil_append] at same
          exact ⟨empty, (ih _).mp same⟩
        · rintro ⟨empty, later⟩
          rw [empty, List.nil_append]
          exact (ih _).mpr later
      · rw [List.flatMap_cons, List.append_right_inj]
        exact ih _

end SeenFilter
