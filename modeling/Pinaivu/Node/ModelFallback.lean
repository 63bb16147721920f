import Pinaivu.Lib.FirstMatch
import Pinaivu.Node.ApiCore

/-!
The fallback of `resolve_model`: a model is of a family when its name has that text before the
first colon, and the search takes the names that begin with it.
-/

namespace Pinaivu.Api

open FirstMatch

def familyOf (model : String) : List Char := model.toList.takeWhile (· ≠ ':')

def SameFamily (requested model : String) : Prop := familyOf model = familyOf requested

def BeginsWithFamily (requested model : String) : Prop := familyOf requested <+: model.toList

/-- What a model fallback is for. -/
structure StaysInFamily (requested : String) (available : List String) (resolved : String) : Prop where
  exact : requested ∈ available → resolved = requested
  fallback : requested ∉ available → (∃ model ∈ available, SameFamily requested model) →
    resolved ∈ available ∧ SameFamily requested resolved
  unknown : requested ∉ available → (¬∃ model ∈ available, SameFamily requested model) → resolved = requested
  family : SameFamily requested resolved

theorem beginsWithFamily_of_same {requested model : String} (same : SameFamily requested model) :
    BeginsWithFamily requested model := by
  unfold BeginsWithFamily
  rw [← same]
  exact List.takeWhile_prefix _

theorem resolveModel_listed {requested : String} {engine : InferenceEngine} {available : List String}
    (listing : engine.listAvailableModels = .ok available) (listed : requested ∈ available) :
    (resolveModel requested engine).1 = requested := by
  simp [resolveModel, listing, listed]

theorem resolveModel_first {requested model : String} {engine : InferenceEngine} {available : List String}
    (listing : engine.listAvailableModels = .ok available) (unlisted : requested ∉ available)
    (first : IsFirst (BeginsWithFamily requested) available model) :
    (resolveModel requested engine).1 = model := by
  have found : available.find? (fun model => (familyOf requested).isPrefixOf model.toList) = some model := by
    rw [find_eq_some_iff]
    simp only [List.isPrefixOf_iff_prefix]
    exact first
  simp only [familyOf] at found
  simp only [resolveModel, listing, unlisted, if_false, found]

theorem resolveModel_none {requested : String} {engine : InferenceEngine} {available : List String}
    (listing : engine.listAvailableModels = .ok available) (unlisted : requested ∉ available)
    (none : ∀ model ∈ available, ¬BeginsWithFamily requested model) :
    (resolveModel requested engine).1 = requested := by
  have missing : available.find? (fun model => (familyOf requested).isPrefixOf model.toList) = Option.none := by
    rw [List.find?_eq_none]
    intro model member begins
    exact none model member (List.isPrefixOf_iff_prefix.mp begins)
  simp only [familyOf] at missing
  simp only [resolveModel, listing, unlisted, if_false, missing]

theorem resolveModel_family_iff (requested : String) (engine : InferenceEngine) (available : List String)
    (listing : engine.listAvailableModels = .ok available) :
    StaysInFamily requested available (resolveModel requested engine).1 ↔
      requested ∈ available ∨ Preceded (BeginsWithFamily requested) (SameFamily requested) available := by
  rw [preceded_iff fun _ => beginsWithFamily_of_same]
  constructor
  · intro stays
    by_cases listed : requested ∈ available
    · exact Or.inl listed
    · refine Or.inr ?_
      intro model first
      rw [← resolveModel_first listing listed first]
      exact stays.family
  · intro condition
    by_cases listed : requested ∈ available
    · have same := resolveModel_listed listing listed
      exact ⟨fun _ => same, fun absent => absurd listed absent, fun absent => absurd listed absent, by
        rw [same]; rfl⟩
    · have rightFirst := condition.resolve_left listed
      by_cases begins : ∃ model ∈ available, BeginsWithFamily requested model
      · obtain ⟨model, member, found⟩ := begins
        obtain ⟨first, isFirst⟩ := exists_first member found
        have family := rightFirst first isFirst
        rw [resolveModel_first listing listed isFirst]
        exact ⟨fun present => absurd present listed, fun _ _ => ⟨isFirst.mem, family⟩,
          fun _ absent => absurd ⟨first, isFirst.mem, family⟩ absent, family⟩
      · have none : ∀ model ∈ available, ¬BeginsWithFamily requested model := by
          intro model member found
          exact begins ⟨model, member, found⟩
        rw [resolveModel_none listing listed none]
        refine ⟨fun present => absurd present listed, ?_, fun _ _ => rfl, rfl⟩
        rintro _ ⟨model, member, same⟩
        exact absurd (beginsWithFamily_of_same same) (none model member)

def listingEngine (available : List String) : InferenceEngine where
  listAvailableModels := .ok available
  runInference _ := .error "no model loaded"

theorem resolveModel_family_tagged :
    StaysInFamily "llama3.1:70b" ["mistral:7b", "llama3.1:8b"]
      (resolveModel "llama3.1:70b" (listingEngine ["mistral:7b", "llama3.1:8b"])).1 := by
  refine (resolveModel_family_iff "llama3.1:70b" (listingEngine ["mistral:7b", "llama3.1:8b"])
    ["mistral:7b", "llama3.1:8b"] rfl).mpr (Or.inr ?_)
  rw [preceded_iff fun _ => beginsWithFamily_of_same]
  intro model first
  rcases List.mem_cons.mp first.mem with rfl | member
  · obtain ⟨_, _, _, begins, _⟩ := first
    exact absurd begins (by unfold BeginsWithFamily; decide +kernel)
  · rw [List.mem_singleton.mp member]
    unfold SameFamily
    decide +kernel

/-- Another family with a longer name is taken although the list has one of the requested family. -/
theorem resolveModel_leaves_family :
    ¬StaysInFamily "llama3:70b" ["llama3.1:8b", "llama3:8b"]
      (resolveModel "llama3:70b" (listingEngine ["llama3.1:8b", "llama3:8b"])).1 := by
  intro stays
  have family := stays.family
  unfold SameFamily at family
  revert family
  decide +kernel

end Pinaivu.Api
