import Pinaivu.Reputation.MerkleBinding

/-!
Which leaf a Merkle path of full length proves. The siblings are the prover's, so the
place of the leaf is told by the directions of the path alone.
-/

namespace Pinaivu.Merkle

open HashTree

variable {Word : Type} (hashPair : Word → Word → Word) (zero : Word)

def levelsAbove (level : List Word) : Nat :=
  if 1 < level.length then levelsAbove (hashPairs hashPair level) + 1 else 0
termination_by level.length
decreasing_by
  rw [length_hashPairs]
  omega

theorem levelsAbove_eq_clog (level : List Word) (nonempty : level ≠ []) :
    levelsAbove hashPair level = Nat.clog 2 level.length := by
  induction level, nonempty using level_induction hashPair with
  | long level nonempty many ih =>
      have halved : Nat.clog 2 level.length = Nat.clog 2 ((level.length + 1) / 2) + 1 :=
        Nat.clog_of_two_le (by omega : 1 < 2) many
      rw [levelsAbove, if_pos many, ih, length_hashPairs, halved]
  | single word => simp [levelsAbove]

/-- The binary digit of a position that a step spells: 0 where the current word is the left one. -/
def MerklePathStep.digit (step : MerklePathStep Word) : Nat := if step.isLeft then 0 else 1

theorem place_flagged (path : List (MerklePathStep Word)) :
    place (path.map MerklePathStep.flagged) = Nat.ofDigits 2 (path.map MerklePathStep.digit) := by
  have digits : (fun step : Bool × Word => (!step.1).toNat) ∘ MerklePathStep.flagged =
      MerklePathStep.digit := by
    funext step
    cases flag : step.isLeft <;> simp [MerklePathStep.flagged, MerklePathStep.digit, flag]
  rw [place, List.map_map, digits]

/-- A path through all levels whose directions spell the digits of an index, lowest first,
proves the leaf at that index and no other word, up to a collision of the hash. -/
theorem verifyProof_position [DecidableEq Word] (words : List Word) (index : Nat)
    (bound : index < words.length) (value : Word) (path : List (MerklePathStep Word))
    (levels : path.length = levelsAbove hashPair words)
    (directions : Nat.ofDigits 2 (path.map MerklePathStep.digit) = index)
    (accepted : verifyProof hashPair value path
      ((MerkleTree.insertAll words).root hashPair zero) = true) :
    value = words[index] ∨
      Collision hashPair (pathPairs hashPair value path) (rootPairs hashPair words) := by
  have nonempty : words ≠ [] := List.ne_nil_of_length_pos (by omega)
  rw [insertAll_eq, verifyProof, beq_iff_eq, root_eq_digest hashPair zero words nonempty,
    proofValue_eq_climb] at accepted
  have perfect : Perfect (path.map MerklePathStep.flagged).length (levelTree words nonempty) := by
    rw [List.length_map, levels, levelsAbove_eq_clog hashPair words nonempty]
    exact perfect_levelTree words nonempty
  rcases leaf_of_climb_eq hashPair perfect accepted with found | collision
  · left
    -- The leaves of the padded tree begin with the leaves inserted.
    obtain ⟨extra, leaves, -⟩ := leaves_levelTree words nonempty
    rw [leaves, place_flagged, directions, List.getElem?_append_left bound,
      List.getElem?_eq_getElem bound] at found
    exact (Option.some.inj found).symm
  · exact .inr (collision.mono (List.Subset.refl _) (pairs_levelTree_subset hashPair words nonempty))

/-- The last of three leaves, beside its copy. -/
theorem verifyProof_position_three :
    PairTree.leaf 3 = [PairTree.leaf 1, .leaf 2, .leaf 3][2] ∨
      Collision PairTree.node
        (pathPairs PairTree.node (.leaf 3) [⟨.leaf 3, true⟩, ⟨.node (.leaf 1) (.leaf 2), false⟩])
        (rootPairs PairTree.node [.leaf 1, .leaf 2, .leaf 3]) := by
  refine verifyProof_position PairTree.node (.leaf 0) [.leaf 1, .leaf 2, .leaf 3] 2 (by decide)
    (.leaf 3) [⟨.leaf 3, true⟩, ⟨.node (.leaf 1) (.leaf 2), false⟩] ?_ (by decide) (by decide +kernel)
  rw [levelsAbove_eq_clog _ _ (by simp)]
  decide

end Pinaivu.Merkle
