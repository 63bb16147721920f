import Pinaivu.Reputation.MerkleCore
import Pinaivu.Lib.HashTree

/-!
Completeness of `MerkleTree::proof`. The path it returns always leads to the
root, except in a tree of one leaf; but the loop reads out of bounds whenever the
walk reaches the last node of an odd level above the leaves.
-/

namespace Pinaivu.Merkle

variable {Word : Type} (hashPair : Word → Word → Word) (zero : Word)

def levelSize (count height : Nat) : Nat := (count + 2 ^ height - 1) / 2 ^ height

/-- The walk from leaf `index` does not meet the unpaired last node at `height`. -/
def Paired (count index height : Nat) : Prop :=
  1 < levelSize count height → levelSize count height % 2 = 1 →
    index / 2 ^ height + 1 ≠ levelSize count height

def Provable (leaves : List Word) (index : Nat) : Prop :=
  (∃ leaf, leaves = [leaf] ∧ hashPair leaf leaf = leaf) ∨
    (1 < leaves.length ∧ ∀ height, 0 < height → Paired leaves.length index height)

@[simp] theorem levelSize_zero (count : Nat) : levelSize count 0 = count := by
  simp [levelSize]

theorem levelSize_one (height : Nat) : levelSize 1 height = 1 := by
  have positive := Nat.two_pow_pos height
  rw [levelSize, Nat.add_sub_cancel_left, Nat.div_self positive]

theorem levelSize_succ (count height : Nat) :
    levelSize count (height + 1) = levelSize ((count + 1) / 2) height := by
  have positive := Nat.two_pow_pos height
  unfold levelSize
  rw [Nat.pow_succ', ← Nat.div_div_eq_div_mul]
  congr 1
  omega

theorem paired_succ (count index height : Nat) :
    Paired count index (height + 1) ↔ Paired ((count + 1) / 2) (index / 2) height := by
  unfold Paired
  rw [levelSize_succ, Nat.pow_succ', ← Nat.div_div_eq_div_mul]

theorem paired_padToEven (leaves : List Word) (index height : Nat) (above : 0 < height) :
    Paired (padToEven leaves).length index height ↔ Paired leaves.length index height := by
  cases height with
  | zero => omega
  | succ height =>
      rw [paired_succ, paired_succ, length_padToEven]
      have halves : (2 * ((leaves.length + 1) / 2) + 1) / 2 = (leaves.length + 1) / 2 := by omega
      rw [halves]

theorem siblingIndex_bound {count index : Nat} (bound : index < count) :
    (if index % 2 = 0 then index + 1 else index - 1) < count ↔
      (count % 2 = 1 → index + 1 ≠ count) := by
  split <;> omega

theorem proofLoop_ok_iff (level : List Word) (index : Nat) (bound : index < level.length) :
    (∃ path, proofLoop hashPair level index = .ok path) ↔
      ∀ height, Paired level.length index height := by
  have nonempty : level ≠ [] := List.length_pos_iff.mp (by omega)
  induction level, nonempty using level_induction hashPair generalizing index with
  | long level nonempty many ih =>
      have next := length_hashPairs hashPair level
      have rest := ih (index / 2) (by omega)
      rw [next] at rest
      have first := siblingIndex_bound bound
      rw [proofLoop]
      simp only [many, if_true]
      by_cases inside : (if index % 2 = 0 then index + 1 else index - 1) < level.length
      · rw [List.getElem?_eq_getElem inside]
        constructor
        · rintro ⟨path, found⟩ height
          cases height with
          | zero => simpa [Paired] using fun _ => first.mp inside
          | succ height =>
              rw [paired_succ]
              apply rest.mp
              cases tail : proofLoop hashPair (hashPairs hashPair level) (index / 2) with
              | error panic => simp [tail] at found
              | ok path => exact ⟨path, rfl⟩
        · intro paired
          obtain ⟨path, found⟩ := rest.mpr fun height =>
            (paired_succ level.length index height).mp (paired (height + 1))
          simp [found]
      · rw [List.getElem?_eq_none (by omega)]
        constructor
        · rintro ⟨path, found⟩
          simp at found
        · intro paired
          have ground := paired 0
          simp only [Paired, levelSize_zero, Nat.pow_zero, Nat.div_one] at ground
          exact absurd (first.mpr (ground many)) inside
  | single word =>
      rw [proofLoop]
      constructor
      · rintro - height
        simp [Paired, levelSize_one]
      · rintro -
        exact ⟨[], by simp⟩

theorem pairChunks_getElem? (level : List Word) (index : Nat) (left right : Word)
    (leftAt : level[2 * index]? = some left) (rightAt : level[2 * index + 1]? = some right) :
    (pairChunks level)[index]? = some (left, right) := by
  induction level using pairChunks.induct generalizing index with
  | case1 first second rest ih =>
      cases index with
      | zero => simp_all [pairChunks]
      | succ index =>
          simp only [pairChunks, List.getElem?_cons_succ]
          exact ih index (by simpa [Nat.mul_succ] using leftAt)
            (by simpa [Nat.mul_succ] using rightAt)
  | case2 level short =>
      rcases level with _ | ⟨first, _ | ⟨second, rest⟩⟩
      · simp at leftAt
      · simp at rightAt
      · exact absurd rfl (short first second rest)

theorem padToEven_getElem? (level : List Word) (index : Nat) (word : Word)
    (found : level[index]? = some word) : (padToEven level)[index]? = some word := by
  unfold padToEven
  split
  · rw [List.getElem?_append_left (List.getElem?_eq_some_iff.mp found).1]
    exact found
  · exact found

theorem hashPairs_getElem? (level : List Word) (index : Nat) (word sibling : Word)
    (wordAt : level[index]? = some word)
    (siblingAt : level[if index % 2 = 0 then index + 1 else index - 1]? = some sibling) :
    (hashPairs hashPair level)[index / 2]? =
      some (if index % 2 = 0 then hashPair word sibling else hashPair sibling word) := by
  have wordPadded := padToEven_getElem? level _ word wordAt
  have siblingPadded := padToEven_getElem? level _ sibling siblingAt
  rw [hashPairs, List.getElem?_map]
  split at siblingPadded
  · rename_i even
    have position : 2 * (index / 2) = index := by omega
    rw [pairChunks_getElem? _ _ word sibling (by rw [position]; exact wordPadded)
      (by rw [position]; exact siblingPadded)]
    simp [even]
  · rename_i odd
    have position : 2 * (index / 2) = index - 1 := by omega
    have next : 2 * (index / 2) + 1 = index := by omega
    rw [pairChunks_getElem? _ _ sibling word (by rw [position]; exact siblingPadded)
      (by rw [next]; exact wordPadded)]
    simp [odd]

theorem proofLoop_value (level : List Word) (nonempty : level ≠ []) (index : Nat) (word : Word)
    (wordAt : level[index]? = some word) (path : List (MerklePathStep Word))
    (found : proofLoop hashPair level index = .ok path) :
    proofValue hashPair word path = buildLevel hashPair level nonempty := by
  induction level, nonempty using level_induction hashPair generalizing index word path with
  | long level nonempty many ih =>
      rw [proofLoop] at found
      simp only [many, if_true] at found
      cases siblingAt : level[if index % 2 = 0 then index + 1 else index - 1]? with
      | none => simp [siblingAt] at found
      | some sibling =>
          cases tail : proofLoop hashPair (hashPairs hashPair level) (index / 2) with
          | error panic => simp [siblingAt, tail] at found
          | ok rest =>
              simp only [siblingAt, tail, Except.ok.injEq] at found
              subst found
              have above := hashPairs_getElem? hashPair level index word sibling wordAt siblingAt
              rw [buildLevel_step hashPair many, ← ih (index / 2) _ above rest tail]
              simp [proofValue]
  | single root =>
      rw [proofLoop] at found
      simp only [List.length_singleton, Nat.lt_irrefl, if_false, Except.ok.injEq] at found
      subst found
      have same : root = word := by
        cases index with
        | zero => simpa using wordAt
        | succ index => simp at wordAt
      rw [buildLevel_singleton, same]
      rfl

theorem buildLevel_padToEven {level : List Word} (long : 1 < level.length)
    (nonempty : level ≠ []) (paddedNonempty : padToEven level ≠ []) :
    buildLevel hashPair (padToEven level) paddedNonempty = buildLevel hashPair level nonempty := by
  have paddedLong : 1 < (padToEven level).length := by
    rw [length_padToEven]
    omega
  rw [buildLevel_step hashPair paddedLong, buildLevel_step hashPair long]
  simp only [hashPairs_padToEven]

theorem proof_single (leaf : Word) :
    (MerkleTree.mk [leaf]).proof hashPair 0 = .ok (some [⟨leaf, true⟩]) := by
  have padded : padToEven [leaf] = [leaf, leaf] := by simp [padToEven]
  have level : hashPairs hashPair [leaf, leaf] = [hashPair leaf leaf] := by
    simp [hashPairs, padToEven, pairChunks]
  simp [MerkleTree.proof, padded, proofLoop, level]

theorem root_long {leaves : List Word} (long : 1 < leaves.length) (paddedNonempty : padToEven leaves ≠ []) :
    (MerkleTree.mk leaves).root hashPair zero =
      buildLevel hashPair (padToEven leaves) paddedNonempty := by
  have nonempty : leaves ≠ [] := by
    intro empty
    simp [empty] at long
  simp [MerkleTree.root, nonempty, buildLevel_padToEven hashPair long nonempty]

theorem verifyProof_of_proof [DecidableEq Word] {leaves : List Word} {index : Nat}
    (long : 1 < leaves.length) (bound : index < leaves.length) {path : List (MerklePathStep Word)}
    (found : (MerkleTree.mk leaves).proof hashPair index = .ok (some path)) :
    verifyProof hashPair leaves[index] path ((MerkleTree.mk leaves).root hashPair zero) = true := by
  have paddedLength := length_padToEven leaves
  have paddedNonempty : padToEven leaves ≠ [] := by
    intro empty
    simp only [empty, List.length_nil] at paddedLength
    omega
  simp only [MerkleTree.proof, Nat.not_le.mpr bound, if_false] at found
  cases loop : proofLoop hashPair (padToEven leaves) index with
  | error panic => simp [loop] at found
  | ok result =>
      simp only [loop, Except.ok.injEq, Option.some.injEq] at found
      subst found
      have leafAt := padToEven_getElem? leaves index _ (List.getElem?_eq_getElem bound)
      rw [root_long hashPair zero long paddedNonempty, verifyProof, beq_iff_eq]
      exact proofLoop_value hashPair _ paddedNonempty index _ leafAt result loop

theorem proof_ok_iff {leaves : List Word} {index : Nat}
    (bound : index < leaves.length) :
    (∃ path, (MerkleTree.mk leaves).proof hashPair index = .ok (some path)) ↔
      ∀ height, 0 < height → Paired leaves.length index height := by
  have paddedLength := length_padToEven leaves
  have loop := proofLoop_ok_iff hashPair (padToEven leaves) index (by omega)
  have opened : (∃ path, (MerkleTree.mk leaves).proof hashPair index = .ok (some path)) ↔
      ∃ path, proofLoop hashPair (padToEven leaves) index = .ok path := by
    simp only [MerkleTree.proof, Nat.not_le.mpr bound, if_false]
    cases proofLoop hashPair (padToEven leaves) index <;> simp
  rw [opened, loop]
  constructor
  · intro paired height above
    exact (paired_padToEven leaves index height above).mp (paired height)
  · intro paired height
    cases height with
    | zero =>
        intro _ odd
        rw [levelSize_zero] at odd
        omega
    | succ height =>
        exact (paired_padToEven leaves index _ (by omega)).mpr (paired _ (by omega))

/-- The proof of a leaf is returned and accepted exactly when the tree has one
leaf that hashes with itself to itself, or has more than one and the walk never
meets the unpaired last node of an odd level above the leaves. -/
theorem proof_complete_iff [DecidableEq Word] (leaves : List Word) (index : Nat)
    (bound : index < leaves.length) :
    (∃ path, (MerkleTree.insertAll leaves).proof hashPair index = .ok (some path) ∧
      verifyProof hashPair leaves[index] path
        ((MerkleTree.insertAll leaves).root hashPair zero) = true) ↔
      Provable hashPair leaves index := by
  rw [insertAll_eq]
  by_cases long : 1 < leaves.length
  · have short : ¬∃ leaf, leaves = [leaf] ∧ hashPair leaf leaf = leaf := by
      rintro ⟨leaf, single, _⟩
      simp [single] at long
    simp only [Provable, short, long, true_and, false_or]
    rw [← proof_ok_iff hashPair bound]
    constructor
    · rintro ⟨path, found, _⟩
      exact ⟨path, found⟩
    · rintro ⟨path, found⟩
      exact ⟨path, found, verifyProof_of_proof hashPair zero long bound found⟩
  · obtain ⟨leaf, rfl⟩ := List.length_eq_one_iff.mp (show leaves.length = 1 by omega)
    have first : index = 0 := by simpa using bound
    subst first
    have nonempty : ([leaf] : List Word) ≠ [] := by simp
    simp [proof_single, verifyProof, proofValue, MerkleTree.root, buildLevel_singleton, Provable]

theorem proof_complete_iff_six :
    3 < ([1, 2, 3, 4, 5, 6] : List Nat).length ∧
      ((∃ path, (MerkleTree.insertAll [1, 2, 3, 4, 5, 6]).proof (fun left right => 10 * left + right) 3 =
          .ok (some path) ∧
        verifyProof (fun left right => 10 * left + right) 4 path
          ((MerkleTree.insertAll [1, 2, 3, 4, 5, 6]).root (fun left right => 10 * left + right) 0) =
            true) ↔
        Provable (fun left right => 10 * left + right) [1, 2, 3, 4, 5, 6] 3) :=
  ⟨by decide, proof_complete_iff (fun left right => 10 * left + right) 0 [1, 2, 3, 4, 5, 6] 3
    (by decide)⟩

/-- Even where pairs never collide, the proof of the last of five leaves panics. -/
theorem proof_incomplete :
    ¬∀ (leaves : List (HashTree.PairTree Nat)) (index : Nat) (bound : index < leaves.length),
      ∃ path, (MerkleTree.insertAll leaves).proof HashTree.PairTree.node index = .ok (some path) ∧
        verifyProof HashTree.PairTree.node leaves[index] path
          ((MerkleTree.insertAll leaves).root HashTree.PairTree.node (.leaf 0)) = true := by
  intro complete
  obtain ⟨path, found, _⟩ := complete ((List.range 5).map .leaf) 4 (by decide)
  have panics : (MerkleTree.insertAll ((List.range 5).map .leaf)).proof HashTree.PairTree.node 4 =
      .error (.indexOutOfBounds 3 3) := by
    decide +kernel
  rw [panics] at found
  simp at found

end Pinaivu.Merkle
