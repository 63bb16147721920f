import Pinaivu.Reputation.MerkleCore
import Pinaivu.Lib.HashTree
import Mathlib.Data.List.Nodup
import Mathlib.Data.Nat.Log

/-!
What the Merkle root binds. `build_level` over a level of trees, with the node
constructor as the hash, is the tree that the root is the digest of; the results
on digests of trees then apply to the root.
-/

namespace Pinaivu.Merkle

open HashTree

variable {Word : Type} (hashPair : Word → Word → Word) (zero : Word)

theorem padToEven_map {Word' : Type} (image : Word → Word') (level : List Word) :
    padToEven (level.map image) = (padToEven level).map image := by
  unfold padToEven
  rw [List.length_map]
  split
  · cases last : level.getLast? <;> simp [last]
  · rfl

theorem pairChunks_map {Word' : Type} (image : Word → Word') : ∀ level : List Word,
    pairChunks (level.map image) = (pairChunks level).map (Prod.map image image)
  | [] => by simp [pairChunks]
  | [_] => by simp [pairChunks]
  | _ :: _ :: rest => by simp [pairChunks, pairChunks_map image rest]

theorem hashPairs_map {Word' : Type} (hashPair' : Word' → Word' → Word') (image : Word → Word')
    (homomorphism : ∀ left right, image (hashPair left right) = hashPair' (image left) (image right))
    (level : List Word) :
    (hashPairs hashPair level).map image = hashPairs hashPair' (level.map image) := by
  simp [hashPairs, padToEven_map, pairChunks_map, homomorphism, Function.comp_def]

theorem buildLevel_map {Word' : Type} (hashPair' : Word' → Word' → Word') (image : Word → Word')
    (homomorphism : ∀ left right, image (hashPair left right) = hashPair' (image left) (image right))
    (level : List Word) (nonempty : level ≠ []) (imageNonempty : level.map image ≠ []) :
    image (buildLevel hashPair level nonempty) =
      buildLevel hashPair' (level.map image) imageNonempty := by
  induction level, nonempty using level_induction hashPair with
  | long level nonempty many ih =>
      have step := hashPairs_map hashPair hashPair' image homomorphism level
      have above : (hashPairs hashPair level).map image ≠ [] := by
        simpa using hashPairs_ne_nil hashPair nonempty
      rw [buildLevel_step hashPair many, buildLevel_step hashPair' (by simpa using many), ih above]
      simp only [step]
  | single word => simp [buildLevel_singleton]

def levelTree (leaves : List Word) (nonempty : leaves ≠ []) : PairTree Word :=
  buildLevel PairTree.node (leaves.map .leaf) (by simpa using nonempty)

theorem digest_levelTree (leaves : List Word) (nonempty : leaves ≠ []) :
    digest hashPair (levelTree leaves nonempty) = buildLevel hashPair leaves nonempty := by
  have words : (leaves.map PairTree.leaf).map (digest hashPair) = leaves := by
    simp [Function.comp_def, digest]
  rw [levelTree, buildLevel_map PairTree.node hashPair (digest hashPair) (fun _ _ => rfl) _ _
    (by rw [words]; exact nonempty)]
  simp only [words]

theorem mem_padToEven {level : List Word} {word : Word} (member : word ∈ padToEven level) :
    word ∈ level := by
  unfold padToEven at member
  split at member
  · rcases List.mem_append.mp member with inside | last
    · exact inside
    · exact List.mem_of_getLast? (by simpa using last)
  · exact member

theorem mem_pairChunks {pair : Word × Word} : ∀ {level : List Word},
    pair ∈ pairChunks level → pair.1 ∈ level ∧ pair.2 ∈ level
  | [], member => by simp [pairChunks] at member
  | [_], member => by simp [pairChunks] at member
  | _ :: _ :: rest, member => by
      simp only [pairChunks, List.mem_cons] at member
      rcases member with same | later
      · simp [same]
      · have inside := mem_pairChunks later
        simp [inside]

/-- The pairs of words that `build_level` hashes, level by level. -/
def rootPairs (level : List Word) : List (Word × Word) :=
  if 1 < level.length then pairChunks (padToEven level) ++ rootPairs (hashPairs hashPair level)
  else []
termination_by level.length
decreasing_by
  rw [length_hashPairs]
  omega

theorem perfect_buildLevel (height : Nat) (level : List (PairTree Word)) (nonempty : level ≠ [])
    (perfect : ∀ tree ∈ level, Perfect height tree) :
    Perfect (height + Nat.clog 2 level.length) (buildLevel PairTree.node level nonempty) := by
  induction level, nonempty using level_induction PairTree.node generalizing height with
  | long level nonempty many ih =>
      have above : ∀ tree ∈ hashPairs PairTree.node level, Perfect (height + 1) tree := by
        intro tree member
        obtain ⟨pair, pairMem, rfl⟩ := List.mem_map.mp member
        have inside := mem_pairChunks pairMem
        exact ⟨perfect _ (mem_padToEven inside.1), perfect _ (mem_padToEven inside.2)⟩
      have found := ih (height + 1) above
      have levels : height + (Nat.clog 2 ((level.length + 2 - 1) / 2) + 1) =
          height + 1 + Nat.clog 2 ((level.length + 1) / 2) := by
        rw [show level.length + 2 - 1 = level.length + 1 by omega]
        omega
      rw [length_hashPairs, ← levels, ← Nat.clog_of_two_le (by omega) many] at found
      rwa [buildLevel_step PairTree.node many]
  | single tree => simpa [buildLevel_singleton] using perfect tree (by simp)

theorem perfect_levelTree (leaves : List Word) (nonempty : leaves ≠ []) :
    Perfect (Nat.clog 2 leaves.length) (levelTree leaves nonempty) := by
  have found := perfect_buildLevel 0 (leaves.map PairTree.leaf) (by simpa using nonempty) (by
    intro tree member
    obtain ⟨word, _, rfl⟩ := List.mem_map.mp member
    exact True.intro)
  simpa [levelTree] using found

theorem pairs_buildLevel (level : List (PairTree Word)) (nonempty : level ≠ []) :
    ∀ pair ∈ pairs hashPair (buildLevel PairTree.node level nonempty),
      (∃ tree ∈ level, pair ∈ pairs hashPair tree) ∨
        pair ∈ rootPairs hashPair (level.map (digest hashPair)) := by
  induction level, nonempty using level_induction PairTree.node with
  | long level nonempty many ih =>
      intro pair member
      have step := hashPairs_map PairTree.node hashPair (digest hashPair) (fun _ _ => rfl) level
      rw [buildLevel_step PairTree.node many] at member
      rw [rootPairs, List.length_map, if_pos many, ← step, padToEven_map, pairChunks_map]
      rcases ih pair member with ⟨tree, treeMem, inTree⟩ | above
      · -- A tree one level up is a node over two trees of this level.
        obtain ⟨children, childrenMem, rfl⟩ := List.mem_map.mp treeMem
        have inside := mem_pairChunks childrenMem
        simp only [pairs, List.mem_cons, List.mem_append] at inTree
        rcases inTree with top | inLeft | inRight
        · right
          apply List.mem_append_left
          exact List.mem_map.mpr ⟨children, childrenMem, top.symm⟩
        · exact Or.inl ⟨_, mem_padToEven inside.1, inLeft⟩
        · exact Or.inl ⟨_, mem_padToEven inside.2, inRight⟩
      · exact Or.inr (List.mem_append_right _ above)
  | single tree =>
      intro pair member
      exact Or.inl ⟨tree, by simp, by simpa [buildLevel_singleton] using member⟩

theorem pairs_levelTree_subset (leaves : List Word) (nonempty : leaves ≠ []) :
    pairs hashPair (levelTree leaves nonempty) ⊆ rootPairs hashPair leaves := by
  intro pair member
  have words : (leaves.map PairTree.leaf).map (digest hashPair) = leaves := by
    simp [Function.comp_def, digest]
  rcases pairs_buildLevel hashPair _ _ pair member with ⟨tree, treeMem, inTree⟩ | found
  · obtain ⟨word, _, rfl⟩ := List.mem_map.mp treeMem
    simp [pairs] at inTree
  · rwa [words] at found

theorem pairChunks_flatMap {β : Type} (image : Word → List β) : ∀ level : List Word,
    level.length % 2 = 0 →
      (pairChunks level).flatMap (fun pair => image pair.1 ++ image pair.2) = level.flatMap image
  | [], _ => by simp [pairChunks]
  | [_], odd => by simp at odd
  | _ :: _ :: rest, even => by
      have restEven : rest.length % 2 = 0 := by
        simp only [List.length_cons] at even
        omega
      simp [pairChunks, pairChunks_flatMap image rest restEven]

theorem padToEven_flatMap {β : Type} (image : Word → List β) (level : List Word) :
    ∃ extra, (padToEven level).flatMap image = level.flatMap image ++ extra ∧
      extra ⊆ level.flatMap image := by
  unfold padToEven
  split
  · refine ⟨level.getLast?.toList.flatMap image, by simp, ?_⟩
    intro value member
    obtain ⟨word, last, inside⟩ := List.mem_flatMap.mp member
    exact List.mem_flatMap.mpr ⟨word, List.mem_of_getLast? (by simpa using last), inside⟩
  · exact ⟨[], by simp, by simp⟩

/-- Below the root stand the leaves in order, then repetitions of some of them. -/
theorem leaves_buildLevel (level : List (PairTree Word)) (nonempty : level ≠ []) :
    ∃ extra, leaves (buildLevel PairTree.node level nonempty) = level.flatMap leaves ++ extra ∧
      extra ⊆ level.flatMap leaves := by
  induction level, nonempty using level_induction PairTree.node with
  | long level nonempty many ih =>
      have even : (padToEven level).length % 2 = 0 := by
        rw [length_padToEven]
        omega
      have above : (hashPairs PairTree.node level).flatMap leaves =
          (padToEven level).flatMap leaves := by
        rw [← pairChunks_flatMap leaves _ even]
        simp [hashPairs, List.flatMap_map, leaves]
      obtain ⟨padding, padded, paddingSubset⟩ := padToEven_flatMap leaves level
      obtain ⟨extra, found, extraSubset⟩ := ih
      rw [above, padded] at found extraSubset
      refine ⟨padding ++ extra, ?_, ?_⟩
      · rw [buildLevel_step PairTree.node many, found, List.append_assoc]
      · intro value member
        rcases List.mem_append.mp member with inPadding | inExtra
        · exact paddingSubset inPadding
        · rcases List.mem_append.mp (extraSubset inExtra) with inside | inPadding
          · exact inside
          · exact paddingSubset inPadding
  | single tree => exact ⟨[], by simp [buildLevel_singleton], by simp⟩

theorem leaves_levelTree (words : List Word) (nonempty : words ≠ []) :
    ∃ extra, leaves (levelTree words nonempty) = words ++ extra ∧ extra ⊆ words := by
  have same : (words.map PairTree.leaf).flatMap leaves = words := by
    simp [List.flatMap_map, leaves]
  obtain ⟨extra, found, subset⟩ := leaves_buildLevel (words.map PairTree.leaf) (by simpa using nonempty)
  rw [same] at found subset
  exact ⟨extra, found, subset⟩

theorem leaves_levelTree_subset (words : List Word) (nonempty : words ≠ []) :
    leaves (levelTree words nonempty) ⊆ words := by
  obtain ⟨extra, found, subset⟩ := leaves_levelTree words nonempty
  rw [found]
  exact List.append_subset.mpr ⟨List.Subset.refl _, subset⟩

theorem eq_of_append_repetitions {first second firstExtra secondExtra : List Word}
    (firstNodup : first.Nodup) (secondNodup : second.Nodup)
    (firstSubset : firstExtra ⊆ first) (secondSubset : secondExtra ⊆ second)
    (same : first ++ firstExtra = second ++ secondExtra) : first = second := by
  rcases List.append_eq_append_iff.mp same with ⟨more, longer, rest⟩ | ⟨more, longer, rest⟩
  · cases more with
    | nil => simpa using longer.symm
    | cons word more =>
        rw [longer] at secondNodup
        have inFirst : word ∈ first := firstSubset (by simp [rest])
        exact absurd (List.disjoint_of_nodup_append secondNodup inFirst (by simp)) id
  · cases more with
    | nil => simpa using longer
    | cons word more =>
        rw [longer] at firstNodup
        have inSecond : word ∈ second := secondSubset (by simp [rest])
        exact absurd (List.disjoint_of_nodup_append firstNodup inSecond (by simp)) id

theorem root_eq_digest (words : List Word) (nonempty : words ≠ []) :
    (MerkleTree.mk words).root hashPair zero = digest hashPair (levelTree words nonempty) := by
  simp [MerkleTree.root, nonempty, digest_levelTree]

/-- A word that is one of the leaves, or the hash of a pair of words on the way from the leaves to the root. -/
def Computes (words : List Word) (word : Word) : Prop :=
  word ∈ words ∨ ∃ pair ∈ rootPairs hashPair words, hashPair pair.1 pair.2 = word

theorem computes_digest (words : List Word) (nonempty : words ≠ []) :
    Computes hashPair words (digest hashPair (levelTree words nonempty)) := by
  have leavesSubset := leaves_levelTree_subset words nonempty
  have pairsSubset := pairs_levelTree_subset hashPair words nonempty
  cases shape : levelTree words nonempty with
  | leaf word =>
      rw [shape] at leavesSubset
      exact .inl (leavesSubset (by simp [leaves, digest]))
  | node left right =>
      rw [shape] at pairsSubset
      exact .inr ⟨_, pairsSubset (digest_mem_pairs hashPair left right), rfl⟩

/-- The ways in which two histories without repetitions can have the same root. -/
inductive SameRoot (first second : List Word) : Prop
  | equal : first = second → SameRoot first second
  | collision : Collision hashPair (rootPairs hashPair first) (rootPairs hashPair second) → SameRoot first second
  | leafFirst : (∃ word ∈ first, ∃ pair ∈ rootPairs hashPair second, word = hashPair pair.1 pair.2) →
      SameRoot first second
  | leafSecond : (∃ word ∈ second, ∃ pair ∈ rootPairs hashPair first, word = hashPair pair.1 pair.2) →
      SameRoot first second
  | emptyFirst : first = [] → Computes hashPair second zero → SameRoot first second
  | emptySecond : second = [] → Computes hashPair first zero → SameRoot first second

/-- Two job histories without repetitions and with the same root are the same, but for a collision of
`hash_pair`, a job hash that is the hash of a pair, or words that hash to the root of the empty history. -/
theorem sameRoot_of_root_eq (first second : List Word) (firstNodup : first.Nodup) (secondNodup : second.Nodup)
    (same : (MerkleTree.insertAll first).root hashPair zero =
      (MerkleTree.insertAll second).root hashPair zero) :
    SameRoot hashPair zero first second := by
  rw [insertAll_eq, insertAll_eq] at same
  by_cases firstEmpty : first = []
  · by_cases secondEmpty : second = []
    · exact .equal (firstEmpty.trans secondEmpty.symm)
    · rw [root_eq_digest hashPair zero second secondEmpty, firstEmpty] at same
      have computed := computes_digest hashPair second secondEmpty
      rw [← same] at computed
      exact .emptyFirst firstEmpty computed
  · by_cases secondEmpty : second = []
    · rw [root_eq_digest hashPair zero first firstEmpty, secondEmpty] at same
      have computed := computes_digest hashPair first firstEmpty
      rw [same] at computed
      exact .emptySecond secondEmpty computed
    · rw [root_eq_digest hashPair zero first firstEmpty,
        root_eq_digest hashPair zero second secondEmpty] at same
      have firstPairs := pairs_levelTree_subset hashPair first firstEmpty
      have secondPairs := pairs_levelTree_subset hashPair second secondEmpty
      cases sameDigest_of_digest_eq hashPair _ _ same with
      | collision found => exact .collision (found.mono firstPairs secondPairs)
      | leafFirst found =>
          obtain ⟨word, member, pair, pairMem, combined⟩ := found
          exact .leafFirst ⟨word, leaves_levelTree_subset first firstEmpty member, pair, secondPairs pairMem, combined⟩
      | leafSecond found =>
          obtain ⟨word, member, pair, pairMem, combined⟩ := found
          exact .leafSecond
            ⟨word, leaves_levelTree_subset second secondEmpty member, pair, firstPairs pairMem, combined⟩
      | equal trees =>
          obtain ⟨firstExtra, firstLeaves, firstSubset⟩ := leaves_levelTree first firstEmpty
          obtain ⟨secondExtra, secondLeaves, secondSubset⟩ := leaves_levelTree second secondEmpty
          have appended : first ++ firstExtra = second ++ secondExtra := by
            rw [← firstLeaves, ← secondLeaves, trees]
          exact .equal (eq_of_append_repetitions firstNodup secondNodup firstSubset secondSubset appended)

theorem not_computes_zero (nonzero : ∀ left right, hashPair left right ≠ zero) {words : List Word}
    (leafNonzero : ∀ word ∈ words, word ≠ zero) : ¬Computes hashPair words zero := by
  rintro (member | ⟨pair, -, combined⟩)
  · exact leafNonzero zero member rfl
  · exact nonzero _ _ combined

/-- Two job histories without repetitions, of any lengths, with the same root are
the same history. -/
theorem root_injective (injective : Function.Injective2 hashPair)
    (nonzero : ∀ left right, hashPair left right ≠ zero) (first second : List Word)
    (firstNodup : first.Nodup) (secondNodup : second.Nodup)
    (firstLeaf : ∀ word ∈ first, word ≠ zero ∧ ∀ left right, word ≠ hashPair left right)
    (secondLeaf : ∀ word ∈ second, word ≠ zero ∧ ∀ left right, word ≠ hashPair left right)
    (same : (MerkleTree.insertAll first).root hashPair zero =
      (MerkleTree.insertAll second).root hashPair zero) :
    first = second := by
  cases sameRoot_of_root_eq hashPair zero first second firstNodup secondNodup same with
  | equal equal => exact equal
  | collision found => exact absurd found (not_collision_of_injective injective)
  | leafFirst found =>
      obtain ⟨word, member, pair, -, combined⟩ := found
      exact absurd combined ((firstLeaf word member).2 _ _)
  | leafSecond found =>
      obtain ⟨word, member, pair, -, combined⟩ := found
      exact absurd combined ((secondLeaf word member).2 _ _)
  | emptyFirst _ computed =>
      exact absurd computed (not_computes_zero hashPair zero nonzero fun word member => (secondLeaf word member).1)
  | emptySecond _ computed =>
      exact absurd computed (not_computes_zero hashPair zero nonzero fun word member => (firstLeaf word member).1)

theorem root_injective_three :
    [PairTree.leaf 1, .leaf 2, .leaf 3] = [PairTree.leaf 1, .leaf 2, .leaf 3] :=
  root_injective PairTree.node (PairTree.leaf 0) (fun _ _ _ _ same => PairTree.node.inj same)
    (fun _ _ => by simp) [.leaf 1, .leaf 2, .leaf 3] [.leaf 1, .leaf 2, .leaf 3]
    (by decide) (by decide) (by simp) (by simp) rfl

def MerklePathStep.flagged (step : MerklePathStep Word) : Bool × Word := (step.isLeft, step.sibling)

def pathPairs (value : Word) (path : List (MerklePathStep Word)) : List (Word × Word) :=
  climbPairs hashPair value (path.map MerklePathStep.flagged)

theorem proofValue_eq_climb (value : Word) (path : List (MerklePathStep Word)) :
    proofValue hashPair value path = climb hashPair value (path.map MerklePathStep.flagged) := by
  induction path generalizing value with
  | nil => rfl
  | cons step rest ih =>
      have tail := ih (if step.isLeft then hashPair value step.sibling
        else hashPair step.sibling value)
      cases flag : step.isLeft <;>
        simpa [proofValue, climb, MerklePathStep.flagged, joined, flag] using tail

theorem proofValue_eq_last (value : Word) (path : List (MerklePathStep Word)) (nonempty : path ≠ []) :
    ∃ pair ∈ pathPairs hashPair value path,
      proofValue hashPair value path = hashPair pair.1 pair.2 := by
  rw [proofValue_eq_climb]
  obtain ⟨init, last, rfl⟩ := (List.eq_nil_or_concat path).resolve_left nonempty
  simp only [List.concat_eq_append, List.map_append, List.map_cons, List.map_nil, pathPairs,
    climbPairs_append, climb_append]
  exact ⟨_, List.mem_append_right _ (by simp), rfl⟩

/-- What an accepted value can be, for a path of any length: there is no domain
separation, so a path that is too short accepts inner nodes, and one that is too
long accepts words below a leaf that is itself the hash of a pair. -/
theorem verifyProof_sound [DecidableEq Word] (words : List Word) (value : Word)
    (path : List (MerklePathStep Word))
    (accepted : verifyProof hashPair value path
      ((MerkleTree.insertAll words).root hashPair zero) = true) :
    value ∈ words ∨
      Collision hashPair (pathPairs hashPair value path) (rootPairs hashPair words) ∨
      (path.length < Nat.clog 2 words.length ∧
        ∃ pair ∈ rootPairs hashPair words, value = hashPair pair.1 pair.2) ∨
      (Nat.clog 2 words.length < path.length ∧
        ∃ word ∈ words, ∃ pair ∈ pathPairs hashPair value path, hashPair pair.1 pair.2 = word) ∨
      (words = [] ∧ ((path = [] ∧ value = zero) ∨
        ∃ pair ∈ pathPairs hashPair value path, hashPair pair.1 pair.2 = zero)) := by
  rw [insertAll_eq, verifyProof, beq_iff_eq] at accepted
  by_cases empty : words = []
  · have reached : proofValue hashPair value path = zero := by
      simpa [MerkleTree.root, empty] using accepted
    refine Or.inr (Or.inr (Or.inr (Or.inr ⟨empty, ?_⟩)))
    by_cases pathEmpty : path = []
    · subst pathEmpty
      exact Or.inl ⟨rfl, reached⟩
    · obtain ⟨pair, member, last⟩ := proofValue_eq_last hashPair value path pathEmpty
      exact Or.inr ⟨pair, member, last.symm.trans reached⟩
  · rw [root_eq_digest hashPair zero words empty, proofValue_eq_climb] at accepted
    have perfect := perfect_levelTree words empty
    have pairsSubset := pairs_levelTree_subset hashPair words empty
    have leavesSubset := leaves_levelTree_subset words empty
    cases climbed_of_climb_eq hashPair _ _ _ accepted with
    | collision found => exact Or.inr (Or.inl (found.mono (List.Subset.refl _) pairsSubset))
    | node found =>
        obtain ⟨node, member, same⟩ := found
        rw [List.length_map] at member
        rcases Nat.lt_trichotomy path.length (Nat.clog 2 words.length) with short | exact | long
        · obtain ⟨pair, pairMem, combined⟩ := perfect.digest_mem hashPair short member
          exact Or.inr (Or.inr (Or.inl ⟨short, pair, pairsSubset pairMem, same.symm.trans combined⟩))
        · rw [exact] at member
          obtain ⟨word, wordMem, rfl⟩ := perfect.leaf_mem member
          exact Or.inl (same ▸ leavesSubset wordMem)
        · simp [perfect.nodesAt_eq_nil long] at member
    | below found =>
        obtain ⟨depth, bound, word, member, pair, pairMem, combined⟩ := found
        rw [List.length_map] at bound
        have atBottom := perfect.nodesAt_leaf member
        subst atBottom
        obtain ⟨leaf, leafMem, same⟩ := perfect.leaf_mem member
        cases same
        exact Or.inr (Or.inr (Or.inr (Or.inl
          ⟨bound, word, leavesSubset leafMem, pair, pairMem, combined⟩)))

theorem verifyProof_sound_two :
    verifyProof PairTree.node (.leaf 1) [⟨PairTree.leaf 2, true⟩]
        ((MerkleTree.insertAll [.leaf 1, .leaf 2]).root PairTree.node (.leaf 0)) = true ∧
      (PairTree.leaf 1 ∈ [PairTree.leaf 1, .leaf 2] ∨
        Collision PairTree.node (pathPairs PairTree.node (.leaf 1) [⟨.leaf 2, true⟩])
          (rootPairs PairTree.node [.leaf 1, .leaf 2]) ∨
        (([⟨.leaf 2, true⟩] : List (MerklePathStep (PairTree Nat))).length <
            Nat.clog 2 [PairTree.leaf 1, .leaf 2].length ∧
          ∃ pair ∈ rootPairs PairTree.node [PairTree.leaf 1, .leaf 2], PairTree.leaf 1 = .node pair.1 pair.2) ∨
        (Nat.clog 2 [PairTree.leaf 1, .leaf 2].length <
            ([⟨.leaf 2, true⟩] : List (MerklePathStep (PairTree Nat))).length ∧
          ∃ word ∈ [PairTree.leaf 1, .leaf 2],
            ∃ pair ∈ pathPairs PairTree.node (.leaf 1) [⟨.leaf 2, true⟩],
              PairTree.node pair.1 pair.2 = word) ∨
        ([PairTree.leaf 1, .leaf 2] = [] ∧
          ((([⟨.leaf 2, true⟩] : List (MerklePathStep (PairTree Nat))) = [] ∧ PairTree.leaf 1 = .leaf 0) ∨
            ∃ pair ∈ pathPairs PairTree.node (.leaf 1) [⟨.leaf 2, true⟩],
              PairTree.node pair.1 pair.2 = .leaf 0))) := by
  have accepted : verifyProof PairTree.node (.leaf 1) [⟨PairTree.leaf 2, true⟩]
      ((MerkleTree.insertAll [.leaf 1, .leaf 2]).root PairTree.node (.leaf 0)) = true := by
    decide +kernel
  exact ⟨accepted, verifyProof_sound PairTree.node (.leaf 0) [.leaf 1, .leaf 2] (.leaf 1) _ accepted⟩

theorem verifyProof_accepts_root :
    ¬∀ (words : List (PairTree Nat)) (value : PairTree Nat) (path : List (MerklePathStep (PairTree Nat))),
      verifyProof PairTree.node value path
          ((MerkleTree.insertAll words).root PairTree.node (.leaf 0)) = true →
        value ∈ words ∨
          Collision PairTree.node (pathPairs PairTree.node value path ++ rootPairs PairTree.node words)
            (pathPairs PairTree.node value path ++ rootPairs PairTree.node words) := by
  intro sound
  have outcome := sound [.leaf 1, .leaf 2] (.node (.leaf 1) (.leaf 2)) [] (by decide +kernel)
  rcases outcome with member | collision
  · simp at member
  · exact not_collision_of_injective (fun _ _ _ _ same => PairTree.node.inj same) collision

end Pinaivu.Merkle
