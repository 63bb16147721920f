import Mathlib.Data.List.Basic
import Mathlib.Algebra.Order.Ring.Nat

/-!
The Merkle tree of `crates/reputation/src/merkle.rs`. The 32-byte words are a
type `Word` and SHA-256 of two words is a parameter `hashPair`, so that every
result says what it needs of the hash.
-/

namespace Pinaivu.Merkle

inductive Panic where
  | indexOutOfBounds (index length : Nat)
  deriving DecidableEq, Repr

structure MerklePathStep (Word : Type) where
  sibling : Word
  isLeft : Bool
  deriving DecidableEq, Repr

structure MerkleTree (Word : Type) where
  leaves : List Word
  deriving DecidableEq, Repr

variable {Word : Type}

def MerkleTree.new : MerkleTree Word := ⟨[]⟩

def MerkleTree.insert (tree : MerkleTree Word) (leafHash : Word) : MerkleTree Word :=
  ⟨tree.leaves ++ [leafHash]⟩

def MerkleTree.insertAll (leafHashes : List Word) : MerkleTree Word :=
  leafHashes.foldl MerkleTree.insert MerkleTree.new

def padToEven (level : List Word) : List Word :=
  if level.length % 2 = 1 then level ++ level.getLast?.toList else level

def pairChunks : List Word → List (Word × Word)
  | left :: right :: rest => (left, right) :: pairChunks rest
  | _ => []

variable (hashPair : Word → Word → Word)

def hashPairs (level : List Word) : List Word :=
  (pairChunks (padToEven level)).map fun pair => hashPair pair.1 pair.2

theorem length_padToEven (level : List Word) :
    (padToEven level).length = 2 * ((level.length + 1) / 2) := by
  unfold padToEven
  split
  · rename_i odd
    have nonempty : level ≠ [] := by
      intro empty
      simp [empty] at odd
    simp only [List.length_append, List.getLast?_eq_some_getLast nonempty, Option.toList_some,
      List.length_singleton]
    omega
  · omega

theorem length_pairChunks : ∀ level : List Word, (pairChunks level).length = level.length / 2
  | [] => by simp [pairChunks]
  | [_] => by simp [pairChunks]
  | _ :: _ :: rest => by
      simp only [pairChunks, List.length_cons, length_pairChunks rest]
      omega

theorem length_hashPairs (level : List Word) :
    (hashPairs hashPair level).length = (level.length + 1) / 2 := by
  rw [hashPairs, List.length_map, length_pairChunks, length_padToEven]
  omega

theorem hashPairs_ne_nil {level : List Word} (nonempty : level ≠ []) :
    hashPairs hashPair level ≠ [] := by
  have positive := List.length_pos_iff.mpr nonempty
  have length := length_hashPairs hashPair level
  intro empty
  simp only [empty, List.length_nil] at length
  omega

/-- The loop `while current.len() > 1` followed by `current[0]`, which is in
bounds because a level that is not empty never becomes empty. -/
def buildLevel (level : List Word) (nonempty : level ≠ []) : Word :=
  if 1 < level.length then
    buildLevel (hashPairs hashPair level) (hashPairs_ne_nil hashPair nonempty)
  else level.head nonempty
termination_by level.length
decreasing_by
  rw [length_hashPairs]
  omega

/-- The levels of a tree from the root down: one word, or a level above which the
property holds. -/
theorem level_induction {motive : (level : List Word) → level ≠ [] → Prop}
    (long : ∀ level nonempty, 1 < level.length →
      motive (hashPairs hashPair level) (hashPairs_ne_nil hashPair nonempty) → motive level nonempty)
    (single : ∀ word, motive [word] (List.cons_ne_nil word [])) (level : List Word)
    (nonempty : level ≠ []) : motive level nonempty := by
  induction level, nonempty using buildLevel.induct hashPair with
  | case1 level nonempty many ih => exact long level nonempty many ih
  | case2 level nonempty short =>
      have positive := List.length_pos_iff.mpr nonempty
      obtain ⟨word, rfl⟩ := List.length_eq_one_iff.mp (show level.length = 1 by omega)
      exact single word

variable (zero : Word)

/-- `zero` is the word `[0u8; 32]`. -/
def MerkleTree.root (tree : MerkleTree Word) : Word :=
  if nonempty : tree.leaves = [] then zero else buildLevel hashPair tree.leaves nonempty

/-- The loop of `proof`. It leaves every level above the first as `hashPairs`
returns it, so the sibling index of an odd level can be out of bounds. -/
def proofLoop (level : List Word) (index : Nat) : Except Panic (List (MerklePathStep Word)) :=
  if 1 < level.length then
    let siblingIndex := if index % 2 = 0 then index + 1 else index - 1
    match level[siblingIndex]? with
    | none => .error (.indexOutOfBounds siblingIndex level.length)
    | some sibling =>
        match proofLoop (hashPairs hashPair level) (index / 2) with
        | .error panic => .error panic
        | .ok path => .ok (⟨sibling, index % 2 == 0⟩ :: path)
  else .ok []
termination_by level.length
decreasing_by
  rw [length_hashPairs]
  omega

def MerkleTree.proof (tree : MerkleTree Word) (index : Nat) :
    Except Panic (Option (List (MerklePathStep Word))) :=
  if tree.leaves.length ≤ index then .ok none
  else
    match proofLoop hashPair (padToEven tree.leaves) index with
    | .error panic => .error panic
    | .ok path => .ok (some path)

def proofValue (leafHash : Word) (path : List (MerklePathStep Word)) : Word :=
  path.foldl (fun current step =>
    if step.isLeft then hashPair current step.sibling else hashPair step.sibling current) leafHash

def verifyProof [DecidableEq Word] (leafHash : Word) (path : List (MerklePathStep Word))
    (root : Word) : Bool :=
  proofValue hashPair leafHash path == root

@[simp] theorem insertAll_eq (leafHashes : List Word) :
    MerkleTree.insertAll leafHashes = ⟨leafHashes⟩ := by
  have all (tree : MerkleTree Word) :
      leafHashes.foldl MerkleTree.insert tree = ⟨tree.leaves ++ leafHashes⟩ := by
    induction leafHashes generalizing tree with
    | nil => simp
    | cons leafHash rest ih => simp [ih, MerkleTree.insert]
  simpa [MerkleTree.insertAll, MerkleTree.new] using all MerkleTree.new

theorem buildLevel_step {level : List Word} (long : 1 < level.length) (nonempty : level ≠ []) :
    buildLevel hashPair level nonempty =
      buildLevel hashPair (hashPairs hashPair level) (hashPairs_ne_nil hashPair nonempty) := by
  rw [buildLevel]
  simp [long]

theorem buildLevel_singleton (word : Word) :
    buildLevel hashPair [word] (by simp) = word := by
  rw [buildLevel]
  simp

theorem root_single (word : Word) : MerkleTree.root hashPair zero ⟨[word]⟩ = word := by
  rw [MerkleTree.root, dif_neg (List.cons_ne_nil word [])]
  exact buildLevel_singleton hashPair word

theorem root_pair (first second : Word) :
    MerkleTree.root hashPair zero ⟨[first, second]⟩ = hashPair first second := by
  have long : 1 < [first, second].length := by simp
  rw [MerkleTree.root, dif_neg (List.cons_ne_nil first [second]), buildLevel_step hashPair long]
  simp [hashPairs, padToEven, pairChunks, buildLevel_singleton]

theorem padToEven_eq_of_even {level : List Word} (even : level.length % 2 = 0) :
    padToEven level = level := by
  simp [padToEven, even]

theorem padToEven_padToEven (level : List Word) : padToEven (padToEven level) = padToEven level :=
  padToEven_eq_of_even (by rw [length_padToEven]; omega)

theorem hashPairs_padToEven (level : List Word) :
    hashPairs hashPair (padToEven level) = hashPairs hashPair level := by
  rw [hashPairs, padToEven_padToEven, hashPairs]

end Pinaivu.Merkle
