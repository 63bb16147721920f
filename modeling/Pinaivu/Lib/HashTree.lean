import Mathlib.Data.List.Basic
import Mathlib.Data.List.Induction
import Mathlib.Data.Nat.Digits.Lemmas

/-!
Binary trees of hash words over an arbitrary combining function. A statement
that needs the combining function to be free of collisions says instead which
two combined pairs collide, and where each of them comes from.
-/

namespace HashTree

inductive PairTree (α : Type) where
  | leaf (value : α)
  | node (left right : PairTree α)
  deriving DecidableEq, Repr

variable {α : Type} (combine : α → α → α)

def digest : PairTree α → α
  | .leaf value => value
  | .node left right => combine (digest left) (digest right)

def pairs : PairTree α → List (α × α)
  | .leaf _ => []
  | .node left right => (digest combine left, digest combine right) :: (pairs left ++ pairs right)

def leaves : PairTree α → List α
  | .leaf value => [value]
  | .node left right => leaves left ++ leaves right

def nodesAt : Nat → PairTree α → List (PairTree α)
  | 0, tree => [tree]
  | _ + 1, .leaf _ => []
  | depth + 1, .node left right => nodesAt depth left ++ nodesAt depth right

def Perfect : Nat → PairTree α → Prop
  | 0, .leaf _ => True
  | depth + 1, .node left right => Perfect depth left ∧ Perfect depth right
  | _, _ => False

/-- Two different pairs, one from each list, with the same combination. -/
def Collision (first second : List (α × α)) : Prop :=
  ∃ p ∈ first, ∃ q ∈ second, p ≠ q ∧ combine p.1 p.2 = combine q.1 q.2

theorem Collision.mono {combine : α → α → α} {first second first' second' : List (α × α)}
    (collision : Collision combine first second)
    (firstSubset : first ⊆ first') (secondSubset : second ⊆ second') :
    Collision combine first' second' := by
  obtain ⟨p, pMem, q, qMem, facts⟩ := collision
  exact ⟨p, firstSubset pMem, q, secondSubset qMem, facts⟩

theorem not_collision_of_injective {combine : α → α → α} {first second : List (α × α)}
    (injective : Function.Injective2 combine) : ¬Collision combine first second := by
  rintro ⟨p, _, q, _, different, same⟩
  have components := injective same
  exact different (Prod.ext components.1 components.2)

theorem digest_mem_pairs (left right : PairTree α) :
    (digest combine left, digest combine right) ∈ pairs combine (.node left right) := by
  simp [pairs]

theorem pairs_left_subset (left right : PairTree α) :
    pairs combine left ⊆ pairs combine (.node left right) := by
  intro pair member
  simp [pairs, member]

theorem pairs_right_subset (left right : PairTree α) :
    pairs combine right ⊆ pairs combine (.node left right) := by
  intro pair member
  simp [pairs, member]

def LeafIsPair (tree : PairTree α) (combined : List (α × α)) : Prop :=
  ∃ value ∈ leaves tree, ∃ p ∈ combined, value = combine p.1 p.2

theorem LeafIsPair.left {combine : α → α → α} {left right : PairTree α} {first second : List (α × α)}
    (found : LeafIsPair combine left first) (subset : first ⊆ second) :
    LeafIsPair combine (.node left right) second := by
  obtain ⟨value, member, p, pMem, same⟩ := found
  exact ⟨value, by simp [leaves, member], p, subset pMem, same⟩

theorem LeafIsPair.right {combine : α → α → α} {left right : PairTree α} {first second : List (α × α)}
    (found : LeafIsPair combine right first) (subset : first ⊆ second) :
    LeafIsPair combine (.node left right) second := by
  obtain ⟨value, member, p, pMem, same⟩ := found
  exact ⟨value, by simp [leaves, member], p, subset pMem, same⟩

/-- The ways in which two trees can have the same digest. -/
inductive SameDigest (first second : PairTree α) : Prop
  | equal : first = second → SameDigest first second
  | collision : Collision combine (pairs combine first) (pairs combine second) →
      SameDigest first second
  | leafFirst : LeafIsPair combine first (pairs combine second) → SameDigest first second
  | leafSecond : LeafIsPair combine second (pairs combine first) → SameDigest first second

theorem sameDigest_of_digest_eq (first second : PairTree α)
    (same : digest combine first = digest combine second) : SameDigest combine first second := by
  induction first generalizing second with
  | leaf value =>
      cases second with
      | leaf other =>
          exact .equal (congrArg PairTree.leaf same)
      | node left right =>
          exact .leafFirst ⟨value, by simp [leaves], _, digest_mem_pairs combine left right, same⟩
  | node left right ihLeft ihRight =>
      cases second with
      | leaf other =>
          exact .leafSecond
            ⟨other, by simp [leaves], _, digest_mem_pairs combine left right, same.symm⟩
      | node left' right' =>
          by_cases components : (digest combine left, digest combine right) =
              (digest combine left', digest combine right')
          · have leftSame := ihLeft left' (congrArg Prod.fst components)
            have rightSame := ihRight right' (congrArg Prod.snd components)
            cases leftSame with
            | collision found =>
                exact .collision (found.mono (pairs_left_subset ..) (pairs_left_subset ..))
            | leafFirst found => exact .leafFirst (found.left (pairs_left_subset ..))
            | leafSecond found => exact .leafSecond (found.left (pairs_left_subset ..))
            | equal leftEq =>
                cases rightSame with
                | collision found =>
                    exact .collision (found.mono (pairs_right_subset ..) (pairs_right_subset ..))
                | leafFirst found => exact .leafFirst (found.right (pairs_right_subset ..))
                | leafSecond found => exact .leafSecond (found.right (pairs_right_subset ..))
                | equal rightEq =>
                    exact .equal (by rw [leftEq, rightEq])
          · exact .collision ⟨_, digest_mem_pairs combine left right, _,
              digest_mem_pairs combine left' right', components, same⟩

/-! Climbing from a word to a digest along siblings, nearest sibling first. The
flag says that the current word is the left one of the pair. -/

def joined (step : Bool × α) (current : α) : α × α :=
  if step.1 then (current, step.2) else (step.2, current)

def climb (value : α) (path : List (Bool × α)) : α :=
  path.foldl (fun current step => combine (joined step current).1 (joined step current).2) value

def climbPairs (value : α) : List (Bool × α) → List (α × α)
  | [] => []
  | step :: rest =>
      joined step value ::
        climbPairs (combine (joined step value).1 (joined step value).2) rest

theorem climb_append (value : α) (path : List (Bool × α)) (step : Bool × α) :
    climb combine value (path ++ [step]) =
      combine (joined step (climb combine value path)).1
        (joined step (climb combine value path)).2 := by
  simp [climb]

theorem climbPairs_append (value : α) (path : List (Bool × α)) (step : Bool × α) :
    climbPairs combine value (path ++ [step]) =
      climbPairs combine value path ++ [joined step (climb combine value path)] := by
  induction path generalizing value with
  | nil => simp [climbPairs, climb]
  | cons first rest ih => simp [climbPairs, ih, climb]

/-- The ways in which a climb can end at the digest of a tree. -/
inductive Climbed (tree : PairTree α) (value : α) (path : List (Bool × α)) : Prop
  | node : (∃ node ∈ nodesAt path.length tree, digest combine node = value) →
      Climbed tree value path
  | collision : Collision combine (climbPairs combine value path) (pairs combine tree) →
      Climbed tree value path
  | below : (∃ depth < path.length, ∃ word, PairTree.leaf word ∈ nodesAt depth tree ∧
        ∃ p ∈ climbPairs combine value path, combine p.1 p.2 = word) →
      Climbed tree value path

theorem Climbed.lift {combine : α → α → α} {child tree : PairTree α} {value : α}
    {path : List (Bool × α)} (climbed : Climbed combine child value path) (step : Bool × α)
    (nodes : ∀ depth, nodesAt depth child ⊆ nodesAt (depth + 1) tree)
    (subset : pairs combine child ⊆ pairs combine tree) :
    Climbed combine tree value (path ++ [step]) := by
  have pathSubset : climbPairs combine value path ⊆
      climbPairs combine value (path ++ [step]) := by
    intro pair member
    simp [climbPairs_append, member]
  cases climbed with
  | node found =>
      obtain ⟨node, member, same⟩ := found
      exact .node ⟨node, by simpa using nodes path.length member, same⟩
  | collision found => exact .collision (found.mono pathSubset subset)
  | below found =>
      obtain ⟨depth, bound, word, member, p, pMem, same⟩ := found
      exact .below ⟨depth + 1, by simpa using bound, word, nodes depth member, p,
        pathSubset pMem, same⟩

theorem climbed_of_climb_eq (tree : PairTree α) (value : α) (path : List (Bool × α))
    (reached : climb combine value path = digest combine tree) :
    Climbed combine tree value path := by
  induction path using List.reverseRecOn generalizing tree with
  | nil => exact .node ⟨tree, by simp [nodesAt], reached.symm⟩
  | append_singleton path step ih =>
      rw [climb_append] at reached
      have stepMem : joined step (climb combine value path) ∈
          climbPairs combine value (path ++ [step]) := by
        simp [climbPairs_append]
      cases tree with
      | leaf word =>
          exact .below ⟨0, by simp, word, by simp [nodesAt], _, stepMem, reached⟩
      | node left right =>
          by_cases components : joined step (climb combine value path) =
              (digest combine left, digest combine right)
          · -- The climb below the last step ends at the child on the side the flag names.
            by_cases onLeft : step.1 = true
            · have childReached : climb combine value path = digest combine left := by
                simpa [joined, onLeft] using congrArg Prod.fst components
              refine (ih left childReached).lift step ?_ (pairs_left_subset combine left right)
              intro depth node member
              simp [nodesAt, member]
            · have childReached : climb combine value path = digest combine right := by
                simpa [joined, onLeft] using congrArg Prod.snd components
              refine (ih right childReached).lift step ?_ (pairs_right_subset combine left right)
              intro depth node member
              simp [nodesAt, member]
          · exact .collision ⟨_, stepMem, _, digest_mem_pairs combine left right, components,
              reached⟩

theorem Perfect.eq_leaf {tree : PairTree α} (perfect : Perfect 0 tree) : ∃ value, tree = .leaf value := by
  cases tree with
  | leaf value => exact ⟨value, rfl⟩
  | node left right => exact perfect.elim

theorem Perfect.eq_node {depth : Nat} {tree : PairTree α} (perfect : Perfect (depth + 1) tree) :
    ∃ left right, tree = .node left right ∧ Perfect depth left ∧ Perfect depth right := by
  cases tree with
  | leaf value => exact perfect.elim
  | node left right => exact ⟨left, right, rfl, perfect⟩

theorem Perfect.nodesAt_leaf {depth : Nat} {tree : PairTree α} (perfect : Perfect depth tree)
    {height : Nat} {word : α} (member : PairTree.leaf word ∈ nodesAt height tree) : height = depth := by
  induction depth generalizing tree height with
  | zero =>
      obtain ⟨value, rfl⟩ := perfect.eq_leaf
      cases height with
      | zero => rfl
      | succ height => simp [nodesAt] at member
  | succ depth ih =>
      obtain ⟨left, right, rfl, leftPerfect, rightPerfect⟩ := perfect.eq_node
      cases height with
      | zero => simp [nodesAt] at member
      | succ height =>
          simp only [nodesAt, List.mem_append] at member
          rcases member with inLeft | inRight
          · rw [ih leftPerfect inLeft]
          · rw [ih rightPerfect inRight]

theorem Perfect.leaf_mem {depth : Nat} {tree node : PairTree α} (perfect : Perfect depth tree)
    (member : node ∈ nodesAt depth tree) : ∃ word ∈ leaves tree, node = .leaf word := by
  induction depth generalizing tree with
  | zero =>
      obtain ⟨value, rfl⟩ := perfect.eq_leaf
      exact ⟨value, by simp [leaves], by simpa [nodesAt] using member⟩
  | succ depth ih =>
      obtain ⟨left, right, rfl, leftPerfect, rightPerfect⟩ := perfect.eq_node
      simp only [nodesAt, List.mem_append] at member
      rcases member with inLeft | inRight
      · obtain ⟨word, wordMem, same⟩ := ih leftPerfect inLeft
        exact ⟨word, by simp [leaves, wordMem], same⟩
      · obtain ⟨word, wordMem, same⟩ := ih rightPerfect inRight
        exact ⟨word, by simp [leaves, wordMem], same⟩

theorem Perfect.nodesAt_eq_nil {depth height : Nat} {tree : PairTree α} (perfect : Perfect depth tree)
    (deeper : depth < height) : nodesAt height tree = [] := by
  induction depth generalizing tree height with
  | zero =>
      obtain ⟨value, rfl⟩ := perfect.eq_leaf
      cases height with
      | zero => omega
      | succ height => rfl
  | succ depth ih =>
      obtain ⟨left, right, rfl, leftPerfect, rightPerfect⟩ := perfect.eq_node
      cases height with
      | zero => omega
      | succ height =>
          have deeper : depth < height := by omega
          simp [nodesAt, ih leftPerfect deeper, ih rightPerfect deeper]

theorem Perfect.digest_mem {depth height : Nat} {tree node : PairTree α} (perfect : Perfect depth tree)
    (above : height < depth) (member : node ∈ nodesAt height tree) :
    ∃ p ∈ pairs combine tree, digest combine node = combine p.1 p.2 := by
  induction depth generalizing tree height with
  | zero => omega
  | succ depth ih =>
      obtain ⟨left, right, rfl, leftPerfect, rightPerfect⟩ := perfect.eq_node
      cases height with
      | zero =>
          obtain rfl : node = .node left right := by simpa [nodesAt] using member
          exact ⟨_, digest_mem_pairs combine left right, rfl⟩
      | succ height =>
          simp only [nodesAt, List.mem_append] at member
          rcases member with inLeft | inRight
          · obtain ⟨p, pMem, same⟩ := ih leftPerfect (by omega) inLeft
            exact ⟨p, pairs_left_subset combine left right pMem, same⟩
          · obtain ⟨p, pMem, same⟩ := ih rightPerfect (by omega) inRight
            exact ⟨p, pairs_right_subset combine left right pMem, same⟩

theorem Perfect.length_leaves {depth : Nat} {tree : PairTree α} (perfect : Perfect depth tree) :
    (leaves tree).length = 2 ^ depth := by
  induction depth generalizing tree with
  | zero =>
      obtain ⟨value, rfl⟩ := perfect.eq_leaf
      rfl
  | succ depth ih =>
      obtain ⟨left, right, rfl, leftPerfect, rightPerfect⟩ := perfect.eq_node
      rw [leaves, List.length_append, ih leftPerfect, ih rightPerfect, Nat.pow_succ]
      omega

/-- The place among the leaves from which the flags climb: its binary digits, lowest first, are
ones where the climb comes from the right. -/
def place (path : List (Bool × α)) : Nat := Nat.ofDigits 2 (path.map fun step => (!step.1).toNat)

theorem place_append (path : List (Bool × α)) (step : Bool × α) :
    place (path ++ [step]) = place path + 2 ^ path.length * (!step.1).toNat := by
  rw [place, place, List.map_append, Nat.ofDigits_append, List.length_map, List.map_singleton,
    Nat.ofDigits_singleton]

/-- A climb through all levels of a perfect tree starts from the leaf at its place. -/
theorem leaf_of_climb_eq {tree : PairTree α} {value : α} {path : List (Bool × α)}
    (perfect : Perfect path.length tree) (reached : climb combine value path = digest combine tree) :
    (leaves tree)[place path]? = some value ∨
      Collision combine (climbPairs combine value path) (pairs combine tree) := by
  induction path using List.reverseRecOn generalizing tree with
  | nil =>
      obtain ⟨word, rfl⟩ := perfect.eq_leaf
      left
      simpa [leaves, place, climb, digest] using reached.symm
  | append_singleton path step ih =>
      rw [List.length_append, List.length_singleton] at perfect
      obtain ⟨left, right, rfl, leftPerfect, rightPerfect⟩ := perfect.eq_node
      have pathSubset : climbPairs combine value path ⊆ climbPairs combine value (path ++ [step]) := by
        rw [climbPairs_append]
        exact List.subset_append_left _ _
      rw [climb_append] at reached
      by_cases components : joined step (climb combine value path) =
          (digest combine left, digest combine right)
      · rw [place_append, leaves]
        cases side : step.1 with
        | true =>
            have childReached : climb combine value path = digest combine left := by
              simpa [joined, side] using congrArg Prod.fst components
            rcases ih leftPerfect childReached with found | collision
            · left
              have inside := (List.getElem?_eq_some_iff.mp found).1
              rw [Bool.not_true, Bool.toNat_false, Nat.mul_zero, Nat.add_zero,
                List.getElem?_append_left inside, found]
            · exact .inr (collision.mono pathSubset (pairs_left_subset combine left right))
        | false =>
            have childReached : climb combine value path = digest combine right := by
              simpa [joined, side] using congrArg Prod.snd components
            rcases ih rightPerfect childReached with found | collision
            · left
              have width := leftPerfect.length_leaves
              rw [Bool.not_false, Bool.toNat_true, Nat.mul_one, List.getElem?_append_right (by omega),
                width, Nat.add_sub_cancel, found]
            · exact .inr (collision.mono pathSubset (pairs_right_subset combine left right))
      · right
        refine ⟨_, ?_, _, digest_mem_pairs combine left right, components, reached⟩
        rw [climbPairs_append]
        exact List.mem_append_right _ List.mem_cons_self

end HashTree
