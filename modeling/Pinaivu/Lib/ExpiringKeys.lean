import Mathlib.Logic.Function.Basic

/-!
A shared store whose keys expire, and that serves one command after another. Whether a key is still there at the
very instant of its deadline is left open.
-/

namespace ExpiringKeys

structure Lifetime where
  alive : Nat → Nat → Bool
  before : ∀ deadline now, now < deadline → alive deadline now = true
  after : ∀ deadline now, deadline < now → alive deadline now = false

theorem Lifetime.alive_iff (lifetime : Lifetime) {deadline now : Nat} (apart : now ≠ deadline) :
    lifetime.alive deadline now = true ↔ now < deadline := by
  constructor
  · intro alive
    refine Nat.lt_of_not_le fun passed => ?_
    rw [lifetime.after deadline now (by omega)] at alive
    exact Bool.noConfusion alive
  · exact lifetime.before deadline now

abbrev Store (Key Value : Type) := Key → Option (Value × Nat)

variable {Key Value : Type} (lifetime : Lifetime)

def empty : Store Key Value := fun _ => none

def get (store : Store Key Value) (now : Nat) (key : Key) : Option Value :=
  ((store key).filter fun entry => lifetime.alive entry.2 now).map Prod.fst

variable [DecidableEq Key]

def put (store : Store Key Value) (key : Key) (value : Value) (deadline : Nat) : Store Key Value :=
  Function.update store key (some (value, deadline))

def putNew (store : Store Key Value) (now : Nat) (key : Key) (value : Value) (deadline : Nat) :
    Store Key Value × Bool :=
  if (get lifetime store now key).isSome then (store, false) else (put store key value deadline, true)

@[simp]
theorem put_self (store : Store Key Value) (key : Key) (value : Value) (deadline : Nat) :
    put store key value deadline key = some (value, deadline) := by
  simp [put]

theorem put_other (store : Store Key Value) {key other : Key} (differs : other ≠ key) (value : Value)
    (deadline : Nat) : put store key value deadline other = store other := by
  simp [put, differs]

omit [DecidableEq Key] in
theorem get_isSome_iff {store : Store Key Value} {now : Nat} {key : Key} :
    (get lifetime store now key).isSome = true ↔
      ∃ value deadline, store key = some (value, deadline) ∧ lifetime.alive deadline now = true := by
  constructor
  · intro present
    obtain ⟨value, got⟩ := Option.isSome_iff_exists.mp present
    obtain ⟨entry, kept, rfl⟩ := Option.map_eq_some_iff.mp got
    obtain ⟨found, alive⟩ := Option.filter_eq_some_iff.mp kept
    exact ⟨entry.1, entry.2, found, alive⟩
  · rintro ⟨value, deadline, found, alive⟩
    have kept : ((store key).filter fun entry => lifetime.alive entry.2 now) = some (value, deadline) :=
      Option.filter_eq_some_iff.mpr ⟨found, alive⟩
    rw [get, kept]
    rfl

end ExpiringKeys
