import Pinaivu.Lib.Runs
import Pinaivu.Reputation.StoreHistory

/-!
`crates/reputation/src/gossip.rs`: concurrent calls of `record_proof`. Each call records its
proof in the inner store, reads the root and queues it, and the three steps of different calls
interleave in any way.
-/

namespace Pinaivu.Reputation

open LocalReputationStore

structure RecordCall where
  now : UInt64
  proof : ProofOfInference

inductive CallPhase where
  | started
  | recorded
  | read (root : Digest)
  | finished

def CallPhase.taken : CallPhase → Nat
  | .started => 0
  | .recorded => 1
  | .read _ => 2
  | .finished => 3

/-- The inner store, the roots sent on the broadcast channel and the phases of the calls. -/
structure GossipReputationStore (Caller : Type) where
  inner : LocalReputationStore
  queued : List Digest
  phase : Caller → CallPhase

namespace GossipReputationStore

variable {Caller : Type} [DecidableEq Caller] {SigningKey : Type} (prims : Primitives SigningKey)

def newWithBroadcast (inner : LocalReputationStore) : GossipReputationStore Caller :=
  ⟨inner, [], fun _ => .started⟩

def step (calls : Caller → RecordCall) (state : GossipReputationStore Caller) (caller : Caller) :
    GossipReputationStore Caller :=
  match state.phase caller with
  | .started =>
      { state with
        inner := (state.inner.recordProof prims (calls caller).now (calls caller).proof).1
        phase := Function.update state.phase caller .recorded }
  | .recorded =>
      { state with phase := Function.update state.phase caller (.read (state.inner.merkleRoot prims)) }
  | .read root =>
      { state with
        queued := state.queued ++ [root]
        phase := Function.update state.phase caller .finished }
  | .finished => state

/-- Once all calls have finished, the last root sent is the one that the store has. -/
def LastRootCurrent (state : GossipReputationStore Caller) : Prop :=
  (∀ caller, state.phase caller = .finished) →
    ∀ root, state.queued.getLast? = some root → root = state.inner.merkleRoot prims

def KeepsRoot (calls : Caller → RecordCall) (state : GossipReputationStore Caller) (caller : Caller) : Prop :=
  state.phase caller = .started →
    (state.inner.recordProof prims (calls caller).now (calls caller).proof).1.merkleRoot prims =
      state.inner.merkleRoot prims

/-- Whenever the second step of a call, its read, and the third one, its queueing, have the last steps of all
others before them, no proof that changes the root is recorded between the two. -/
def LastReadKept (calls : Caller → RecordCall) (inner : LocalReputationStore) (schedule : List Caller) : Prop :=
  ∀ first caller middle rest, schedule = first ++ caller :: (middle ++ caller :: rest) →
    first.count caller = 1 → caller ∉ middle →
      (∀ other, other ≠ caller → 3 ≤ (first ++ middle).count other) →
        Runs.Always (step prims calls) (KeepsRoot prims calls)
          (Runs.run (step prims calls) (newWithBroadcast inner) (first ++ [caller])) middle

variable {prims} {calls : Caller → RecordCall}

theorem step_phase_other (state : GossipReputationStore Caller) {caller other : Caller} (different : other ≠ caller) :
    (step prims calls state caller).phase other = state.phase other := by
  unfold step
  split <;> simp [different]

theorem step_reads {state : GossipReputationStore Caller} {caller : Caller} {root : Digest}
    (holds : (step prims calls state caller).phase caller = .read root) :
    state.phase caller = .recorded ∧ root = state.inner.merkleRoot prims := by
  cases mine : state.phase caller with
  | started => simp [step, mine] at holds
  | recorded =>
      refine ⟨rfl, ?_⟩
      simpa [step, mine, eq_comm] using holds
  | read other => simp [step, mine] at holds
  | finished => simp [step, mine] at holds

theorem step_taken (state : GossipReputationStore Caller) (caller other : Caller) :
    ((step prims calls state caller).phase other).taken =
      min 3 ((state.phase other).taken + if other = caller then 1 else 0) := by
  by_cases same : other = caller
  · subst same
    cases mine : state.phase other <;> simp [step, mine, CallPhase.taken]
  · rw [step_phase_other state same, if_neg same]
    cases state.phase other <;> simp [CallPhase.taken]

variable (prims) in
theorem run_taken (calls : Caller → RecordCall) (inner : LocalReputationStore) (schedule : List Caller)
    (caller : Caller) :
    ((Runs.run (step prims calls) (newWithBroadcast inner) schedule).phase caller).taken =
      min 3 (schedule.count caller) := by
  induction schedule using List.reverseRecOn with
  | nil => rfl
  | append_singleton schedule last ih =>
      rw [Runs.run_concat, step_taken, ih, List.count_append, List.count_singleton]
      by_cases same : last = caller
      · simp only [same, if_true, BEq.rfl]
        omega
      · have other : caller ≠ last := fun equal => same equal.symm
        simp [same, other]

/-- The root that a call holds was the store's when the call read it, since when it took no step. -/
theorem read_split {inner : LocalReputationStore} {schedule : List Caller} {caller : Caller} {root : Digest}
    (holds : (Runs.run (step prims calls) (newWithBroadcast inner) schedule).phase caller = .read root) :
    ∃ first middle, schedule = first ++ caller :: middle ∧ first.count caller = 1 ∧ caller ∉ middle ∧
      root = (Runs.run (step prims calls) (newWithBroadcast inner) first).inner.merkleRoot prims := by
  induction schedule using List.reverseRecOn with
  | nil => cases holds
  | append_singleton schedule last ih =>
      rw [Runs.run_concat] at holds
      by_cases same : caller = last
      · subst same
        obtain ⟨recorded, current⟩ := step_reads holds
        have taken := run_taken prims calls inner schedule caller
        rw [recorded, CallPhase.taken] at taken
        exact ⟨schedule, [], rfl, by omega, List.not_mem_nil, current⟩
      · rw [step_phase_other _ same] at holds
        obtain ⟨first, middle, rfl, once, absent, current⟩ := ih holds
        exact ⟨first, middle ++ [last], by simp, once, by simp [absent, same], current⟩

theorem step_root {state : GossipReputationStore Caller} {caller : Caller}
    (kept : KeepsRoot prims calls state caller) :
    (step prims calls state caller).inner.merkleRoot prims = state.inner.merkleRoot prims := by
  cases mine : state.phase caller with
  | started => simpa [step, mine] using kept mine
  | recorded => simp [step, mine]
  | read root => simp [step, mine]
  | finished => simp [step, mine]

theorem run_root {state : GossipReputationStore Caller} {schedule : List Caller}
    (kept : Runs.Always (step prims calls) (KeepsRoot prims calls) state schedule) :
    (Runs.run (step prims calls) state schedule).inner.merkleRoot prims = state.inner.merkleRoot prims := by
  induction schedule generalizing state with
  | nil => rfl
  | cons caller rest ih => rw [Runs.run_cons, ih kept.2, step_root kept.1]

theorem lastRootCurrent_step {state : GossipReputationStore Caller} {caller : Caller}
    (before : LastRootCurrent prims state)
    (sends : ∀ root, state.phase caller = .read root → (∀ other, other ≠ caller → state.phase other = .finished) →
      root = state.inner.merkleRoot prims) :
    LastRootCurrent prims (step prims calls state caller) := by
  intro finished root last
  cases mine : state.phase caller with
  | started => simpa [step, mine] using finished caller
  | recorded => simpa [step, mine] using finished caller
  | finished =>
      have same : step prims calls state caller = state := by
        simp [step, mine]
      rw [same] at finished last ⊢
      exact before finished root last
  | read held =>
      have others : ∀ other, other ≠ caller → state.phase other = .finished := by
        intro other different
        rw [← @step_phase_other _ _ _ prims calls state _ _ different]
        exact finished other
      have sent : held = root := by
        simpa [step, mine] using last
      have inner : (step prims calls state caller).inner = state.inner := by
        simp [step, mine]
      rw [inner, ← sent]
      exact sends held mine others

theorem sends_current {inner : LocalReputationStore} {schedule before rest : List Caller} {caller : Caller}
    (kept : LastReadKept prims calls inner schedule) (split : schedule = before ++ caller :: rest) {root : Digest}
    (holds : (Runs.run (step prims calls) (newWithBroadcast inner) before).phase caller = .read root)
    (others : ∀ other, other ≠ caller →
      (Runs.run (step prims calls) (newWithBroadcast inner) before).phase other = .finished) :
    root = (Runs.run (step prims calls) (newWithBroadcast inner) before).inner.merkleRoot prims := by
  obtain ⟨first, middle, rfl, once, absent, current⟩ := read_split holds
  have done : ∀ other, other ≠ caller → 3 ≤ (first ++ middle).count other := by
    intro other different
    have taken := run_taken prims calls inner (first ++ caller :: middle) other
    rw [others other different, CallPhase.taken, List.count_append, List.count_cons_of_ne different.symm] at taken
    rw [List.count_append]
    omega
  have disturbed := kept first caller middle rest (by simp [split]) once absent done
  have recorded : (Runs.run (step prims calls) (newWithBroadcast inner) first).phase caller = .recorded := by
    have taken := run_taken prims calls inner first caller
    rw [once] at taken
    cases phase : (Runs.run (step prims calls) (newWithBroadcast inner) first).phase caller <;>
      simp [phase, CallPhase.taken] at taken ⊢
  have started : ¬(Runs.run (step prims calls) (newWithBroadcast inner) first).phase caller = .started := by
    simp [recorded]
  have read := @step_root _ _ _ prims calls _ caller fun start => absurd start started
  rw [← List.singleton_append, ← List.append_assoc, Runs.run_append, run_root disturbed, Runs.run_concat, read, current]

/-- Whenever all calls have finished the last root sent is the one that the store has, in every run that records
no proof which changes the root between the read and the queueing of the call that queues last. -/
theorem last_root_current (calls : Caller → RecordCall) (inner : LocalReputationStore) (schedule : List Caller)
    (kept : LastReadKept prims calls inner schedule) (first rest : List Caller) (split : schedule = first ++ rest) :
    LastRootCurrent prims (Runs.run (step prims calls) (newWithBroadcast inner) first) := by
  induction first using List.reverseRecOn generalizing rest with
  | nil =>
      intro finished root none
      simp [newWithBroadcast] at none
  | append_singleton first last ih =>
      rw [List.append_assoc, List.singleton_append] at split
      rw [Runs.run_concat]
      refine lastRootCurrent_step (ih (last :: rest) split) ?_
      intro root holds others
      exact sends_current kept split holds others

end GossipReputationStore

open GossipReputationStore

section

variable {SigningKey : Type} {prims : Primitives SigningKey}

theorem overtaken_run (calls : Bool → RecordCall) (inner : LocalReputationStore) :
    Runs.run (step prims calls) (newWithBroadcast inner) [false, false, true, true, true, false] =
      let first := (inner.recordProof prims (calls false).now (calls false).proof).1
      let both := (first.recordProof prims (calls true).now (calls true).proof).1
      ⟨both, [both.merkleRoot prims, first.merkleRoot prims], fun _ => .finished⟩ := by
  simp only [Runs.run, List.foldl_cons, List.foldl_nil, step, newWithBroadcast, Function.update_self,
    ne_eq, Bool.false_eq_true, Bool.true_eq_false, not_false_eq_true, Function.update_of_ne,
    List.nil_append, List.cons_append]
  congr 1
  funext caller
  cases caller <;> simp

theorem overtaken_stale {calls : Bool → RecordCall} {inner : LocalReputationStore}
    (moved : (((inner.recordProof prims (calls false).now (calls false).proof).1).recordProof prims
        (calls true).now (calls true).proof).1.merkleRoot prims ≠
      (inner.recordProof prims (calls false).now (calls false).proof).1.merkleRoot prims) :
    ¬LastRootCurrent prims (Runs.run (step prims calls) (newWithBroadcast inner)
      [false, false, true, true, true, false]) := by
  rw [overtaken_run]
  intro current
  exact moved (current (fun _ => rfl) _ rfl).symm

theorem own_roots {localPeerId : NodePeerId} {first second : ProofOfInference} (firstNow secondNow : UInt64)
    (firstOwn : first.nodePeerId = localPeerId) (secondOwn : second.nodePeerId = localPeerId)
    (different : second.id prims.sha256 ≠ first.id prims.sha256) :
    let one := ((inMemory localPeerId).recordProof prims firstNow first).1
    let two := (one.recordProof prims secondNow second).1
    one.merkleRoot prims = first.id prims.sha256 ∧
      two.merkleRoot prims = prims.hashPair (first.id prims.sha256) (second.id prims.sha256) := by
  intro one two
  have empty : StoreConsistent prims (inMemory localPeerId) := fun _ member => absurd member List.not_mem_nil
  have oneConsistent := recordProof_consistent empty firstNow first
  have oneHistory : history prims one localPeerId = [first] := by
    rw [history_recordProof empty, if_pos firstOwn]
    rfl
  have twoHistory : history prims two localPeerId = [first, second] := by
    rw [history_recordProof oneConsistent, if_pos secondOwn, oneHistory]
    simp [extend, KeyedList.insertNew, different]
  have onePeer : one.localPeerId = localPeerId := recordProof_localPeerId _ _ _
  have twoPeer : two.localPeerId = localPeerId := (recordProof_localPeerId _ _ _).trans onePeer
  constructor
  · rw [merkleRoot_history oneConsistent, onePeer, oneHistory]
    exact Merkle.root_single _ _ _
  · rw [merkleRoot_history (recordProof_consistent oneConsistent _ _), twoPeer, twoHistory]
    exact Merkle.root_pair _ _ _ _

end

def twoCalls (caller : Bool) : RecordCall := ⟨1700000001, sampleProof (if caller then 2 else 1) []⟩

theorem twoCalls_id (caller : Bool) :
    (twoCalls caller).proof.id samplePrims.sha256 = Vector.replicate 32 (if caller then 2 else 1) := by
  cases caller <;> exact id_sample _ _

/-- Both calls record their proofs before either reads the root. -/
theorem roots_sent_current :
    LastRootCurrent samplePrims (Runs.run (step samplePrims twoCalls)
      (newWithBroadcast (.inMemory "peer")) [false, true, false, true, true, false]) := by
  refine last_root_current twoCalls (.inMemory "peer") [false, true, false, true, true, false] ?_ _ [] rfl
  intro first caller middle rest split once absent others
  have place : first = [false, true] ∧ caller = false ∧ middle = [true, true] ∨
      first = [false, true, false] ∧ caller = true ∧ middle = [] := by
    simp only [List.cons_eq_append_iff, List.append_eq_cons_iff, List.cons.injEq] at split
    aesop
  rcases place with ⟨rfl, rfl, rfl⟩ | ⟨rfl, rfl, rfl⟩
  · -- The two steps of the other call are its read and its queueing.
    refine ⟨?_, ?_, trivial⟩
    · rintro ⟨⟩
    · rintro ⟨⟩
  · exact absurd (others false (by decide)) (by decide)

theorem stale_root_sent_last :
    ¬LastRootCurrent samplePrims (Runs.run (step samplePrims twoCalls)
      (newWithBroadcast (.inMemory "peer")) [false, false, true, true, true, false]) := by
  have different : (twoCalls true).proof.id samplePrims.sha256 ≠ (twoCalls false).proof.id samplePrims.sha256 := by
    rw [twoCalls_id, twoCalls_id]
    decide
  have own : ∀ caller, (twoCalls caller).proof.nodePeerId = "peer" := fun _ => rfl
  obtain ⟨one, two⟩ := own_roots (twoCalls false).now (twoCalls true).now (own false) (own true) different
  apply overtaken_stale
  rw [two, one, twoCalls_id, twoCalls_id]
  decide

end Pinaivu.Reputation
