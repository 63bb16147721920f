import Mathlib.Logic.Function.Iterate
import Pinaivu.Programs.ScoreMonotone

/-!
Where the moving average of the latency goes when every proof reports the same one. The division
rounds down, so an average below the latency may stop up to nine short of it.
-/

namespace Pinaivu.Program

def averageOf (node : Hash) (board : ScoreBoard) : Nat :=
  ((board.scores node).map fun account => account.avgLatencyMs.toNat).getD 0

/-- The second average is nearer to the latency, on the same side. -/
structure Approaches (latency before after : Nat) : Prop where
  above : latency ≤ before → latency ≤ after ∧ after ≤ before
  below : before ≤ latency → before ≤ after ∧ after ≤ latency

def nextAverage (latency average : Nat) : Nat := (average * 9 + latency) / 10

theorem nextAverage_approaches (latency average : Nat) : Approaches latency average (nextAverage latency average) := by
  unfold nextAverage
  constructor
  · intro above
    omega
  · intro under
    omega

theorem approaches_refl (latency average : Nat) : Approaches latency average average :=
  ⟨fun above => ⟨above, Nat.le_refl _⟩, fun under => ⟨Nat.le_refl _, under⟩⟩

theorem nextAverage_fixed_iff (latency average : Nat) :
    nextAverage latency average = average ↔ latency - 9 ≤ average ∧ average ≤ latency := by
  unfold nextAverage
  omega

def distance (latency average : Nat) : Nat := (latency - average) + (average - latency)

theorem nextAverage_nearer {latency average : Nat} (moves : nextAverage latency average ≠ average) :
    distance latency (nextAverage latency average) < distance latency average := by
  unfold distance
  unfold nextAverage at *
  omega

/-- A function that moves every point but the fixed ones to a smaller measure comes to rest. -/
theorem exists_fixed {Point : Type} (next : Point → Point) (measure : Point → Nat)
    (smaller : ∀ point, next point ≠ point → measure (next point) < measure point) (start : Point) :
    ∃ steps, next (next^[steps] start) = next^[steps] start := by
  induction bound : measure start using Nat.strong_induction_on generalizing start with
  | h bound ih =>
      by_cases fixed : next start = start
      · exact ⟨0, fixed⟩
      · obtain ⟨steps, rests⟩ := ih _ (bound ▸ smaller start fixed) (next start) rfl
        exact ⟨steps + 1, rests⟩

theorem mem_accepted {node : Hash} {board : ScoreBoard} {submissions : List Submission} {submission : Submission}
    (member : submission ∈ accepted node board submissions) : submission ∈ submissions := by
  induction submissions generalizing board with
  | nil => contradiction
  | cons first rest ih =>
      rcases List.mem_append.mp member with now | later
      · unfold acceptedNow at now
        split at now
        · rw [List.mem_singleton.mp now]
          exact List.mem_cons_self
        · contradiction
      · exact List.mem_cons_of_mem first (ih later)

theorem average_records {latency : UInt32} {submissions : List Submission} {account : NodeScore}
    (same : ∀ submission ∈ submissions, submission.latencyMs = latency) :
    ((Runs.run recordNext (some account) submissions).map fun account => account.avgLatencyMs.toNat) =
      some ((nextAverage latency.toNat)^[submissions.length] account.avgLatencyMs.toNat) := by
  induction submissions generalizing account with
  | nil => rfl
  | cons first rest ih =>
      rw [List.forall_mem_cons] at same
      have moved : (first.record account).avgLatencyMs.toNat =
          nextAverage latency.toNat account.avgLatencyMs.toNat := by
        rw [record_average, same.1]
        rfl
      have later := @ih (first.record account) same.2
      rw [moved] at later
      exact later

theorem averageOf_run {board : ScoreBoard} {node : Hash} {account : NodeScore}
    (found : board.scores node = some account) {latency : UInt32} {submissions : List Submission}
    (same : ∀ submission ∈ submissions, submission.latencyMs = latency) :
    averageOf node (Runs.run (submit node) board submissions) =
      (nextAverage latency.toNat)^[(accepted node board submissions).length] account.avgLatencyMs.toNat := by
  have scores : (Runs.run (submit node) board submissions).scores node =
      Runs.run recordNext (board.scores node) (accepted node board submissions) :=
    @Runs.abstract_run _ _ _ _ _ _ (fun board => board.scores node) _ (submit_scores node) board submissions
  have records := @average_records latency (accepted node board submissions) account
    fun submission member => same submission (mem_accepted member)
  rw [averageOf, scores, found]
  exact congrArg (fun average => Option.getD average 0) records

theorem accepted_concat (node : Hash) (board : ScoreBoard) (submissions : List Submission) (last : Submission) :
    accepted node board (submissions ++ [last]) = accepted node board submissions ++
      acceptedNow node (Runs.run (submit node) board submissions) last := by
  rw [accepted, Runs.outputs_append]
  simp [Runs.outputs, accepted]

/-- Proofs of one latency bring the average nearer to it and never past it, and so many of them
that it stays at one value, at most nine short. -/
theorem latency_average_converges {board : ScoreBoard} {node : Hash} {account : NodeScore}
    (found : board.scores node = some account) (latency : UInt32) :
    (∀ submissions last, (∀ submission ∈ submissions ++ [last], submission.latencyMs = latency) →
        Approaches latency.toNat (averageOf node (Runs.run (submit node) board submissions))
          (averageOf node (Runs.run (submit node) board (submissions ++ [last])))) ∧
      ∃ steps final, latency.toNat - 9 ≤ final ∧ final ≤ latency.toNat ∧
        ∀ submissions, (∀ submission ∈ submissions, submission.latencyMs = latency) →
          steps ≤ (accepted node board submissions).length →
          averageOf node (Runs.run (submit node) board submissions) = final := by
  constructor
  · intro submissions last same
    have before := fun submission member => same submission (List.mem_append_left [last] member)
    rw [averageOf_run found before, averageOf_run found same, accepted_concat]
    unfold acceptedNow
    split
    · rw [List.length_append, List.length_singleton, Function.iterate_succ_apply']
      exact nextAverage_approaches _ _
    · rw [List.append_nil]
      exact approaches_refl _ _
  · obtain ⟨steps, rests⟩ := exists_fixed (nextAverage latency.toNat) (distance latency.toNat)
      (fun _ => nextAverage_nearer) account.avgLatencyMs.toNat
    obtain ⟨low, high⟩ := (nextAverage_fixed_iff _ _).mp rests
    refine ⟨steps, _, low, high, ?_⟩
    intro submissions same enough
    obtain ⟨more, total⟩ := Nat.exists_eq_add_of_le' enough
    rw [averageOf_run found same, total, Function.iterate_add_apply]
    exact Function.iterate_fixed rests more

theorem latency_average_test :
    ∃ steps final, 250 - 9 ≤ final ∧ final ≤ 250 ∧
      ∀ submissions : List Submission, (∀ submission ∈ submissions, submission.latencyMs = 250) →
        steps ≤ (accepted 7 testBoard submissions).length →
        averageOf 7 (Runs.run (submit 7) testBoard submissions) = final :=
  (@latency_average_converges testBoard 7 _ rfl 250).2

end Pinaivu.Program
