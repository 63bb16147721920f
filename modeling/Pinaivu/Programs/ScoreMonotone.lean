import Pinaivu.Programs.ScoreInvariant

/-!
How the score of one account moves from one proof to the next. The moving average starts at
zero, so it climbs towards the first latencies while the jobs are counted.
-/

namespace Pinaivu.Program

structure Submission where
  now : Int
  authority : Key
  proofHash : Hash
  outputTokens : UInt32
  latencyMs : UInt32
  lamportsEarned : UInt64
  deriving DecidableEq, Repr

def Submission.call (node : Hash) (submission : Submission) : Int × ScoreInstruction :=
  (submission.now, .submitProof node submission.authority submission.proofHash submission.outputTokens
    submission.latencyMs submission.lamportsEarned)

def submit (node : Hash) (board : ScoreBoard) (submission : Submission) : ScoreBoard :=
  board.step (submission.call node)

def acceptedNow (node : Hash) (board : ScoreBoard) (submission : Submission) : List Submission :=
  if (board.execute (submission.call node)).isOk then [submission] else []

def accepted (node : Hash) (board : ScoreBoard) (submissions : List Submission) : List Submission :=
  Runs.outputs (submit node) (acceptedNow node) board submissions

def ScoreKept (node : Hash) (board : ScoreBoard) (submission : Submission) : Prop :=
  ∀ before after, board.scores node = some before → (submit node board submission).scores node = some after →
    before.score ≤ after.score

def Submission.record (submission : Submission) (account : NodeScore) : NodeScore :=
  account.record submission.now submission.outputTokens submission.latencyMs submission.lamportsEarned

def recordNext (account : Option NodeScore) (submission : Submission) : Option NodeScore :=
  account.map submission.record

def Raises (account : Option NodeScore) (submission : Submission) : Prop :=
  ∀ before, account = some before → before.score ≤ (submission.record before).score

theorem submit_scores (node : Hash) (board : ScoreBoard) (submission : Submission) :
    (submit node board submission).scores node =
      Runs.run recordNext (board.scores node) (acceptedNow node board submission) := by
  rcases step_cases board (submission.call node) with ⟨error, failed, same⟩ |
      ⟨address, account, event, ok, written, writes⟩
  · rw [submit, same, acceptedNow, failed]
    rfl
  · rw [submit, written, acceptedNow, ok]
    cases writes with
    | submitted found =>
        rw [write_scores, if_pos rfl, if_pos rfl, Runs.run_cons, Runs.run_nil, recordNext, found]
        rfl

theorem scoreKept_iff (node : Hash) (board : ScoreBoard) (submission : Submission) :
    ScoreKept node board submission ↔
      Runs.Always recordNext Raises (board.scores node) (acceptedNow node board submission) := by
  rw [ScoreKept, submit_scores]
  unfold acceptedNow
  split
  · simp only [Runs.Always, and_true, Runs.run_cons, Runs.run_nil, recordNext, Raises]
    constructor
    · intro kept before found
      exact kept before _ found (by rw [found, Option.map_some])
    · rintro raises before after found recorded
      rw [found, Option.map_some] at recorded
      obtain rfl := Option.some.inj recorded
      exact raises before found
  · refine iff_of_true ?_ trivial
    intro before after found same
    obtain rfl := Option.some.inj (found.symm.trans same)
    exact UInt64.le_refl _

theorem always_scoreKept_iff (node : Hash) (board : ScoreBoard) (submissions : List Submission) :
    Runs.Always (submit node) (ScoreKept node) board submissions ↔
      Runs.Always recordNext Raises (board.scores node) (accepted node board submissions) :=
  Runs.abstract_always (submit_scores node) (scoreKept_iff node) board submissions

/-- The score of an account without failures in steps of 40000, over that of its success rate. -/
def level (jobs average : Nat) : Nat := min jobs 10000 + (5000 - min average 5000)

/-- An account whose score is that of its fields, after at least one job. -/
structure Counted (account : NodeScore) : Prop where
  rate : account.successRateBps = 10000
  jobs : 1 ≤ account.totalJobs.toNat
  score : account.score.toNat = account.weighted

theorem Counted.level_eq {account : NodeScore} (counted : Counted account) :
    account.score.toNat = 400000000 + 40000 * level account.totalJobs.toNat account.avgLatencyMs.toNat := by
  have rate : account.successRateBps.toNat = 10000 := by
    rw [counted.rate]
    rfl
  rw [counted.score, NodeScore.weighted, weightedScore, rate, level]
  omega

theorem record_jobs (submission : Submission) (account : NodeScore) :
    (submission.record account).totalJobs.toNat = min (account.totalJobs.toNat + 1) 18446744073709551615 :=
  saturatingAdd64_toNat account.totalJobs 1

theorem record_average (submission : Submission) (account : NodeScore) :
    (submission.record account).avgLatencyMs.toNat =
      (account.avgLatencyMs.toNat * 9 + submission.latencyMs.toNat) / 10 := by
  have average : (submission.record account).avgLatencyMs.toNat = (account.averaged submission.latencyMs).toNat :=
    averaged_toUInt32 account submission.latencyMs
  rw [average, averaged_toNat]

theorem record_counted (submission : Submission) {account : NodeScore} (rate : account.successRateBps = 10000) :
    Counted (submission.record account) where
  rate := rate
  jobs := by
    rw [record_jobs]
    omega
  score := record_score account _ _ _ _

/-- A latency that does not pull the average up faster than the jobs are counted: at first by one
step for each job, later not at all; a capped average is not pulled at all. -/
def Steady (jobs average latency : Nat) : Prop :=
  latency ≤ average + max 9 (20 - jobs) ∨ 5000 ≤ average ∨ (average = 4999 ∧ jobs < 10000)

theorem Steady.level_le {jobs average latency : Nat} (steady : Steady jobs average latency) (positive : 1 ≤ jobs) :
    level jobs average ≤ level (min (jobs + 1) 18446744073709551615) ((average * 9 + latency) / 10) := by
  unfold Steady at steady
  unfold level
  omega

theorem Steady.next {jobs average latency later : Nat} (steady : Steady jobs average latency) (positive : 1 ≤ jobs)
    (faster : later ≤ latency) :
    Steady (min (jobs + 1) 18446744073709551615) ((average * 9 + latency) / 10) later := by
  unfold Steady at *
  omega

theorem raises_iff {account : NodeScore} (counted : Counted account) (submission : Submission) :
    Raises (some account) submission ↔
      level account.totalJobs.toNat account.avgLatencyMs.toNat ≤
        level (min (account.totalJobs.toNat + 1) 18446744073709551615)
          ((account.avgLatencyMs.toNat * 9 + submission.latencyMs.toNat) / 10) := by
  have after := (record_counted submission counted.rate).level_eq
  rw [record_jobs, record_average] at after
  have raises : Raises (some account) submission ↔ account.score ≤ (submission.record account).score := by
    simp [Raises]
  rw [raises, UInt64.le_iff_toNat_le, counted.level_eq, after]
  omega

theorem always_raises {account : NodeScore} (counted : Counted account) (submissions : List Submission)
    (faster : submissions.Pairwise fun earlier later => later.latencyMs ≤ earlier.latencyMs)
    (steady : ∀ submission ∈ submissions.head?,
      Steady account.totalJobs.toNat account.avgLatencyMs.toNat submission.latencyMs.toNat) :
    Runs.Always recordNext Raises (some account) submissions := by
  induction submissions generalizing account with
  | nil => trivial
  | cons submission rest ih =>
      have first := steady submission rfl
      refine ⟨(raises_iff counted submission).mpr (first.level_le counted.jobs), ?_⟩
      refine ih (record_counted submission counted.rate) faster.of_cons ?_
      intro later isNext
      have inRest : later ∈ rest := List.mem_of_mem_head? isNext
      have ordered := UInt32.le_iff_toNat_le.mp (List.rel_of_pairwise_cons faster inRest)
      rw [record_jobs, record_average]
      exact first.next counted.jobs ordered

theorem initial_raises (now : Int) (authority : Key) (node : Hash) (submission : Submission) :
    Raises (some (.initial now authority node)) submission := by
  intro before found
  obtain rfl := Option.some.inj found
  exact UInt64.le_iff_toNat_le.mpr (Nat.zero_le _)

theorem always_raises_iff {initial : NodeScore} (rate : initial.successRateBps = 10000)
    (jobs : initial.totalJobs.toNat = 0) (average : initial.avgLatencyMs.toNat = 0) (first second : Submission)
    (rest : List Submission)
    (faster : (first :: second :: rest).Pairwise fun earlier later => later.latencyMs ≤ earlier.latencyMs) :
    Runs.Always recordNext Raises (some (first.record initial)) (second :: rest) ↔
      Steady 1 (first.latencyMs.toNat / 10) second.latencyMs.toNat := by
  have counted := record_counted first rate
  have jobsNow : (first.record initial).totalJobs.toNat = 1 := by
    rw [record_jobs, jobs]
    rfl
  have averageNow : (first.record initial).avgLatencyMs.toNat = first.latencyMs.toNat / 10 := by
    rw [record_average, average, Nat.zero_mul, Nat.zero_add]
  constructor
  · rintro ⟨raises, -⟩
    have moved := (raises_iff counted second).mp raises
    rw [jobsNow, averageNow] at moved
    unfold level at moved
    unfold Steady
    omega
  · intro steady
    refine always_raises counted (second :: rest) faster.of_cons ?_
    intro submission isSecond
    obtain rfl := Option.some.inj isSecond
    rwa [jobsNow, averageNow]

theorem steady_iff (first second : Nat) :
    Steady 1 (first / 10) second ↔ second ≤ first / 10 + 19 ∨ 49990 ≤ first := by
  unfold Steady
  omega

theorem initializeScore_found {start board : ScoreBoard} {now : Int} {authority : Key} {node : Hash}
    (fresh : initializeScore now start authority true node = .ok board) :
    board.scores node = some (.initial now authority node) := by
  unfold initializeScore at fresh
  split at fresh
  · contradiction
  · obtain rfl := Except.ok.inj fresh
    rw [write_scores, if_pos rfl]

/-- With latencies that never rise the score of a fresh account never falls exactly when the second
accepted latency is at most 19 above a tenth of the first, or the first is past the cap. -/
theorem score_monotone_iff {start board : ScoreBoard} {now : Int} {authority : Key} {node : Hash}
    (fresh : initializeScore now start authority true node = .ok board) (submissions : List Submission)
    (faster : (accepted node board submissions).Pairwise fun earlier later => later.latencyMs ≤ earlier.latencyMs) :
    Runs.Always (submit node) (ScoreKept node) board submissions ↔
      ∀ first second rest, accepted node board submissions = first :: second :: rest →
        second.latencyMs.toNat ≤ first.latencyMs.toNat / 10 + 19 ∨ 49990 ≤ first.latencyMs.toNat := by
  rw [always_scoreKept_iff, initializeScore_found fresh]
  generalize accepted node board submissions = proofs at faster
  match proofs, faster with
  | [], _ => simp [Runs.Always]
  | [first], _ =>
      refine iff_of_true ⟨initial_raises now authority node first, trivial⟩ ?_
      intro one two rest same
      simp at same
  | first :: second :: rest, faster =>
      have later := @always_raises_iff (.initial now authority node) rfl rfl rfl first second rest faster
      rw [Runs.Always, and_iff_right (initial_raises now authority node first)]
      refine later.trans ((steady_iff _ _).trans ?_)
      constructor
      · rintro steady one two others same
        simp only [List.cons.injEq] at same
        obtain ⟨rfl, rfl, rfl⟩ := same
        exact steady
      · exact fun all => all first second rest rfl

/-- The two proofs of the repository's own score test. -/
def testProofs (authority : Key) : List Submission :=
  [⟨1, authority, 0x42, 512, 250, 5000000⟩, ⟨2, authority, 0x99, 1024, 200, 10000000⟩]

def testBoard : ScoreBoard :=
  ScoreBoard.empty.write 7 (.initial 0 1 7) (.scoreInitialized 7 1)

theorem score_falls :
    initializeScore 0 ScoreBoard.empty 1 true 7 = .ok testBoard ∧
      ((testProofs 1).Pairwise fun earlier later => later.latencyMs ≤ earlier.latencyMs) ∧
      ¬ Runs.Always (submit 7) (ScoreKept 7) testBoard (testProofs 1) := by
  refine ⟨rfl, by decide, ?_⟩
  rintro ⟨-, kept, -⟩
  have falls := kept _ _ rfl rfl
  revert falls
  decide +kernel

theorem score_monotone_iff_test :
    Runs.Always (submit 7) (ScoreKept 7) testBoard (testProofs 1) ↔
      ∀ first second rest, accepted 7 testBoard (testProofs 1) = first :: second :: rest →
        second.latencyMs.toNat ≤ first.latencyMs.toNat / 10 + 19 ∨ 49990 ≤ first.latencyMs.toNat :=
  @score_monotone_iff ScoreBoard.empty testBoard 0 1 7 rfl (testProofs 1) (by decide +kernel)

end Pinaivu.Program
