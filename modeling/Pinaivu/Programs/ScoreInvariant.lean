import Pinaivu.Programs.ScoreCore

/-!
Bounds of the score accounts over every history of instructions.
-/

namespace Pinaivu.Program

/-- The composite score, without machine arithmetic: success 40%, jobs 40%, latency 20%. -/
def weightedScore (successRateBps totalJobs avgLatencyMs : Nat) : Nat :=
  successRateBps * 400000000 / 10000 + min totalJobs 10000 * 400000000 / 10000 +
    (5000 - min avgLatencyMs 5000) * 200000000 / 5000

def NodeScore.weighted (account : NodeScore) : Nat :=
  weightedScore account.successRateBps.toNat account.totalJobs.toNat account.avgLatencyMs.toNat

theorem weighted_congr {first second : NodeScore} (rate : first.successRateBps = second.successRateBps)
    (jobs : first.totalJobs = second.totalJobs) (latency : first.avgLatencyMs = second.avgLatencyMs) :
    first.weighted = second.weighted := by
  rw [NodeScore.weighted, NodeScore.weighted, rate, jobs, latency]

theorem weightedScore_le {successRateBps : Nat} (bound : successRateBps ≤ 10000) (totalJobs avgLatencyMs : Nat) :
    weightedScore successRateBps totalJobs avgLatencyMs ≤ 1000000000 := by
  unfold weightedScore
  omega

theorem weightedScore_lt {successRateBps : Nat} (rate : successRateBps < 65536) (totalJobs avgLatencyMs : Nat) :
    weightedScore successRateBps totalJobs avgLatencyMs < 18446744073709551616 := by
  unfold weightedScore
  omega

theorem u64Limit_eq : u64Limit = 18446744073709551616 := rfl

theorem saturatingAdd64_toNat (left right : UInt64) :
    (saturatingAdd64 left right).toNat = min (left.toNat + right.toNat) (u64Limit - 1) := by
  rw [saturatingAdd64, UInt64.toNat_ofNat']
  exact Nat.mod_eq_of_lt (by rw [u64Limit_eq]; omega)

theorem le_saturatingAdd64 (left right : UInt64) : left ≤ saturatingAdd64 left right := by
  rw [UInt64.le_iff_toNat_le, saturatingAdd64_toNat]
  have bound : left.toNat < u64Limit := left.toNat_lt
  omega

theorem saturatingMul64_toNat {left right : UInt64} (fits : left.toNat * right.toNat < u64Limit) :
    (saturatingMul64 left right).toNat = left.toNat * right.toNat := by
  rw [saturatingMul64, UInt64.toNat_ofNat', Nat.min_eq_left (by omega)]
  exact Nat.mod_eq_of_lt fits

theorem saturatingSub64_toNat (left right : UInt64) :
    (saturatingSub64 left right).toNat = left.toNat - right.toNat := by
  rw [saturatingSub64, UInt64.toNat_ofNat']
  exact Nat.mod_eq_of_lt ((Nat.sub_le _ _).trans_lt left.toNat_lt)

theorem min_toNat (left right : UInt64) : (min left right).toNat = min left.toNat right.toNat := by
  have unfolded : min left right = if left ≤ right then left else right := rfl
  rw [unfolded, Nat.min_def]
  simp only [UInt64.le_iff_toNat_le]
  split <;> rfl

/-- No step of the computation saturates or wraps. -/
theorem recomputeScore_score (account : NodeScore) : account.recomputeScore.score.toNat = account.weighted := by
  have rate := account.successRateBps.toNat_lt
  have success : (saturatingMul64 account.successRateBps.toUInt64 400000000).toNat =
      account.successRateBps.toNat * 400000000 := by
    rw [saturatingMul64_toNat]
    · simp
    · simp [u64Limit_eq]
      omega
  have jobs : (saturatingMul64 (min account.totalJobs 10000) 400000000).toNat =
      min account.totalJobs.toNat 10000 * 400000000 := by
    rw [saturatingMul64_toNat]
    · simp [min_toNat]
    · simp [min_toNat, u64Limit_eq]
      omega
  have latency : (saturatingMul64 (saturatingSub64 5000 (min account.avgLatencyMs.toUInt64 5000)) 200000000).toNat =
      (5000 - min account.avgLatencyMs.toNat 5000) * 200000000 := by
    rw [saturatingMul64_toNat]
    · simp [saturatingSub64_toNat, min_toNat]
    · simp [saturatingSub64_toNat, min_toNat, u64Limit_eq]
      omega
  have divisors : (10000 : UInt64).toNat = 10000 ∧ (5000 : UInt64).toNat = 5000 := ⟨rfl, rfl⟩
  have bound := weightedScore_lt rate account.totalJobs.toNat account.avgLatencyMs.toNat
  simp only [NodeScore.recomputeScore, UInt64.toNat_add, UInt64.toNat_div, success, jobs, latency, divisors]
  rw [weightedScore] at bound
  rw [NodeScore.weighted, weightedScore, Nat.mod_eq_of_lt (by omega), Nat.mod_eq_of_lt (by omega)]

theorem averaged_toNat (account : NodeScore) (latencyMs : UInt32) :
    (account.averaged latencyMs).toNat = (account.avgLatencyMs.toNat * 9 + latencyMs.toNat) / 10 := by
  have old := account.avgLatencyMs.toNat_lt
  have new := latencyMs.toNat_lt
  simp [NodeScore.averaged]
  omega

theorem averaged_toUInt32 (account : NodeScore) (latencyMs : UInt32) :
    (account.averaged latencyMs).toUInt32.toNat = (account.averaged latencyMs).toNat := by
  have old := account.avgLatencyMs.toNat_lt
  have new := latencyMs.toNat_lt
  have value := averaged_toNat account latencyMs
  rw [UInt64.toNat_toUInt32]
  omega

def submittedLatency (node : Hash) (board : ScoreBoard) (call : Int × ScoreInstruction) : List UInt32 :=
  match call.2 with
  | .submitProof address _ _ _ latencyMs _ =>
      if address = node ∧ (board.execute call).isOk then [latencyMs] else []
  | _ => []

def submittedLatencies (node : Hash) (history : List (Int × ScoreInstruction)) : List UInt32 :=
  Runs.outputs ScoreBoard.step (submittedLatency node) .empty history

def largest (latencies : List UInt32) : Nat := (latencies.map UInt32.toNat).foldr max 0

structure Bounded (latencies : List UInt32) (account : NodeScore) : Prop where
  rate : account.successRateBps.toNat ≤ 10000
  latency : account.avgLatencyMs.toNat ≤ largest latencies
  score : account.score.toNat ≤ 1000000000

structure Grows (before after : NodeScore) : Prop where
  jobs : before.totalJobs ≤ after.totalJobs
  tokens : before.totalTokensEarned ≤ after.totalTokensEarned
  lamports : before.totalLamportsEarned ≤ after.totalLamportsEarned

/-- A rejected instruction changes nothing, and an accepted proof leaves the weighted score of the
fields it stores, with the whole average among them. -/
structure CallSound (board : ScoreBoard) (call : Int × ScoreInstruction) : Prop where
  rejected : ∀ error, board.execute call = .error error → board.step call = board
  submitted : ∀ now address authority proofHash outputTokens latencyMs lamportsEarned,
    call = (now, .submitProof address authority proofHash outputTokens latencyMs lamportsEarned) →
    (board.execute call).isOk = true →
    ∃ before after, board.scores address = some before ∧ (board.step call).scores address = some after ∧
      after.score.toNat = after.weighted ∧ after.avgLatencyMs.toNat = (before.averaged latencyMs).toNat

theorem Grows.refl (account : NodeScore) : Grows account account :=
  ⟨UInt64.le_refl _, UInt64.le_refl _, UInt64.le_refl _⟩

theorem Grows.trans {first second third : NodeScore} (one : Grows first second) (two : Grows second third) :
    Grows first third :=
  ⟨UInt64.le_trans one.jobs two.jobs, UInt64.le_trans one.tokens two.tokens, UInt64.le_trans one.lamports two.lamports⟩

theorem record_grows (account : NodeScore) (now : Int) (outputTokens latencyMs : UInt32) (lamportsEarned : UInt64) :
    Grows account (account.record now outputTokens latencyMs lamportsEarned) :=
  ⟨le_saturatingAdd64 _ _, le_saturatingAdd64 _ _, le_saturatingAdd64 _ _⟩

theorem record_score (account : NodeScore) (now : Int) (outputTokens latencyMs : UInt32) (lamportsEarned : UInt64) :
    (account.record now outputTokens latencyMs lamportsEarned).score.toNat =
      (account.record now outputTokens latencyMs lamportsEarned).weighted := by
  have same : (account.record now outputTokens latencyMs lamportsEarned).weighted =
      (account.count outputTokens latencyMs lamportsEarned).weighted := weighted_congr rfl rfl rfl
  rw [same]
  exact recomputeScore_score (account.count outputTokens latencyMs lamportsEarned)

theorem largest_append (first rest : List UInt32) : largest (first ++ rest) = max (largest first) (largest rest) := by
  induction first with
  | nil => simp [largest]
  | cons latency first ih =>
      simp only [largest, List.cons_append, List.map_cons, List.foldr_cons] at ih ⊢
      rw [ih, max_assoc]

theorem bounded_initial (now : Int) (authority : Key) (nodePubkey : Hash) (latencies : List UInt32) :
    Bounded latencies (.initial now authority nodePubkey) :=
  ⟨le_rfl, Nat.zero_le _, Nat.zero_le _⟩

theorem Bounded.append {latencies : List UInt32} {account : NodeScore} (bounded : Bounded latencies account)
    (more : List UInt32) : Bounded (latencies ++ more) account := by
  refine ⟨bounded.rate, ?_, bounded.score⟩
  rw [largest_append]
  exact bounded.latency.trans (le_max_left _ _)

theorem Bounded.record {latencies : List UInt32} {account : NodeScore} (bounded : Bounded latencies account)
    (now : Int) (outputTokens latencyMs : UInt32) (lamportsEarned : UInt64) :
    Bounded (latencies ++ [latencyMs]) (account.record now outputTokens latencyMs lamportsEarned) where
  rate := bounded.rate
  latency := by
    have average : (account.record now outputTokens latencyMs lamportsEarned).avgLatencyMs.toNat =
        (account.averaged latencyMs).toNat := averaged_toUInt32 account latencyMs
    have old := bounded.latency
    have single : largest [latencyMs] = latencyMs.toNat := Nat.max_zero _
    rw [average, averaged_toNat, largest_append, single]
    omega
  score := by
    rw [record_score]
    exact weightedScore_le bounded.rate _ _

theorem ownScore_ok {board : ScoreBoard} {address : Hash} {authority : Key} {account : NodeScore}
    (own : ownScore board address authority = .ok account) :
    board.scores address = some account ∧ account.nodePubkey = address ∧ account.authority = authority := by
  rw [ownScore] at own
  split at own
  · contradiction
  next found =>
    split at own
    · contradiction
    next seeds =>
      split at own
      · contradiction
      next signer =>
        obtain rfl := Except.ok.inj own
        exact ⟨found, not_not.mp seeds, not_not.mp signer⟩

inductive Writes (board : ScoreBoard) : Int × ScoreInstruction → Hash → NodeScore → Prop
  | created {now authority nodePubkey} (free : board.scores nodePubkey = none) :
      Writes board (now, .initializeScore authority true nodePubkey) nodePubkey (.initial now authority nodePubkey)
  | submitted {now address authority proofHash outputTokens latencyMs lamportsEarned account}
      (found : board.scores address = some account) :
      Writes board (now, .submitProof address authority proofHash outputTokens latencyMs lamportsEarned) address
        (account.record now outputTokens latencyMs lamportsEarned)
  | anchored {now address authority merkleRoot label account} (found : board.scores address = some account) :
      Writes board (now, .anchorMerkleRoot address authority merkleRoot label) address
        { account with merkleRoot, merkleRootLabel := label, lastUpdated := now }

theorem execute_ok {board after : ScoreBoard} {call : Int × ScoreInstruction}
    (accepted : board.execute call = .ok after) :
    ∃ address account event, after = board.write address account event ∧ Writes board call address account := by
  obtain ⟨now, instruction⟩ := call
  cases instruction with
  | initializeScore authority funded nodePubkey =>
      simp only [ScoreBoard.execute, initializeScore] at accepted
      split at accepted
      · contradiction
      next free =>
        cases funded with
        | false => contradiction
        | true => exact ⟨_, _, _, (Except.ok.inj accepted).symm, .created free⟩
  | submitProof address authority proofHash outputTokens latencyMs lamportsEarned =>
      simp only [ScoreBoard.execute, submitProof] at accepted
      split at accepted
      · contradiction
      next account own =>
        split at accepted
        · contradiction
        · exact ⟨_, _, _, (Except.ok.inj accepted).symm, .submitted (ownScore_ok own).1⟩
  | anchorMerkleRoot address authority merkleRoot label =>
      simp only [ScoreBoard.execute, anchorMerkleRoot] at accepted
      split at accepted
      · contradiction
      next account own => exact ⟨_, _, _, (Except.ok.inj accepted).symm, .anchored (ownScore_ok own).1⟩

theorem step_cases (board : ScoreBoard) (call : Int × ScoreInstruction) :
    (∃ error, board.execute call = .error error ∧ board.step call = board) ∨
      ∃ address account event, (board.execute call).isOk = true ∧
        board.step call = board.write address account event ∧ Writes board call address account := by
  cases outcome : board.execute call with
  | error error => exact .inl ⟨error, rfl, by simp only [ScoreBoard.step, outcome]⟩
  | ok after =>
      obtain ⟨address, account, event, rfl, writes⟩ := execute_ok outcome
      exact .inr ⟨address, account, event, rfl, by simp only [ScoreBoard.step, outcome], writes⟩

theorem write_scores (board : ScoreBoard) (address : Hash) (account : NodeScore) (event : ScoreEvent) (node : Hash) :
    (board.write address account event).scores node =
      if node = address then some account else board.scores node := by
  simp [ScoreBoard.write, Function.update_apply]

theorem step_grows (board : ScoreBoard) (call : Int × ScoreInstruction) {node : Hash} {before : NodeScore}
    (found : board.scores node = some before) :
    ∃ after, (board.step call).scores node = some after ∧ Grows before after := by
  rcases step_cases board call with ⟨_, _, same⟩ | ⟨address, account, event, _, written, writes⟩
  · exact ⟨before, by rw [same, found], Grows.refl before⟩
  · rw [written, write_scores]
    split
    next same =>
      subst same
      refine ⟨account, rfl, ?_⟩
      cases writes with
      | created free => simp [free] at found
      | submitted old =>
          obtain rfl := Option.some.inj (old.symm.trans found)
          exact record_grows _ _ _ _ _
      | anchored old =>
          obtain rfl := Option.some.inj (old.symm.trans found)
          exact ⟨UInt64.le_refl _, UInt64.le_refl _, UInt64.le_refl _⟩
    next => exact ⟨before, found, Grows.refl before⟩

theorem run_grows (board : ScoreBoard) (history : List (Int × ScoreInstruction)) {node : Hash} {before : NodeScore}
    (found : board.scores node = some before) :
    ∃ after, (Runs.run ScoreBoard.step board history).scores node = some after ∧ Grows before after := by
  exact Runs.invariant_run (fun board : ScoreBoard => ∃ after, board.scores node = some after ∧ Grows before after)
    (fun board call reached => by
      obtain ⟨middle, found, grown⟩ := reached
      obtain ⟨after, found, more⟩ := step_grows board call found
      exact ⟨after, found, grown.trans more⟩)
    ⟨before, found, Grows.refl before⟩ history

theorem step_bounded (board : ScoreBoard) (call : Int × ScoreInstruction) (latencies : Hash → List UInt32)
    (bounded : ∀ node account, board.scores node = some account → Bounded (latencies node) account) :
    ∀ node account, (board.step call).scores node = some account →
      Bounded (latencies node ++ submittedLatency node board call) account := by
  intro node account found
  rcases step_cases board call with ⟨_, _, same⟩ | ⟨address, written, event, accepted, writtenIs, writes⟩
  · rw [same] at found
    exact (bounded node account found).append _
  · rw [writtenIs, write_scores] at found
    split at found
    next here =>
      subst here
      obtain rfl := Option.some.inj found
      cases writes with
      | created free => exact bounded_initial _ _ _ _
      | submitted old =>
          have recorded := (bounded node _ old).record
          simp only [submittedLatency, accepted, and_self, if_true]
          exact recorded _ _ _ _
      | anchored old =>
          have kept := (bounded node _ old).append []
          exact ⟨kept.rate, kept.latency, kept.score⟩
    next => exact (bounded node account found).append _

theorem call_sound (board : ScoreBoard) (call : Int × ScoreInstruction) : CallSound board call where
  rejected := by
    intro error outcome
    simp only [ScoreBoard.step, outcome]
  submitted := by
    rintro now address authority proofHash outputTokens latencyMs lamportsEarned rfl accepted
    rcases step_cases board _ with ⟨error, rejected, _⟩ | ⟨target, after, event, _, written, writes⟩
    · rw [rejected] at accepted
      contradiction
    · cases writes with
      | @submitted _ _ _ _ _ _ _ before found =>
          refine ⟨before, _, found, ?_, record_score before now outputTokens latencyMs lamportsEarned,
            averaged_toUInt32 before latencyMs⟩
          rw [written, write_scores, if_pos rfl]

theorem run_bounded (history : List (Int × ScoreInstruction)) :
    ∀ node account, (Runs.run ScoreBoard.step .empty history).scores node = some account →
      Bounded (submittedLatencies node history) account := by
  induction history using List.reverseRecOn with
  | nil =>
      intro node account found
      contradiction
  | append_singleton history last ih =>
      have kept := step_bounded _ last (fun node => submittedLatencies node history) ih
      intro node account found
      rw [Runs.run_concat] at found
      rw [submittedLatencies, Runs.outputs_append, Runs.outputs, Runs.outputs, List.append_nil]
      exact kept node account found

/-- In every state that a history reaches the accounts are within their bounds, in every later state
their counters are at least what they were, and every next instruction is sound. -/
theorem score_invariant (first rest : List (Int × ScoreInstruction)) :
    (∀ node account, (Runs.run ScoreBoard.step .empty first).scores node = some account →
      Bounded (submittedLatencies node first) account) ∧
    (∀ node before, (Runs.run ScoreBoard.step .empty first).scores node = some before →
      ∃ after, (Runs.run ScoreBoard.step .empty (first ++ rest)).scores node = some after ∧ Grows before after) ∧
    ∀ call, CallSound (Runs.run ScoreBoard.step .empty first) call := by
  refine ⟨run_bounded first, ?_, call_sound _⟩
  intro node before found
  rw [Runs.run_append]
  exact run_grows _ rest found

end Pinaivu.Program
