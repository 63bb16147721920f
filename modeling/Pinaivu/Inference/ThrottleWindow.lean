import Pinaivu.Inference.BidPrices
import Pinaivu.Lib.Runs
import Pinaivu.Lib.SlidingWindow

/-!
The throttle of the bid engine over whole runs: what a check counts is what was won in its window,
whatever earlier checks have forgotten.
-/

namespace Pinaivu.Inference

namespace BidDecisionEngine

/-- The calls that lock `recent_wins`, in the order of the lock, with the clock that each reads under it. -/
inductive Call where
  | recordWin (now : Int)
  | throttleCheck (now : Int)

def Call.now : Call → Int
  | .recordWin now | .throttleCheck now => now

def Call.won : Call → Option Int
  | .recordWin now => some now
  | .throttleCheck _ => none

def step (engine : BidDecisionEngine) : Call → BidDecisionEngine
  | .recordWin now => engine.recordWin now
  | .throttleCheck now => (engine.throttleCheck now).2

def new (config : NodeConfig) : BidDecisionEngine := ⟨config, []⟩

def wins (calls : List Call) : List Int := calls.filterMap Call.won

def InLockOrder (calls : List Call) : Prop := (calls.map Call.now).Pairwise (· ≤ ·)

theorem wins_concat (calls : List Call) (last : Call) : wins (calls ++ [last]) = wins calls ++ last.won.toList := by
  rw [wins, List.filterMap_append]
  cases last <;> rfl

theorem wins_sublist (calls : List Call) : (wins calls).Sublist (calls.map Call.now) := by
  induction calls with
  | nil => exact List.Sublist.refl _
  | cons call rest ih =>
      cases call with
      | recordWin now => exact ih.cons_cons now
      | throttleCheck now => exact ih.cons now

theorem recentWins_throttleCheck (engine : BidDecisionEngine) (now : Int) :
    (engine.throttleCheck now).2.recentWins = SlidingWindow.prune (now - throttleWindow) engine.recentWins := rfl

theorem follows_step {engine : BidDecisionEngine} {bound : Int} {history : List Int} {call : Call}
    (follows : SlidingWindow.Follows bound engine.recentWins history) (later : bound ≤ call.now - throttleWindow) :
    SlidingWindow.Follows (call.now - throttleWindow) (engine.step call).recentWins (history ++ call.won.toList) := by
  cases call with
  | recordWin now => exact (follows.mono later).push now
  | throttleCheck now =>
      rw [step, recentWins_throttleCheck, Call.won, Option.toList_none, List.append_nil]
      exact follows.prune later

theorem follows_before (config : NodeConfig) {first rest : List Call} {call : Call}
    (ordered : InLockOrder (first ++ call :: rest)) :
    SlidingWindow.Follows (call.now - throttleWindow) (Runs.run step (new config) first).recentWins (wins first) := by
  apply Runs.holds_before (fun now before => SlidingWindow.Follows (now - throttleWindow)
    (Runs.run step (new config) before).recentWins (wins before)) _ _ _ ordered
  · intro now
    exact SlidingWindow.follows_nil _
  · intro bound now before later follows
    apply follows.mono
    omega
  · intro before last follows
    rw [Runs.run_concat, wins_concat]
    exact follows_step follows (Int.le_refl _)

theorem config_run (engine : BidDecisionEngine) (calls : List Call) :
    (Runs.run step engine calls).config = engine.config := by
  induction calls using List.reverseRecOn with
  | nil => rfl
  | append_singleton calls last ih =>
      rw [Runs.run_concat]
      cases last <;> exact ih

/-- For any number of jobs, with the limit as `usize` has it. -/
theorem throttleCheck_iff (config : NodeConfig) {first rest : List Call} {now : Int}
    (ordered : InLockOrder (first ++ .throttleCheck now :: rest)) :
    ((Runs.run step (new config) first).throttleCheck now).1 = true ↔
      (wins first).countP (now - throttleWindow ≤ ·) < (config.gpu.concurrentJobs * 4).toNat := by
  have sorted : (wins first).Pairwise (· ≤ ·) := by
    rw [InLockOrder, List.map_append, List.pairwise_append] at ordered
    exact ordered.1.sublist (wins_sublist first)
  have kept : (Runs.run step (new config) first).recentWins.dropWhile (· < now - throttleWindow) =
      (wins first).filter (now - throttleWindow ≤ ·) :=
    (follows_before config ordered).prune_eq (Int.le_refl _) sorted
  rw [throttleCheck, decide_eq_true_eq, config_run, kept, ← List.countP_eq_length_filter]
  rfl

end BidDecisionEngine

section

variable {Semaphore : Type} (newSemaphore : UInt64 → Option Semaphore)

/-- `Semaphore::MAX_PERMITS`, an eighth of `usize::MAX`. -/
def maxPermits : Nat := 2305843009213693951

/-- The engine of a node. Its scheduler comes first, with a permit for each job. -/
def nodeBidEngine (config : NodeConfig) : Option BidDecisionEngine :=
  (newSemaphore (max config.gpu.concurrentJobs 1)).map fun _ => BidDecisionEngine.new config

variable {newSemaphore}

theorem nodeBidEngine_limit
    (limited : ∀ permits semaphore, newSemaphore permits = some semaphore → permits.toNat ≤ maxPermits)
    {config : NodeConfig} {engine : BidDecisionEngine} (made : nodeBidEngine newSemaphore config = some engine) :
    engine = BidDecisionEngine.new config ∧
      (config.gpu.concurrentJobs * 4).toNat = 4 * config.gpu.concurrentJobs.toNat := by
  obtain ⟨semaphore, held, rfl⟩ := Option.map_eq_some_iff.mp made
  refine ⟨rfl, ?_⟩
  have few := limited _ semaphore held
  rw [toNat_max, maxPermits] at few
  have four : (4 : UInt64).toNat = 4 := rfl
  rw [UInt64.toNat_mul, four, Nat.mul_comm]
  apply Nat.mod_eq_of_lt
  omega

/-- A check passes exactly when fewer than four wins for each job slot were recorded in the 60 seconds
before it, their first instant included. -/
theorem throttle_window
    (limited : ∀ permits semaphore, newSemaphore permits = some semaphore → permits.toNat ≤ maxPermits)
    {config : NodeConfig} {engine : BidDecisionEngine} (made : nodeBidEngine newSemaphore config = some engine)
    {calls : List BidDecisionEngine.Call} (ordered : BidDecisionEngine.InLockOrder calls) :
    ∀ first now rest, calls = first ++ .throttleCheck now :: rest →
      (((Runs.run BidDecisionEngine.step engine first).throttleCheck now).1 = true ↔
        (BidDecisionEngine.wins first).countP (now - throttleWindow ≤ ·) < 4 * config.gpu.concurrentJobs.toNat) := by
  obtain ⟨rfl, limit⟩ := nodeBidEngine_limit limited made
  rintro first now rest rfl
  rw [BidDecisionEngine.throttleCheck_iff config ordered, limit]

end

/-- Four wins, and checks at the last instant that counts the first of them and at the next. -/
def sampleWins : List BidDecisionEngine.Call :=
  [.recordWin 0, .recordWin 10000000000, .throttleCheck 20000000000, .recordWin 20000000000, .recordWin 30000000000,
    .throttleCheck 60000000000, .throttleCheck 60000000001]

def sampleSemaphore (permits : UInt64) : Option UInt64 :=
  if permits.toNat ≤ maxPermits then some permits else none

theorem throttle_window_sample :
    ((Runs.run BidDecisionEngine.step (bidderWith 0) (sampleWins.take 5)).throttleCheck 60000000000).1 = false ∧
      ((Runs.run BidDecisionEngine.step (bidderWith 0) (sampleWins.take 6)).throttleCheck 60000000001).1 = true := by
  have limited : ∀ permits semaphore, sampleSemaphore permits = some semaphore → permits.toNat ≤ maxPermits := by
    intro permits semaphore held
    by_contra many
    simp [sampleSemaphore, many] at held
  have made : nodeBidEngine sampleSemaphore (bidderWith 0).config = some (bidderWith 0) := rfl
  have ordered : BidDecisionEngine.InLockOrder sampleWins := by
    unfold BidDecisionEngine.InLockOrder
    decide
  constructor
  · rw [← Bool.not_eq_true,
      throttle_window limited made ordered (sampleWins.take 5) _ [.throttleCheck 60000000001] rfl]
    decide
  · rw [throttle_window limited made ordered (sampleWins.take 6) _ [] rfl]
    decide

end Pinaivu.Inference
