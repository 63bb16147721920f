import Pinaivu.Context.SessionCore
import Pinaivu.Lib.SuffixBudget

/-!
The context window of `build_context_window` in `context/session.rs` beside the split of
`summariser.rs`. `none` is an overflow of `u32`, at which a checked build panics.
-/

namespace Pinaivu.Context

open SuffixBudget

def checkedAdd (left right : UInt32) : Option UInt32 :=
  if left.toNat + right.toNat < 4294967296 then some (left + right) else none

def checkedMul (left right : UInt32) : Option UInt32 :=
  if left.toNat * right.toNat < 4294967296 then some (left * right) else none

/-- `(text.len() as u32 / 4).max(1)`, the same in both files. -/
def estimateTokens (text : String) : UInt32 := max (UInt32.ofNat text.utf8ByteSize / 4) 1

/-- The loop of `build_context_window`, from the newest message back. -/
def collectRecent (budget : UInt32) : List Message → List Message → UInt32 → Option (List Message × UInt32)
  | [], recent, usedTokens => some (recent, usedTokens)
  | msg :: older, recent, usedTokens =>
      match checkedAdd usedTokens (estimateTokens msg.content) with
      | none => none
      | some sum =>
          if budget < sum then some (recent, usedTokens) else collectRecent budget older (recent ++ [msg]) sum

def windowBudget (modelMaxTokens : UInt32) : Option UInt32 :=
  (checkedMul modelMaxTokens 3).map fun tripled => max (tripled / 4) 512

def buildContextWindow (session : SessionContext) (modelMaxTokens : UInt32) : Option ContextWindow := do
  let budget ← windowBudget modelMaxTokens
  let (recent, usedTokens) ← collectRecent budget session.messages.reverse [] 0
  return {
    systemPrompt := session.contextWindow.systemPrompt
    summary := session.contextWindow.summary
    recentMessages := recent.reverse
    totalTokens := usedTokens }

/-- The loop of `split_messages` over the messages with their positions, newest first. -/
def walkBack (keepTokens : UInt32) : List (Message × Nat) → UInt32 → Nat → Option Nat
  | [], _, keepFrom => some keepFrom
  | (msg, i) :: older, keptTokens, _ =>
      match checkedAdd keptTokens (estimateTokens msg.content) with
      | none => none
      | some sum => if keepTokens < sum then some (i + 1) else walkBack keepTokens older sum i

def splitMessages (messages : List Message) (keepTokens : UInt32) : Option (List Message × List Message) := do
  let keepFrom ← walkBack keepTokens messages.zipIdx.reverse 0 messages.length
  return (messages.take keepFrom, messages.drop keepFrom)

def messageCost (message : Message) : Nat := (estimateTokens message.content).toNat

def tokenBudget (modelMaxTokens : UInt32) : Nat := max 512 (3 * modelMaxTokens.toNat / 4)

theorem max_toNat (left right : UInt32) : (max left right).toNat = max left.toNat right.toNat := by
  have unfolded : max left right = if left ≤ right then right else left := rfl
  rw [unfolded, Nat.max_def]
  simp only [UInt32.le_iff_toNat_le]
  split <;> rfl

theorem estimateTokens_toNat (text : String) :
    (estimateTokens text).toNat = max (text.utf8ByteSize % 4294967296 / 4) 1 := by
  rw [estimateTokens, max_toNat, UInt32.toNat_div, UInt32.toNat_ofNat']
  rfl

theorem messageCost_bound (message : Message) : 1 ≤ messageCost message ∧ messageCost message < 1073741824 := by
  rw [messageCost, estimateTokens_toNat]
  omega

theorem checkedAdd_cost {budget used : UInt32} (small : budget.toNat < 1073741824)
    (within : used.toNat ≤ budget.toNat) (message : Message) :
    ∃ sum, checkedAdd used (estimateTokens message.content) = some sum ∧
      sum.toNat = used.toNat + messageCost message := by
  have cost := messageCost_bound message
  have fits : used.toNat + (estimateTokens message.content).toNat < 4294967296 := by
    rw [messageCost] at cost
    omega
  refine ⟨used + estimateTokens message.content, if_pos fits, ?_⟩
  rw [UInt32.toNat_add]
  exact Nat.mod_eq_of_lt fits

theorem windowBudget_fits {modelMaxTokens : UInt32} (fits : 3 * modelMaxTokens.toNat < 4294967296) :
    ∃ budget, windowBudget modelMaxTokens = some budget ∧ budget.toNat = tokenBudget modelMaxTokens := by
  have triple : (3 : UInt32).toNat = 3 := rfl
  have product : modelMaxTokens.toNat * (3 : UInt32).toNat < 4294967296 := by
    rw [triple]
    omega
  refine ⟨max (modelMaxTokens * 3 / 4) 512, ?_, ?_⟩
  · rw [windowBudget, checkedMul, if_pos product, Option.map_some]
  · have quarter : (4 : UInt32).toNat = 4 ∧ (512 : UInt32).toNat = 512 := ⟨rfl, rfl⟩
    have whole : modelMaxTokens.toNat * 3 % 4294967296 = 3 * modelMaxTokens.toNat := by omega
    rw [max_toNat, UInt32.toNat_div, UInt32.toNat_mul, triple, quarter.1, quarter.2, tokenBudget]
    change max (modelMaxTokens.toNat * 3 % 4294967296 / 4) 512 = _
    rw [whole, max_comm]

theorem windowBudget_overflows {modelMaxTokens : UInt32} (beyond : 4294967296 ≤ 3 * modelMaxTokens.toNat) :
    windowBudget modelMaxTokens = none := by
  have product : ¬ modelMaxTokens.toNat * (3 : UInt32).toNat < 4294967296 := by
    have triple : (3 : UInt32).toNat = 3 := rfl
    rw [triple]
    omega
  rw [windowBudget, checkedMul, if_neg product, Option.map_none]

theorem tokenBudget_bound {modelMaxTokens : UInt32} (fits : 3 * modelMaxTokens.toNat < 4294967296) :
    tokenBudget modelMaxTokens < 1073741824 := by
  rw [tokenBudget]
  omega

/-- The loop keeps what the walk of the library takes; its sum stays far from overflow. -/
theorem collectRecent_eq {budget : UInt32} (small : budget.toNat < 1073741824) (older recent : List Message)
    {usedTokens : UInt32} (within : usedTokens.toNat ≤ budget.toNat) :
    ∃ sum, collectRecent budget older recent usedTokens =
        some (recent ++ older.take (taken messageCost budget.toNat usedTokens.toNat older), sum) ∧
      sum.toNat = usedTokens.toNat +
        total messageCost (older.take (taken messageCost budget.toNat usedTokens.toNat older)) := by
  induction older generalizing recent usedTokens with
  | nil => exact ⟨usedTokens, by simp [collectRecent], by simp [total]⟩
  | cons msg older ih =>
      obtain ⟨sum, added, value⟩ := checkedAdd_cost small within msg
      simp only [collectRecent, added, UInt32.lt_iff_toNat_lt, value, taken]
      by_cases more : usedTokens.toNat + messageCost msg ≤ budget.toNat
      · obtain ⟨whole, collected, counted⟩ := ih (recent ++ [msg]) (value ▸ more)
        rw [value] at collected counted
        refine ⟨whole, ?_, ?_⟩
        · rw [if_neg (by omega), if_pos more, collected, List.append_assoc, List.take_succ_cons,
            List.singleton_append]
        · rw [counted, if_pos more, List.take_succ_cons, total]
          omega
      · refine ⟨usedTokens, ?_, ?_⟩
        · rw [if_pos (by omega), if_neg more, List.take_zero, List.append_nil]
        · rw [if_neg more, List.take_zero, total, Nat.add_zero]

theorem walkBack_eq {keepTokens : UInt32} (small : keepTokens.toNat < 1073741824) (older : List Message)
    {keptTokens : UInt32} (within : keptTokens.toNat ≤ keepTokens.toNat) :
    walkBack keepTokens older.zipIdx.reverse keptTokens older.length =
      some (older.length - taken messageCost keepTokens.toNat keptTokens.toNat older.reverse) := by
  induction older using List.reverseRecOn generalizing keptTokens with
  | nil => rfl
  | append_singleton older msg ih =>
      obtain ⟨sum, added, value⟩ := checkedAdd_cost small within msg
      have positions : (older ++ [msg]).zipIdx.reverse = (msg, older.length) :: older.zipIdx.reverse := by
        simp [List.zipIdx_append]
      rw [positions, walkBack, added, List.reverse_concat, taken, List.length_append, List.length_singleton]
      simp only [UInt32.lt_iff_toNat_lt, value]
      by_cases more : keptTokens.toNat + messageCost msg ≤ keepTokens.toNat
      · rw [if_neg (by omega), if_pos more, ih (value ▸ more), value, Nat.add_sub_add_right]
      · rw [if_pos (by omega), if_neg more, Nat.sub_zero]

theorem buildContextWindow_eq (session : SessionContext) {modelMaxTokens : UInt32}
    (fits : 3 * modelMaxTokens.toNat < 4294967296) :
    ∃ built, buildContextWindow session modelMaxTokens = some built ∧
      built.recentMessages = window messageCost (tokenBudget modelMaxTokens) session.messages ∧
      built.totalTokens.toNat =
        total messageCost (window messageCost (tokenBudget modelMaxTokens) session.messages) := by
  obtain ⟨budget, found, value⟩ := windowBudget_fits fits
  have small : budget.toNat < 1073741824 := value ▸ tokenBudget_bound fits
  have start : (0 : UInt32).toNat ≤ budget.toNat := Nat.zero_le _
  obtain ⟨sum, collected, counted⟩ := collectRecent_eq small session.messages.reverse [] start
  rw [List.nil_append] at collected
  refine ⟨_, by simp only [buildContextWindow, found, Option.bind_eq_bind, Option.bind_some, collected]; rfl, ?_, ?_⟩
  · rw [← value, window_eq_take]
    rfl
  · rw [← value, window_eq_take, total_reverse]
    exact counted.trans (Nat.zero_add _)

theorem splitMessages_eq (messages : List Message) {keepTokens : UInt32} (small : keepTokens.toNat < 1073741824) :
    ∃ toSummarise, splitMessages messages keepTokens =
        some (toSummarise, window messageCost keepTokens.toNat messages) ∧
      toSummarise ++ window messageCost keepTokens.toNat messages = messages := by
  have start : (0 : UInt32).toNat ≤ keepTokens.toNat := Nat.zero_le _
  have walked := walkBack_eq small messages start
  refine ⟨_, by simp only [splitMessages, walked, Option.bind_eq_bind, Option.bind_some]; rfl, ?_⟩
  exact List.take_append_drop _ _

/-- The window that is sent and the messages that the summariser keeps are one and the same longest
suffix within the budget; the rest goes to the summary. -/
theorem context_windowing (session : SessionContext) (modelMaxTokens : UInt32)
    (tripleFits : 3 * modelMaxTokens.toNat < 4294967296) :
    ∃ built toSummarise toKeep, buildContextWindow session modelMaxTokens = some built ∧
      splitMessages session.messages (UInt32.ofNat (tokenBudget modelMaxTokens)) = some (toSummarise, toKeep) ∧
      built.recentMessages = toKeep ∧
      LongestWithin messageCost (tokenBudget modelMaxTokens) session.messages toKeep ∧
      built.totalTokens.toNat = total messageCost toKeep ∧
      toSummarise ++ toKeep = session.messages := by
  have bound := tokenBudget_bound tripleFits
  have budget : (UInt32.ofNat (tokenBudget modelMaxTokens)).toNat = tokenBudget modelMaxTokens := by
    rw [UInt32.toNat_ofNat']
    exact Nat.mod_eq_of_lt (by omega)
  obtain ⟨built, found, kept, counted⟩ := buildContextWindow_eq session tripleFits
  have small : (UInt32.ofNat (tokenBudget modelMaxTokens)).toNat < 1073741824 := by
    rw [budget]
    exact bound
  obtain ⟨toSummarise, split, whole⟩ := splitMessages_eq session.messages small
  rw [budget] at split whole
  exact ⟨built, toSummarise, _, found, split, kept, window_longest messageCost _ _, counted, whole⟩

def greetedSession : SessionContext :=
  { newSession ⟨Vector.replicate 16 1⟩ "0x01" "llama3.1:8b" none 1000 with
    messages := [⟨.user, "good morning", 1000, none, 3⟩, ⟨.assistant, "hello there", 1001, none, 2⟩] }

theorem context_windowing_greeted :
    ∃ built toSummarise toKeep, buildContextWindow greetedSession 4096 = some built ∧
      splitMessages greetedSession.messages (UInt32.ofNat (tokenBudget 4096)) = some (toSummarise, toKeep) ∧
      built.recentMessages = toKeep ∧
      LongestWithin messageCost (tokenBudget 4096) greetedSession.messages toKeep ∧
      built.totalTokens.toNat = total messageCost toKeep ∧
      toSummarise ++ toKeep = greetedSession.messages :=
  context_windowing greetedSession 4096 (by decide)

def FitsModel (session : SessionContext) (modelMaxTokens : UInt32) : Prop :=
  ∃ built, buildContextWindow session modelMaxTokens = some built ∧ built.totalTokens ≤ modelMaxTokens

/-- The window fits exactly when the limit can be tripled in a `u32`, and the limit is at least the
floor of 512 or no suffix of the messages lies between the limit and the floor. -/
theorem fits_model_iff (session : SessionContext) (modelMaxTokens : UInt32) :
    FitsModel session modelMaxTokens ↔
      3 * modelMaxTokens.toNat < 4294967296 ∧
        (512 ≤ modelMaxTokens.toNat ∨
          ∀ recent, recent <:+ session.messages → total messageCost recent ≤ 512 →
            total messageCost recent ≤ modelMaxTokens.toNat) := by
  by_cases fits : 3 * modelMaxTokens.toNat < 4294967296
  · obtain ⟨built, found, -, counted⟩ := buildContextWindow_eq session fits
    have longest := window_longest messageCost (tokenBudget modelMaxTokens) session.messages
    have exact : FitsModel session modelMaxTokens ↔
        total messageCost (window messageCost (tokenBudget modelMaxTokens) session.messages) ≤
          modelMaxTokens.toNat := by
      rw [FitsModel, found, ← counted]
      simp [UInt32.le_iff_toNat_le]
    rw [exact, and_iff_right fits]
    by_cases large : 512 ≤ modelMaxTokens.toNat
    · refine iff_of_true (longest.fits.trans ?_) (.inl large)
      rw [tokenBudget]
      omega
    · -- Below the floor the budget is the floor itself.
      have floor : tokenBudget modelMaxTokens = 512 := by
        rw [tokenBudget]
        omega
      rw [or_iff_right large]
      rw [floor] at longest ⊢
      constructor
      · intro small recent suffix within
        exact (longest.total_le suffix within).trans small
      · intro none
        exact none _ longest.suffix longest.fits
  · refine iff_of_false ?_ fun both => fits both.1
    rintro ⟨built, found, -⟩
    rw [buildContextWindow, windowBudget_overflows (by omega)] at found
    contradiction

/-- Two short messages are five tokens, over a limit of four; and the largest limits cannot be tripled. -/
theorem window_misfits : ¬ FitsModel greetedSession 4 ∧ ¬ FitsModel greetedSession 1431655766 := by
  constructor
  · rintro ⟨built, found, small⟩
    have tokens : (buildContextWindow greetedSession 4).map ContextWindow.totalTokens = some 5 := by
      decide +kernel
    rw [found] at tokens
    rw [Option.some.inj tokens] at small
    contradiction
  · rintro ⟨built, found, -⟩
    rw [buildContextWindow, windowBudget_overflows (by decide)] at found
    contradiction

end Pinaivu.Context
