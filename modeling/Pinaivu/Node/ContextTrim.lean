import Pinaivu.Context.ContextWindows
import Pinaivu.Node.ApiCore

/-!
`trim_context_window` of `node/src/api/support.rs` with its loop over positions and the count that
it returns. `none` is an overflow of `u32`.
-/

namespace Pinaivu.Api.Support

open SuffixBudget
open Context (checkedAdd)

/-- The loop over the messages with their positions, newest first. -/
def keepFromLoop (budget : UInt32) : List (Message × Nat) → UInt32 → Nat → Option Nat
  | [], _, keepFrom => some keepFrom
  | (msg, i) :: older, used, keepFrom => do
      let toks ← checkedAdd (estimateTokens msg.content) 4
      let sum ← checkedAdd used toks
      if budget < sum then some (i + 1) else keepFromLoop budget older sum (if i = 0 then 0 else keepFrom)

def systemTokens (cw : ContextWindow) : UInt32 := (cw.systemPrompt.map estimateTokens).getD 0

def trimContextWindow (cw : ContextWindow) (maxTokens : UInt32) : Option (ContextWindow × Nat) :=
  if maxTokens = 0 then some (cw, 0)
  else do
    let budget := UInt32.ofNat (maxTokens.toNat - (systemTokens cw).toNat)
    let dropped ← keepFromLoop budget cw.recentMessages.zipIdx.reverse 0 cw.recentMessages.length
    return ({ cw with recentMessages := cw.recentMessages.drop dropped }, dropped)

def messageTokens (message : Message) : Nat := (estimateTokens message.content).toNat + 4

def trimBudget (cw : ContextWindow) (maxTokens : UInt32) : Nat := maxTokens.toNat - (systemTokens cw).toNat

theorem trimBudget_toNat (cw : ContextWindow) (maxTokens : UInt32) :
    (UInt32.ofNat (maxTokens.toNat - (systemTokens cw).toNat)).toNat = trimBudget cw maxTokens := by
  rw [UInt32.toNat_ofNat']
  exact Nat.mod_eq_of_lt ((Nat.sub_le _ _).trans_lt maxTokens.toNat_lt)

/-- The estimate of the code is the rounded quarter as long as `f32` counts the bytes exactly. -/
theorem estimateTokens_short {text : String} (short : text.utf8ByteSize < 16777216) :
    (estimateTokens text).toNat = (text.utf8ByteSize + 3) / 4 := by
  have whole : singleOfNat text.utf8ByteSize = text.utf8ByteSize := by
    have bits : text.utf8ByteSize.log2 - 23 = 0 := by
      have below : text.utf8ByteSize.log2 < 24 := by
        by_cases empty : text.utf8ByteSize = 0
        · simp [empty]
        · exact (Nat.log2_lt empty).mpr short
      omega
    simp [singleOfNat, bits, Nat.mod_one]
  rw [estimateTokens, whole, UInt32.toNat_ofNat', Nat.min_eq_left (by omega)]
  exact Nat.mod_eq_of_lt (by omega)

theorem addTokens_fits {used : UInt32} {message : Message}
    (fits : used.toNat + messageTokens message < 4294967296) :
    (estimateTokens message.content + 4).toNat = messageTokens message ∧
      (used + (estimateTokens message.content + 4)).toNat = used.toNat + messageTokens message := by
  have four : (4 : UInt32).toNat = 4 := rfl
  have toks : (estimateTokens message.content + 4).toNat = messageTokens message := by
    rw [UInt32.toNat_add, four]
    exact Nat.mod_eq_of_lt (lt_of_le_of_lt (Nat.le_add_left _ _) fits)
  refine ⟨toks, ?_⟩
  rw [UInt32.toNat_add, toks]
  exact Nat.mod_eq_of_lt fits

theorem checkedTokens {used : UInt32} {message : Message}
    (fits : used.toNat + messageTokens message < 4294967296) :
    checkedAdd (estimateTokens message.content) 4 = some (estimateTokens message.content + 4) ∧
      checkedAdd used (estimateTokens message.content + 4) =
        some (used + (estimateTokens message.content + 4)) := by
  have toks := (addTokens_fits fits).1
  refine ⟨if_pos (lt_of_le_of_lt (Nat.le_add_left _ _) fits), if_pos ?_⟩
  rwa [toks]

/-- At the end of the messages the position is still the one that the loop began with, which the
special case for the first message replaces. -/
theorem keepFromLoop_eq {budget : UInt32} (older : List Message) {used : UInt32} (keepFrom : Nat)
    (fits : used.toNat + total messageTokens older < 4294967296) :
    keepFromLoop budget older.zipIdx.reverse used keepFrom =
      some (if older = [] then keepFrom
        else older.length - taken messageTokens budget.toNat used.toNat older.reverse) := by
  induction older using List.reverseRecOn generalizing used keepFrom with
  | nil => rfl
  | append_singleton older msg ih =>
      have positions : (older ++ [msg]).zipIdx.reverse = (msg, older.length) :: older.zipIdx.reverse := by
        simp [List.zipIdx_append]
      have costs : total messageTokens (older ++ [msg]) = total messageTokens older + messageTokens msg := by
        rw [total_append, total, total, Nat.add_zero]
      have now : used.toNat + messageTokens msg < 4294967296 := by omega
      obtain ⟨toks, sum⟩ := checkedTokens now
      have value := (addTokens_fits now).2
      rw [positions, keepFromLoop, toks, Option.bind_eq_bind, Option.bind_some, sum, Option.bind_some,
        if_neg (List.concat_ne_nil msg older), List.reverse_concat, taken, List.length_append,
        List.length_singleton]
      by_cases more : used.toNat + messageTokens msg ≤ budget.toNat
      · rw [if_neg (by rw [UInt32.lt_iff_toNat_lt]; omega), if_pos more, ih _ (by omega), value]
        by_cases first : older = []
        · subst first
          rfl
        · rw [if_neg first, Nat.add_sub_add_right]
      · rw [if_pos (by rw [UInt32.lt_iff_toNat_lt]; omega), if_neg more, Nat.sub_zero]

theorem trimContextWindow_eq {cw : ContextWindow} {maxTokens : UInt32} (positive : maxTokens ≠ 0)
    (sums : total messageTokens cw.recentMessages < 4294967296) :
    trimContextWindow cw maxTokens =
      some ({ cw with recentMessages := window messageTokens (trimBudget cw maxTokens) cw.recentMessages },
        cw.recentMessages.length -
          (window messageTokens (trimBudget cw maxTokens) cw.recentMessages).length) := by
  have zero : (0 : UInt32).toNat = 0 := rfl
  have walked := @keepFromLoop_eq (UInt32.ofNat (maxTokens.toNat - (systemTokens cw).toNat)) cw.recentMessages 0
    cw.recentMessages.length (by rwa [zero, Nat.zero_add])
  rw [trimBudget_toNat, zero] at walked
  have bound := taken_le messageTokens (trimBudget cw maxTokens) 0 cw.recentMessages.reverse
  rw [List.length_reverse] at bound
  have position : (if cw.recentMessages = [] then cw.recentMessages.length
      else cw.recentMessages.length - taken messageTokens (trimBudget cw maxTokens) 0 cw.recentMessages.reverse) =
      cw.recentMessages.length - (window messageTokens (trimBudget cw maxTokens) cw.recentMessages).length := by
    rw [window, List.length_drop]
    split
    next empty => simp [empty]
    next => omega
  rw [position] at walked
  have dropped : cw.recentMessages.drop (cw.recentMessages.length -
      (window messageTokens (trimBudget cw maxTokens) cw.recentMessages).length) =
      window messageTokens (trimBudget cw maxTokens) cw.recentMessages := by
    have suffix := (window_longest messageTokens (trimBudget cw maxTokens) cw.recentMessages).suffix
    exact (List.suffix_iff_eq_drop.mp suffix).symm
  simp only [trimContextWindow, if_neg positive, walked, Option.bind_eq_bind, Option.bind_some, dropped]
  rfl

theorem fittingMessages_eq {budget : UInt32} (newest : List Message) {used : UInt32}
    (fits : used.toNat + total messageTokens newest < 4294967296) :
    fittingMessages budget used newest = newest.take (taken messageTokens budget.toNat used.toNat newest) := by
  induction newest generalizing used with
  | nil => rfl
  | cons msg older ih =>
      rw [total] at fits
      have value := (addTokens_fits (show used.toNat + messageTokens msg < 4294967296 by omega)).2
      simp only [fittingMessages, UInt32.lt_iff_toNat_lt, value, taken]
      by_cases more : used.toNat + messageTokens msg ≤ budget.toNat
      · rw [if_neg (by omega), if_pos more, List.take_succ_cons, ih (by omega), value]
      · rw [if_pos (by omega), if_neg more, List.take_zero]

theorem trimContextWindow_fst {cw : ContextWindow} {maxTokens : UInt32}
    (sums : total messageTokens cw.recentMessages < 4294967296) :
    (trimContextWindow cw maxTokens).map Prod.fst = some (Api.trimContextWindow cw maxTokens) := by
  by_cases empty : maxTokens = 0
  · rw [trimContextWindow, if_pos empty, Api.trimContextWindow, if_pos empty]
    rfl
  · have zero : (0 : UInt32).toNat = 0 := rfl
    have walked := @fittingMessages_eq (UInt32.ofNat (maxTokens.toNat - (systemTokens cw).toNat))
      cw.recentMessages.reverse 0 (by rwa [zero, Nat.zero_add, total_reverse])
    rw [trimBudget_toNat, zero] at walked
    rw [trimContextWindow_eq empty sums, window_eq_take, ← walked, Api.trimContextWindow, if_neg empty]
    rfl

/-- The trimmed window holds the longest suffix that fits beside the system prompt; trimming again
changes nothing, and a larger limit keeps no fewer messages. -/
theorem context_trimming (cw : ContextWindow) (maxTokens : UInt32) (positive : maxTokens ≠ 0)
    (sums : total messageTokens cw.recentMessages < 4294967296) :
    ∃ kept, LongestWithin messageTokens (trimBudget cw maxTokens) cw.recentMessages kept ∧
      trimContextWindow cw maxTokens =
        some ({ cw with recentMessages := kept }, cw.recentMessages.length - kept.length) ∧
      trimContextWindow { cw with recentMessages := kept } maxTokens =
        some ({ cw with recentMessages := kept }, 0) ∧
      ∀ larger, maxTokens ≤ larger → ∃ trimmed dropped, trimContextWindow cw larger = some (trimmed, dropped) ∧
        kept.length ≤ trimmed.recentMessages.length := by
  have longest := window_longest messageTokens (trimBudget cw maxTokens) cw.recentMessages
  refine ⟨_, longest, trimContextWindow_eq positive sums, ?_, ?_⟩
  · have within := (total_le_of_suffix messageTokens longest.suffix).trans_lt sums
    have again := window_longest messageTokens (trimBudget cw maxTokens)
      (window messageTokens (trimBudget cw maxTokens) cw.recentMessages)
    have same := again.eq_self longest.fits
    have trimmed := @trimContextWindow_eq
      { cw with recentMessages := window messageTokens (trimBudget cw maxTokens) cw.recentMessages } maxTokens
      positive within
    have budget : trimBudget
        { cw with recentMessages := window messageTokens (trimBudget cw maxTokens) cw.recentMessages } maxTokens =
        trimBudget cw maxTokens := rfl
    rw [budget] at trimmed
    simp only [same, Nat.sub_self] at trimmed
    exact trimmed
  · intro larger more
    have room := UInt32.le_iff_toNat_le.mp more
    have nonzero : larger ≠ 0 := by
      rintro rfl
      exact positive (UInt32.toNat_inj.mp (Nat.le_zero.mp room))
    refine ⟨_, _, trimContextWindow_eq nonzero sums, ?_⟩
    have budget : trimBudget cw maxTokens ≤ trimBudget cw larger := Nat.sub_le_sub_right room _
    exact longest.mono (window_longest messageTokens (trimBudget cw larger) cw.recentMessages) budget

def crowdedWindow : ContextWindow where
  systemPrompt := some "be brief"
  summary := none
  recentMessages := [⟨.user, "hi", 1, none, 1⟩, ⟨.assistant, "hey", 2, none, 1⟩, ⟨.user, "so?", 3, none, 1⟩]
  totalTokens := 3

theorem context_trimming_crowded :
    ∃ kept, LongestWithin messageTokens (trimBudget crowdedWindow 14) crowdedWindow.recentMessages kept ∧
      trimContextWindow crowdedWindow 14 =
        some ({ crowdedWindow with recentMessages := kept }, crowdedWindow.recentMessages.length - kept.length) ∧
      trimContextWindow { crowdedWindow with recentMessages := kept } 14 =
        some ({ crowdedWindow with recentMessages := kept }, 0) ∧
      ∀ larger, 14 ≤ larger → ∃ trimmed dropped, trimContextWindow crowdedWindow larger = some (trimmed, dropped) ∧
        kept.length ≤ trimmed.recentMessages.length :=
  context_trimming crowdedWindow 14 (by decide) (by decide +kernel)

end Pinaivu.Api.Support
