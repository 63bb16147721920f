import Pinaivu.Lib.Runs
import Pinaivu.Node.AdapterLoading
import Pinaivu.P2P.Payloads

/-!
The capability announcements of the swarm task. Five kinds of event share one counter for
the sequence number in the payload; the command counts for itself.
-/

namespace Pinaivu.Node

open JsonText P2P

def GpuType.name : GpuType → String
  | .nvidiaCuda => "NvidiaCuda"
  | .amdRocm => "AmdRocm"
  | .appleMetal => "AppleMetal"
  | .cpu => "Cpu"

def NodeCapabilities.members (caps : NodeCapabilities) : List (String × Json) :=
  [("peer_id", .string caps.peerId),
    ("models", .array (caps.models.map .string)),
    ("gpu_vram_mb", unsignedJson caps.gpuVramMb.toNat),
    ("gpu_type", .string caps.gpuType.name),
    ("region", optionJson caps.region),
    ("tee_enabled", .bool caps.teeEnabled),
    ("reputation", caps.reputation.toJson),
    ("accepted_settlements", .array (caps.acceptedSettlements.map SettlementOffer.toJson)),
    ("api_url", optionJson caps.apiUrl)]

theorem GpuType.name_injective : Function.Injective GpuType.name := by
  intro first second same
  cases first <;> cases second <;> first | rfl | exact absurd same (by decide)

theorem injective_of_decode {Value Code : Type} {encode : Value → Code} {decode : Code → Option Value}
    (reads : ∀ value, decode (encode value) = some value) : Function.Injective encode := by
  intro first second same
  have read := congrArg decode same
  rw [reads, reads] at read
  exact Option.some.inj read

theorem NodeCapabilities.members_injective : Function.Injective NodeCapabilities.members := by
  intro first second same
  simp only [members, List.cons.injEq, Prod.mk.injEq, true_and, and_true, Json.string.injEq, Json.array.injEq,
    Json.bool.injEq] at same
  obtain ⟨peerId, models, vram, gpu, region, tee, reputation, settlements, apiUrl⟩ := same
  have strings : Function.Injective Json.string := fun _ _ => Json.string.inj
  have offers := injective_of_decode decodeOffer_toJson
  have options := injective_of_decode decodeOption_optionJson
  have sameModels := List.map_injective_iff.mpr strings models
  have sameVram := injective_of_decode decodeU32_unsignedJson vram
  have sameGpu := GpuType.name_injective gpu
  have sameRegion := options region
  have sameReputation := injective_of_decode (decodeReputation_toJson some) reputation
  have sameSettlements := List.map_injective_iff.mpr offers settlements
  have sameUrl := options apiUrl
  cases first
  cases second
  simp_all

end Pinaivu.Node

namespace Pinaivu.P2P

open JsonText Node Runs

structure AnnounceEnvelope where
  caps : NodeCapabilities
  seq : UInt64

/-- The capabilities are flattened into the object. -/
def AnnounceEnvelope.toJson (envelope : AnnounceEnvelope) : Json := .object
  (envelope.caps.members ++ [("seq", unsignedJson envelope.seq.toNat)])

def AnnounceEnvelope.payload (envelope : AnnounceEnvelope) : ByteArray := toBytes envelope.toJson

def publishAnnounce (caps : NodeCapabilities) (seq : UInt64) : AnnounceEnvelope × UInt64 := (⟨caps, seq + 1⟩, seq + 1)

structure SwarmState where
  announceSeq : UInt64
  connectedPeerCount : Nat
  delayedAnnounce : Bool
  published : List AnnounceEnvelope

inductive SwarmOccurrence where
  | announceInterval
  | heartbeatInterval
  | delaySleep
  | connectionEstablished
  | connectionClosed
  | subscribed (topic : String)
  | announceCapabilities (caps : NodeCapabilities)

namespace SwarmState

def start : SwarmState := ⟨0, 0, false, []⟩

def announce (state : SwarmState) (caps : NodeCapabilities) : SwarmState :=
  let (envelope, seq) := publishAnnounce caps state.announceSeq
  { state with announceSeq := seq, published := state.published ++ [envelope] }

/-- Half of the largest number, from which the command counts each time. -/
def oneShotSeq : UInt64 := 18446744073709551615 / 2

/-- The timer of the delayed announcement fires only when it is set. -/
def step (ownCaps : NodeCapabilities) (state : SwarmState) : SwarmOccurrence → SwarmState
  | .announceInterval => state.announce ownCaps
  | .heartbeatInterval => state.announce ownCaps
  | .delaySleep => if state.delayedAnnounce then { state.announce ownCaps with delayedAnnounce := false } else state
  | .connectionEstablished =>
      let announced := if state.connectedPeerCount = 0 then state.announce ownCaps else state
      { announced with connectedPeerCount := state.connectedPeerCount + 1, delayedAnnounce := true }
  | .connectionClosed => { state with connectedPeerCount := state.connectedPeerCount - 1 }
  | .subscribed topic => if topic = "node/announce" then state.announce ownCaps else state
  | .announceCapabilities caps =>
      { state with published := state.published ++ [(publishAnnounce caps oneShotSeq).1] }

def payloads (state : SwarmState) : List ByteArray := state.published.map AnnounceEnvelope.payload

end SwarmState

def SwarmOccurrence.commandCaps : SwarmOccurrence → List NodeCapabilities
  | .announceCapabilities caps => [caps]
  | _ => []

theorem AnnounceEnvelope.payload_injective : Function.Injective AnnounceEnvelope.payload := by
  intro first second same
  have members := Json.object.inj (toBytes_injective same)
  obtain ⟨caps, seq⟩ := List.append_inj members (by simp [NodeCapabilities.members])
  have sameCaps := NodeCapabilities.members_injective caps
  simp only [List.cons.injEq, Prod.mk.injEq, true_and, and_true] at seq
  have sameSeq := injective_of_decode decodeU64_unsignedJson seq
  cases first
  cases second
  simp_all

namespace SwarmState

def commandSeq : UInt64 := 9223372036854775808

/-- The announcements after `count` occurrences with these commands: those of the counter have
the numbers up to it, those of a command all have the number of the commands. -/
structure Numbered (state : SwarmState) (commands : List NodeCapabilities) (count : Nat) : Prop where
  counter : state.announceSeq.toNat ≤ count
  sources : ∀ envelope ∈ state.published,
    envelope.caps ∈ commands ∧ envelope.seq = commandSeq ∨ envelope.seq.toNat ≤ state.announceSeq.toNat
  listed : ∀ caps ∈ commands, ⟨caps, commandSeq⟩ ∈ state.published
  distinct : state.published.Nodup ↔ commands.Nodup

theorem numbered_start : Numbered start [] 0 := by
  refine ⟨by decide, ?_, ?_, by simp [start]⟩
  · intro envelope member
    contradiction
  · intro caps member
    contradiction

section

variable {state : SwarmState} {commands : List NodeCapabilities} {count : Nat}

theorem Numbered.weaken (numbered : Numbered state commands count) : Numbered state commands (count + 1) :=
  { numbered with counter := Nat.le_succ_of_le numbered.counter }

theorem Numbered.announce (numbered : Numbered state commands count) (few : count < 4611686018427387904)
    (caps : NodeCapabilities) : Numbered (state.announce caps) commands (count + 1) := by
  have bound := numbered.counter
  have next : (state.announceSeq + 1).toNat = state.announceSeq.toNat + 1 := by
    rw [UInt64.toNat_add]
    exact Nat.mod_eq_of_lt (by change _ + 1 < 18446744073709551616; omega)
  have large : commandSeq.toNat = 9223372036854775808 := rfl
  have fresh : (⟨caps, state.announceSeq + 1⟩ : AnnounceEnvelope) ∉ state.published := by
    intro member
    rcases numbered.sources _ member with ⟨_, same⟩ | old
    · have numbers := congrArg UInt64.toNat same
      simp only at numbers
      omega
    · simp only at old
      omega
  refine ⟨?_, ?_, ?_, ?_⟩
  · change (state.announceSeq + 1).toNat ≤ count + 1
    omega
  · intro envelope member
    rcases List.mem_append.mp member with old | new
    · rcases numbered.sources envelope old with command | counted
      · exact Or.inl command
      · refine Or.inr ?_
        change envelope.seq.toNat ≤ (state.announceSeq + 1).toNat
        omega
    · obtain rfl := List.mem_singleton.mp new
      exact Or.inr (Nat.le_refl _)
  · intro other member
    exact List.mem_append_left _ (numbered.listed other member)
  · change (state.published ++ [AnnounceEnvelope.mk caps (state.announceSeq + 1)]).Nodup ↔ commands.Nodup
    rw [← List.concat_eq_append, List.nodup_concat, numbered.distinct]
    exact and_iff_right fresh

theorem Numbered.command (numbered : Numbered state commands count) (few : count < 4611686018427387904)
    (caps : NodeCapabilities) :
    Numbered { state with published := state.published ++ [(publishAnnounce caps oneShotSeq).1] }
      (commands ++ [caps]) (count + 1) := by
  have bound := numbered.counter
  have made : (publishAnnounce caps oneShotSeq).1 = ⟨caps, commandSeq⟩ := by
    have next : oneShotSeq + 1 = commandSeq := by decide
    rw [publishAnnounce, next]
  have large : commandSeq.toNat = 9223372036854775808 := rfl
  rw [made]
  refine ⟨bound.trans (Nat.le_succ count), ?_, ?_, ?_⟩
  · intro envelope member
    rcases List.mem_append.mp member with old | new
    · rcases numbered.sources envelope old with ⟨listed, same⟩ | counted
      · exact Or.inl ⟨List.mem_append_left _ listed, same⟩
      · exact Or.inr counted
    · obtain rfl := List.mem_singleton.mp new
      exact Or.inl ⟨by simp, rfl⟩
  · intro other member
    rcases List.mem_append.mp member with old | new
    · exact List.mem_append_left _ (numbered.listed other old)
    · rw [List.mem_singleton.mp new]
      simp
  · have repeats : (⟨caps, commandSeq⟩ : AnnounceEnvelope) ∈ state.published ↔ caps ∈ commands := by
      constructor
      · intro member
        rcases numbered.sources _ member with ⟨listed, _⟩ | counted
        · exact listed
        · simp only at counted
          omega
      · exact numbered.listed caps
    change (state.published ++ [AnnounceEnvelope.mk caps commandSeq]).Nodup ↔ (commands ++ [caps]).Nodup
    rw [← List.concat_eq_append, ← List.concat_eq_append, List.nodup_concat, List.nodup_concat, numbered.distinct,
      repeats]

theorem Numbered.same {other : SwarmState} (numbered : Numbered state commands count)
    (seq : other.announceSeq = state.announceSeq) (published : other.published = state.published) :
    Numbered other commands count := by
  refine ⟨seq ▸ numbered.counter, ?_, published ▸ numbered.listed, published ▸ numbered.distinct⟩
  rw [seq, published]
  exact numbered.sources

theorem Numbered.uncommanded (numbered : Numbered state commands count) (few : count < 4611686018427387904)
    (ownCaps : NodeCapabilities) {event : SwarmOccurrence} (own : event.commandCaps = []) :
    Numbered (state.step ownCaps event) commands (count + 1) := by
  have announced := numbered.announce few ownCaps
  cases event with
  | announceCapabilities caps => contradiction
  | announceInterval => exact announced
  | heartbeatInterval => exact announced
  | delaySleep =>
      rw [SwarmState.step]
      split
      · exact announced.same rfl rfl
      · exact numbered.weaken
  | connectionEstablished =>
      rw [SwarmState.step]
      by_cases isolated : state.connectedPeerCount = 0
      · rw [if_pos isolated]
        exact announced.same rfl rfl
      · rw [if_neg isolated]
        exact numbered.weaken.same rfl rfl
  | connectionClosed => exact numbered.weaken.same rfl rfl
  | subscribed topic =>
      rw [SwarmState.step]
      split
      · exact announced
      · exact numbered.weaken

theorem Numbered.step (numbered : Numbered state commands count) (few : count < 4611686018427387904)
    (ownCaps : NodeCapabilities) (event : SwarmOccurrence) :
    Numbered (state.step ownCaps event) (commands ++ event.commandCaps) (count + 1) := by
  by_cases own : event.commandCaps = []
  · rw [own, List.append_nil]
    exact numbered.uncommanded few ownCaps own
  · cases event with
    | announceCapabilities caps => exact numbered.command few caps
    | _ => contradiction

end

theorem numbered_run (ownCaps : NodeCapabilities) (events : List SwarmOccurrence)
    (few : events.length < 4611686018427387904) :
    Numbered (run (step ownCaps) start events) (events.flatMap SwarmOccurrence.commandCaps) events.length := by
  induction events using List.reverseRecOn with
  | nil => exact numbered_start
  | append_singleton events last ih =>
      rw [List.length_append, List.length_singleton] at few ⊢
      rw [run_concat, List.flatMap_append, List.flatMap_singleton]
      exact (ih (by omega)).step (by omega) ownCaps last

/-- No two announcements have the same payload exactly when no two commands of the run
carry the same capabilities. -/
theorem announcements_distinct_iff (ownCaps : NodeCapabilities) (events : List SwarmOccurrence)
    (few : events.length < 4611686018427387904) :
    (run (step ownCaps) start events).payloads.Nodup ↔
      (events.flatMap SwarmOccurrence.commandCaps).Nodup := by
  rw [payloads, List.nodup_map_iff AnnounceEnvelope.payload_injective]
  exact (numbered_run ownCaps events few).distinct

def sampleCaps (region : Option String) : NodeCapabilities where
  peerId := "12D3KooW"
  models := ["llama3.1:8b"]
  gpuVramMb := 8192
  gpuType := .nvidiaCuda
  region := region
  teeEnabled := false
  reputation := Inference.defaultReputation
  acceptedSettlements := [⟨"free", 0, "native"⟩]
  apiUrl := none

theorem announcements_distinct_ticks :
    (run (step (sampleCaps none)) start [.announceInterval, .announceCapabilities (sampleCaps none),
      .heartbeatInterval]).payloads.Nodup :=
  (announcements_distinct_iff (sampleCaps none) [.announceInterval, .announceCapabilities (sampleCaps none),
    .heartbeatInterval] (by decide)).mpr (List.nodup_singleton _)

/-- Two commands with the same capabilities give the same bytes. -/
theorem command_repeats_payload :
    ¬(run (step (sampleCaps none)) start [.announceCapabilities (sampleCaps none),
      .announceCapabilities (sampleCaps none)]).payloads.Nodup := by
  have same : (run (step (sampleCaps none)) start [.announceCapabilities (sampleCaps none),
      .announceCapabilities (sampleCaps none)]).payloads =
      [(publishAnnounce (sampleCaps none) oneShotSeq).1.payload,
        (publishAnnounce (sampleCaps none) oneShotSeq).1.payload] := rfl
  rw [same]
  simp

end SwarmState

end Pinaivu.P2P
