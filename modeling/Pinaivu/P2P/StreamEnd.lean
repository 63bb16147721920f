import Pinaivu.Lib.UnicodeText
import Pinaivu.P2P.GossipDelivery

/-!
The end of a remote answer: which streams of the engine `execute_p2p_inference` closes with a
final chunk, and which responses of Ollama give such a stream.
-/

namespace Pinaivu.P2P

/-- One final chunk, and none after it. -/
def Terminated (chunks : List P2PInferenceChunk) : Prop :=
  ∃ earlier last, chunks = earlier ++ [last] ∧ last.isFinal = true ∧ ∀ chunk ∈ earlier, chunk.isFinal = false

def endsStream : Except String InferenceStreamChunk → Bool
  | .ok chunk => chunk.isFinal
  | .error _ => true

theorem not_terminated_nil : ¬Terminated [] := by
  rintro ⟨earlier, last, split, _⟩
  simp at split

theorem terminated_singleton {chunk : P2PInferenceChunk} (final : chunk.isFinal = true) : Terminated [chunk] :=
  ⟨[], chunk, rfl, final, by simp⟩

theorem terminated_cons_iff {chunk : P2PInferenceChunk} (unmarked : chunk.isFinal = false)
    (rest : List P2PInferenceChunk) : Terminated (chunk :: rest) ↔ Terminated rest := by
  constructor
  · rintro ⟨earlier, last, split, final, before⟩
    cases earlier with
    | nil =>
        obtain ⟨rfl, _⟩ := List.cons.inj split
        simp [unmarked] at final
    | cons head earlier =>
        obtain ⟨_, tail⟩ := List.cons.inj split
        exact ⟨earlier, last, tail, final, fun other member => before other (List.mem_cons_of_mem _ member)⟩
  · rintro ⟨earlier, last, rfl, final, before⟩
    refine ⟨chunk :: earlier, last, rfl, final, ?_⟩
    intro other member
    rcases List.mem_cons.mp member with rfl | later
    · exact unmarked
    · exact before other later

theorem publishStream_terminated_iff (requestId : RequestId) (responseTopic : String)
    (stream : List (Except String InferenceStreamChunk)) :
    Terminated (publishStream requestId responseTopic stream) ↔ ∃ item ∈ stream, endsStream item = true := by
  induction stream with
  | nil => simp [publishStream, not_terminated_nil]
  | cons item rest ih =>
      cases item with
      | error message =>
          simp only [publishStream, List.mem_cons, exists_eq_or_imp, endsStream, true_or, iff_true]
          exact terminated_singleton rfl
      | ok chunk =>
          by_cases final : chunk.isFinal = true
          · simp only [publishStream, final, if_true, List.mem_cons, exists_eq_or_imp, endsStream, true_or, iff_true]
            exact terminated_singleton final
          · have unmarked : chunk.isFinal = false := by simpa using final
            simp only [publishStream, unmarked, Bool.false_eq_true, if_false, List.mem_cons, exists_eq_or_imp,
              endsStream, false_or]
            rw [terminated_cons_iff unmarked, ih]
            rfl

/-- The worker closes its answer exactly when the engine refuses the call or its stream
has an item that ends it. -/
theorem executeP2pInference_terminated_iff (requestId : RequestId) (responseTopic : String) (run : EngineRun) :
    Terminated (executeP2pInference requestId responseTopic run) ↔
      ∀ stream, run = .ok stream → ∃ item ∈ stream, endsStream item = true := by
  cases run with
  | error message =>
      simp only [executeP2pInference, reduceCtorEq, false_imp_iff, implies_true, iff_true]
      exact terminated_singleton rfl
  | ok stream =>
      rw [executeP2pInference, publishStream_terminated_iff]
      simp

/-- A stream that ends like the connection to the engine, without a last chunk. -/
theorem unmarked_stream_unterminated :
    ¬Terminated (executeP2pInference ⟨Vector.replicate 16 3⟩ "9b2c"
      (.ok [.ok ⟨⟨Vector.replicate 16 3⟩, 0, "Hello", false, 1, none⟩])) := by
  rintro ⟨earlier, last, split, final, _⟩
  have member : last ∈ earlier ++ [last] := by simp
  rw [← split] at member
  simp only [executeP2pInference, publishStream, Bool.false_eq_true, if_false, List.mem_singleton] at member
  rw [member] at final
  simp [tokenChunk] at final

structure ChatResponseChunk where
  message : Option String
  done : Bool
  doneReason : Option String
  evalCount : Option UInt32

section

variable (parse : List Char → Option ChatResponseChunk)

/-- The reader task of `generate_stream` over the lines of the body, each with the error that the
connection may fail with. -/
def generateStream : List (Except String String) → List (Except String ChatResponseChunk)
  | [] => []
  | .error message :: _ => [.error ("stream read: " ++ message)]
  | .ok line :: rest =>
      if UnicodeText.trim line = [] then generateStream rest
      else
        match parse (UnicodeText.trim line) with
        | none => generateStream rest
        | some chunk => .ok chunk :: if chunk.done then [] else generateStream rest

/-- A blank line and a malformed one have no chunk. -/
def lineChunk (line : String) : Option ChatResponseChunk :=
  if UnicodeText.trim line = [] then none else parse (UnicodeText.trim line)

section

variable {parse}

theorem generateStream_skip {line : String} (skipped : lineChunk parse line = none)
    (rest : List (Except String String)) : generateStream parse (.ok line :: rest) = generateStream parse rest := by
  rw [generateStream]
  by_cases blank : UnicodeText.trim line = []
  · rw [if_pos blank]
  · rw [lineChunk, if_neg blank] at skipped
    rw [if_neg blank, skipped]

theorem generateStream_chunk {line : String} {chunk : ChatResponseChunk} (parsed : lineChunk parse line = some chunk)
    (rest : List (Except String String)) :
    generateStream parse (.ok line :: rest) = .ok chunk :: if chunk.done then [] else generateStream parse rest := by
  rw [generateStream]
  by_cases blank : UnicodeText.trim line = []
  · simp [lineChunk, blank] at parsed
  · rw [lineChunk, if_neg blank] at parsed
    rw [if_neg blank, parsed]

end

theorem reads_induction {P : List (Except String String) → Prop} (nil : P [])
    (error : ∀ message rest, P (.error message :: rest))
    (skip : ∀ line rest, lineChunk parse line = none → P rest → P (.ok line :: rest))
    (chunk : ∀ line chunk rest, lineChunk parse line = some chunk → P rest → P (.ok line :: rest))
    (reads : List (Except String String)) : P reads := by
  induction reads with
  | nil => exact nil
  | cons read rest ih =>
      cases read with
      | error message => exact error message rest
      | ok line =>
          cases parsed : lineChunk parse line with
          | none => exact skip line rest parsed ih
          | some found => exact chunk line found rest parsed ih

def mapChunks (requestId : RequestId) : UInt32 → List (Except String ChatResponseChunk) →
    List (Except String InferenceStreamChunk)
  | _, [] => []
  | chunkIndex, .error message :: rest => .error message :: mapChunks requestId chunkIndex rest
  | chunkIndex, .ok chunk :: rest =>
      .ok {
        requestId := requestId
        chunkIndex := chunkIndex
        token := chunk.message.getD ""
        isFinal := chunk.done
        tokensGenerated := chunk.evalCount.getD (chunkIndex + 1)
        finishReason := if chunk.done then chunk.doneReason <|> some "stop" else none } ::
        mapChunks requestId (chunkIndex + 1) rest

def endsReading : Except String String → Bool
  | .error _ => true
  | .ok line => UnicodeText.trim line ≠ [] && (parse (UnicodeText.trim line)).any ChatResponseChunk.done

def endsChunks : Except String ChatResponseChunk → Bool
  | .ok chunk => chunk.done
  | .error _ => true

theorem mapChunks_ends_iff (requestId : RequestId) (chunkIndex : UInt32)
    (chunks : List (Except String ChatResponseChunk)) :
    (∃ item ∈ mapChunks requestId chunkIndex chunks, endsStream item = true) ↔
      ∃ chunk ∈ chunks, endsChunks chunk = true := by
  induction chunks generalizing chunkIndex with
  | nil => simp [mapChunks]
  | cons item rest ih =>
      cases item with
      | error message => simp [mapChunks, endsStream, endsChunks]
      | ok chunk =>
          simp only [mapChunks, List.mem_cons, exists_eq_or_imp]
          exact or_congr Iff.rfl (ih (chunkIndex + 1))

theorem endsReading_ok (line : String) :
    endsReading parse (.ok line) = (lineChunk parse line).any ChatResponseChunk.done := by
  by_cases blank : UnicodeText.trim line = [] <;> simp [endsReading, lineChunk, blank]

theorem generateStream_ends_iff (reads : List (Except String String)) :
    (∃ chunk ∈ generateStream parse reads, endsChunks chunk = true) ↔
      ∃ read ∈ reads, endsReading parse read = true := by
  induction reads using reads_induction parse with
  | nil => simp [generateStream]
  | error message rest => simp [generateStream, endsChunks, endsReading]
  | skip line rest skipped ih => simp [generateStream_skip skipped, endsReading_ok, skipped, ih]
  | chunk line chunk rest parsed ih =>
      rw [generateStream_chunk parsed]
      cases done : chunk.done with
      | true => simp [endsChunks, endsReading_ok, parsed, done]
      | false =>
          simp only [Bool.false_eq_true, if_false, List.mem_cons, exists_eq_or_imp]
          exact or_congr (by simp [endsChunks, endsReading_ok, parsed, done]) ih

/-- A remote answer that Ollama makes is closed exactly when its connection fails or one of its
lines says that it is done; it is left open where the body simply ends. -/
theorem ollama_terminated_iff (requestId : RequestId) (responseTopic : String)
    (reads : List (Except String String)) :
    Terminated (executeP2pInference requestId responseTopic
        (.ok (mapChunks requestId 0 (generateStream parse reads)))) ↔
      ∃ read ∈ reads, endsReading parse read = true := by
  rw [executeP2pInference, publishStream_terminated_iff, mapChunks_ends_iff, generateStream_ends_iff]

end

end Pinaivu.P2P
