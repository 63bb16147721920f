import Pinaivu.Lib.ChannelStream
import Pinaivu.P2P.StreamEnd

/-!
The stream of `run_inference`: the task of `generate_stream` reads the lines of the body and sends their
chunks through a channel, and the stream maps and counts what it receives.
-/

namespace Pinaivu.Inference

open P2P

section

variable (parse : List Char → Option ChatResponseChunk)

def readItem : Except String String → Option (Except String ChatResponseChunk)
  | .error message => some (.error ("stream read: " ++ message))
  | .ok line => (lineChunk parse line).map .ok

def readerTask : ChannelStream.Task (Except String String) (Except String ChatResponseChunk) where
  capacity := 64
  handle := readItem parse
  stops := endsChunks

def inferenceChunk (requestId : RequestId) (chunkIndex : UInt32) (chunk : ChatResponseChunk) :
    InferenceStreamChunk where
  requestId := requestId
  chunkIndex := chunkIndex
  token := chunk.message.getD ""
  isFinal := chunk.done
  tokensGenerated := chunk.evalCount.getD (chunkIndex + 1)
  finishReason := if chunk.done then chunk.doneReason <|> some "stop" else none

/-- The closure of `run_inference`, with its `chunk_index` before and after. -/
def mapItem (requestId : RequestId) (chunkIndex : UInt32) :
    Except String ChatResponseChunk → Except String InferenceStreamChunk × UInt32
  | .error message => (.error message, chunkIndex)
  | .ok chunk => (.ok (inferenceChunk requestId chunkIndex chunk), chunkIndex + 1)

def runInference (requestId : RequestId) (reads : List (Except String String)) (moves : List ChannelStream.Move) :
    ChannelStream.Pipe (Except String String) (Except String ChatResponseChunk)
      (Except String InferenceStreamChunk) UInt32 :=
  Runs.run (ChannelStream.step (readerTask parse) (mapItem requestId)) (ChannelStream.start reads 0) moves

theorem produced_reads (reads : List (Except String String)) :
    ChannelStream.produced (readerTask parse) reads = generateStream parse reads := by
  induction reads using reads_induction parse with
  | nil => rfl
  | error message rest => rfl
  | skip line rest skipped ih =>
      rw [ChannelStream.produced, generateStream_skip skipped, ih]
      simp [readerTask, readItem, skipped]
  | chunk line chunk rest parsed ih =>
      rw [ChannelStream.produced, generateStream_chunk parsed, ih]
      cases done : chunk.done <;> simp [readerTask, readItem, parsed, endsChunks, done]

theorem mapped_chunks (requestId : RequestId) (chunkIndex : UInt32) (items : List (Except String ChatResponseChunk)) :
    ChannelStream.mapped (mapItem requestId) chunkIndex items = mapChunks requestId chunkIndex items := by
  induction items generalizing chunkIndex with
  | nil => rfl
  | cons item rest ih =>
      cases item with
      | error message => rw [ChannelStream.mapped, mapItem, ih, mapChunks]
      | ok chunk =>
          rw [ChannelStream.mapped, mapItem, ih, mapChunks]
          rfl

def linesOf : List (Except String String) → List String
  | .ok line :: rest => line :: linesOf rest
  | _ => []

def failureOf (reads : List (Except String String)) : Option String :=
  reads.findSome? fun
    | .error message => some message
    | .ok _ => none

/-- The chunks up to the first that is marked as done, which is included. -/
def throughDone : List ChatResponseChunk → List ChatResponseChunk
  | [] => []
  | chunk :: rest => chunk :: if chunk.done then [] else throughDone rest

def validChunks (reads : List (Except String String)) : List ChatResponseChunk :=
  throughDone ((linesOf reads).filterMap (lineChunk parse))

def readFailure (reads : List (Except String String)) : Option String :=
  if (validChunks parse reads).any ChatResponseChunk.done then none
  else (failureOf reads).map ("stream read: " ++ ·)

theorem generateStream_eq (reads : List (Except String String)) :
    generateStream parse reads =
      (validChunks parse reads).map .ok ++ (readFailure parse reads).toList.map .error := by
  induction reads using reads_induction parse with
  | nil => rfl
  | error message rest => rfl
  | skip line rest skipped ih =>
      rw [generateStream_skip skipped]
      simpa [validChunks, readFailure, linesOf, failureOf, skipped] using ih
  | chunk line chunk rest parsed ih =>
      rw [generateStream_chunk parsed]
      cases done : chunk.done with
      | true => simp [validChunks, readFailure, linesOf, parsed, throughDone, done]
      | false => simpa [validChunks, readFailure, linesOf, failureOf, parsed, throughDone, done] using ih

theorem mapChunks_eq (requestId : RequestId) (chunkIndex : UInt32) (chunks : List ChatResponseChunk)
    (failure : Option String) :
    mapChunks requestId chunkIndex (chunks.map .ok ++ failure.toList.map .error) =
      (chunks.mapIdx fun k => inferenceChunk requestId (chunkIndex + UInt32.ofNat k)).map .ok ++
        failure.toList.map .error := by
  induction chunks generalizing chunkIndex with
  | nil => cases failure <;> rfl
  | cons chunk rest ih =>
      have shifted : ∀ k, chunkIndex + 1 + UInt32.ofNat k = chunkIndex + UInt32.ofNat (k + 1) := by
        intro k
        rw [UInt32.ofNat_add, UInt32.add_assoc, UInt32.add_comm 1]
        rfl
      simp only [List.map_cons, List.cons_append, mapChunks, ih, List.mapIdx_cons, shifted]
      simp [inferenceChunk]

theorem throughDone_length (chunks : List ChatResponseChunk) : (throughDone chunks).length ≤ chunks.length := by
  induction chunks with
  | nil => exact Nat.le_refl _
  | cons chunk rest ih =>
      cases done : chunk.done with
      | true => simp [throughDone, done]
      | false =>
          simp only [throughDone, done, Bool.false_eq_true, if_false, List.length_cons]
          omega

theorem validChunks_length (reads : List (Except String String)) :
    (validChunks parse reads).length ≤ (linesOf reads).length := by
  have parsed := List.length_filterMap_le (lineChunk parse) (linesOf reads)
  have answered := throughDone_length ((linesOf reads).filterMap (lineChunk parse))
  rw [validChunks]
  omega

theorem stream_pairwise (requestId : RequestId) (chunkIndex : UInt32) (reads : List (Except String String)) :
    (mapChunks requestId chunkIndex (generateStream parse reads)).Pairwise fun item _ => endsStream item = false := by
  induction reads using reads_induction parse generalizing chunkIndex with
  | nil => exact List.Pairwise.nil
  | error message rest => exact List.pairwise_singleton _ _
  | skip line rest skipped ih =>
      rw [generateStream_skip skipped]
      exact ih chunkIndex
  | chunk line chunk rest parsed ih =>
      rw [generateStream_chunk parsed, mapChunks, List.pairwise_cons]
      cases done : chunk.done with
      | true => exact ⟨fun _ later => absurd later List.not_mem_nil, List.Pairwise.nil⟩
      | false => exact ⟨fun _ _ => rfl, ih (chunkIndex + 1)⟩

def chunksOf (items : List (Except String InferenceStreamChunk)) : List InferenceStreamChunk :=
  items.filterMap Except.toOption

theorem chunksOf_given (chunks : List InferenceStreamChunk) (failure : Option String) :
    chunksOf (chunks.map .ok ++ failure.toList.map .error) = chunks := by
  rw [chunksOf, List.filterMap_append, List.filterMap_map]
  cases failure <;> simp [Function.comp_def, Except.toOption]

structure MapsChunks (requestId : RequestId) (reads : List (Except String String))
    (items : List (Except String InferenceStreamChunk)) : Prop where
  given : items =
    ((validChunks parse reads).mapIdx fun k => inferenceChunk requestId (UInt32.ofNat k)).map .ok ++
      (readFailure parse reads).toList.map .error
  numbered : ∀ k (chunk : InferenceStreamChunk), (chunksOf items)[k]? = some chunk → chunk.chunkIndex.toNat = k
  ends : ∀ first item rest, items = first ++ item :: rest → endsStream item = true → rest = []
  oneFinal : (chunksOf items).countP InferenceStreamChunk.isFinal ≤ 1
  finalLast : ∀ chunk, .ok chunk ∈ items → chunk.isFinal = true → items.getLast? = some (.ok chunk)

theorem ends_of_pairwise {items first rest : List (Except String InferenceStreamChunk)}
    {item : Except String InferenceStreamChunk} (only : items.Pairwise fun item _ => endsStream item = false)
    (split : items = first ++ item :: rest) (ends : endsStream item = true) : rest = [] := by
  rw [split, List.pairwise_append, List.pairwise_cons] at only
  apply List.eq_nil_iff_forall_not_mem.mpr
  intro other member
  have goes := only.2.1.1 other member
  rw [ends] at goes
  exact Bool.noConfusion goes

theorem oneFinal_of_pairwise {items : List (Except String InferenceStreamChunk)}
    (only : items.Pairwise fun item _ => endsStream item = false) :
    (chunksOf items).countP InferenceStreamChunk.isFinal ≤ 1 := by
  induction items with
  | nil => exact Nat.zero_le _
  | cons item rest ih =>
      have tail := ih (List.pairwise_cons.mp only).2
      cases item with
      | error message => exact tail
      | ok chunk =>
          cases final : chunk.isFinal with
          | false => simpa [chunksOf, Except.toOption, final] using tail
          | true =>
              obtain rfl := @ends_of_pairwise _ [] _ _ only rfl final
              simp [chunksOf, Except.toOption, final]

theorem mapsChunks (requestId : RequestId) (reads : List (Except String String))
    (few : (linesOf reads).length < 4294967296) :
    MapsChunks parse requestId reads (mapChunks requestId 0 (generateStream parse reads)) := by
  have only := stream_pairwise parse requestId 0 reads
  have given : mapChunks requestId 0 (generateStream parse reads) =
      ((validChunks parse reads).mapIdx fun k => inferenceChunk requestId (UInt32.ofNat k)).map .ok ++
        (readFailure parse reads).toList.map .error := by
    rw [generateStream_eq, mapChunks_eq]
    simp only [UInt32.zero_add]
  refine ⟨given, ?_, fun first item rest => ends_of_pairwise only, oneFinal_of_pairwise only, ?_⟩
  · intro k chunk found
    rw [given, chunksOf_given, List.getElem?_mapIdx] at found
    obtain ⟨valid, at_k, rfl⟩ := Option.map_eq_some_iff.mp found
    have bound := (List.getElem?_eq_some_iff.mp at_k).1
    have short := validChunks_length parse reads
    apply UInt32.toNat_ofNat_of_lt'
    exact Nat.lt_of_lt_of_le bound (short.trans few.le)
  · intro chunk member final
    obtain ⟨first, rest, split⟩ := List.append_of_mem member
    obtain rfl := ends_of_pairwise only split final
    rw [split, List.getLast?_concat]

/-- For every order of the moves of the task and the consumer. -/
theorem ollama_stream (requestId : RequestId) (reads : List (Except String String))
    (few : (linesOf reads).length < 4294967296) :
    ∃ items, MapsChunks parse requestId reads items ∧
      (∀ moves,
        (runInference parse requestId reads moves).yielded <+: items ∧
          ((runInference parse requestId reads moves).closed = true →
            (runInference parse requestId reads moves).yielded = items)) ∧
      ∀ moves, (runInference parse requestId reads moves).dropped = false →
        ∃ more, (runInference parse requestId reads (moves ++ more)).closed = true := by
  refine ⟨_, mapsChunks parse requestId reads few, ?_, ?_⟩
  · intro moves
    have carries := @ChannelStream.carries_run _ _ _ _ (readerTask parse) (mapItem requestId) reads 0 moves
    rw [produced_reads, mapped_chunks] at carries
    exact ⟨carries.seen, carries.complete⟩
  · intro moves held
    have room : 0 < (readerTask parse).capacity := Nat.succ_pos 63
    obtain ⟨more, closed⟩ := ChannelStream.exists_close (mapItem requestId) room _ held
    refine ⟨more, ?_⟩
    rw [runInference, Runs.run_append]
    exact closed

end

def sampleParse (text : List Char) : Option ChatResponseChunk :=
  if text = "\x7b\"message\":\x7b\"content\":\"Hello\"\x7d,\"done\":false\x7d".toList then
    some ⟨some "Hello", false, none, none⟩
  else if text = "\x7b\"done\":true,\"eval_count\":12\x7d".toList then some ⟨none, true, none, some 12⟩
  else none

/-- A blank line and a malformed one before the last chunk, and one more chunk after it. -/
def sampleReads : List (Except String String) :=
  [.ok "\x7b\"message\":\x7b\"content\":\"Hello\"\x7d,\"done\":false\x7d", .ok " ", .ok "\x7b\"done\":",
    .ok "\x7b\"done\":true,\"eval_count\":12\x7d",
    .ok "\x7b\"message\":\x7b\"content\":\"Hello\"\x7d,\"done\":false\x7d"]

theorem ollama_stream_sample :
    (runInference sampleParse ⟨Vector.replicate 16 3⟩ sampleReads
        [.read, .send, .read, .poll, .read, .read, .send, .poll, .poll]).yielded =
      [.ok ⟨⟨Vector.replicate 16 3⟩, 0, "Hello", false, 1, none⟩,
        .ok ⟨⟨Vector.replicate 16 3⟩, 1, "", true, 12, some "stop"⟩] := by
  obtain ⟨items, maps, runs, _⟩ := ollama_stream sampleParse ⟨Vector.replicate 16 3⟩ sampleReads (by decide)
  rw [(runs _).2 (by decide +kernel), maps.given]
  rfl

end Pinaivu.Inference
