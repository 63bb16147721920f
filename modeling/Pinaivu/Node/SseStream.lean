import Pinaivu.Node.NdjsonStream

/-!
The event stream of `/v1/chat/completions`, and `streamChatCompletions` in `web/lib/daemon.ts`, which reads it.
-/

namespace Pinaivu.Api

open JsonText

structure ChunkDelta where
  role : Option String
  content : Option String

structure ChunkChoice where
  index : UInt32
  delta : ChunkDelta
  finishReason : Option String

structure ChatCompletionChunk where
  id : String
  object : String
  created : UInt64
  model : String
  choices : List ChunkChoice

/-- Members that are `None` are left out. -/
def ChunkDelta.toJson (delta : ChunkDelta) : Json := .object
  ((delta.role.map fun role => ("role", .string role)).toList ++
    (delta.content.map fun content => ("content", .string content)).toList)

def ChunkChoice.toJson (choice : ChunkChoice) : Json := .object
  [("index", unsignedJson choice.index.toNat),
    ("delta", choice.delta.toJson),
    ("finish_reason", optionJson choice.finishReason)]

def ChatCompletionChunk.toJson (chunk : ChatCompletionChunk) : Json := .object
  [("id", .string chunk.id),
    ("object", .string chunk.object),
    ("created", unsignedJson chunk.created.toNat),
    ("model", .string chunk.model),
    ("choices", .array (chunk.choices.map ChunkChoice.toJson))]

def chatId (requestId : RequestId) : String :=
  "chatcmpl-" ++ String.ofList (Hex.encode (requestId.bytes.toList.take 8))

section

variable (requestId : RequestId) (created : UInt64) (model : String)

def chatChunk (delta : ChunkDelta) (finishReason : Option String) : ChatCompletionChunk where
  id := chatId requestId
  object := "chat.completion.chunk"
  created := created
  model := model
  choices := [⟨0, delta, finishReason⟩]

def chatChunks (tokens : List String) : List ChatCompletionChunk :=
  chatChunk requestId created model ⟨some "assistant", none⟩ none ::
    tokens.map (fun token => chatChunk requestId created model ⟨none, some token⟩ none) ++
    [chatChunk requestId created model ⟨none, none⟩ (some "stop")]

def dataMark : List Char := "data: ".toList

def sseEvent (data : List Char) : List Char := dataMark ++ data ++ ['\n', '\n']

def sseBody (tokens : List String) : String :=
  String.ofList ((chatChunks requestId created model tokens).flatMap (fun chunk => sseEvent (render chunk.toJson)) ++
    sseEvent "[DONE]".toList)

end

section

variable (runtime : Js.Runtime)

/-- `chunk?.choices?.[0]?.delta?.content`, when it is truthy. -/
def chunkContent (chunk : Json) : Option Json :=
  ((((Js.get "choices" chunk).bind (Js.item 0)).bind (Js.get "delta")).bind (Js.get "content")).filter Js.truthy

def chatData (data : List Char) : List Json × Bool :=
  if data = "[DONE]".toList then ([], true)
  else
    match runtime.parse data with
    | none => ([], false)
    | some chunk => ((chunkContent chunk).toList, false)

def chatLine (line : List Char) : List Json × Bool :=
  if Js.trim line = [] ∨ ¬ "data:".toList <+: Js.trim line then ([], false)
  else chatData runtime (Js.trim ((Js.trim line).drop 5))

def streamChatCompletions (decoder : LineStream.Decoder) (reads : List (List UInt8)) : List Json × Bool :=
  LineStream.read (chatLine runtime) decoder decoder.start [] reads

end

theorem plain_delta (delta : ChunkDelta) : Js.plain delta.toJson = true := by
  cases role : delta.role with
  | none =>
      cases content : delta.content with
      | none => simp [ChunkDelta.toJson, role, content, Js.plain, Js.plainMembers]
      | some text => simp [ChunkDelta.toJson, role, content, Js.plain, Js.plainMembers]
  | some name =>
      cases content : delta.content with
      | none => simp [ChunkDelta.toJson, role, content, Js.plain, Js.plainMembers]
      | some text => simp [ChunkDelta.toJson, role, content, Js.plain, Js.plainMembers]

theorem plain_choice (choice : ChunkChoice) : Js.plain choice.toJson = true := by
  cases reason : choice.finishReason with
  | none => simp [ChunkChoice.toJson, reason, Js.plain, Js.plainMembers, plain_delta, unsignedJson, optionJson]
  | some text => simp [ChunkChoice.toJson, reason, Js.plain, Js.plainMembers, plain_delta, unsignedJson, optionJson]

theorem plain_choices (choices : List ChunkChoice) : Js.plainItems (choices.map ChunkChoice.toJson) = true := by
  induction choices with
  | nil => rfl
  | cons choice choices ih => rw [List.map_cons, Js.plainItems, plain_choice, ih, Bool.and_self]

theorem plain_completion (chunk : ChatCompletionChunk) : Js.plain chunk.toJson = true := by
  simp [ChatCompletionChunk.toJson, Js.plain, Js.plainMembers, plain_choices, unsignedJson]

theorem get_choices (chunk : ChatCompletionChunk) :
    Js.get "choices" chunk.toJson = some (.array (chunk.choices.map ChunkChoice.toJson)) := by
  simp [ChatCompletionChunk.toJson, Js.get]

theorem get_delta (choice : ChunkChoice) : Js.get "delta" choice.toJson = some choice.delta.toJson := by
  simp [ChunkChoice.toJson, Js.get]

theorem get_content (delta : ChunkDelta) : Js.get "content" delta.toJson = delta.content.map Json.string := by
  cases role : delta.role with
  | none =>
      cases content : delta.content with
      | none => simp [ChunkDelta.toJson, role, content, Js.get]
      | some text => simp [ChunkDelta.toJson, role, content, Js.get]
  | some name =>
      cases content : delta.content with
      | none => simp [ChunkDelta.toJson, role, content, Js.get]
      | some text => simp [ChunkDelta.toJson, role, content, Js.get]

def ChatCompletionChunk.content (chunk : ChatCompletionChunk) : Option String :=
  chunk.choices.head?.bind fun choice => choice.delta.content

/-- The creation time may have been rounded; the content has not. -/
theorem chunkContent_chunk (runtime : Js.Runtime) (chunk : ChatCompletionChunk) :
    (chunkContent (Js.rounded runtime.number chunk.toJson)).toList = chunk.content.toList.flatMap yielded := by
  have content : ∀ delta : ChunkDelta,
      Js.get "content" (Js.rounded runtime.number delta.toJson) = delta.content.map Json.string := by
    intro delta
    rw [Js.get_rounded, get_content, Option.map_map]
    rfl
  rw [chunkContent, Js.get_rounded, get_choices, Option.map_some, Option.bind_some, Js.item_rounded, Js.item,
    ChatCompletionChunk.content]
  cases chunk.choices with
  | nil => rfl
  | cons choice others =>
      rw [List.map_cons, List.getElem?_cons_zero, Option.map_some, Option.bind_some, Js.get_rounded, get_delta,
        Option.map_some, Option.bind_some, content, List.head?_cons, Option.bind_some]
      cases choice.delta.content with
      | none => rfl
      | some text =>
          by_cases empty : text = ""
          · simp [empty, yielded, Js.truthy]
          · simp [empty, yielded, Js.truthy]

theorem chatLine_data (runtime : Js.Runtime) {data : List Char} {first last : Char} (starts : data.head? = some first)
    (ends : data.getLast? = some last) (visible : Js.isWhitespace first = false ∧ Js.isWhitespace last = false) :
    chatLine runtime (dataMark ++ data) = chatData runtime data := by
  have nonempty : data ≠ [] := by
    rintro rfl
    contradiction
  have trimmed : Js.trim (dataMark ++ data) = dataMark ++ data := by
    have begins : (dataMark ++ data).head? = some 'd' := rfl
    have finishes : (dataMark ++ data).getLast? = some last := by rw [List.getLast?_append_of_ne_nil _ nonempty, ends]
    exact Js.trim_visible begins finishes ⟨by decide, visible.2⟩
  have marked : "data:".toList <+: dataMark ++ data := ⟨' ' :: data, rfl⟩
  have rest : (dataMark ++ data).drop 5 = ' ' :: data := rfl
  have shown : ¬ (dataMark ++ data = [] ∨ ¬ "data:".toList <+: dataMark ++ data) := by
    rintro (empty | unmarked)
    · exact nonempty (List.append_eq_nil_iff.mp empty).2
    · exact unmarked marked
  rw [chatLine, trimmed, if_neg shown, rest, Js.trim_space, Js.trim_visible starts ends visible]

theorem chatLine_chunk (runtime : Js.Runtime) (chunk : ChatCompletionChunk) :
    chatLine runtime (dataMark ++ render chunk.toJson) = (chunk.content.toList.flatMap yielded, false) := by
  obtain ⟨starts, ends⟩ : (render chunk.toJson).head? = some '{' ∧ (render chunk.toJson).getLast? = some '}' :=
    ends_render_object _
  have going : render chunk.toJson ≠ "[DONE]".toList := by
    intro same
    rw [same] at starts
    contradiction
  rw [chatLine_data runtime starts ends (by decide), chatData, if_neg going,
    runtime.parse_render _ (plain_completion chunk)]
  simp only [chunkContent_chunk]

theorem chatLine_empty (runtime : Js.Runtime) : chatLine runtime [] = ([], false) := rfl

theorem chatLine_done (runtime : Js.Runtime) : chatLine runtime (dataMark ++ "[DONE]".toList) = ([], true) := by
  have starts : "[DONE]".toList.head? = some '[' := rfl
  have ends : "[DONE]".toList.getLast? = some ']' := rfl
  rw [chatLine_data runtime starts ends (by decide), chatData, if_pos rfl]

/-- The lines of an event, the second of them empty. -/
def eventLines (data : List Char) : List (List Char) := [dataMark ++ data, []]

theorem sseEvent_eq (data : List Char) : sseEvent data = (eventLines data).flatMap (· ++ ['\n']) := by
  simp [sseEvent, eventLines]

def streamLines (chunks : List ChatCompletionChunk) : List (List Char) :=
  (chunks.flatMap fun chunk => eventLines (render chunk.toJson)) ++ eventLines "[DONE]".toList

theorem handle_stream (runtime : Js.Runtime) (chunks : List ChatCompletionChunk) :
    LineStream.handleLines (chatLine runtime) (streamLines chunks) =
      (chunks.flatMap fun chunk => chunk.content.toList.flatMap yielded, true) := by
  have events : ∀ line ∈ chunks.flatMap (fun chunk => eventLines (render chunk.toJson)),
      (chatLine runtime line).2 = false := by
    intro line member
    obtain ⟨chunk, -, part⟩ := List.mem_flatMap.mp member
    rw [eventLines, List.mem_pair] at part
    rcases part with rfl | rfl
    · rw [chatLine_chunk]
    · rw [chatLine_empty]
  have outputs : ∀ chunk : ChatCompletionChunk,
      ((eventLines (render chunk.toJson)).flatMap fun line => (chatLine runtime line).1) =
        chunk.content.toList.flatMap yielded := by
    intro chunk
    rw [eventLines, List.flatMap_cons, List.flatMap_singleton, chatLine_chunk, chatLine_empty, List.append_nil]
  rw [streamLines, eventLines.eq_def "[DONE]".toList,
    LineStream.handleLines_stopped _ events (by rw [chatLine_done]), chatLine_done, List.append_nil, List.flatMap_assoc]
  simp only [outputs]

theorem newline_not_mem_stream (chunks : List ChatCompletionChunk) :
    ∀ line ∈ streamLines chunks, '\n' ∉ line := by
  have closed : ∀ data : List Char, '\n' ∉ data → ∀ line ∈ eventLines data, '\n' ∉ line := by
    intro data absent line member
    rw [eventLines, List.mem_pair] at member
    rcases member with rfl | rfl
    · rw [List.mem_append, not_or]
      exact ⟨by decide, absent⟩
    · exact List.not_mem_nil
  intro line member
  rcases List.mem_append.mp member with event | done
  · obtain ⟨chunk, -, part⟩ := List.mem_flatMap.mp event
    exact closed _ (newline_not_mem_render chunk.toJson) line part
  · exact closed _ (by decide) line done

theorem contents_chatChunks (requestId : RequestId) (created : UInt64) (model : String) (tokens : List String) :
    ((chatChunks requestId created model tokens).flatMap fun chunk => chunk.content.toList.flatMap yielded) =
      tokens.flatMap yielded := by
  simp [chatChunks, chatChunk, ChatCompletionChunk.content, List.flatMap_map]

/-- The web client yields the tokens that are not empty in order and returns at the sentinel, however the
network divides the stream; a token may have line ends or the sentinel in it. -/
theorem sse_round_trip (decoder : LineStream.Decoder) (runtime : Js.Runtime) (requestId : RequestId) (created : UInt64)
    (model : String) (tokens : List String) (reads : List (List UInt8))
    (bytes : reads.flatten = (sseBody requestId created model tokens).toUTF8.data.toList) :
    streamChatCompletions runtime decoder reads = ((tokens.filter (· ≠ "")).map .string, true) := by
  have text : (chatChunks requestId created model tokens).flatMap (fun chunk => sseEvent (render chunk.toJson)) ++
      sseEvent "[DONE]".toList = (streamLines (chatChunks requestId created model tokens)).flatMap (· ++ ['\n']) := by
    simp only [sseEvent_eq, streamLines, List.flatMap_append, List.flatMap_assoc]
  rw [sseBody, text, LineStream.toUTF8_ofList] at bytes
  have unmarked : ((streamLines (chatChunks requestId created model tokens)).flatMap (· ++ ['\n'])).head? ≠
      some LineStream.byteOrderMark := by
    have first : ((streamLines (chatChunks requestId created model tokens)).flatMap (· ++ ['\n'])).head? =
        some 'd' := rfl
    rw [first]
    decide
  rw [streamChatCompletions, LineStream.read_lines _ decoder (newline_not_mem_stream _) unmarked bytes, handle_stream,
    contents_chatChunks, flatMap_yielded]

/-- Tokens with a line end and with the sentinel, byte by byte. -/
theorem sse_bytewise :
    streamChatCompletions .exact .incremental ((sseBody ⟨Vector.replicate 16 7⟩ 1750000000 "llama3.1:8b"
        ["a\n\n", "", "data: [DONE]\n\n", "é"]).toUTF8.data.toList.map ([·])) =
      ([.string "a\n\n", .string "data: [DONE]\n\n", .string "é"], true) := by
  have tokens : ["a\n\n", "", "data: [DONE]\n\n", "é"].filter (· ≠ "") = ["a\n\n", "data: [DONE]\n\n", "é"] := by
    decide
  rw [sse_round_trip .incremental .exact ⟨Vector.replicate 16 7⟩ 1750000000 "llama3.1:8b"
    ["a\n\n", "", "data: [DONE]\n\n", "é"] _ (LineStream.flatten_bytewise _), tokens]
  rfl

end Pinaivu.Api
