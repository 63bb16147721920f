import Pinaivu.Common.SerdeJson
import Pinaivu.Lib.JsRuntime
import Pinaivu.Lib.LineStream
import Pinaivu.Node.ApiCore

/-!
The NDJSON body of `/v1/infer` and its two readers, in `sdk/src/session.ts` and `web/lib/daemon.ts`.
-/

namespace Pinaivu.Api

open JsonText

structure TokenChunk where
  token : String
  isFinal : Bool
  receipt : Option ReceiptInfo

def ReceiptInfo.toJson (receipt : ReceiptInfo) : Json := .object
  [("proof_id", .string receipt.proofId),
    ("settlement_id", .string receipt.settlementId),
    ("proof_valid", .bool receipt.proofValid),
    ("input_tokens", unsignedJson receipt.inputTokens.toNat),
    ("output_tokens", unsignedJson receipt.outputTokens.toNat),
    ("latency_ms", unsignedJson receipt.latencyMs.toNat),
    ("node_pubkey", .string receipt.nodePubkey),
    ("signature", .string receipt.signature),
    ("canonical_bytes_hex", .string receipt.canonicalBytesHex),
    ("chain_tx_id", optionJson receipt.chainTxId)]

/-- The receipt is left out when there is none. -/
def TokenChunk.toJson (chunk : TokenChunk) : Json := .object
  ([("token", .string chunk.token), ("is_final", .bool chunk.isFinal)] ++
    (chunk.receipt.map fun receipt => ("receipt", receipt.toJson)).toList)

def ndjsonChunks (tokens : List String) (receipt : Option ReceiptInfo) : List TokenChunk :=
  tokens.map (fun token => ⟨token, false, none⟩) ++ [⟨"", true, receipt⟩]

def ndjsonBody (tokens : List String) (receipt : Option ReceiptInfo) : String :=
  String.ofList ((ndjsonChunks tokens receipt).flatMap fun chunk => render chunk.toJson ++ ['\n'])

section

variable (runtime : Js.Runtime)

/-- What the SDK yields for one line, and whether it returns. A line that is no JSON is skipped. -/
def sdkLine (line : List Char) : List Json × Bool :=
  if Js.trim line = [] then ([], false)
  else
    match runtime.parse line with
    | none => ([], false)
    | some chunk => ((Js.present "token" chunk).toList, (Js.present "is_final" chunk).isSome)

def webLine (line : List Char) : List Json × Bool :=
  if Js.trim line = [] then ([], false)
  else
    match runtime.parse line with
    | none => ([], false)
    | some chunk =>
        ((Js.present "token" chunk).toList ++ (Js.present "receipt" chunk).toList,
          (Js.present "is_final" chunk).isSome)

variable (decoder : LineStream.Decoder)

def sdkReader (reads : List (List UInt8)) : List Json × Bool :=
  LineStream.read (sdkLine runtime) decoder decoder.start [] reads

def webReader (reads : List (List UInt8)) : List Json × Bool :=
  LineStream.read (webLine runtime) decoder decoder.start [] reads

end

theorem plain_receipt (receipt : ReceiptInfo) : Js.plain receipt.toJson = true := by
  cases transaction : receipt.chainTxId with
  | none => simp [ReceiptInfo.toJson, Js.plain, Js.plainMembers, unsignedJson, optionJson, transaction]
  | some text => simp [ReceiptInfo.toJson, Js.plain, Js.plainMembers, unsignedJson, optionJson, transaction]

theorem rounded_unsigned (runtime : Js.Runtime) (value : UInt32) :
    Js.rounded runtime.number (unsignedJson value.toNat) = unsignedJson value.toNat := by
  have below : value.toNat < 9007199254740992 := by
    have bound := value.toNat_lt
    omega
  rw [unsignedJson, Js.rounded, runtime.number_exact _ below]

theorem rounded_option (number : NumberToken → NumberToken) (text : Option String) :
    Js.rounded number (optionJson text) = optionJson text := by
  cases text with
  | none => rfl
  | some text => rfl

theorem rounded_receipt (runtime : Js.Runtime) (receipt : ReceiptInfo) :
    Js.rounded runtime.number receipt.toJson = receipt.toJson := by
  simp only [ReceiptInfo.toJson, Js.rounded, Js.roundedMembers, rounded_unsigned, rounded_option]

theorem rounded_chunk (runtime : Js.Runtime) (chunk : TokenChunk) :
    Js.rounded runtime.number chunk.toJson = chunk.toJson := by
  cases receipt : chunk.receipt with
  | none => simp [TokenChunk.toJson, receipt, Js.rounded, Js.roundedMembers]
  | some info => simp [TokenChunk.toJson, receipt, Js.rounded, Js.roundedMembers, rounded_receipt]

theorem plain_chunk (chunk : TokenChunk) : Js.plain chunk.toJson = true := by
  cases receipt : chunk.receipt with
  | none => simp [TokenChunk.toJson, receipt, Js.plain, Js.plainMembers]
  | some info => simp [TokenChunk.toJson, receipt, Js.plain, Js.plainMembers, plain_receipt]

theorem parse_chunk (runtime : Js.Runtime) (chunk : TokenChunk) :
    runtime.parse (render chunk.toJson) = some chunk.toJson := by
  rw [runtime.parse_render _ (plain_chunk chunk), rounded_chunk]

theorem get_token (chunk : TokenChunk) : Js.get "token" chunk.toJson = some (.string chunk.token) := by
  cases receipt : chunk.receipt with
  | none => simp [TokenChunk.toJson, receipt, Js.get]
  | some info => simp [TokenChunk.toJson, receipt, Js.get]

theorem get_final (chunk : TokenChunk) : Js.get "is_final" chunk.toJson = some (.bool chunk.isFinal) := by
  cases receipt : chunk.receipt with
  | none => simp [TokenChunk.toJson, receipt, Js.get]
  | some info => simp [TokenChunk.toJson, receipt, Js.get]

theorem get_receipt (chunk : TokenChunk) : Js.get "receipt" chunk.toJson = chunk.receipt.map ReceiptInfo.toJson := by
  cases receipt : chunk.receipt with
  | none => simp [TokenChunk.toJson, receipt, Js.get]
  | some info => simp [TokenChunk.toJson, receipt, Js.get]

def yielded (token : String) : List Json := if token = "" then [] else [.string token]

theorem present_token (chunk : TokenChunk) : (Js.present "token" chunk.toJson).toList = yielded chunk.token := by
  rw [Js.present, get_token, yielded]
  by_cases empty : chunk.token = ""
  · simp [empty, Js.truthy]
  · simp [empty, Js.truthy]

theorem present_final (chunk : TokenChunk) : (Js.present "is_final" chunk.toJson).isSome = chunk.isFinal := by
  rw [Js.present, get_final]
  cases final : chunk.isFinal with
  | true => rfl
  | false => rfl

theorem present_receipt (chunk : TokenChunk) :
    Js.present "receipt" chunk.toJson = chunk.receipt.map ReceiptInfo.toJson := by
  rw [Js.present, get_receipt]
  cases chunk.receipt with
  | none => rfl
  | some info => rfl

theorem sdkLine_chunk (runtime : Js.Runtime) (chunk : TokenChunk) :
    sdkLine runtime (render chunk.toJson) = (yielded chunk.token, chunk.isFinal) := by
  have visible : Js.trim (render chunk.toJson) ≠ [] := Js.trim_object_ne_nil _
  rw [sdkLine, if_neg visible, parse_chunk]
  simp only [present_token, present_final]

theorem webLine_chunk (runtime : Js.Runtime) (chunk : TokenChunk) :
    webLine runtime (render chunk.toJson) =
      (yielded chunk.token ++ (chunk.receipt.map ReceiptInfo.toJson).toList, chunk.isFinal) := by
  have visible : Js.trim (render chunk.toJson) ≠ [] := Js.trim_object_ne_nil _
  rw [webLine, if_neg visible, parse_chunk]
  simp only [present_token, present_final, present_receipt]

theorem read_ndjsonBody (decoder : LineStream.Decoder) (handle : List Char → List Json × Bool) (tokens : List String)
    (receipt : Option ReceiptInfo) {reads : List (List UInt8)}
    (bytes : reads.flatten = (ndjsonBody tokens receipt).toUTF8.data.toList) :
    LineStream.read handle decoder decoder.start [] reads =
      LineStream.handleLines handle ((ndjsonChunks tokens receipt).map fun chunk => render chunk.toJson) := by
  rw [ndjsonBody, LineStream.toUTF8_ofList] at bytes
  refine LineStream.read_lines handle decoder ?_ ?_ ?_
  · intro line member
    obtain ⟨chunk, -, rfl⟩ := List.mem_map.mp member
    exact newline_not_mem_render chunk.toJson
  · obtain ⟨first, rest, chunks⟩ : ∃ first rest, ndjsonChunks tokens receipt = first :: rest :=
      List.exists_cons_of_ne_nil (by simp [ndjsonChunks])
    have brace : (render first.toJson).head? = some '{' := (ends_render_object _).1
    rw [List.flatMap_map, chunks, List.flatMap_cons, List.append_assoc, List.head?_append, brace, Option.some_or]
    decide
  · rw [bytes, List.flatMap_map]

theorem handle_chunks {handle : List Char → List Json × Bool} {outputs : TokenChunk → List Json}
    (handled : ∀ chunk : TokenChunk, handle (render chunk.toJson) = (outputs chunk, chunk.isFinal))
    (tokens : List String) (receipt : Option ReceiptInfo) :
    LineStream.handleLines handle ((ndjsonChunks tokens receipt).map fun chunk => render chunk.toJson) =
      ((tokens.flatMap fun token => outputs ⟨token, false, none⟩) ++ outputs ⟨"", true, receipt⟩, true) := by
  rw [ndjsonChunks, List.map_append, List.map_map, List.map_cons, List.map_nil,
    LineStream.handleLines_stopped handle ?_ ?_]
  · simp only [List.flatMap_map, Function.comp_apply, handled]
  · intro line member
    obtain ⟨token, -, rfl⟩ := List.mem_map.mp member
    simp only [Function.comp_apply, handled]
  · simp only [handled]

theorem flatMap_yielded (tokens : List String) :
    tokens.flatMap yielded = (tokens.filter (· ≠ "")).map Json.string := by
  induction tokens with
  | nil => rfl
  | cons token tokens ih =>
      rw [List.flatMap_cons, ih, yielded]
      by_cases empty : token = ""
      · simp [empty]
      · simp [empty]

/-- Both clients deliver the tokens that are not empty in order, the web client then the receipt, and both
return at the last line, however the network divides the body. -/
theorem ndjson_round_trip (decoder : LineStream.Decoder) (runtime : Js.Runtime) (tokens : List String)
    (receipt : Option ReceiptInfo) (reads : List (List UInt8))
    (bytes : reads.flatten = (ndjsonBody tokens receipt).toUTF8.data.toList) :
    sdkReader runtime decoder reads = ((tokens.filter (· ≠ "")).map .string, true) ∧
      webReader runtime decoder reads =
        ((tokens.filter (· ≠ "")).map .string ++ (receipt.map ReceiptInfo.toJson).toList, true) := by
  have nothing : yielded "" = [] := rfl
  constructor
  · rw [sdkReader, read_ndjsonBody decoder _ tokens receipt bytes, handle_chunks (sdkLine_chunk runtime)]
    simp only [flatMap_yielded, nothing, List.append_nil]
  · rw [webReader, read_ndjsonBody decoder _ tokens receipt bytes, handle_chunks (webLine_chunk runtime)]
    simp only [Option.map_none, Option.toList_none, List.append_nil, flatMap_yielded, nothing, List.nil_append]

def streamedReceipt : ReceiptInfo where
  proofId := "6d1f"
  settlementId := "free"
  proofValid := true
  inputTokens := 12
  outputTokens := 3
  latencyMs := 840
  nodePubkey := "ab"
  signature := "cd"
  canonicalBytesHex := "7b7d"
  chainTxId := none

/-- A body that arrives byte by byte. -/
theorem ndjson_bytewise :
    webReader .exact .incremental
        ((ndjsonBody ["a\n\"", "", "é\u2028"] (some streamedReceipt)).toUTF8.data.toList.map ([·])) =
      ([.string "a\n\"", .string "é\u2028", streamedReceipt.toJson], true) := by
  have tokens : ["a\n\"", "", "é\u2028"].filter (· ≠ "") = ["a\n\"", "é\u2028"] := by decide
  rw [(ndjson_round_trip .incremental .exact ["a\n\"", "", "é\u2028"] (some streamedReceipt) _
    (LineStream.flatten_bytewise _)).2, tokens]
  rfl

end Pinaivu.Api
