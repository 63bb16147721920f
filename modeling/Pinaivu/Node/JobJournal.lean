import Pinaivu.Common.SerdeJson
import Pinaivu.Lib.JsonPretty
import Pinaivu.Lib.LineStream
import Pinaivu.Lib.Runs
import Pinaivu.Lib.TornLines

/-!
The job journal of `crates/node/src/journal.rs`: each completed inference is one JSON line behind the others.
An append that fails, or that a crash cuts off, leaves a part of its line in the file.
-/

namespace Pinaivu.Node

open JsonText

structure JobRecord where
  requestId : String
  model : String
  fallbackFrom : Option String
  inputTokens : UInt32
  outputTokens : UInt32
  latencyMs : UInt64
  ts : UInt64
  deriving DecidableEq

namespace JobRecord

def toJson (record : JobRecord) : Json := .object
  [("request_id", .string record.requestId),
    ("model", .string record.model),
    ("fallback_from", optionJson record.fallbackFrom),
    ("input_tokens", unsignedJson record.inputTokens.toNat),
    ("output_tokens", unsignedJson record.outputTokens.toNat),
    ("latency_ms", unsignedJson record.latencyMs.toNat),
    ("ts", unsignedJson record.ts.toNat)]

def line (record : JobRecord) : List UInt8 := (toBytes record.toJson).data.toList

/-- What a reader that knows the record makes of its JSON. -/
def decode (value : Json) : Option JobRecord := do
  let fields ← structFields
    ["request_id", "model", "fallback_from", "input_tokens", "output_tokens", "latency_ms", "ts"] 0 value
  return {
    requestId := ← requiredField fields "request_id" decodeString
    model := ← requiredField fields "model" decodeString
    fallbackFrom := ← optionalField fields "fallback_from" decodeString
    inputTokens := ← requiredField fields "input_tokens" decodeU32
    outputTokens := ← requiredField fields "output_tokens" decodeU32
    latencyMs := ← requiredField fields "latency_ms" decodeU64
    ts := ← requiredField fields "ts" decodeU64 }

def readLine (bytes : List UInt8) : Option JobRecord := (ofBytesSpaced ⟨bytes.toArray⟩).bind decode

end JobRecord

/-- An append under the lock, of which `written` bytes reach the file; none do when the file cannot be opened. -/
structure Append where
  record : JobRecord
  written : Nat
  deriving DecidableEq

def Append.write (append : Append) : TornLines.Write UInt8 := ⟨append.record.line, append.written⟩

namespace JobJournal

def newline : UInt8 := 10

def append (file : List UInt8) (append : Append) : List UInt8 := file ++ append.write.left newline

def records (file : List UInt8) : List JobRecord := (file.splitOn newline).filterMap JobRecord.readLine

end JobJournal

theorem JobRecord.decode_toJson (record : JobRecord) : decode record.toJson = some record := by
  have texts : ∀ text, decodeString (.string text) = some text := fun _ => rfl
  rw [decode, toJson, structFields_object 0 (by simp), Option.bind_eq_bind, Option.bind_some]
  simp (disch := decide) only [requiredField_head, requiredField_tail, optionalField_head, optionalField_tail, texts,
    decodeU32_unsignedJson, decodeU64_unsignedJson, decodeOption_optionJson]
  rfl

theorem JobRecord.readLine_line (record : JobRecord) : readLine record.line = some record := by
  rw [readLine, line, Array.toArray_toList, ofBytesSpaced_toBytes, Option.bind_some, decode_toJson]

theorem JobRecord.readLine_nil : readLine [] = none := by
  have empty : (⟨[].toArray⟩ : ByteArray) = "".toUTF8 := rfl
  rw [readLine, empty, ofBytesSpaced, fromUTF8?_toUTF8]
  rfl

theorem JobRecord.newline_not_mem_line (record : JobRecord) : JobJournal.newline ∉ record.line := by
  rw [line, toBytes, LineStream.toUTF8_ofList]
  exact LineStream.newline_not_mem_utf8 (newline_not_mem_render record.toJson)

theorem JobJournal.run_append (file : List UInt8) (appends : List Append) :
    Runs.run append file appends = file ++ TornLines.file newline (appends.map Append.write) := by
  induction appends generalizing file with
  | nil => simp [Runs.run, TornLines.file]
  | cons first rest ih =>
      rw [Runs.run_cons, ih, append, List.append_assoc]
      rfl

theorem Append.line_write (append : Append) : append.write.line = append.record.line := by rw [Append.write]

theorem lines_write (appends : List Append) :
    (appends.map fun append => append.write.line) = (appends.map Append.record).map JobRecord.line := by
  simp only [Append.line_write, List.map_map, Function.comp_def]

theorem JobRecord.readLine_lines (records : List JobRecord) : (records.map line).filterMap readLine = records := by
  induction records with
  | nil => rfl
  | cons record rest ih => rw [List.map_cons, List.filterMap_cons_some (readLine_line record), ih]

theorem newline_not_mem_writes (appends : List Append) :
    ∀ append ∈ appends, JobJournal.newline ∉ append.write.line := by
  intro append _
  rw [append.line_write]
  exact append.record.newline_not_mem_line

theorem settled_records (appends : List Append) :
    ((TornLines.settled Append.write true appends).map Append.record).Sublist
      (JobJournal.records (Runs.run JobJournal.append [] appends)) := by
  have lines := TornLines.lines_sublist [] (newline_not_mem_writes appends) List.not_mem_nil
  have read := lines.filterMap JobRecord.readLine
  rw [lines_write, JobRecord.readLine_lines] at read
  rw [JobJournal.records, JobJournal.run_append]
  exact read

theorem records_complete {appends : List Append} (complete : ∀ append ∈ appends, append.write.Complete) :
    JobJournal.records (Runs.run JobJournal.append [] appends) = appends.map Append.record := by
  rw [JobJournal.records, JobJournal.run_append, List.nil_append,
    TornLines.lines_complete (newline_not_mem_writes appends) complete, lines_write, List.filterMap_append,
    JobRecord.readLine_lines, List.filterMap_cons_none JobRecord.readLine_nil, List.filterMap_nil, List.append_nil]

/-- An append that stops partway costs its own record and at most the next one: every other record is read
back, in the order of the appends, over all restarts. -/
theorem journal_records (appends : List Append) :
    ((TornLines.settled Append.write true appends).map Append.record).Sublist
        (JobJournal.records (Runs.run JobJournal.append [] appends)) ∧
      (∀ first before append rest, appends = first ++ before :: append :: rest → before.write.Complete →
        append.write.Complete → append ∈ TornLines.settled Append.write true appends) ∧
      ((∀ append ∈ appends, append.write.Complete) →
        JobJournal.records (Runs.run JobJournal.append [] appends) = appends.map Append.record) := by
  constructor
  · exact settled_records appends
  constructor
  · rintro first before append rest rfl ended complete
    exact TornLines.settled_pair true ended complete
  · exact fun complete => records_complete complete

end Pinaivu.Node
