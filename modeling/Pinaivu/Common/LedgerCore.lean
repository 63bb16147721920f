import Pinaivu.Common.SerdeJson
import Pinaivu.Lib.JsonPretty
import Pinaivu.Lib.KeyedList
import Pinaivu.Lib.Runs

/-!
`LocalLedger` of `crates/common/src/payment.rs` under concurrent calls: a call updates the
map under the lock, gives the lock up, and takes it again to write the map to the file. No
input or output fails.
-/

namespace Pinaivu.Ledgers

open JsonText

structure UsageStats where
  totalJobs : UInt64
  totalTokensUsed : UInt64
  totalCostNanox : UInt64
  lastJobTimestamp : Option UInt64
  deriving DecidableEq, Repr

def UsageStats.empty : UsageStats := ⟨0, 0, 0, none⟩

structure UserEntry where
  user : String
  stats : UsageStats
  deriving DecidableEq, Repr

structure LedgerData where
  users : List UserEntry
  unique : (users.map UserEntry.user).Nodup

structure JobCall where
  now : UInt64
  proof : ProofOfInference

def UsageStats.addJob (stats : UsageStats) (call : JobCall) : UsageStats where
  totalJobs := stats.totalJobs + 1
  totalTokensUsed := stats.totalTokensUsed + call.proof.outputTokens.toUInt64
  totalCostNanox := stats.totalCostNanox + call.proof.pricePaidNanox
  lastJobTimestamp := some call.now

namespace LedgerData

def empty : LedgerData := ⟨[], List.nodup_nil⟩

def getUsage (data : LedgerData) (user : String) : UsageStats :=
  ((KeyedList.find UserEntry.user user data.users).map UserEntry.stats).getD .empty

def insert (data : LedgerData) (entry : UserEntry) : LedgerData :=
  ⟨KeyedList.upsert UserEntry.user entry data.users, KeyedList.upsert_nodup entry data.unique⟩

def record (data : LedgerData) (call : JobCall) : LedgerData :=
  data.insert ⟨call.proof.clientAddress, (data.getUsage call.proof.clientAddress).addJob call⟩

end LedgerData

def timestampJson : Option UInt64 → Json
  | none => .null
  | some timestamp => unsignedJson timestamp.toNat

def UsageStats.toJson (stats : UsageStats) : Json := .object
  [("total_jobs", unsignedJson stats.totalJobs.toNat),
    ("total_tokens_used", unsignedJson stats.totalTokensUsed.toNat),
    ("total_cost_nanox", unsignedJson stats.totalCostNanox.toNat),
    ("last_job_timestamp", timestampJson stats.lastJobTimestamp)]

def usersJson (entries : List UserEntry) : Json := .object
  [("users", .object (entries.map fun entry => (entry.user, entry.stats.toJson)))]

def decodeUsageStats (value : Json) : Option UsageStats := do
  let fields ← structFields
    ["total_jobs", "total_tokens_used", "total_cost_nanox", "last_job_timestamp"] 0 value
  return {
    totalJobs := ← requiredField fields "total_jobs" decodeU64
    totalTokensUsed := ← requiredField fields "total_tokens_used" decodeU64
    totalCostNanox := ← requiredField fields "total_cost_nanox" decodeU64
    lastJobTimestamp := ← optionalField fields "last_job_timestamp" decodeU64 }

/-- A user that is named twice has the later entry. -/
def decodeLedgerData (value : Json) : Option LedgerData := do
  let fields ← structFields ["users"] 0 value
  let entries ← requiredField fields "users" (decodeEntries decodeUsageStats)
  return entries.foldl (fun data entry => data.insert ⟨entry.1, entry.2⟩) .empty

/-- A missing file and one that does not parse are taken for an empty ledger. -/
def fromFile (disk : Option ByteArray) : LedgerData :=
  ((disk.bind ofBytesSpaced).bind decodeLedgerData).getD .empty

inductive Phase where
  | begun
  | updating
  | updated
  | recorded
  | flushing
  | serialized (json : ByteArray)
  | written
  | renamed
  | finished

/-- `recorded` lists the calls in the order of their updates. -/
structure Ledger (Call : Type) where
  data : LedgerData
  holder : Option Call
  phase : Call → Phase
  tmp : Option ByteArray
  file : Option ByteArray
  recorded : List Call

structure Iteration where
  order : List UserEntry → List UserEntry
  perm : ∀ entries, (order entries).Perm entries

variable {Call : Type}

def Ledger.opened (disk : Option ByteArray) : Ledger Call where
  data := fromFile disk
  holder := none
  phase := fun _ => .begun
  tmp := none
  file := disk
  recorded := []

variable [DecidableEq Call]

def Ledger.enter (ledger : Ledger Call) (who : Call) (phase : Phase) : Ledger Call :=
  { ledger with phase := Function.update ledger.phase who phase }

def Ledger.acquire (ledger : Ledger Call) (who : Call) (phase : Phase) : Ledger Call :=
  if ledger.holder = none then { ledger.enter who phase with holder := some who } else ledger

def Ledger.release (ledger : Ledger Call) (who : Call) (phase : Phase) : Ledger Call :=
  { ledger.enter who phase with holder := none }

/-- `hasFile` is false for a ledger that is kept in memory only. -/
def Ledger.step (hasFile : Bool) (job : Call → JobCall) (ledger : Ledger Call) (event : Call × Iteration) :
    Ledger Call :=
  let who := event.1
  match ledger.phase who with
  | .begun => ledger.acquire who .updating
  | .updating =>
      { ledger.enter who .updated with
        data := ledger.data.record (job who)
        recorded := ledger.recorded ++ [who] }
  | .updated => ledger.release who .recorded
  | .recorded => if hasFile then ledger.acquire who .flushing else ledger.enter who .finished
  | .flushing =>
      ledger.enter who (.serialized (toBytesPretty (usersJson (event.2.order ledger.data.users))))
  | .serialized json => { ledger.enter who .written with tmp := some json }
  | .written => { ledger.enter who .renamed with file := ledger.tmp, tmp := none }
  | .renamed => ledger.release who .finished
  | .finished => ledger

end Pinaivu.Ledgers
