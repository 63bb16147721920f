import Pinaivu.Common.LedgerCore

/-!
What a ledger counts and what its file holds, for calls interleaved in any way. The lock is
held from the reading of the map to the rename, so a file is never replaced by an older one.
-/

namespace Pinaivu.Ledgers

open JsonText

theorem decodeUsageStats_toJson (stats : UsageStats) : decodeUsageStats stats.toJson = some stats := by
  have timestamps : decodeOption decodeU64 (timestampJson stats.lastJobTimestamp) = some stats.lastJobTimestamp := by
    cases stats.lastJobTimestamp with
    | none => rfl
    | some timestamp =>
        rw [timestampJson, unsignedJson, decodeOption, ← unsignedJson, decodeU64_unsignedJson, Option.map_some]
        simp
  rw [decodeUsageStats, UsageStats.toJson, structFields_object 0 (by simp), Option.bind_eq_bind, Option.bind_some]
  simp (disch := decide) only [requiredField_head, requiredField_tail, optionalField_head, optionalField_tail,
    decodeU64_unsignedJson, timestamps]
  rfl

theorem users_fold_insert (entries : List UserEntry) (data : LedgerData) :
    (entries.foldl LedgerData.insert data).users =
      entries.foldl (fun rows row => KeyedList.upsert UserEntry.user row rows) data.users := by
  induction entries generalizing data with
  | nil => rfl
  | cons entry rest ih => exact ih (data.insert entry)

theorem users_fromFile {entries : List UserEntry} (unique : (entries.map UserEntry.user).Nodup) :
    (fromFile (some (toBytesPretty (usersJson entries)))).users = entries := by
  have decoded : decodeLedgerData (usersJson entries) = some (entries.foldl LedgerData.insert .empty) := by
    have inverse : ∀ entry : UserEntry, decodeUsageStats entry.stats.toJson = some entry.stats :=
      fun entry => decodeUsageStats_toJson entry.stats
    rw [decodeLedgerData, usersJson, structFields_object 0 (by simp), Option.bind_eq_bind, Option.bind_some]
    simp (disch := decide) only [requiredField_head, decodeEntries_map inverse, Option.bind_eq_bind, Option.bind_some,
      List.foldl_map]
    rfl
  rw [fromFile, Option.bind_some, ofBytesSpaced_toBytesPretty, Option.bind_some, decoded, Option.getD_some,
    users_fold_insert]
  exact (KeyedList.foldl_upsert unique).trans (List.nil_append _)

theorem getUsage_insert_self (data : LedgerData) (entry : UserEntry) :
    (data.insert entry).getUsage entry.user = entry.stats := by
  rw [LedgerData.getUsage, LedgerData.insert, KeyedList.find_upsert_self]
  rfl

theorem getUsage_insert_other (data : LedgerData) {entry : UserEntry} {user : String}
    (different : user ≠ entry.user) : (data.insert entry).getUsage user = data.getUsage user := by
  rw [LedgerData.getUsage, LedgerData.insert, KeyedList.find_upsert_other different]
  rfl

theorem getUsage_record_self (data : LedgerData) (call : JobCall) :
    (data.record call).getUsage call.proof.clientAddress =
      (data.getUsage call.proof.clientAddress).addJob call :=
  getUsage_insert_self data _

theorem getUsage_record_other (data : LedgerData) (call : JobCall) {user : String}
    (different : user ≠ call.proof.clientAddress) : (data.record call).getUsage user = data.getUsage user :=
  getUsage_insert_other data different

def jobsOf {Call : Type} (job : Call → JobCall) (user : String) (recorded : List Call) : List JobCall :=
  (recorded.map job).filter fun call => call.proof.clientAddress = user

def tokensOf (calls : List JobCall) : Nat :=
  calls.foldr (fun call total => call.proof.outputTokens.toNat + total) 0

def costOf (calls : List JobCall) : Nat :=
  calls.foldr (fun call total => call.proof.pricePaidNanox.toNat + total) 0

structure Fits (stats : UsageStats) (calls : List JobCall) : Prop where
  jobs : stats.totalJobs.toNat + calls.length < 18446744073709551616
  tokens : stats.totalTokensUsed.toNat + tokensOf calls < 18446744073709551616
  cost : stats.totalCostNanox.toNat + costOf calls < 18446744073709551616

structure Totals (before after : UsageStats) (calls : List JobCall) : Prop where
  jobs : after.totalJobs.toNat = before.totalJobs.toNat + calls.length
  tokens : after.totalTokensUsed.toNat = before.totalTokensUsed.toNat + tokensOf calls
  cost : after.totalCostNanox.toNat = before.totalCostNanox.toNat + costOf calls

theorem totals_foldl {stats : UsageStats} {calls : List JobCall} (fits : Fits stats calls) :
    Totals stats (calls.foldl UsageStats.addJob stats) calls := by
  induction calls generalizing stats with
  | nil => exact ⟨rfl, rfl, rfl⟩
  | cons call rest ih =>
      obtain ⟨jobs, tokens, cost⟩ := fits
      simp only [List.length_cons, tokensOf, costOf, List.foldr_cons] at jobs tokens cost
      have oneMore : (stats.addJob call).totalJobs.toNat = stats.totalJobs.toNat + 1 := by
        rw [UsageStats.addJob, UInt64.toNat_add]
        exact Nat.mod_eq_of_lt (by simp; omega)
      have moreTokens : (stats.addJob call).totalTokensUsed.toNat =
          stats.totalTokensUsed.toNat + call.proof.outputTokens.toNat := by
        rw [UsageStats.addJob, UInt64.toNat_add, UInt32.toNat_toUInt64]
        exact Nat.mod_eq_of_lt (by omega)
      have moreCost : (stats.addJob call).totalCostNanox.toNat =
          stats.totalCostNanox.toNat + call.proof.pricePaidNanox.toNat := by
        rw [UsageStats.addJob, UInt64.toNat_add]
        exact Nat.mod_eq_of_lt (by omega)
      have later : Totals (stats.addJob call) (rest.foldl UsageStats.addJob (stats.addJob call)) rest := by
        apply ih
        constructor
        · omega
        · rw [moreTokens, tokensOf]
          omega
        · rw [moreCost, costOf]
          omega
      rw [List.foldl_cons]
      constructor
      · rw [later.jobs, oneMore, List.length_cons]
        omega
      · rw [later.tokens, moreTokens, tokensOf, tokensOf, List.foldr_cons]
        omega
      · rw [later.cost, moreCost, costOf, costOf, List.foldr_cons]
        omega

def Phase.holdsLock : Phase → Bool
  | .updating | .updated | .flushing | .serialized _ | .written | .renamed => true
  | .begun | .recorded | .finished => false

def Phase.pending : Phase → Bool
  | .updated | .recorded | .flushing | .serialized _ | .written => true
  | .begun | .updating | .renamed | .finished => false

def Phase.counted : Phase → Bool
  | .begun | .updating => false
  | _ => true

def Flushed (json : ByteArray) (data : LedgerData) : Prop :=
  ∃ entries, entries.Perm data.users ∧ json = toBytesPretty (usersJson entries)

theorem flushed_order (data : LedgerData) (iteration : Iteration) :
    Flushed (toBytesPretty (usersJson (iteration.order data.users))) data :=
  ⟨_, iteration.perm data.users, rfl⟩

theorem Flushed.users {json : ByteArray} {data : LedgerData} (flushed : Flushed json data) :
    (fromFile (some json)).users.Perm data.users := by
  obtain ⟨entries, same, rfl⟩ := flushed
  rw [users_fromFile]
  · exact same
  · exact (same.map UserEntry.user).nodup_iff.mpr data.unique

theorem getUsage_perm {first second : LedgerData} (same : first.users.Perm second.users) (user : String) :
    first.getUsage user = second.getUsage user := by
  rw [LedgerData.getUsage, KeyedList.find_perm same second.unique, LedgerData.getUsage]

section

variable {Call : Type}

def Ledger.Exclusive (ledger : Ledger Call) : Prop :=
  ∀ who, (ledger.phase who).holdsLock = true ↔ ledger.holder = some who

/-- What a call has serialized or written is the map as it is, for it still has the lock. -/
def Ledger.Snapshot (ledger : Ledger Call) (who : Call) : Prop :=
  match ledger.phase who with
  | .serialized json => Flushed json ledger.data
  | .written => ∃ json, ledger.tmp = some json ∧ Flushed json ledger.data
  | _ => True

def Ledger.UpToDate (disk : Option ByteArray) (ledger : Ledger Call) : Prop :=
  (∃ json, ledger.file = some json ∧ Flushed json ledger.data) ∨
    (ledger.recorded = [] ∧ ledger.file = disk ∧ ledger.data = fromFile disk)

structure Ledger.Sound (hasFile : Bool) (job : Call → JobCall) (disk : Option ByteArray) (ledger : Ledger Call) :
    Prop where
  exclusive : ledger.Exclusive
  snapshot : ∀ who, ledger.Snapshot who
  upToDate : hasFile = true → ledger.UpToDate disk ∨ ∃ who, (ledger.phase who).pending = true
  once : ledger.recorded.Nodup
  counted : ∀ who, who ∈ ledger.recorded ↔ (ledger.phase who).counted = true
  usage : ∀ user, ledger.data.getUsage user =
    (jobsOf job user ledger.recorded).foldl UsageStats.addJob ((fromFile disk).getUsage user)

theorem sound_opened (hasFile : Bool) (job : Call → JobCall) (disk : Option ByteArray) :
    (Ledger.opened disk).Sound hasFile job disk where
  exclusive := by
    intro who
    simp [Ledger.opened, Phase.holdsLock]
  snapshot := fun _ => trivial
  upToDate := fun _ => Or.inl (Or.inr ⟨rfl, rfl, rfl⟩)
  once := List.nodup_nil
  counted := by
    intro who
    simp [Ledger.opened, Phase.counted]
  usage := fun _ => rfl

theorem snapshot_unlocked {ledger : Ledger Call} {who : Call} (free : (ledger.phase who).holdsLock = false) :
    ledger.Snapshot who := by
  rw [Ledger.Snapshot]
  split
  · simp_all [Phase.holdsLock]
  · simp_all [Phase.holdsLock]
  · trivial

theorem Ledger.Exclusive.others_free {ledger : Ledger Call} {who other : Call} (exclusive : ledger.Exclusive)
    (holds : (ledger.phase who).holdsLock = true) (different : other ≠ who) :
    (ledger.phase other).holdsLock = false := by
  rw [Bool.eq_false_iff, ne_eq, exclusive other, (exclusive who).mp holds]
  intro same
  exact different (Option.some.inj same).symm

variable [DecidableEq Call] {hasFile : Bool} {job : Call → JobCall} {disk : Option ByteArray}
variable {ledger : Ledger Call} {who : Call} {phase : Phase}

theorem enter_self (ledger : Ledger Call) (who : Call) (phase : Phase) :
    (ledger.enter who phase).phase who = phase := by
  simp [Ledger.enter]

theorem enter_other (ledger : Ledger Call) {who other : Call} (phase : Phase) (different : other ≠ who) :
    (ledger.enter who phase).phase other = ledger.phase other := by
  simp [Ledger.enter, different]

theorem exclusive_enter (exclusive : ledger.Exclusive)
    (same : phase.holdsLock = (ledger.phase who).holdsLock) : (ledger.enter who phase).Exclusive := by
  intro other
  by_cases mine : other = who
  · subst mine
    rw [enter_self, same]
    exact exclusive other
  · rw [enter_other ledger phase mine]
    exact exclusive other

theorem exclusive_acquire (exclusive : ledger.Exclusive) (free : ledger.holder = none)
    (holds : phase.holdsLock = true) : { ledger.enter who phase with holder := some who }.Exclusive := by
  intro other
  by_cases mine : other = who
  · subst mine
    simp [enter_self, holds]
  · have unlocked : ¬(ledger.phase other).holdsLock = true := by
      rw [exclusive other, free]
      simp
    simp [enter_other ledger phase mine, unlocked, Ne.symm mine]

theorem exclusive_release (exclusive : ledger.Exclusive) (held : (ledger.phase who).holdsLock = true)
    (free : phase.holdsLock = false) : { ledger.enter who phase with holder := none }.Exclusive := by
  intro other
  by_cases mine : other = who
  · subst mine
    simp [enter_self, free]
  · simp [enter_other ledger phase mine, exclusive.others_free held mine]

theorem counted_enter (counted : ∀ other, other ∈ ledger.recorded ↔ (ledger.phase other).counted = true)
    (same : phase.counted = (ledger.phase who).counted) (other : Call) :
    other ∈ ledger.recorded ↔ ((ledger.enter who phase).phase other).counted = true := by
  by_cases mine : other = who
  · subst mine
    rw [enter_self, same]
    exact counted other
  · rw [enter_other ledger phase mine]
    exact counted other

theorem pending_enter (keeps : (ledger.phase who).pending = true → phase.pending = true)
    (pending : ∃ other, (ledger.phase other).pending = true) :
    ∃ other, ((ledger.enter who phase).phase other).pending = true := by
  obtain ⟨other, waits⟩ := pending
  refine ⟨other, ?_⟩
  by_cases mine : other = who
  · subst mine
    rw [enter_self]
    exact keeps waits
  · rwa [enter_other ledger phase mine]

theorem Ledger.Sound.move (sound : ledger.Sound hasFile job disk) {holder : Option Call}
    (exclusive : { ledger.enter who phase with holder := holder }.Exclusive)
    (snapshot : ∀ json, phase = .serialized json → Flushed json ledger.data) (unwritten : phase ≠ .written)
    (pending : hasFile = true → (ledger.phase who).pending = true → phase.pending = true)
    (counted : phase.counted = (ledger.phase who).counted) :
    { ledger.enter who phase with holder := holder }.Sound hasFile job disk where
  exclusive := exclusive
  snapshot := by
    intro other
    by_cases mine : other = who
    · subst mine
      simp only [Ledger.Snapshot, enter_self]
      split
      · exact snapshot _ rfl
      · exact absurd rfl unwritten
      · trivial
    · have kept := sound.snapshot other
      rw [Ledger.Snapshot] at kept ⊢
      rw [enter_other ledger phase mine]
      exact kept
  upToDate := by
    intro file
    exact (sound.upToDate file).imp_right (pending_enter (pending file))
  once := sound.once
  counted := counted_enter sound.counted counted
  usage := sound.usage

/-- While a call has the lock, no other call has a snapshot that could go stale. -/
theorem Ledger.Sound.snapshot_others {after : Ledger Call} (sound : ledger.Sound hasFile job disk) {current : Phase}
    (stage : ledger.phase who = current) (holds : current.holdsLock = true)
    (phases : after.phase = (ledger.enter who phase).phase) (own : after.Snapshot who) (other : Call) :
    after.Snapshot other := by
  have held : (ledger.phase who).holdsLock = true := by
    rw [stage]
    exact holds
  by_cases mine : other = who
  · exact mine ▸ own
  · apply snapshot_unlocked
    rw [phases, enter_other ledger phase mine]
    exact sound.exclusive.others_free held mine

theorem sound_update (sound : ledger.Sound hasFile job disk) (stage : ledger.phase who = .updating) :
    { ledger.enter who .updated with
      data := ledger.data.record (job who)
      recorded := ledger.recorded ++ [who] }.Sound hasFile job disk where
  exclusive := exclusive_enter sound.exclusive (by rw [stage]; rfl)
  snapshot := by
    refine sound.snapshot_others stage rfl rfl ?_
    simp [Ledger.Snapshot, enter_self]
  upToDate := by
    intro _
    refine Or.inr ⟨who, ?_⟩
    simp [enter_self, Phase.pending]
  once := by
    have fresh : who ∉ ledger.recorded := by
      rw [sound.counted, stage]
      simp [Phase.counted]
    rw [List.nodup_append]
    refine ⟨sound.once, by simp, ?_⟩
    rintro other member _ single rfl
    rw [List.mem_singleton] at single
    exact fresh (single ▸ member)
  counted := by
    intro other
    by_cases mine : other = who
    · subst mine
      simp [enter_self, Phase.counted]
    · simp [enter_other ledger _ mine, mine, sound.counted]
  usage := by
    intro user
    simp only [jobsOf, List.map_append, List.filter_append, List.foldl_append, List.map_singleton]
    have before := sound.usage user
    rw [jobsOf] at before
    rw [← before]
    by_cases mine : (job who).proof.clientAddress = user
    · subst mine
      simp [getUsage_record_self]
    · simp [getUsage_record_other _ _ (Ne.symm mine), mine]

theorem Ledger.Sound.save {file tmp : Option ByteArray} (sound : ledger.Sound hasFile job disk)
    (locked : (ledger.phase who).holdsLock = true) (keeps : phase.holdsLock = true)
    (counted : phase.counted = (ledger.phase who).counted)
    (own : { ledger.enter who phase with file := file, tmp := tmp }.Snapshot who)
    (upToDate : hasFile = true → { ledger.enter who phase with file := file, tmp := tmp }.UpToDate disk ∨
      ∃ other, ((ledger.enter who phase).phase other).pending = true) :
    { ledger.enter who phase with file := file, tmp := tmp }.Sound hasFile job disk where
  exclusive := exclusive_enter sound.exclusive (keeps.trans locked.symm)
  snapshot := sound.snapshot_others rfl locked rfl own
  upToDate := upToDate
  once := sound.once
  counted := counted_enter sound.counted counted
  usage := sound.usage

theorem sound_writeTmp (sound : ledger.Sound hasFile job disk) {json : ByteArray}
    (stage : ledger.phase who = .serialized json) :
    { ledger.enter who .written with tmp := some json }.Sound hasFile job disk := by
  apply sound.save (by rw [stage]; rfl) rfl (by rw [stage]; rfl)
  · have flushed := sound.snapshot who
    rw [Ledger.Snapshot, stage] at flushed
    simp only [Ledger.Snapshot, enter_self]
    exact ⟨json, rfl, flushed⟩
  · intro file
    exact (sound.upToDate file).imp_right (pending_enter fun _ => rfl)

theorem sound_rename (sound : ledger.Sound hasFile job disk) (stage : ledger.phase who = .written) :
    { ledger.enter who .renamed with file := ledger.tmp, tmp := none }.Sound hasFile job disk := by
  apply sound.save (by rw [stage]; rfl) rfl (by rw [stage]; rfl)
  · simp [Ledger.Snapshot, enter_self]
  · intro _
    have flushed := sound.snapshot who
    rw [Ledger.Snapshot, stage] at flushed
    exact Or.inl (Or.inl flushed)

theorem sound_step (ledger : Ledger Call) (event : Call × Iteration) (sound : ledger.Sound hasFile job disk) :
    (ledger.step hasFile job event).Sound hasFile job disk := by
  obtain ⟨who, iteration⟩ := event
  cases stage : ledger.phase who with
  | begun =>
      simp only [Ledger.step, stage, Ledger.acquire]
      split
      · rename_i free
        exact sound.move (exclusive_acquire sound.exclusive free rfl) (by simp) (by simp)
          (by simp [stage, Phase.pending]) (by rw [stage]; rfl)
      · exact sound
  | updating =>
      simp only [Ledger.step, stage]
      exact sound_update sound stage
  | updated =>
      simp only [Ledger.step, stage, Ledger.release]
      exact sound.move (exclusive_release sound.exclusive (by rw [stage]; rfl) rfl) (by simp) (by simp)
        (fun _ _ => rfl) (by rw [stage]; rfl)
  | recorded =>
      simp only [Ledger.step, stage, Ledger.acquire]
      split_ifs with file free
      · exact sound.move (exclusive_acquire sound.exclusive free rfl) (by simp) (by simp) (fun _ _ => rfl)
          (by rw [stage]; rfl)
      · exact sound
      · exact sound.move (exclusive_enter sound.exclusive (by rw [stage]; rfl)) (by simp) (by simp)
          (fun present => absurd present file) (by rw [stage]; rfl)
  | flushing =>
      simp only [Ledger.step, stage]
      refine sound.move (exclusive_enter sound.exclusive (by rw [stage]; rfl)) ?_ (by simp) (fun _ _ => rfl)
        (by rw [stage]; rfl)
      intro json same
      obtain rfl := Phase.serialized.inj same
      exact flushed_order ledger.data iteration
  | serialized json =>
      simp only [Ledger.step, stage]
      exact sound_writeTmp sound stage
  | written =>
      simp only [Ledger.step, stage]
      exact sound_rename sound stage
  | renamed =>
      simp only [Ledger.step, stage, Ledger.release]
      exact sound.move (exclusive_release sound.exclusive (by rw [stage]; rfl) rfl) (by simp) (by simp)
        (by simp [stage, Phase.pending]) (by rw [stage]; rfl)
  | finished =>
      simp only [Ledger.step, stage]
      exact sound

def ledgerAfter (hasFile : Bool) (job : Call → JobCall) (disk : Option ByteArray)
    (events : List (Call × Iteration)) : Ledger Call :=
  Runs.run (Ledger.step hasFile job) (Ledger.opened disk) events

theorem sound_run (hasFile : Bool) (job : Call → JobCall) (disk : Option ByteArray)
    (events : List (Call × Iteration)) : (ledgerAfter hasFile job disk events).Sound hasFile job disk :=
  Runs.invariant_run (Ledger.Sound hasFile job disk) sound_step (sound_opened hasFile job disk) events

def Ledger.Idle (ledger : Ledger Call) : Prop :=
  ∀ who, ledger.phase who = .begun ∨ ledger.phase who = .finished

omit [DecidableEq Call] in
theorem Ledger.Sound.upToDate_idle (sound : ledger.Sound true job disk) (idle : ledger.Idle) :
    ledger.UpToDate disk := by
  rcases sound.upToDate rfl with current | ⟨who, waits⟩
  · exact current
  · rcases idle who with stage | stage <;> simp [stage, Phase.pending] at waits

omit [DecidableEq Call] in
theorem Ledger.UpToDate.users (current : ledger.UpToDate disk) :
    (fromFile ledger.file).users.Perm ledger.data.users := by
  rcases current with ⟨json, file, flushed⟩ | ⟨_, file, data⟩
  · rw [file]
    exact flushed.users
  · rw [file, data]

theorem ledger_consistent (job : Call → JobCall) (disk : Option ByteArray) (events : List (Call × Iteration)) :
    (∀ hasFile user,
      Fits ((fromFile disk).getUsage user) (jobsOf job user (ledgerAfter hasFile job disk events).recorded) →
      Totals ((fromFile disk).getUsage user) ((ledgerAfter hasFile job disk events).data.getUsage user)
        (jobsOf job user (ledgerAfter hasFile job disk events).recorded)) ∧
    (∀ hasFile, (ledgerAfter hasFile job disk events).recorded.Nodup ∧
      ((ledgerAfter hasFile job disk events).Idle →
        ∀ who, who ∈ (ledgerAfter hasFile job disk events).recorded ↔
          (ledgerAfter hasFile job disk events).phase who = .finished)) ∧
    ((ledgerAfter true job disk events).Idle →
      ((ledgerAfter true job disk events).recorded ≠ [] →
        ∃ entries, entries.Perm (ledgerAfter true job disk events).data.users ∧
          (ledgerAfter true job disk events).file = some (toBytesPretty (usersJson entries))) ∧
      (fromFile (ledgerAfter true job disk events).file).users.Perm (ledgerAfter true job disk events).data.users ∧
      ∀ user, (fromFile (ledgerAfter true job disk events).file).getUsage user =
        (ledgerAfter true job disk events).data.getUsage user) := by
  refine ⟨?_, ?_, ?_⟩
  · intro hasFile user fits
    have sound := sound_run hasFile job disk events
    rw [sound.usage user]
    exact totals_foldl fits
  · intro hasFile
    have sound := sound_run hasFile job disk events
    refine ⟨sound.once, fun idle who => ?_⟩
    rw [sound.counted who]
    rcases idle who with stage | stage <;> simp [stage, Phase.counted]
  · intro idle
    have current := (sound_run true job disk events).upToDate_idle idle
    refine ⟨?_, current.users, getUsage_perm current.users⟩
    intro some_recorded
    rcases current with ⟨json, file, entries, same, rfl⟩ | ⟨none_recorded, _⟩
    · exact ⟨entries, same, file⟩
    · exact absurd none_recorded some_recorded

end

def aliceProof (outputTokens : UInt32) (pricePaidNanox : NanoX) : ProofOfInference :=
  { sampleProof with clientAddress := "0xAlice", outputTokens, pricePaidNanox }

def twoJobs : Bool → JobCall
  | false => ⟨1700000000, aliceProof 200 1000⟩
  | true => ⟨1700000001, aliceProof 300 1500⟩

def steady : Iteration := ⟨id, fun _ => List.Perm.refl _⟩

/-- Both calls update the map before the first of them writes the file. -/
def twoCalls : List (Bool × Iteration) :=
  ([false, false, false, true, true, true] ++ List.replicate 5 false ++ List.replicate 5 true).map (·, steady)

theorem ledger_consistent_two :
    Totals .empty ((ledgerAfter true twoJobs none twoCalls).data.getUsage "0xAlice")
      [twoJobs false, twoJobs true] ∧
    (fromFile (ledgerAfter true twoJobs none twoCalls).file).users.Perm
      (ledgerAfter true twoJobs none twoCalls).data.users := by
  obtain ⟨totals, -, file⟩ := ledger_consistent twoJobs none twoCalls
  constructor
  · exact totals true "0xAlice" ⟨by decide, by decide, by decide⟩
  · refine (file ?_).2.1
    intro who
    cases who <;> exact Or.inr rfl

end Pinaivu.Ledgers
