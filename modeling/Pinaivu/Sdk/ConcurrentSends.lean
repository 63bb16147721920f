import Pinaivu.Lib.Snapshots
import Pinaivu.Sdk.LoadedSessions

/-!
Concurrent sends on one session. Each appends its turn and writes out the session in one step, and
moves the pointer of the session to its own blob in another.
-/

namespace Pinaivu.Sdk

open Context JsonText Snapshots

def Operation.turn : Operation → List Message
  | .send call => Sdk.turn call.userMessage call.reply call.now
  | .save _ => []

/-- Whether the next step of the call writes out the session or moves its pointer. -/
def Phase.act (operation : Operation) (phase : Phase) : Option Act :=
  if phase.snapshots operation then some .append
  else match phase with
    | .stored .. => some .publish
    | _ => none

def Phase.early : Phase → Bool
  | .idle | .prompting _ | .streaming .. => true
  | _ => false

def Phase.Awaits (operation : Operation) : Phase → Prop
  | .prompting send => operation = .send send
  | .streaming send _ reply remaining =>
      operation = .send send ∧ remaining.foldl (· ++ ·) reply = send.reply
  | _ => True

section

variable {Blobs Call : Type} (storage : StorageClient Blobs) (packages : Packages) (operations : Call → Operation)

def stepActs (world : World Blobs Call) (call : Call) : List (Act × Call) :=
  ((world.phase call).act (operations call)).toList.map fun act => (act, call)

structure Represents (initial : List Message) (world : World Blobs Call) (state : Snapshots.State Call) : Prop where
  wellFormed : WellFormed state
  messages : world.session.context.messages = initial ++ state.log.flatMap fun call => (operations call).turn
  awaits : ∀ call, (world.phase call).Awaits (operations call)
  early : ∀ call, (world.phase call).early → state.copy call = none
  copied : ∀ call, (world.phase call).written → ∃ items saved, state.copy call = some items ∧
    Carries storage packages world saved (world.phase call) ∧
    saved.messages = initial ++ items.flatMap fun call => (operations call).turn
  pointer : ∀ call, state.current = some call → ∃ id, world.phase call = .resolved id ∧
    world.session.context.metadata.walrusBlobId = some id
  published : ∀ call id, world.phase call = .resolved id → state.current.isSome

variable [DecidableEq Call]

def acts (world : World Blobs Call) : List Call → List (Act × Call)
  | [] => []
  | call :: rest => stepActs operations world call ++ acts (step storage packages operations world call) rest

end

section

theorem act_silent {operation : Operation} {phase : Phase} (quiet : phase.snapshots operation = false)
    (notStored : ∀ save id, phase ≠ .stored save id) : phase.act operation = none := by
  unfold Phase.act
  rw [if_neg (by simp [quiet])]
  split
  · exact absurd rfl (notStored _ _)
  · rfl

variable {Blobs Call : Type} {storage : StorageClient Blobs} {packages : Packages} {operations : Call → Operation}

theorem represents_begin (session : Session) (blobs : Blobs) :
    Represents storage packages operations session.context.messages (begin session blobs) start where
  wellFormed := wellFormed_start
  messages := by simp [begin, start]
  awaits _ := trivial
  early _ _ := rfl
  copied _ written := by simp [begin, Phase.written] at written
  pointer _ current := by simp [start] at current
  published _ _ resolved := by simp [begin] at resolved

variable {initial : List Message} {world after : World Blobs Call} {state : Snapshots.State Call} {call : Call}

theorem Represents.loads (represents : Represents storage packages operations initial world state) {who : Call}
    (current : state.current = some who) (options : SessionOptions) :
    ∃ id items loaded, world.session.context.metadata.walrusBlobId = some id ∧ state.copy who = some items ∧
      Session.load storage packages world.blobs id world.session.sessionKey options = .ok loaded ∧
      loaded.context.messages = initial ++ items.flatMap fun call => (operations call).turn := by
  obtain ⟨id, named, names⟩ := represents.pointer who current
  obtain ⟨items, saved, copied, carries, holds⟩ := represents.copied who (by simp [named, Phase.written])
  rw [named] at carries
  exact ⟨id, items, _, names, copied, load_of_carries options carries, holds⟩

variable [DecidableEq Call]

theorem Represents.quiet (represents : Represents storage packages operations initial world state)
    (opens : packages.Opens) (durable : storage.Durable)
    (moved : Stepped storage packages operations world call after)
    (silent : (world.phase call).act (operations call) = none)
    (context : after.session.context = world.session.context)
    (awaits : (after.phase call).Awaits (operations call))
    (early : (after.phase call).early → (world.phase call).early)
    (written : (after.phase call).written → (world.phase call).written)
    (unresolved : ∀ id, world.phase call ≠ .resolved id) (pending : ∀ id, after.phase call ≠ .resolved id) :
    Represents storage packages operations initial after (state.takeAll (stepActs operations world call)) := by
  have none : stepActs operations world call = [] := by simp [stepActs, silent]
  rw [none]
  exact {
    wellFormed := represents.wellFormed
    messages := context ▸ represents.messages
    awaits := by
      intro other
      by_cases own : other = call
      · exact own ▸ awaits
      · exact moved.other_phase own ▸ represents.awaits other
    early := by
      intro other
      by_cases own : other = call
      · subst own
        exact fun now => represents.early other (early now)
      · rw [moved.other_phase own]
        exact represents.early other
    copied := by
      intro other
      by_cases own : other = call
      · subst own
        intro now
        obtain ⟨items, saved, copied, carries, messages⟩ := represents.copied other (written now)
        exact ⟨items, saved, copied, carries_own moved opens durable carries, messages⟩
      · rw [moved.other_phase own]
        intro now
        obtain ⟨items, saved, copied, carries, messages⟩ := represents.copied other now
        exact ⟨items, saved, copied, carries_kept moved durable carries, messages⟩
    pointer := by
      intro other current
      obtain ⟨id, resolved, names⟩ := represents.pointer other current
      have own : other ≠ call := by
        rintro rfl
        exact unresolved id resolved
      exact ⟨id, (moved.other_phase own).trans resolved, context ▸ names⟩
    published := by
      intro other id
      by_cases own : other = call
      · subst own
        exact fun resolved => absurd resolved (pending id)
      · rw [moved.other_phase own]
        exact represents.published other id }

theorem Represents.append (represents : Represents storage packages operations initial world state)
    (durable : storage.Durable) (moved : Stepped storage packages operations world call after)
    (early : (world.phase call).early) (snapshots : (world.phase call).snapshots (operations call))
    (messages : after.session.context.messages =
      world.session.context.messages ++ (operations call).turn)
    {save : Save} {json : List UInt8} (encrypting : after.phase call = .encrypting save json) :
    Represents storage packages operations initial after (state.take call .append) where
  wellFormed := wellFormed_append represents.wellFormed (represents.early call early)
  messages := by simp [messages, represents.messages, State.take]
  awaits other := by
    by_cases own : other = call
    · rw [own, encrypting]
      trivial
    · exact moved.other_phase own ▸ represents.awaits other
  early other := by
    by_cases own : other = call
    · simp [own, encrypting, Phase.early]
    · simpa [moved.other_phase own, State.take, own] using represents.early other
  copied other := by
    by_cases own : other = call
    · subst own
      intro _
      refine ⟨state.log ++ [other], after.session.context, by simp [State.take], (moved.snapshot snapshots).1, ?_⟩
      simp [messages, represents.messages]
    · rw [moved.other_phase own]
      intro now
      obtain ⟨items, saved, copied, carries, holds⟩ := represents.copied other now
      exact ⟨items, saved, by simpa [State.take, own] using copied, carries_kept moved durable carries, holds⟩
  pointer other current := by
    obtain ⟨id, resolved, names⟩ := represents.pointer other current
    have own : other ≠ call := by
      rintro rfl
      simp [resolved, Phase.early] at early
    exact ⟨id, (moved.other_phase own).trans resolved, (moved.snapshot snapshots).2.trans names⟩
  published other id := by
    by_cases own : other = call
    · simp [own, encrypting]
    · rw [moved.other_phase own]
      exact represents.published other id

theorem Represents.publish (represents : Represents storage packages operations initial world state)
    (opens : packages.Opens) (durable : storage.Durable)
    (moved : Stepped storage packages operations world call after) {save : Save} {id : BlobId}
    (stored : world.phase call = .stored save id) (resolved : after.phase call = .resolved id)
    (context : after.session.context = world.session.context.moveTo id save.now) :
    Represents storage packages operations initial after (state.take call .publish) where
  wellFormed := wellFormed_publish represents.wellFormed call
  messages := by
    rw [context]
    exact represents.messages
  awaits other := by
    by_cases own : other = call
    · rw [own, resolved]
      trivial
    · exact moved.other_phase own ▸ represents.awaits other
  early other := by
    by_cases own : other = call
    · simp [own, resolved, Phase.early]
    · rw [moved.other_phase own]
      exact represents.early other
  copied other := by
    by_cases own : other = call
    · subst own
      intro _
      obtain ⟨items, saved, copied, carries, holds⟩ := represents.copied other (by simp [stored, Phase.written])
      exact ⟨items, saved, copied, carries_own moved opens durable carries, holds⟩
    · rw [moved.other_phase own]
      intro now
      obtain ⟨items, saved, copied, carries, holds⟩ := represents.copied other now
      exact ⟨items, saved, copied, carries_kept moved durable carries, holds⟩
  pointer other current := by
    obtain rfl : call = other := Option.some.inj current
    exact ⟨id, resolved, by rw [context]; rfl⟩
  published _ _ _ := rfl

theorem Represents.step (represents : Represents storage packages operations initial world state)
    (opens : packages.Opens) (durable : storage.Durable)
    (moved : Stepped storage packages operations world call after) :
    Represents storage packages operations initial after (state.takeAll (stepActs operations world call)) := by
  have awaits := represents.awaits call
  cases moved with
  | prompts idle given =>
      exact represents.quiet opens durable (.prompts idle given) (by simp [Phase.act, idle, given, Phase.snapshots])
        rfl (by simpa [Phase.Awaits] using given) (by simp [idle, Phase.early]) (by simp [Phase.written])
        (by simp [idle]) (by simp)
  | asks prompting =>
      rw [prompting] at awaits
      exact represents.quiet opens durable (.asks prompting) (by simp [Phase.act, prompting, Phase.snapshots]) rfl
        (by simpa [Phase.Awaits, Send.reply] using awaits) (by simp [prompting, Phase.early])
        (by simp [Phase.written]) (by simp [prompting]) (by simp)
  | hears streaming =>
      rw [streaming] at awaits
      exact represents.quiet opens durable (.hears streaming) (by simp [Phase.act, streaming, Phase.snapshots]) rfl
        (by simpa [Phase.Awaits] using awaits) (by simp [streaming, Phase.early]) (by simp [Phase.written])
        (by simp [streaming]) (by simp)
  | appends streaming whole =>
      have snapshots : (world.phase call).snapshots (operations call) = true := by
        simp [streaming, Phase.snapshots, whole]
      have one : stepActs operations world call = [(.append, call)] := by simp [stepActs, Phase.act, snapshots]
      rw [streaming] at awaits
      obtain ⟨given, heard⟩ := awaits
      obtain rfl := heard
      rw [one]
      refine represents.append durable (.appends streaming whole) (by simp [streaming, Phase.early]) snapshots ?_
        (Function.update_self ..)
      simp [SessionContext.appendTurn, given, Operation.turn]
  | saves idle given =>
      have snapshots : (world.phase call).snapshots (operations call) = true := by
        simp [idle, given, Phase.snapshots]
      have one : stepActs operations world call = [(.append, call)] := by simp [stepActs, Phase.act, snapshots]
      rw [one]
      refine represents.append durable (.saves idle given) (by simp [idle, Phase.early]) snapshots ?_
        (Function.update_self ..)
      simp [given, Operation.turn]
  | seals encrypting written =>
      exact represents.quiet opens durable (.seals encrypting written)
        (by simp [Phase.act, encrypting, Phase.snapshots]) rfl (by simp [Phase.Awaits]) (by simp [Phase.early])
        (by simp [encrypting, Phase.written]) (by simp [encrypting]) (by simp)
  | puts putting works =>
      exact represents.quiet opens durable (.puts putting works) (by simp [Phase.act, putting, Phase.snapshots]) rfl
        (by simp [Phase.Awaits]) (by simp [Phase.early]) (by simp [putting, Phase.written]) (by simp [putting])
        (by simp)
  | names stored =>
      have one : stepActs operations world call = [(.publish, call)] := by
        simp [stepActs, Phase.act, stored, Phase.snapshots]
      rw [one]
      exact represents.publish opens durable (.names stored) stored (Function.update_self ..) rfl
  | fails quiet notStored notResolved =>
      exact represents.quiet opens durable (.fails quiet notStored notResolved) (act_silent quiet notStored) rfl
        (by simp [Phase.Awaits]) (by simp [Phase.early]) (by simp [Phase.written]) notResolved (by simp)
  | stays ended =>
      have silent : (world.phase call).act (operations call) = none := by
        rcases ended with ⟨id, resolved⟩ | rejected
        · simp [Phase.act, resolved, Phase.snapshots]
        · simp [Phase.act, rejected, Phase.snapshots]
      have none : stepActs operations world call = [] := by simp [stepActs, silent]
      rw [none]
      exact represents

theorem acts_append (world : World Blobs Call) (first rest : List Call) :
    acts storage packages operations world (first ++ rest) =
      acts storage packages operations world first ++
        acts storage packages operations (Runs.run (step storage packages operations) world first) rest := by
  induction first generalizing world with
  | nil => rfl
  | cons call first ih => rw [List.cons_append, acts, acts, ih, List.append_assoc, Runs.run_cons]

theorem represents_run (opens : packages.Opens) (durable : storage.Durable) (schedule : List Call)
    (represents : Represents storage packages operations initial world state) :
    Represents storage packages operations initial (Runs.run (Sdk.step storage packages operations) world schedule)
      (state.takeAll (acts storage packages operations world schedule)) := by
  induction schedule generalizing world state with
  | nil => exact represents
  | cons call rest ih =>
      rw [acts, takeAll_append]
      exact ih (represents.step opens durable (stepped storage packages operations world call))

theorem represents_history (operations : Call → Operation) (opens : packages.Opens) (durable : storage.Durable)
    (session : Session) (blobs : Blobs) (schedule : List Call) :
    Represents storage packages operations session.context.messages
      (history storage packages operations session blobs schedule)
      (start.takeAll (acts storage packages operations (begin session blobs) schedule)) :=
  represents_run opens durable schedule (represents_begin session blobs)

/-- Once both sends have resolved, the blob of the session has the turns of both after the messages
from before, in one order or the other. -/
def BothTurnsSaved (storage : StorageClient Blobs) (packages : Packages) (sends : Bool → Send)
    (initial : List Message) (world : World Blobs Bool) (options : SessionOptions) : Prop :=
  ∃ id loaded first, world.session.context.metadata.walrusBlobId = some id ∧
    Session.load storage packages world.blobs id world.session.sessionKey options = .ok loaded ∧
    loaded.context.messages =
      initial ++ (Operation.send (sends first)).turn ++ (Operation.send (sends !first)).turn

/-- The send that appends its turn last is also the one that moves the pointer last. -/
def LastAppendMovesLast (storage : StorageClient Blobs) (packages : Packages) (operations : Call → Operation)
    (session : Session) (blobs : Blobs) (schedule : List Call) : Prop :=
  lastTo .append (acts storage packages operations (begin session blobs) schedule) =
    lastTo .publish (acts storage packages operations (begin session blobs) schedule)

end

section

variable {Blobs : Type} {storage : StorageClient Blobs} {packages : Packages} {sends : Bool → Send}
  {initial : List Message} {world : World Blobs Bool} {state : Snapshots.State Bool}

theorem length_turns (log : List Bool) :
    (log.flatMap fun call => (Operation.send (sends call)).turn).length = 2 * log.length := by
  induction log with
  | nil => rfl
  | cons call rest ih =>
      rw [List.flatMap_cons, List.length_append, ih, List.length_cons]
      simp only [Operation.turn, turn, List.length_cons, List.length_nil]
      omega

theorem both_logged (once : state.log.Nodup) (logged : ∀ call, call ∈ state.log) :
    ∃ first, state.log = [first, !first] := by
  generalize state.log = log at once logged
  rcases log with _ | ⟨first, _ | ⟨second, rest⟩⟩
  · exact absurd (logged true) List.not_mem_nil
  · exact absurd (logged !first) (by simp)
  · have second_eq : second = !first := by
      have different : first ≠ second := by
        rintro rfl
        simp at once
      cases first <;> cases second <;> simp_all
    subst second_eq
    cases rest with
    | nil => exact ⟨first, rfl⟩
    | cons third rest => cases first <;> cases third <;> simp at once

theorem bothTurnsSaved_iff
    (represents : Represents storage packages (fun call => .send (sends call)) initial world state)
    (resolved : ∀ call, ∃ id, world.phase call = .resolved id) (options : SessionOptions) :
    BothTurnsSaved storage packages sends initial world options ↔ state.log.getLast? = state.current := by
  have written : ∀ call, (world.phase call).written := by
    intro call
    obtain ⟨id, done⟩ := resolved call
    simp [done, Phase.written]
  have logged : ∀ call, call ∈ state.log := by
    intro call
    obtain ⟨items, -, copied, -⟩ := represents.copied call (written call)
    simp [represents.wellFormed.entered, copied]
  obtain ⟨first, log⟩ := both_logged represents.wellFormed.once logged
  obtain ⟨any, done⟩ := resolved true
  obtain ⟨who, current⟩ := Option.isSome_iff_exists.mp (represents.published true any done)
  obtain ⟨id, items, saved, names, copied, read, holds⟩ := represents.loads current options
  rw [current, ← represents.wellFormed.complete_iff copied]
  constructor
  · rintro ⟨found, loaded, order, pointer, again, messages⟩
    obtain rfl : id = found := Option.some.inj (names.symm.trans pointer)
    obtain rfl := Except.ok.inj (read.symm.trans again)
    -- The blob has four new messages, and its copy of the log is a first part of the log.
    have lengths := congrArg List.length (holds.symm.trans messages)
    obtain ⟨later, split, -⟩ := represents.wellFormed.copied who items copied
    have total := congrArg List.length split
    simp only [List.length_append, length_turns] at lengths
    simp only [List.length_append, Operation.turn, turn, List.length_cons, List.length_nil, log] at lengths total
    have none : later = [] := List.length_eq_zero_iff.mp (by omega)
    rw [split, none, List.append_nil]
  · rintro rfl
    refine ⟨id, saved, first, names, read, ?_⟩
    rw [holds, log]
    simp

/-- When two sends on one session have both resolved, the blob of the session has the turns of both
exactly when the send that appended its turn last also moved the pointer last. -/
theorem both_turns_saved_iff {Blobs : Type} (storage : StorageClient Blobs) (packages : Packages)
    (opens : packages.Opens) (durable : storage.Durable) (session : Session) (blobs : Blobs) (sends : Bool → Send)
    (schedule : List Bool) (options : SessionOptions)
    (resolved : ∀ call, ∃ id, (history storage packages (fun call => .send (sends call)) session blobs
      schedule).phase call = .resolved id) :
    BothTurnsSaved storage packages sends session.context.messages
        (history storage packages (fun call => .send (sends call)) session blobs schedule) options ↔
      LastAppendMovesLast storage packages (fun call => .send (sends call)) session blobs schedule := by
  rw [LastAppendMovesLast, ← takeAll_log_getLast?, ← takeAll_current]
  exact bothTurnsSaved_iff (represents_history _ opens durable session blobs schedule) resolved options

end

def sampleSend (userMessage reply : String) : Send where
  userMessage
  now := 1700000005
  requestId := "9b2c1a54-0c1d-4b5e-8f3a-2d6e7f809112"
  promptNonce := sampleNonce
  tokens := [reply]
  save := sampleSave

def sampleSends : Bool → Send
  | true => sampleSend "Capital of France?" "Paris."
  | false => sampleSend "Capital of Italy?" "Rome."

theorem sealContext_sample (key : SessionKey) (nonce : Nonce) (json : List UInt8) :
    sealContext samplePackages key nonce json = .ok (nonce.toList ++ (key.toList.take 16 ++ json)) :=
  sealContext_packagesOf rfl

theorem encrypt_sample (key : SessionKey) (nonce : Nonce) (plain : List UInt8) :
    SessionKey.encrypt samplePackages key nonce plain = .ok ⟨key.toList.take 16 ++ plain, nonce.toList⟩ := by
  rw [SessionKey.encrypt, samplePackages, (packagesOf_implements _).encrypt _ _ _ (key.toList.take 16 ++ plain) rfl]
  rfl

theorem sampleSends_eq (call : Bool) : ∃ userMessage reply, sampleSends call = sampleSend userMessage reply := by
  cases call
  · exact ⟨_, _, rfl⟩
  · exact ⟨_, _, rfl⟩

theorem sample_appends {world : World MemoryBlobs Bool} {call : Bool} (idle : world.phase call = .idle) :
    (∃ json, (Runs.run (step memoryStorage samplePackages fun call => .send (sampleSends call)) world
      [call, call, call, call]).phase call = .encrypting sampleSave json) ∧
    (∀ other, other ≠ call → (Runs.run (step memoryStorage samplePackages fun call => .send (sampleSends call)) world
      [call, call, call, call]).phase other = world.phase other) ∧
    acts memoryStorage samplePackages (fun call => .send (sampleSends call)) world [call, call, call, call] =
      [(.append, call)] := by
  obtain ⟨userMessage, reply, given⟩ := sampleSends_eq call
  refine ⟨?_, ?_, ?_⟩
  · simp [step, idle, given, sampleSend, encrypt_sample]
  · intro other different
    simp [step, idle, given, sampleSend, encrypt_sample, different]
  · simp [step, acts, stepActs, Phase.act, Phase.snapshots, idle, given, sampleSend, encrypt_sample]

theorem sample_resolves {world : World MemoryBlobs Bool} {call : Bool} {json : List UInt8}
    (encrypting : world.phase call = .encrypting sampleSave json) :
    (∃ id, (Runs.run (step memoryStorage samplePackages fun call => .send (sampleSends call)) world
      [call, call, call]).phase call = .resolved id) ∧
    (∀ other, other ≠ call → (Runs.run (step memoryStorage samplePackages fun call => .send (sampleSends call)) world
      [call, call, call]).phase other = world.phase other) ∧
    acts memoryStorage samplePackages (fun call => .send (sampleSends call)) world [call, call, call] =
      [(.publish, call)] := by
  refine ⟨?_, ?_, ?_⟩
  · simp [step, encrypting, sealContext_sample, sampleSave]
  · intro other different
    simp [step, encrypting, sealContext_sample, sampleSave, different]
  · simp [step, acts, stepActs, Phase.act, Phase.snapshots, encrypting, sealContext_sample, sampleSave]

/-- Both sends append their turns, and then save one after the other. -/
def sampleRace (first : Bool) : List Bool :=
  [true, true, true, true] ++ ([false, false, false, false] ++
    ([first, first, first] ++ [!first, !first, !first]))

theorem sampleRace_run (first : Bool) :
    (∀ call, ∃ id, (history memoryStorage samplePackages (fun call => .send (sampleSends call)) sampleSession
      emptyBlobs (sampleRace first)).phase call = .resolved id) ∧
    acts memoryStorage samplePackages (fun call => .send (sampleSends call)) (begin sampleSession emptyBlobs)
        (sampleRace first) =
      [(.append, true), (.append, false), (.publish, first), (.publish, !first)] := by
  have idle : ∀ call, (begin sampleSession emptyBlobs : World MemoryBlobs Bool).phase call = .idle := fun _ => rfl
  obtain ⟨⟨earlier, trueSaves⟩, falseStays, trueActs⟩ := sample_appends (idle true)
  have falseIdle := (falseStays false (by decide)).trans (idle false)
  obtain ⟨⟨later, falseSaves⟩, trueStays, falseActs⟩ := sample_appends falseIdle
  have trueWaits := (trueStays true (by decide)).trans trueSaves
  have saving : ∀ call, ∃ json, (Runs.run (step memoryStorage samplePackages fun call => .send (sampleSends call))
      (Runs.run (step memoryStorage samplePackages fun call => .send (sampleSends call))
        (begin sampleSession emptyBlobs) [true, true, true, true]) [false, false, false, false]).phase call =
      .encrypting sampleSave json := by
    intro call
    cases call
    · exact ⟨later, falseSaves⟩
    · exact ⟨earlier, trueWaits⟩
  obtain ⟨json, firstSaves⟩ := saving first
  obtain ⟨other, otherSaves⟩ := saving !first
  obtain ⟨⟨id, firstDone⟩, otherStays, firstActs⟩ := sample_resolves firstSaves
  have otherWaits := (otherStays (!first) (by simp)).trans otherSaves
  obtain ⟨⟨otherId, otherDone⟩, firstStays, otherActs⟩ := sample_resolves otherWaits
  constructor
  · intro call
    rw [history, sampleRace, Runs.run_append, Runs.run_append, Runs.run_append]
    by_cases same : call = !first
    · exact ⟨otherId, same ▸ otherDone⟩
    · have own : call = first := by simpa using same
      subst own
      exact ⟨id, (firstStays call same).trans firstDone⟩
  · rw [sampleRace, acts_append, acts_append, acts_append, trueActs, falseActs, firstActs, otherActs]
    rfl

theorem both_turns_saved_in_order :
    BothTurnsSaved memoryStorage samplePackages sampleSends sampleSession.context.messages
      (history memoryStorage samplePackages (fun call => .send (sampleSends call)) sampleSession emptyBlobs
        (sampleRace true)) {} := by
  obtain ⟨resolved, order⟩ := sampleRace_run true
  refine (both_turns_saved_iff memoryStorage samplePackages samplePackages_opens memoryStorage_durable sampleSession
    emptyBlobs sampleSends (sampleRace true) {} resolved).mpr ?_
  rw [LastAppendMovesLast, order]
  rfl

/-- The send that appended its turn first saves last, and the blob has only its turn. -/
theorem older_snapshot_last :
    (∀ call, ∃ id, (history memoryStorage samplePackages (fun call => .send (sampleSends call)) sampleSession
      emptyBlobs (sampleRace false)).phase call = .resolved id) ∧
    (∃ id loaded, (history memoryStorage samplePackages (fun call => .send (sampleSends call)) sampleSession
        emptyBlobs (sampleRace false)).session.context.metadata.walrusBlobId = some id ∧
      Session.load memoryStorage samplePackages (history memoryStorage samplePackages
        (fun call => .send (sampleSends call)) sampleSession emptyBlobs (sampleRace false)).blobs id
        (history memoryStorage samplePackages (fun call => .send (sampleSends call)) sampleSession
          emptyBlobs (sampleRace false)).session.sessionKey {} = .ok loaded ∧
      loaded.context.messages = (Operation.send (sampleSends true)).turn) ∧
    ¬BothTurnsSaved memoryStorage samplePackages sampleSends sampleSession.context.messages
      (history memoryStorage samplePackages (fun call => .send (sampleSends call)) sampleSession emptyBlobs
        (sampleRace false)) {} := by
  obtain ⟨resolved, order⟩ := sampleRace_run false
  have represents := represents_history (fun call => .send (sampleSends call)) samplePackages_opens
    memoryStorage_durable sampleSession emptyBlobs (sampleRace false)
  rw [order] at represents
  refine ⟨resolved, ?_, ?_⟩
  · obtain ⟨id, items, loaded, names, copied, read, holds⟩ := represents.loads rfl {}
    obtain rfl : [true] = items := Option.some.inj copied
    exact ⟨id, loaded, names, read, holds⟩
  · rw [bothTurnsSaved_iff represents resolved {}, takeAll_log_getLast?, takeAll_current]
    decide

end Pinaivu.Sdk
