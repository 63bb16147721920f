import Pinaivu.Common.SerdeJson
import Pinaivu.Sdk.SessionCore

/-!
The blob of a save opens to the session as it was when the save began, whatever the calls on the
session do in between.
-/

namespace Pinaivu.Sdk

open Context JsonText

theorem decodeCount_unsignedJson (value : Nat) : decodeCount (unsignedJson value) = some value := by
  rw [decodeCount, unsignedJson, decodeNumber, Option.bind_some, toNat?_ofNat]

theorem decodeRole_name (role : Role) : decodeRole (.string role.name) = some role := by
  cases role <;> rfl

theorem decodeMessage_toJson (message : Message) : decodeMessage message.toJson = some message := by
  simp [decodeMessage, Message.toJson, Js.get, decodeRole_name, decodeString, decodeCount_unsignedJson,
    decodeOption_optionJson]

theorem decodeContextWindow_toJson (window : ContextWindow) : decodeContextWindow window.toJson = some window := by
  have messages : decodeList decodeMessage (.array (window.recentMessages.map Message.toJson)) =
      some window.recentMessages := decodeList_map decodeMessage_toJson _
  simp [decodeContextWindow, ContextWindow.toJson, Js.get, decodeOption_optionJson, messages,
    decodeCount_unsignedJson]

theorem decodeMetadata_toJson (metadata : SessionMetadata) : decodeMetadata metadata.toJson = some metadata := by
  simp [decodeMetadata, SessionMetadata.toJson, Js.get, decodeOption_optionJson, decodeCount_unsignedJson]

theorem decodeContext_toJson (context : SessionContext) : decodeContext context.toJson = some context := by
  have messages : decodeList decodeMessage (.array (context.messages.map Message.toJson)) =
      some context.messages := decodeList_map decodeMessage_toJson _
  simp [decodeContext, SessionContext.toJson, Js.get, decodeString, messages, decodeContextWindow_toJson,
    decodeMetadata_toJson]

theorem parseContext_contextBytes (context : SessionContext) :
    parseContext (contextBytes context) = .ok context := by
  have bytes : (⟨(contextBytes context).toArray⟩ : ByteArray) = toBytes context.toJson := by
    simp [contextBytes]
  rw [parseContext, bytes, ofBytesSpaced_toBytes, Option.bind_some, decodeContext_toJson]

def Packages.Opens (packages : Packages) : Prop :=
  ∀ key, ∀ nonce : Nonce, ∀ plain sealed,
    packages.encrypt key nonce.toList plain = .ok sealed → packages.decrypt key nonce.toList sealed = .ok plain

section

variable {packages : Packages}

theorem sealContext_ok {key : SessionKey} {nonce : Nonce} {json data : List UInt8}
    (written : sealContext packages key nonce json = .ok data) :
    ∃ sealed, packages.encrypt key nonce.toList json = .ok sealed ∧ data = nonce.toList ++ sealed := by
  cases encrypted : packages.encrypt key nonce.toList json with
  | error reason =>
      rw [sealContext, SessionKey.encrypt, encrypted] at written
      cases written
  | ok sealed =>
      have framed : EncryptedBlob.toBytes ⟨sealed, nonce.toList⟩ = .ok (nonce.toList ++ sealed) :=
        toBytes_eq (show nonce.toList.length = 12 by simp)
      rw [sealContext, SessionKey.encrypt, encrypted, ok_bind, pure_bind, framed] at written
      exact ⟨sealed, rfl, (Except.ok.inj written).symm⟩

theorem openContext_sealed (opens : packages.Opens) {key : SessionKey} {nonce : Nonce} {context : SessionContext}
    {data : List UInt8} (written : sealContext packages key nonce (contextBytes context) = .ok data) :
    openContext packages key data = .ok context := by
  obtain ⟨sealed, encrypted, rfl⟩ := sealContext_ok written
  have framed := fromBytes_append (show nonce.toList.length = 12 by simp) sealed
  have opened := opens key nonce _ _ encrypted
  simp only [openContext, framed, ok_bind, SessionKey.decrypt, opened, parseContext_contextBytes]

end

def Phase.snapshots (operation : Operation) : Phase → Bool
  | .idle =>
      match operation with
      | .send _ => false
      | .save _ => true
  | .streaming send _ _ [] => !send.streamFails
  | _ => false

def Send.reply (send : Send) : String := send.tokens.foldl (· ++ ·) ""

section

variable {Blobs Call : Type} (storage : StorageClient Blobs) (packages : Packages) [DecidableEq Call]
  (operations : Call → Operation)

inductive Stepped (world : World Blobs Call) (call : Call) : World Blobs Call → Prop
  | prompts {send} : world.phase call = .idle → operations call = .send send →
      Stepped world call (world.enter call (.prompting send))
  | asks {send blob} : world.phase call = .prompting send →
      Stepped world call
        (world.enter call (.streaming send (world.session.inferenceRequest send blob) "" send.tokens))
  | hears {send request reply token remaining} :
      world.phase call = .streaming send request reply (token :: remaining) →
      Stepped world call (world.enter call (.streaming send request (reply ++ token) remaining))
  | appends {send request reply} : world.phase call = .streaming send request reply [] →
      send.streamFails = false →
      Stepped world call ((world.setContext
        (world.session.context.appendTurn send.userMessage reply send.now)).beginSave call send.save)
  | saves {save} : world.phase call = .idle → operations call = .save save →
      Stepped world call (world.beginSave call save)
  | seals {save json data} : world.phase call = .encrypting save json →
      sealContext packages world.session.sessionKey save.nonce json = .ok data →
      Stepped world call (world.enter call (.putting save data))
  | puts {save data} : world.phase call = .putting save data → save.putFails = false →
      Stepped world call
        { world with
          blobs := (storage.put world.blobs data).1
          phase := Function.update world.phase call (.stored save (storage.put world.blobs data).2) }
  | names {save id} : world.phase call = .stored save id →
      Stepped world call
        ((world.setContext (world.session.context.moveTo id save.now)).enter call (.resolved id))
  | fails : (world.phase call).snapshots (operations call) = false → (∀ save id, world.phase call ≠ .stored save id) →
      (∀ id, world.phase call ≠ .resolved id) → Stepped world call (world.enter call .rejected)
  | stays : (∃ id, world.phase call = .resolved id) ∨ world.phase call = .rejected →
      Stepped world call world

theorem stepped (world : World Blobs Call) (call : Call) :
    Stepped storage packages operations world call (step storage packages operations world call) := by
  unfold step
  split
  · rename_i idle
    split
    · rename_i send given
      exact .prompts idle given
    · rename_i save given
      exact .saves idle given
  · rename_i send prompting
    split
    · exact .asks prompting
    · exact .fails (by simp [prompting, Phase.snapshots]) (by simp [prompting]) (by simp [prompting])
  · rename_i send request reply token remaining streaming
    exact .hears streaming
  · rename_i send request reply streaming
    split
    · rename_i broken
      exact .fails (by simp [streaming, Phase.snapshots, broken]) (by simp [streaming]) (by simp [streaming])
    · rename_i whole
      exact .appends streaming (by simpa using whole)
  · rename_i save json encrypting
    split
    · rename_i data written
      exact .seals encrypting written
    · exact .fails (by simp [encrypting, Phase.snapshots]) (by simp [encrypting]) (by simp [encrypting])
  · rename_i save data putting
    split
    · exact .fails (by simp [putting, Phase.snapshots]) (by simp [putting]) (by simp [putting])
    · rename_i works
      exact .puts putting (by simpa using works)
  · rename_i save id stored
    exact .names stored
  · rename_i id resolved
    exact .stays (.inl ⟨id, resolved⟩)
  · rename_i rejected
    exact .stays (.inr rejected)

end

section

variable {Blobs Call : Type} (world : World Blobs Call)

@[simp] theorem setContext_session (context : SessionContext) :
    (world.setContext context).session = { world.session with context } := rfl

@[simp] theorem setContext_blobs (context : SessionContext) : (world.setContext context).blobs = world.blobs := rfl

@[simp] theorem setContext_phase (context : SessionContext) : (world.setContext context).phase = world.phase := rfl

variable [DecidableEq Call] (call : Call)

@[simp] theorem enter_session (phase : Phase) : (world.enter call phase).session = world.session := rfl

@[simp] theorem enter_blobs (phase : Phase) : (world.enter call phase).blobs = world.blobs := rfl

@[simp] theorem enter_phase (phase : Phase) :
    (world.enter call phase).phase = Function.update world.phase call phase := rfl

@[simp] theorem beginSave_session (save : Save) : (world.beginSave call save).session = world.session := rfl

@[simp] theorem beginSave_blobs (save : Save) : (world.beginSave call save).blobs = world.blobs := rfl

@[simp] theorem beginSave_phase (save : Save) : (world.beginSave call save).phase =
    Function.update world.phase call (.encrypting save (contextBytes world.session.context)) := rfl

end

section

variable {Blobs Call : Type} {storage : StorageClient Blobs} {packages : Packages}

def Carries (storage : StorageClient Blobs) (packages : Packages) (world : World Blobs Call) (saved : SessionContext) :
    Phase → Prop
  | .encrypting _ json => json = contextBytes saved
  | .putting _ data => openContext packages world.session.sessionKey data = .ok saved
  | .stored _ id | .resolved id => ∃ data, storage.get world.blobs id = some data ∧
      openContext packages world.session.sessionKey data = .ok saved
  | .rejected => True
  | _ => False

theorem load_of_carries {world : World Blobs Call} {saved : SessionContext} {id : BlobId} (options : SessionOptions)
    (carries : Carries storage packages world saved (.resolved id)) :
    Session.load storage packages world.blobs id world.session.sessionKey options =
      .ok ⟨saved, world.session.sessionKey, options.required⟩ := by
  obtain ⟨data, found, opened⟩ := carries
  rw [Session.load, found]
  simp only [opened, ok_bind]
  rfl

variable [DecidableEq Call] {operations : Call → Operation} {world after : World Blobs Call} {call other : Call}

theorem Stepped.other_phase (stepped : Stepped storage packages operations world call after)
    (different : other ≠ call) : after.phase other = world.phase other := by
  cases stepped <;> simp [different]

theorem Stepped.sessionKey (stepped : Stepped storage packages operations world call after) :
    after.session.sessionKey = world.session.sessionKey := by
  cases stepped <;> rfl

theorem Stepped.kept (stepped : Stepped storage packages operations world call after) (durable : storage.Durable)
    {id : BlobId} {data : List UInt8} (found : storage.get world.blobs id = some data) :
    storage.get after.blobs id = some data := by
  cases stepped with
  | puts _ _ => exact durable.kept _ _ _ _ found
  | _ => exact found

theorem carries_kept (stepped : Stepped storage packages operations world call after) (durable : storage.Durable)
    {saved : SessionContext} {phase : Phase} (carries : Carries storage packages world saved phase) :
    Carries storage packages after saved phase := by
  cases phase with
  | encrypting save json => exact carries
  | putting save data =>
      rw [Carries, stepped.sessionKey]
      exact carries
  | stored save id =>
      obtain ⟨data, found, opened⟩ := carries
      exact ⟨data, stepped.kept durable found, stepped.sessionKey ▸ opened⟩
  | resolved id =>
      obtain ⟨data, found, opened⟩ := carries
      exact ⟨data, stepped.kept durable found, stepped.sessionKey ▸ opened⟩
  | rejected => trivial
  | idle | prompting _ | streaming _ _ _ _ => exact carries

/-- The text of a session, its ciphertext and its blob follow each other in one call. -/
theorem carries_own (stepped : Stepped storage packages operations world call after) (opens : packages.Opens)
    (durable : storage.Durable) {saved : SessionContext}
    (carries : Carries storage packages world saved (world.phase call)) :
    Carries storage packages after saved (after.phase call) := by
  cases stepped with
  | prompts idle _ | saves idle _ => rw [idle] at carries; exact carries.elim
  | asks prompting => rw [prompting] at carries; exact carries.elim
  | hears streaming | appends streaming _ => rw [streaming] at carries; exact carries.elim
  | seals encrypting written =>
      rw [encrypting] at carries
      obtain rfl := carries
      simp only [enter_phase, Function.update_self]
      exact openContext_sealed opens written
  | puts putting _ =>
      rw [putting] at carries
      simp only [Function.update_self]
      exact ⟨_, durable.stored _ _, carries⟩
  | names stored =>
      rw [stored] at carries
      simp only [enter_phase, Function.update_self]
      exact carries
  | fails _ _ _ => simp only [enter_phase, Function.update_self]; trivial
  | stays _ => exact carries

theorem carries_step (opens : packages.Opens) (durable : storage.Durable) {saved : SessionContext}
    (carries : Carries storage packages world saved (world.phase call)) (mover : Call) :
    Carries storage packages (step storage packages operations world mover) saved
      ((step storage packages operations world mover).phase call) := by
  have moved := stepped storage packages operations world mover
  by_cases own : call = mover
  · subst own
    exact carries_own moved opens durable carries
  · rw [moved.other_phase own]
    exact carries_kept moved durable carries

theorem carries_run (operations : Call → Operation) (opens : packages.Opens) (durable : storage.Durable)
    {saved : SessionContext} (carries : Carries storage packages world saved (world.phase call))
    (schedule : List Call) :
    Carries storage packages (Runs.run (step storage packages operations) world schedule) saved
      ((Runs.run (step storage packages operations) world schedule).phase call) :=
  Runs.invariant_run (fun world => Carries storage packages world saved (world.phase call))
    (fun _ mover holds => carries_step opens durable holds mover) carries schedule

def Phase.written : Phase → Bool
  | .encrypting .. | .putting .. | .stored .. | .resolved _ => true
  | _ => false

theorem Stepped.snapshot (stepped : Stepped storage packages operations world call after)
    (snapshots : (world.phase call).snapshots (operations call) = true) :
    Carries storage packages after after.session.context (after.phase call) ∧
      after.session.context.metadata.walrusBlobId = world.session.context.metadata.walrusBlobId := by
  cases stepped with
  | prompts idle given => simp [idle, given, Phase.snapshots] at snapshots
  | asks prompting => simp [prompting, Phase.snapshots] at snapshots
  | hears streaming => simp [streaming, Phase.snapshots] at snapshots
  | appends _ _ => simp [Carries, SessionContext.appendTurn]
  | saves _ _ => simp [Carries]
  | seals encrypting _ => simp [encrypting, Phase.snapshots] at snapshots
  | puts putting _ => simp [putting, Phase.snapshots] at snapshots
  | names stored => simp [stored, Phase.snapshots] at snapshots
  | fails quiet _ _ => simp [quiet] at snapshots
  | stays ended => rcases ended with ⟨id, resolved⟩ | rejected <;> simp_all [Phase.snapshots]

end

end Pinaivu.Sdk
