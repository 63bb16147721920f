import Pinaivu.Lib.Base64
import Pinaivu.Lib.JsRuntime
import Pinaivu.Node.ApiProofs
import Pinaivu.Sdk.KeyHandoff

/-!
An encrypted prompt on its way from the browser to the engine: `streamInferEncrypted` of
`web/lib/daemon.ts` up to the body that it posts, and `infer_encrypted_handler` with the keys of
`identity.rs`, from a body that the server hands to it. The spread in `toBase64` passes each byte of the
ciphertext as an argument of its own, and a JavaScript engine limits their number.
-/

namespace Pinaivu.Web

open JsonText Context Sdk

/-- The numbers are those that the fields of the handler hold. -/
structure InferRequest where
  modelId : String
  prompt : String
  sessionId : Option String
  maxTokens : Option UInt32
  temperature : Option P2P.Decimal

def toHex (bytes : List UInt8) : List Char := bytes.flatMap fun byte => (Nat.toDigits 16 byte.toNat).leftpad 2 '0'

/-- Called with `...bytes`: a call with more arguments than the engine takes throws. -/
def fromCharCode (argumentLimit : Nat) (bytes : List UInt8) : Except String (List Char) :=
  if bytes.length ≤ argumentLimit then .ok (bytes.map fun byte => Char.ofNat byte.toNat) else .error "RangeError"

def btoa (binary : List Char) : Except String (List Char) :=
  if binary.all fun char => char.toNat < 256 then
    .ok (Base64.encode (binary.map fun char => UInt8.ofNat char.toNat))
  else .error "InvalidCharacterError"

def toBase64 (argumentLimit : Nat) (bytes : List UInt8) : Except String String := do
  let binary ← fromCharCode argumentLimit bytes
  (btoa binary).map String.ofList

def isLineTerminator (char : Char) : Bool :=
  char = '\n' || char = '\r' || char = '\u2028' || char = '\u2029'

/-- The matches of `/.{2}/g`. -/
def matchPairs : List Char → List (List Char)
  | first :: second :: rest =>
      if isLineTerminator first then matchPairs (second :: rest)
      else if isLineTerminator second then matchPairs rest
      else [first, second] :: matchPairs rest
  | _ => []

def unsigned (text : List Char) : Int × List Char :=
  match text with
  | '-' :: rest => (-1, rest)
  | '+' :: rest => (1, rest)
  | _ => (1, text)

def withoutPrefix : List Char → List Char
  | '0' :: 'x' :: rest => rest
  | '0' :: 'X' :: rest => rest
  | text => text

/-- `parseInt(text, 16)`; `none` is `NaN`. -/
def parseInt16 (text : List Char) : Option Int :=
  let (sign, text) := unsigned (text.dropWhile Js.isWhitespace)
  let digits := (withoutPrefix text).takeWhile fun char => (Hex.digitValue char).isSome
  if digits = [] then none else (Hex.number digits).map fun value => sign * value

def toUint8 : Option Int → UInt8
  | none => 0
  | some value => UInt8.ofNat (value % 256).toNat

def serverPubBytes (x25519Pubkey : String) : Except String (List UInt8) :=
  match matchPairs x25519Pubkey.toList with
  | [] => .error "Cannot read properties of null"
  | pairs => .ok (pairs.map fun pair => toUint8 (parseInt16 pair))

def importAesKey (keyBytes : List UInt8) : Except String SessionKey :=
  if long : keyBytes.length = 32 then .ok ⟨keyBytes.toArray, long⟩ else .error "DataError"

section

variable (packages : Packages)

def deriveAesKey (sharedBits : List UInt8) : Except String SessionKey := do
  let label := encodeText "deai-aes-key-v1"
  let material := List.replicate (label.length + sharedBits.length) 0
  let material ← setBytes material label 0
  let material ← setBytes material sharedBits label.length
  importAesKey (packages.sha256 material)

/-- `JSON.stringify` drops the members that are undefined. -/
def encBody (req : InferRequest) (clientPubkeyX25519 promptEncrypted promptNonce : String) : Json :=
  let members : List (String × Option Json) :=
    [("model_id", some (.string req.modelId)),
      ("session_id", req.sessionId.map .string),
      ("max_tokens", req.maxTokens.map fun maxTokens => unsignedJson maxTokens.toNat),
      ("temperature", req.temperature.map .number),
      ("client_pubkey_x25519", some (.string clientPubkeyX25519)),
      ("prompt_encrypted", some (.string promptEncrypted)),
      ("prompt_nonce", some (.string promptNonce))]
  .object (members.filterMap fun member => member.2.map (member.1, ·))

/-- The body that is posted, under the private key and the nonce that the call draws. -/
def streamInferEncrypted (argumentLimit : Nat) (privateKey : Secret) (nonce : Nonce) (x25519Pubkey : String)
    (req : InferRequest) : Except String ByteArray := do
  let serverPub ← serverPubBytes x25519Pubkey
  let myPubRaw ← packages.getPublicKey privateKey.toList
  let sharedBits ← packages.getSharedSecret privateKey.toList serverPub
  let aesKey ← deriveAesKey packages sharedBits
  let ciphertext ← packages.encrypt aesKey nonce.toList (encodeText req.prompt)
  let promptEncrypted ← toBase64 argumentLimit ciphertext
  let promptNonce ← toBase64 argumentLimit nonce.toList
  return toBytes (encBody req (String.ofList (toHex myPubRaw)) promptEncrypted promptNonce)

end

theorem padded_digits : ∀ byte < 256, (Nat.toDigits 16 byte).leftpad 2 '0' =
    [Hex.digit (byte / 16), Hex.digit (byte % 16)] := by
  decide +kernel

theorem toHex_eq (bytes : List UInt8) : toHex bytes = Hex.encode bytes := by
  induction bytes with
  | nil => rfl
  | cons byte rest ih =>
      rw [toHex, List.flatMap_cons, padded_digits byte.toNat byte.toNat_lt, ← toHex, ih]
      rfl

theorem toUint8_digits : ∀ byte < 256,
    toUint8 (parseInt16 [Hex.digit (byte / 16), Hex.digit (byte % 16)]) = UInt8.ofNat byte := by
  decide +kernel

theorem digit_inline : ∀ value < 16, isLineTerminator (Hex.digit value) = false := by
  decide

theorem matchPairs_encode (bytes : List UInt8) :
    (matchPairs (Hex.encode bytes)).map (fun pair => toUint8 (parseInt16 pair)) = bytes := by
  induction bytes with
  | nil => rfl
  | cons byte rest ih =>
      have bound := byte.toNat_lt
      have high := digit_inline (byte.toNat / 16) (by omega)
      have low := digit_inline (byte.toNat % 16) (by omega)
      rw [Hex.encode, matchPairs, if_neg (by simp [high]), if_neg (by simp [low]), List.map_cons, ih,
        toUint8_digits byte.toNat bound, UInt8.ofNat_toNat]

theorem serverPubBytes_hex {bytes : List UInt8} (nonempty : bytes ≠ []) :
    serverPubBytes (Api.hexText bytes) = .ok bytes := by
  have pairs := matchPairs_encode bytes
  rw [serverPubBytes, Api.hexText, String.toList_ofList]
  cases found : matchPairs (Hex.encode bytes) with
  | nil =>
      rw [found] at pairs
      exact absurd pairs.symm nonempty
  | cons first rest =>
      rw [found] at pairs
      exact congrArg Except.ok pairs

theorem charCode : ∀ byte < 256, (Char.ofNat byte).toNat = byte := by
  decide +kernel

theorem toBase64_short {argumentLimit : Nat} {bytes : List UInt8} (short : bytes.length ≤ argumentLimit) :
    toBase64 argumentLimit bytes = .ok (String.ofList (Base64.encode bytes)) := by
  have code (byte : UInt8) : (Char.ofNat byte.toNat).toNat = byte.toNat := charCode byte.toNat byte.toNat_lt
  have latin : (bytes.map fun byte => Char.ofNat byte.toNat).all (fun char => char.toNat < 256) = true := by
    simp only [List.all_map, List.all_eq_true, Function.comp_apply, code, decide_eq_true_eq]
    exact fun byte _ => byte.toNat_lt
  have bytesBack : (bytes.map fun byte => Char.ofNat byte.toNat).map (fun char => UInt8.ofNat char.toNat) = bytes := by
    simp [Function.comp_def, code]
  rw [toBase64, fromCharCode, if_pos short, ok_bind, btoa, if_pos latin, bytesBack]
  rfl

theorem toBase64_long {argumentLimit : Nat} {bytes : List UInt8} (long : ¬ bytes.length ≤ argumentLimit) :
    toBase64 argumentLimit bytes = .error "RangeError" := by
  rw [toBase64, fromCharCode, if_neg long]
  rfl

theorem importAesKey_toList (key : SessionKey) : importAesKey key.toList = .ok key := by
  have long : key.toList.length = 32 := by simp
  rw [importAesKey, dif_pos long]
  exact congrArg Except.ok (toVector_toList key _)

end Pinaivu.Web

namespace Pinaivu.Context

/-- AES-GCM appends a tag of 16 bytes to what it encrypts. -/
def SessionCipher.Tags (cipher : SessionCipher) : Prop :=
  ∀ key nonce plain sealed, cipher.encrypt key nonce plain = some sealed → sealed.length = plain.length + 16

end Pinaivu.Context

namespace Pinaivu.Api

open JsonText Context

def ed25519SeedToX25519 (sha512 : List UInt8 → Vector UInt8 64) (seed : Vector UInt8 32) : Secret :=
  let hash := sha512 seed.toList
  ⟨(hash.toList.take 32).toArray, by simp⟩

def x25519Pubkey (crates : Crates) (x25519Secret : Secret) : String :=
  hexText (crates.publicKey x25519Secret).toList

def decodeInferEncryptedRequest (readSingle : P2P.Decimal → Option P2P.Decimal) (value : Json) :
    Option InferEncryptedRequest := do
  let fields ← structFields ["model_id", "client_pubkey_x25519", "prompt_encrypted", "prompt_nonce", "session_id",
    "max_tokens", "temperature", "accepted_settlements"] 0 value
  let _ ← optionalField fields "session_id" decodeString
  return {
    modelId := ← requiredField fields "model_id" decodeString
    clientPubkeyX25519 := ← requiredField fields "client_pubkey_x25519" decodeString
    promptEncrypted := ← requiredField fields "prompt_encrypted" decodeString
    promptNonce := ← requiredField fields "prompt_nonce" decodeString
    maxTokens := ← optionalField fields "max_tokens" decodeU32
    temperature := ← optionalField fields "temperature" (P2P.decodeFloat readSingle)
    acceptedSettlements := ← optionalField fields "accepted_settlements" (decodeList decodeString) }

inductive Panic where
  | sliceLength
  deriving DecidableEq, Repr

def nonceFromSlice (bytes : List UInt8) : Except Panic Nonce :=
  if long : bytes.length = 12 then .ok ⟨bytes.toArray, long⟩ else .error .sliceLength

section

variable (crates : Crates) (x25519Secret : Secret)

def deriveAesKey (sharedSecret : SharedSecret) : SessionKey :=
  crates.sha256 (byteString "deai-aes-key-v1" ++ sharedSecret.toList)

def decryptPrompt (body : InferEncryptedRequest) : Except Panic (Except String String) :=
  match Hex.decode body.clientPubkeyX25519.toList with
  | none => .ok (.error "invalid client_pubkey_x25519")
  | some clientPubBytes =>
      if sized : clientPubBytes.length = 32 then
        let sharedSecret := crates.diffieHellman x25519Secret ⟨clientPubBytes.toArray, sized⟩
        let aesKey := deriveAesKey crates sharedSecret
        match Base64.decode body.promptEncrypted.toList with
        | none => .ok (.error "invalid prompt_encrypted base64")
        | some ciphertext =>
            match Base64.decode body.promptNonce.toList with
            | none => .ok (.error "invalid prompt_nonce base64")
            | some nonceBytes =>
                if nonceBytes.length ≠ 12 then .ok (.error "nonce must be 12 bytes")
                else
                  match nonceFromSlice nonceBytes with
                  | .error panic => .error panic
                  | .ok nonce =>
                      match crates.cipher.decrypt aesKey nonce ciphertext with
                      | none => .ok (.error "decryption failed")
                      | some plaintextBytes =>
                          match String.fromUTF8? ⟨plaintextBytes.toArray⟩ with
                          | none => .ok (.error "decrypted prompt is not valid UTF-8")
                          | some prompt => .ok (.ok prompt)
      else .ok (.error "client_pubkey_x25519 must be 32 bytes")

variable {SigningKey : Type} (scheme : Ed25519 SigningKey) (sha256 : ByteArray → Vector UInt8 32)
variable (node : NodeState SigningKey) (circumstances : Circumstances)

def inferEncryptedHandler (body : InferEncryptedRequest) : Except Panic Outcome := do
  match ← decryptPrompt crates x25519Secret body with
  | .error detail => return ⟨[], .badRequest detail⟩
  | .ok prompt =>
      let call := encryptedCall circumstances body prompt
      match runAndCollect node.engine call with
      | .error detail => return ⟨[.runInference call], .upstream detail⟩
      | .ok tokens =>
          let work := workOf circumstances body.modelId (body.maxTokens.getD 1000).toUInt64 prompt tokens
          let settled := settleAndBuildReceipt scheme sha256 node circumstances body.acceptedSettlements work
          return ⟨.runInference call :: settled.1, .ndjson tokens settled.2 none⟩

/-- The extractor `Json` before the handler; `none` is its own rejection. -/
def postInferEncrypted (readSingle : P2P.Decimal → Option P2P.Decimal) (raw : ByteArray) :
    Except Panic (Option Outcome) :=
  match (ofBytesSpaced raw).bind (decodeInferEncryptedRequest readSingle) with
  | none => .ok none
  | some body => (inferEncryptedHandler crates x25519Secret scheme sha256 node circumstances body).map some

end

def Effect.engineCall : Effect → Option EngineCall
  | .runInference call => some call
  | _ => none

section

variable (readSingle : P2P.Decimal → Option P2P.Decimal)

def promptCall (circumstances : Circumstances) (req : Web.InferRequest) : EngineCall where
  modelId := req.modelId
  context := defaultContext
  prompt := req.prompt
  params := {
    maxTokens := req.maxTokens.getD 2048
    temperature := (req.temperature.bind readSingle).getD defaultTemperature
    requestId := circumstances.requestId }

end

section

variable (crates : Crates) (x25519Secret : Secret) (body : InferEncryptedRequest)

structure DecryptsTo (prompt : String) (clientPub : NodePublicKey) (nonce : Nonce)
    (ciphertext plaintext : List UInt8) : Prop where
  key : Hex.decode body.clientPubkeyX25519.toList = some clientPub.toList
  sealed : Base64.decode body.promptEncrypted.toList = some ciphertext
  drawn : Base64.decode body.promptNonce.toList = some nonce.toList
  opened : crates.cipher.decrypt (deriveAesKey crates (crates.diffieHellman x25519Secret clientPub)) nonce ciphertext =
    some plaintext
  text : String.fromUTF8? ⟨plaintext.toArray⟩ = some prompt

inductive Malformed : Prop
  | key : (∀ clientPub : NodePublicKey, Hex.decode body.clientPubkeyX25519.toList ≠ some clientPub.toList) → Malformed
  | ciphertext : Base64.decode body.promptEncrypted.toList = none → Malformed
  | nonce : Base64.decode body.promptNonce.toList = none → Malformed
  | nonceLength (nonceBytes : List UInt8) : Base64.decode body.promptNonce.toList = some nonceBytes →
      nonceBytes.length ≠ 12 → Malformed
  | authentication (clientPub : NodePublicKey) (nonce : Nonce) (ciphertext : List UInt8) :
      Hex.decode body.clientPubkeyX25519.toList = some clientPub.toList →
      Base64.decode body.promptEncrypted.toList = some ciphertext →
      Base64.decode body.promptNonce.toList = some nonce.toList →
      crates.cipher.decrypt (deriveAesKey crates (crates.diffieHellman x25519Secret clientPub)) nonce ciphertext =
        none → Malformed
  | text (clientPub : NodePublicKey) (nonce : Nonce) (ciphertext plaintext : List UInt8) :
      Hex.decode body.clientPubkeyX25519.toList = some clientPub.toList →
      Base64.decode body.promptEncrypted.toList = some ciphertext →
      Base64.decode body.promptNonce.toList = some nonce.toList →
      crates.cipher.decrypt (deriveAesKey crates (crates.diffieHellman x25519Secret clientPub)) nonce ciphertext =
        some plaintext → String.fromUTF8? ⟨plaintext.toArray⟩ = none → Malformed

variable {crates x25519Secret body}

theorem nonceFromSlice_toList (nonce : Nonce) : nonceFromSlice nonce.toList = .ok nonce := by
  have long : nonce.toList.length = 12 := by simp
  rw [nonceFromSlice, dif_pos long]
  exact congrArg Except.ok (toVector_toList nonce _)

theorem toList_ofSize {size : Nat} (bytes : List UInt8) (long : bytes.toArray.size = size) :
    (⟨bytes.toArray, long⟩ : Vector UInt8 size).toList = bytes := by
  simp [Vector.toList]

theorem decryptPrompt_cases :
    (∃ detail, decryptPrompt crates x25519Secret body = .ok (.error detail)) ∨
      ∃ prompt clientPub nonce ciphertext plaintext, decryptPrompt crates x25519Secret body = .ok (.ok prompt) ∧
        DecryptsTo crates x25519Secret body prompt clientPub nonce ciphertext plaintext := by
  unfold decryptPrompt
  split
  · exact .inl ⟨_, rfl⟩
  rename_i clientPubBytes key
  split
  · rename_i sized
    dsimp only
    split
    · exact .inl ⟨_, rfl⟩
    rename_i ciphertext sealedText
    split
    · exact .inl ⟨_, rfl⟩
    rename_i nonceBytes drawn
    split
    · exact .inl ⟨_, rfl⟩
    rename_i whole
    have long : nonceBytes.length = 12 := not_not.mp whole
    rw [nonceFromSlice, dif_pos long]
    dsimp only
    split
    · exact .inl ⟨_, rfl⟩
    rename_i plaintext opened
    split
    · exact .inl ⟨_, rfl⟩
    rename_i prompt text
    exact .inr ⟨prompt, ⟨clientPubBytes.toArray, sized⟩, ⟨nonceBytes.toArray, long⟩, ciphertext, plaintext, rfl,
      by rw [toList_ofSize, key], sealedText, by rw [toList_ofSize, drawn], opened, text⟩
  · exact .inl ⟨_, rfl⟩

theorem decryptPrompt_of {prompt : String} {clientPub : NodePublicKey} {nonce : Nonce}
    {ciphertext plaintext : List UInt8}
    (decrypts : DecryptsTo crates x25519Secret body prompt clientPub nonce ciphertext plaintext) :
    decryptPrompt crates x25519Secret body = .ok (.ok prompt) := by
  obtain ⟨key, sealedText, drawn, opened, text⟩ := decrypts
  have sized : clientPub.toList.length = 32 := by simp
  have long : ¬ nonce.toList.length ≠ 12 := by simp
  simp only [decryptPrompt, key, dif_pos sized, sealedText, drawn, if_neg long, nonceFromSlice_toList,
    toVector_toList, opened, text]

theorem decryptPrompt_malformed (malformed : Malformed crates x25519Secret body) :
    ∃ detail, decryptPrompt crates x25519Secret body = .ok (.error detail) := by
  rcases @decryptPrompt_cases crates x25519Secret body with
    refused | ⟨prompt, clientPub, nonce, ciphertext, plaintext, -, decrypts⟩
  · exact refused
  exfalso
  obtain ⟨key, sealedText, drawn, opened, text⟩ := decrypts
  cases malformed with
  | key undecodable => exact undecodable clientPub key
  | ciphertext undecodable => simp [sealedText] at undecodable
  | nonce undecodable => simp [drawn] at undecodable
  | nonceLength nonceBytes decoded other =>
      obtain rfl := Option.some.inj (drawn.symm.trans decoded)
      simp at other
  | authentication otherPub otherNonce otherText otherKey otherSealed otherDrawn failed =>
      obtain rfl := Vector.toList_inj.mp (Option.some.inj (key.symm.trans otherKey))
      obtain rfl := Option.some.inj (sealedText.symm.trans otherSealed)
      obtain rfl := Vector.toList_inj.mp (Option.some.inj (drawn.symm.trans otherDrawn))
      simp [opened] at failed
  | text otherPub otherNonce otherText otherPlain otherKey otherSealed otherDrawn otherOpened unreadable =>
      obtain rfl := Vector.toList_inj.mp (Option.some.inj (key.symm.trans otherKey))
      obtain rfl := Option.some.inj (sealedText.symm.trans otherSealed)
      obtain rfl := Vector.toList_inj.mp (Option.some.inj (drawn.symm.trans otherDrawn))
      obtain rfl := Option.some.inj (opened.symm.trans otherOpened)
      simp [text] at unreadable

end

/-- `serde_json` reads the temperature that the browser writes, as some `f32`. -/
def TemperatureRead (readSingle : P2P.Decimal → Option P2P.Decimal) (req : Web.InferRequest) : Prop :=
  ∀ temperature, req.temperature = some temperature → (readSingle temperature).isSome = true

def postedRequest (readSingle : P2P.Decimal → Option P2P.Decimal) (req : Web.InferRequest)
    (clientPubkeyX25519 promptEncrypted promptNonce : String) : InferEncryptedRequest where
  modelId := req.modelId
  clientPubkeyX25519
  promptEncrypted
  promptNonce
  maxTokens := req.maxTokens
  temperature := req.temperature.bind readSingle
  acceptedSettlements := none

section

variable {crates : Crates} {packages : Sdk.Packages}

theorem deriveAesKey_eq (implements : packages.Implements crates) (shared : SharedSecret) :
    Web.deriveAesKey packages shared.toList = .ok (deriveAesKey crates shared) := by
  have label : Sdk.encodeText "deai-aes-key-v1" = byteString "deai-aes-key-v1" := by decide +kernel
  have written := Sdk.setBytes_start (Sdk.encodeText "deai-aes-key-v1") shared.toList 0
  have ended := Sdk.setBytes_end (Sdk.encodeText "deai-aes-key-v1") shared.toList 0 rfl
  simp only [Web.deriveAesKey, written, ended, ok_bind]
  rw [implements.sha256, label]
  exact Web.importAesKey_toList _

theorem streamInferEncrypted_eq (sound : crates.Sound) (opens : crates.cipher.Opens) (tags : crates.cipher.Tags)
    (implements : packages.Implements crates) (argumentLimit : Nat) (x25519Secret privateKey : Secret) (nonce : Nonce)
    (req : Web.InferRequest) :
    ∃ sealed, crates.cipher.decrypt
        (deriveAesKey crates (crates.diffieHellman x25519Secret (crates.publicKey privateKey))) nonce sealed =
          some (Sdk.encodeText req.prompt) ∧
      Web.streamInferEncrypted packages argumentLimit privateKey nonce (x25519Pubkey crates x25519Secret) req =
        if (Sdk.encodeText req.prompt).length + 16 ≤ argumentLimit then
          .ok (toBytes (Web.encBody req (hexText (crates.publicKey privateKey).toList)
            (String.ofList (Base64.encode sealed)) (String.ofList (Base64.encode nonce.toList))))
        else .error "RangeError" := by
  have shared := implements.sharedSecret privateKey (crates.publicKey x25519Secret)
    (sound.contributory privateKey x25519Secret)
  obtain ⟨sealed, encrypted, decrypted⟩ :=
    opens (deriveAesKey crates (crates.diffieHellman privateKey (crates.publicKey x25519Secret))) nonce
      (Sdk.encodeText req.prompt)
  have length := tags _ _ _ _ encrypted
  have nonempty : (crates.publicKey x25519Secret).toList ≠ [] := by
    intro empty
    have length := congrArg List.length empty
    simp at length
  refine ⟨sealed, by rw [sound.commutes, decrypted], ?_⟩
  simp only [Web.streamInferEncrypted, x25519Pubkey, Web.serverPubBytes_hex nonempty, implements.publicKey, shared,
    deriveAesKey_eq implements, implements.encrypt _ _ _ _ encrypted, Web.toHex_eq, ok_bind]
  rw [← length]
  by_cases short : sealed.length ≤ argumentLimit
  · have drawn : nonce.toList.length ≤ argumentLimit := by
      rw [Vector.length_toList]
      omega
    rw [if_pos short, Web.toBase64_short short, Web.toBase64_short drawn]
    rfl
  · rw [if_neg short, Web.toBase64_long short]
    rfl

theorem decode_encBody {readSingle : P2P.Decimal → Option P2P.Decimal} {req : Web.InferRequest}
    (read : TemperatureRead readSingle req) (clientPubkeyX25519 promptEncrypted promptNonce : String) :
    decodeInferEncryptedRequest readSingle (Web.encBody req clientPubkeyX25519 promptEncrypted promptNonce) =
      some (postedRequest readSingle req clientPubkeyX25519 promptEncrypted promptNonce) := by
  obtain ⟨modelId, prompt, sessionId, maxTokens, temperature⟩ := req
  have texts : ∀ text, decodeString (.string text) = some text := fun _ => rfl
  have session : ∀ text, decodeOption decodeString (.string text) = some (some text) := fun _ => rfl
  have number (token : P2P.Decimal) (present : temperature = some token) :
      decodeOption (P2P.decodeFloat readSingle) (.number token) = some (readSingle token) := by
    obtain ⟨value, found⟩ := Option.isSome_iff_exists.mp (read token present)
    rw [found]
    exact congrArg (Option.map some) found
  have tokens (count : UInt32) : decodeOption decodeU32 (unsignedJson count.toNat) = some (some count) :=
    congrArg (Option.map some) (decodeU32_unsignedJson count)
  have absent {Item : Type} (name : String) (decode : Json → Option Item) :
      optionalField (fun name => ([] : List (String × Json)).lookup name) name decode = some none := rfl
  cases sessionId <;> cases maxTokens <;> cases temperature
  all_goals
    dsimp only [Web.encBody, List.filterMap, Option.map]
    rw [decodeInferEncryptedRequest, structFields_object 0 (by simp), Option.bind_eq_bind, Option.bind_some]
    simp (disch := first | rfl | decide) only [requiredField_head, requiredField_tail, optionalField_head,
      optionalField_tail, absent, texts, session, number, tokens]
    rfl

theorem settle_silent {SigningKey : Type} (scheme : Ed25519 SigningKey) (sha256 : ByteArray → Vector UInt8 32)
    (node : NodeState SigningKey) (circumstances : Circumstances) (wanted : Option (List String)) (work : Work) :
    (settleAndBuildReceipt scheme sha256 node circumstances wanted work).1.filterMap Effect.engineCall = [] := by
  rcases settle_cases scheme sha256 node circumstances wanted work with
    ⟨_, settled⟩ | ⟨adapter, _, settled⟩ | ⟨adapter, handle, built, _, _, settled⟩
  all_goals rw [settled]; rfl

theorem handler_runs {SigningKey : Type} (scheme : Ed25519 SigningKey) (sha256 : ByteArray → Vector UInt8 32)
    (node : NodeState SigningKey) (circumstances : Circumstances) {x25519Secret : Secret}
    {body : InferEncryptedRequest} {prompt : String}
    (decrypted : decryptPrompt crates x25519Secret body = .ok (.ok prompt)) :
    ∃ outcome, inferEncryptedHandler crates x25519Secret scheme sha256 node circumstances body = .ok outcome ∧
      outcome.effects.filterMap Effect.engineCall = [encryptedCall circumstances body prompt] := by
  simp only [inferEncryptedHandler, decrypted, ok_bind]
  cases runAndCollect node.engine (encryptedCall circumstances body prompt) with
  | error detail => exact ⟨_, rfl, rfl⟩
  | ok tokens =>
      refine ⟨_, rfl, ?_⟩
      rw [List.filterMap_cons, settle_silent]
      rfl

theorem fromUTF8_encodeText (text : String) :
    String.fromUTF8? ⟨(Sdk.encodeText text).toArray⟩ = some text := by
  rw [Sdk.encodeText, Array.toArray_toList]
  exact fromUTF8?_toUTF8 text

theorem decode_hexText (bytes : List UInt8) : Hex.decode (hexText bytes).toList = some bytes := by
  rw [hexText, String.toList_ofList, Hex.decode_encode]

theorem decode_base64Text (bytes : List UInt8) :
    Base64.decode (String.ofList (Base64.encode bytes)).toList = some bytes := by
  rw [String.toList_ofList, Base64.decode_encode]

end

section

variable {SigningKey : Type} {crates : Crates} {packages : Sdk.Packages} (scheme : Ed25519 SigningKey)
variable (sha256 : ByteArray → Vector UInt8 32) (node : NodeState SigningKey) (circumstances : Circumstances)
variable (readSingle : P2P.Decimal → Option P2P.Decimal)

/-- The prompt that the browser encrypts is posted, and is the one that the engine runs. -/
def Arrives (crates : Crates) (packages : Sdk.Packages) (argumentLimit : Nat) (x25519Secret privateKey : Secret)
    (nonce : Nonce) (req : Web.InferRequest) : Prop :=
  ∃ raw outcome,
    Web.streamInferEncrypted packages argumentLimit privateKey nonce (x25519Pubkey crates x25519Secret) req = .ok raw ∧
      postInferEncrypted crates x25519Secret scheme sha256 node circumstances readSingle raw = .ok (some outcome) ∧
      outcome.effects.filterMap Effect.engineCall = [promptCall readSingle circumstances req]

variable {readSingle}

theorem arrives_iff (sound : crates.Sound) (opens : crates.cipher.Opens) (tags : crates.cipher.Tags)
    (implements : packages.Implements crates) (argumentLimit : Nat) (x25519Secret privateKey : Secret) (nonce : Nonce)
    {req : Web.InferRequest} (read : TemperatureRead readSingle req) :
    Arrives scheme sha256 node circumstances readSingle crates packages argumentLimit
          x25519Secret privateKey nonce req ↔
      (Sdk.encodeText req.prompt).length + 16 ≤ argumentLimit := by
  obtain ⟨sealed, decrypts, posted⟩ := streamInferEncrypted_eq sound opens tags implements argumentLimit
    x25519Secret privateKey nonce req
  constructor
  · rintro ⟨raw, outcome, built, -⟩
    rw [posted] at built
    by_contra long
    rw [if_neg long] at built
    contradiction
  · intro short
    rw [if_pos short] at posted
    have decrypted := @decryptPrompt_of crates x25519Secret
      (postedRequest readSingle req (hexText (crates.publicKey privateKey).toList)
        (String.ofList (Base64.encode sealed))
        (String.ofList (Base64.encode nonce.toList))) req.prompt _ _ _ _
      ⟨decode_hexText _, decode_base64Text _, decode_base64Text _, decrypts, fromUTF8_encodeText req.prompt⟩
    obtain ⟨outcome, handled, called⟩ := handler_runs scheme sha256 node circumstances decrypted
    refine ⟨_, outcome, posted, ?_, called⟩
    rw [postInferEncrypted, ofBytesSpaced_toBytes, Option.bind_some, decode_encBody read]
    simp only [handled]
    rfl

end

def promptSeed : Vector UInt8 32 :=
  #v[1, 2, 3, 4, 5, 6, 7, 8, 9, 10, 11, 12, 13, 14, 15, 16, 17, 18, 19, 20, 21, 22, 23, 24, 25, 26, 27, 28, 29, 30,
     31, 32]

def promptSeedHash : Vector UInt8 64 :=
  #v[119, 120, 143, 26, 12, 234, 0, 26, 38, 49, 218, 229, 208, 93, 189, 6, 32, 8, 213, 179, 15, 80, 185, 226, 155,
     235, 42, 120, 34, 40, 144, 4, 87, 61, 252, 155, 111, 254, 177, 199, 134, 161, 99, 73, 231, 15, 152, 54, 135, 106,
     116, 60, 49, 192, 167, 162, 167, 7, 39, 168, 82, 238, 195, 114]

def promptNodeSecret : Secret :=
  #v[119, 120, 143, 26, 12, 234, 0, 26, 38, 49, 218, 229, 208, 93, 189, 6, 32, 8, 213, 179, 15, 80, 185, 226, 155,
     235, 42, 120, 34, 40, 144, 4]

def promptNodePublic : NodePublicKey :=
  #v[74, 56, 7, 208, 100, 208, 119, 24, 28, 192, 112, 152, 158, 118, 137, 29, 32, 220, 165, 85, 149, 72, 220, 44, 119,
     193, 165, 2, 115, 136, 43, 56]

def promptShared : SharedSecret :=
  #v[213, 144, 38, 137, 250, 254, 78, 135, 68, 23, 172, 72, 226, 74, 96, 254, 25, 172, 161, 223, 169, 113, 16, 112,
     10, 114, 128, 111, 8, 207, 249, 53]

def promptAesKey : SessionKey :=
  #v[162, 234, 134, 96, 184, 5, 222, 245, 227, 225, 103, 231, 141, 177, 237, 252, 157, 134, 167, 60, 3, 195, 200, 191,
     247, 247, 21, 200, 209, 0, 233, 199]

def promptBytes : List UInt8 :=
  [71, 114, 195, 188, 101, 122, 105, 33]

def promptSealed : List UInt8 :=
  [206, 227, 23, 15, 84, 86, 208, 49, 252, 5, 251, 118, 210, 106, 7, 214, 255, 62, 222, 146, 162, 189, 198, 105]

def promptPublicKey (secret : Secret) : NodePublicKey :=
  if secret = promptNodeSecret then promptNodePublic
  else if secret = Sdk.sampleEphemeral then Sdk.sampleClientPublic
  else Vector.replicate 32 9

def promptDiffieHellman (secret : Secret) (other : NodePublicKey) : SharedSecret :=
  if (secret = promptNodeSecret ∧ other = Sdk.sampleClientPublic) ∨
      (secret = Sdk.sampleEphemeral ∧ other = promptNodePublic) then promptShared
  else Vector.replicate 32 1

def promptCipher : SessionCipher where
  encrypt key nonce plain :=
    if key = promptAesKey ∧ nonce = Sdk.sampleNonce ∧ plain = promptBytes then some promptSealed
    else some (plain ++ List.replicate 16 0)
  decrypt key nonce sealed :=
    if key = promptAesKey ∧ nonce = Sdk.sampleNonce ∧ sealed = promptSealed then some promptBytes
    else some (sealed.take (sealed.length - 16))

def promptCrates : Crates where
  publicKey := promptPublicKey
  diffieHellman := promptDiffieHellman
  cipher := promptCipher
  sha256 data :=
    if data = byteString "deai-aes-key-v1" ++ promptShared.toList then promptAesKey else Vector.replicate 32 0

theorem promptCipher_opens : promptCipher.Opens :=
  Sdk.tableCipher_opens (fun _ _ _ => rfl) (fun _ _ _ => rfl) (by decide)

theorem promptCipher_tags : promptCipher.Tags := by
  intro key nonce plain sealed encrypted
  simp only [promptCipher] at encrypted
  split at encrypted
  · next known =>
      obtain ⟨-, -, rfl⟩ := known
      obtain rfl := Option.some.inj encrypted
      rfl
  · obtain rfl := Option.some.inj encrypted
    rw [List.length_append, List.length_replicate]

theorem promptCrates_sound : promptCrates.Sound where
  commutes := Sdk.twoParties_commute
    (Sdk.publicKey_eq_first (fun _ => rfl) (by decide +kernel) (by decide +kernel))
    (Sdk.publicKey_eq_second (fun _ => rfl) (by decide +kernel) (by decide +kernel) (by decide +kernel))
    (fun _ _ => rfl)
  contributory := Sdk.twoParties_contributory (fun _ _ => rfl) (by decide +kernel) (by decide +kernel)
  opens key nonce plain := promptCipher_opens key nonce plain.toList

def promptSha512 (data : List UInt8) : Vector UInt8 64 :=
  if data = promptSeed.toList then promptSeedHash else Vector.replicate 64 0

def promptRequest : Web.InferRequest where
  modelId := "llama3.1:8b"
  prompt := "Grüezi!"
  sessionId := some "4f1c"
  maxTokens := some 2048
  temperature := none

/-- JavaScriptCore takes 65536 arguments. -/
def sampleArgumentLimit : Nat := 65536

example : ed25519SeedToX25519 promptSha512 promptSeed = promptNodeSecret ∧
    Sdk.encodeText promptRequest.prompt = promptBytes := by decide +kernel

def longRequest (length : Nat) : Web.InferRequest :=
  { promptRequest with prompt := String.ofList (List.replicate length 'a') }

theorem encodeText_long (length : Nat) : (Sdk.encodeText (longRequest length).prompt).length = length := by
  have encoded : ∀ count, (List.replicate count 'a').utf8Encode.data.toList = List.replicate count 97 := by
    intro count
    induction count with
    | zero => rfl
    | succ count ih =>
        rw [List.replicate_succ, List.replicate_succ, List.utf8Encode_cons, ByteArray.data_append, Array.toList_append,
          ih]
        rfl
  rw [longRequest, Sdk.encodeText, String.toUTF8, String.toByteArray_ofList, encoded, List.length_replicate]

end Pinaivu.Api
