import Pinaivu.Sdk.Crypto

/-!
A session key that is wrapped by either implementation is unwrapped by either, and both frame
encrypted blobs in the same way.
-/

namespace Pinaivu.Sdk

open Context

inductive Side where
  | rust
  | typescript
  deriving DecidableEq, Repr

def publicKeyOf (bytes : List UInt8) : Except String NodePublicKey :=
  if long : bytes.length = 32 then .ok ⟨bytes.toArray, long⟩
  else .error "could not convert slice to array"

section

variable (crates : Crates) (packages : Packages)

def Side.publish (secret : Secret) : Side → Except String (List UInt8)
  | .rust => .ok (NodeStaticKeypair.fromSecretBytes secret : NodeStaticKeypair crates).publicKey.toList
  | .typescript => do
      let pair : NodeStaticKeyPair packages ← KeyPair.generate secret
      return pair.pubKey

/-- The client's message for a node, under the ephemeral secret and the nonce that it draws. -/
def Side.wrap (secret : Secret) (nonce : Nonce) (nodePublic : List UInt8) (key : SessionKey) :
    Side → Except String Handshake
  | .rust => do
      let nodePublic ← publicKeyOf nodePublic
      let pair : Context.EphemeralKeyPair crates := Context.EphemeralKeyPair.generate secret
      let (clientPublic, wrapped) ← pair.encryptSessionKey nonce nodePublic key
      return { clientPubKey := clientPublic.toList, wrappedKey := wrapped }
  | .typescript => do
      let pair : EphemeralKeyPair packages ← KeyPair.generate secret
      pair.wrapSessionKey nonce nodePublic key

def Side.unwrap (secret : Secret) (handshake : Handshake) : Side → Except String SessionKey
  | .rust => do
      let clientPublic ← publicKeyOf handshake.clientPubKey
      let pair : NodeStaticKeypair crates := NodeStaticKeypair.fromSecretBytes secret
      pair.decryptSessionKey clientPublic handshake.wrappedKey
  | .typescript => do
      let pair : NodeStaticKeyPair packages ← KeyPair.generate secret
      pair.unwrapSessionKey handshake.clientPubKey handshake.wrappedKey

def handOff (client node : Side) (nodeSecret ephemeral : Secret) (nonce : Nonce) (key : SessionKey) :
    Except String SessionKey := do
  let nodePublic ← node.publish crates packages nodeSecret
  let handshake ← client.wrap crates packages ephemeral nonce nodePublic key
  node.unwrap crates packages nodeSecret handshake

end

theorem publicKeyOf_toList (key : NodePublicKey) : publicKeyOf key.toList = .ok key := by
  have long : key.toList.length = 32 := by simp
  rw [publicKeyOf, dif_pos long]
  exact congrArg Except.ok (toVector_toList key _)

theorem encodeText_label : encodeText "deai-wrap-key-v1" = byteString "deai-wrap-key-v1" := by
  decide +kernel

section

variable {crates : Crates} {packages : Packages}

theorem deriveWrapKey_eq (implements : packages.Implements crates) (shared : SharedSecret) :
    deriveWrapKey packages shared.toList = .ok (Context.deriveWrapKey crates shared).toList := by
  have written := setBytes_start (encodeText "deai-wrap-key-v1") shared.toList 0
  have ended := setBytes_end (encodeText "deai-wrap-key-v1") shared.toList 0 rfl
  simp only [deriveWrapKey, written, ended, ok_bind]
  rw [implements.sha256, encodeText_label]
  rfl

theorem generate_eq (implements : packages.Implements crates) (secret : Secret) :
    ∃ pair : KeyPair packages, KeyPair.generate secret = .ok pair ∧ pair.privKey = secret.toList ∧
      pair.pubKey = (crates.publicKey secret).toList := by
  have derived := implements.publicKey secret
  refine ⟨⟨secret.toList, (crates.publicKey secret).toList, derived⟩, ?_, rfl, rfl⟩
  unfold KeyPair.generate
  split
  · rename_i pubKey found
    obtain rfl : (crates.publicKey secret).toList = pubKey := Except.ok.inj (derived.symm.trans found)
    rfl
  · rename_i reason failed
    cases derived.symm.trans failed

theorem publish_eq (implements : packages.Implements crates) (side : Side) (secret : Secret) :
    side.publish crates packages secret = .ok (crates.publicKey secret).toList := by
  cases side with
  | rust => rfl
  | typescript =>
      obtain ⟨pair, generated, -, published⟩ := generate_eq implements secret
      simp only [Side.publish, generated, ok_bind, published]
      rfl

theorem wrap_eq (sound : crates.Sound) (implements : packages.Implements crates) (side : Side)
    (secret nodeSecret : Secret) (nonce : Nonce) (key : SessionKey) :
    ∃ sealed, side.wrap crates packages secret nonce (crates.publicKey nodeSecret).toList key =
        .ok { clientPubKey := (crates.publicKey secret).toList, wrappedKey := nonce.toList ++ sealed } ∧
      crates.cipher.decrypt
        (Context.deriveWrapKey crates (crates.diffieHellman nodeSecret (crates.publicKey secret)))
        nonce sealed = some key.toList := by
  obtain ⟨sealed, wrapped, encrypted, decrypted⟩ := encryptSessionKey_ok sound
    (Context.EphemeralKeyPair.generate secret) (NodeStaticKeypair.fromSecretBytes nodeSecret) nonce key
  refine ⟨sealed, ?_, decrypted⟩
  cases side with
  | rust =>
      simp only [Side.wrap, publicKeyOf_toList, ok_bind]
      exact congrArg (· >>= _) wrapped
  | typescript =>
      obtain ⟨pair, generated, secretly, published⟩ := generate_eq implements secret
      have shared := implements.sharedSecret secret (crates.publicKey nodeSecret)
        (sound.contributory secret nodeSecret)
      have sealedKey : packages.encrypt
          (Context.deriveWrapKey crates (crates.diffieHellman secret (crates.publicKey nodeSecret)))
          nonce.toList key.toList = .ok sealed := implements.encrypt _ nonce key.toList sealed encrypted
      have framed : EncryptedBlob.toBytes ⟨sealed, nonce.toList⟩ = .ok (nonce.toList ++ sealed) :=
        toBytes_eq (show nonce.toList.length = 12 by simp)
      simp only [Side.wrap, generated, ok_bind, EphemeralKeyPair.wrapSessionKey, secretly, shared,
        deriveWrapKey_eq implements, sessionKey_fromBytes, SessionKey.encrypt]
      rw [sealedKey, ok_bind, pure_bind, framed, ok_bind, published]
      rfl

theorem unwrap_eq (sound : crates.Sound) (implements : packages.Implements crates) (side : Side)
    {secret nodeSecret : Secret} {nonce : Nonce} {key : SessionKey} {sealed : List UInt8}
    (decrypted : crates.cipher.decrypt
      (Context.deriveWrapKey crates (crates.diffieHellman nodeSecret (crates.publicKey secret)))
      nonce sealed = some key.toList) :
    side.unwrap crates packages nodeSecret
      { clientPubKey := (crates.publicKey secret).toList, wrappedKey := nonce.toList ++ sealed } = .ok key := by
  cases side with
  | rust =>
      simp only [Side.unwrap, publicKeyOf_toList, ok_bind]
      exact decryptSessionKey_ok _ _ decrypted
  | typescript =>
      obtain ⟨pair, generated, secretly, -⟩ := generate_eq implements nodeSecret
      have shared := implements.sharedSecret nodeSecret (crates.publicKey secret)
        (sound.contributory nodeSecret secret)
      have opened := implements.decrypt _ nonce sealed key.toList decrypted
      have framed := fromBytes_append (show nonce.toList.length = 12 by simp) sealed
      simp only [Side.unwrap, generated, ok_bind, NodeStaticKeyPair.unwrapSessionKey, secretly, shared,
        deriveWrapKey_eq implements, sessionKey_fromBytes, framed, SessionKey.decrypt, opened]

end

theorem handOff_returns {crates : Crates} {packages : Packages} (sound : crates.Sound)
    (implements : packages.Implements crates) (client node : Side) (nodeSecret ephemeral : Secret)
    (nonce : Nonce) (key : SessionKey) :
    handOff crates packages client node nodeSecret ephemeral nonce key = .ok key := by
  obtain ⟨sealed, wrapped, decrypted⟩ := wrap_eq sound implements client ephemeral nodeSecret nonce key
  simp only [handOff, publish_eq implements, wrapped, ok_bind]
  exact unwrap_eq sound implements node decrypted

/-- Every pairing of the two implementations hands the session key over, and the framing of
blobs is a bijection onto the byte strings of at least 12 bytes. -/
theorem session_key_handed_over (crates : Crates) (packages : Packages) (sound : crates.Sound)
    (implements : packages.Implements crates) :
    (∀ client node nodeSecret ephemeral nonce key,
      handOff crates packages client node nodeSecret ephemeral nonce key = .ok key) ∧
    (∀ blob : Context.EncryptedBlob, Context.EncryptedBlob.readBytes blob.toBytes = .ok blob) ∧
    (∀ blob : EncryptedBlob, blob.nonce.length = 12 →
      (blob.toBytes >>= EncryptedBlob.fromBytes) = .ok blob) ∧
    (∀ bytes, ((Context.EncryptedBlob.readBytes bytes).map Context.EncryptedBlob.toBytes = .ok bytes ↔
        12 ≤ bytes.length) ∧
      ((EncryptedBlob.fromBytes bytes >>= EncryptedBlob.toBytes) = .ok bytes ↔ 12 ≤ bytes.length)) ∧
    (∀ bytes : List UInt8, bytes.length < 12 →
      Context.EncryptedBlob.readBytes bytes =
          .error ("encrypted blob too short: " ++ toString bytes.length ++ " bytes") ∧
        EncryptedBlob.fromBytes bytes = .error "EncryptedBlob too short") := by
  refine ⟨handOff_returns sound implements, readBytes_toBytes, ?_, ?_, ?_⟩
  · intro blob whole
    exact (fromBytes_toBytes_iff blob).mpr whole
  · intro bytes
    exact ⟨map_toBytes_readBytes_iff bytes, toBytes_fromBytes_iff bytes⟩
  · intro bytes short
    exact ⟨readBytes_short short, fromBytes_short short⟩

/-! X25519, SHA-256 and AES-256-GCM at one node secret and one ephemeral secret. -/

def sampleNodeSecret : Secret :=
  #v[93, 171, 8, 126, 98, 74, 138, 75, 121, 225, 127, 139, 131, 128, 14, 230, 111, 59, 177, 41, 38,
     24, 182, 253, 28, 47, 139, 39, 255, 136, 224, 235]

def sampleNodePublic : NodePublicKey :=
  #v[222, 158, 219, 125, 123, 125, 193, 180, 211, 91, 97, 194, 236, 228, 53, 55, 63, 131, 67, 200,
     91, 120, 103, 77, 173, 252, 126, 20, 111, 136, 43, 79]

def sampleEphemeral : Secret :=
  #v[119, 7, 109, 10, 115, 24, 165, 125, 60, 22, 193, 114, 81, 178, 102, 69, 223, 76, 47, 146, 235,
     192, 153, 42, 193, 119, 251, 165, 29, 185, 44, 42]

def sampleClientPublic : NodePublicKey :=
  #v[248, 169, 83, 90, 45, 47, 246, 5, 232, 225, 68, 213, 79, 78, 245, 198, 35, 19, 162, 5, 93, 187,
     33, 253, 221, 63, 217, 194, 153, 235, 1, 93]

def sampleShared : SharedSecret :=
  #v[236, 85, 83, 148, 39, 120, 119, 227, 239, 102, 92, 42, 243, 157, 57, 109, 133, 114, 241, 18,
     204, 140, 226, 175, 9, 114, 203, 106, 57, 137, 64, 109]

def sampleWrapKey : SessionKey :=
  #v[223, 188, 250, 53, 82, 138, 6, 167, 72, 123, 22, 28, 78, 190, 11, 109, 97, 54, 94, 229, 126, 5,
     90, 202, 106, 26, 202, 49, 32, 126, 20, 174]

def sampleNonce : Nonce := #v[0, 1, 2, 3, 4, 5, 6, 7, 8, 9, 10, 11]

def sampleSessionKey : SessionKey :=
  #v[0, 1, 2, 3, 4, 5, 6, 7, 8, 9, 10, 11, 12, 13, 14, 15, 16, 17, 18, 19, 20, 21, 22, 23, 24, 25,
     26, 27, 28, 29, 30, 31]

def sampleSealed : List UInt8 :=
  [146, 204, 58, 12, 102, 253, 41, 128, 119, 36, 22, 61, 203, 230, 153, 84, 192, 137, 187, 39, 133,
   28, 102, 178, 167, 239, 29, 71, 40, 253, 179, 19, 149, 182, 171, 17, 183, 179, 140, 100, 2, 58,
   2, 177, 175, 240, 45, 235]

def samplePublicKey (secret : Secret) : NodePublicKey :=
  if secret = sampleNodeSecret then sampleNodePublic
  else if secret = sampleEphemeral then sampleClientPublic
  else Vector.replicate 32 9

def sampleDiffieHellman (secret : Secret) (other : NodePublicKey) : SharedSecret :=
  if (secret = sampleNodeSecret ∧ other = sampleClientPublic) ∨
      (secret = sampleEphemeral ∧ other = sampleNodePublic) then sampleShared
  else Vector.replicate 32 1

def sampleCipher : SessionCipher where
  encrypt key nonce plain :=
    if key = sampleWrapKey ∧ nonce = sampleNonce ∧ plain = sampleSessionKey.toList then some sampleSealed
    else some (plain ++ List.replicate 16 0)
  decrypt key nonce sealed :=
    if key = sampleWrapKey ∧ nonce = sampleNonce ∧ sealed = sampleSealed then some sampleSessionKey.toList
    else some (sealed.take (sealed.length - 16))

def sampleCrates : Crates where
  publicKey := samplePublicKey
  diffieHellman := sampleDiffieHellman
  cipher := sampleCipher
  sha256 data :=
    if data = byteString "deai-wrap-key-v1" ++ sampleShared.toList then sampleWrapKey
    else Vector.replicate 32 0

section

variable {publicKey : Secret → NodePublicKey} {diffieHellman : Secret → NodePublicKey → SharedSecret}
variable {first second : Secret} {firstKey secondKey otherKey : NodePublicKey} {agreed otherShared : SharedSecret}

theorem publicKey_eq_first (keys : ∀ secret, publicKey secret =
      if secret = first then firstKey else if secret = second then secondKey else otherKey)
    (apart : secondKey ≠ firstKey) (unlike : otherKey ≠ firstKey) (secret : Secret) :
    publicKey secret = firstKey ↔ secret = first := by
  rw [keys]
  split_ifs <;> simp_all

theorem publicKey_eq_second (keys : ∀ secret, publicKey secret =
      if secret = first then firstKey else if secret = second then secondKey else otherKey)
    (secrets : first ≠ second) (apart : firstKey ≠ secondKey) (unlike : otherKey ≠ secondKey) (secret : Secret) :
    publicKey secret = secondKey ↔ secret = second := by
  rw [keys]
  split_ifs <;> simp_all

theorem twoParties_commute (ofFirst : ∀ secret, publicKey secret = firstKey ↔ secret = first)
    (ofSecond : ∀ secret, publicKey secret = secondKey ↔ secret = second)
    (agreement : ∀ secret key, diffieHellman secret key =
      if (secret = first ∧ key = secondKey) ∨ (secret = second ∧ key = firstKey) then agreed else otherShared)
    (one other : Secret) : diffieHellman one (publicKey other) = diffieHellman other (publicKey one) := by
  rw [agreement, agreement]
  simp only [ofFirst, ofSecond]
  exact if_congr (by tauto) rfl rfl

theorem twoParties_contributory (agreement : ∀ secret key, diffieHellman secret key =
      if (secret = first ∧ key = secondKey) ∨ (secret = second ∧ key = firstKey) then agreed else otherShared)
    (real : agreed ≠ Vector.replicate 32 0) (unlike : otherShared ≠ Vector.replicate 32 0) (one other : Secret) :
    diffieHellman one (publicKey other) ≠ Vector.replicate 32 0 := by
  rw [agreement]
  split
  · exact real
  · exact unlike

end

/-- A cipher with one known ciphertext, and a tag of zeros for every other text. -/
theorem tableCipher_opens {cipher : SessionCipher} {key : SessionKey} {nonce : Nonce} {text cipherText : List UInt8}
    (encrypts : ∀ otherKey otherNonce plain, cipher.encrypt otherKey otherNonce plain =
      if otherKey = key ∧ otherNonce = nonce ∧ plain = text then some cipherText
      else some (plain ++ List.replicate 16 0))
    (decrypts : ∀ otherKey otherNonce sealed, cipher.decrypt otherKey otherNonce sealed =
      if otherKey = key ∧ otherNonce = nonce ∧ sealed = cipherText then some text
      else some (sealed.take (sealed.length - 16)))
    (tag : cipherText.getLast? ≠ some 0) : cipher.Opens := by
  intro otherKey otherNonce plain
  by_cases known : otherKey = key ∧ otherNonce = nonce ∧ plain = text
  · refine ⟨cipherText, (encrypts _ _ _).trans (if_pos known), ?_⟩
    rw [decrypts, if_pos ⟨known.1, known.2.1, rfl⟩, known.2.2]
  · refine ⟨plain ++ List.replicate 16 0, (encrypts _ _ _).trans (if_neg known), ?_⟩
    have apart : plain ++ List.replicate 16 0 ≠ cipherText := by
      rintro rfl
      exact tag (by simp [List.getLast?_append])
    rw [decrypts, if_neg fun hit => apart hit.2.2, List.length_append, List.length_replicate, Nat.add_sub_cancel,
      List.take_left]

theorem sampleCrates_sound : sampleCrates.Sound where
  commutes := twoParties_commute
    (publicKey_eq_first (fun _ => rfl) (by decide +kernel) (by decide +kernel))
    (publicKey_eq_second (fun _ => rfl) (by decide +kernel) (by decide +kernel) (by decide +kernel)) (fun _ _ => rfl)
  contributory := twoParties_contributory (fun _ _ => rfl) (by decide +kernel) (by decide +kernel)
  opens key nonce plain := tableCipher_opens (fun _ _ _ => rfl) (fun _ _ _ => rfl) (by decide) key nonce plain.toList

/-- The packages that compute what the crates do. -/
def packagesOf (crates : Crates) : Packages where
  getPublicKey secret := do
    let secret ← publicKeyOf secret
    return (crates.publicKey secret).toList
  getSharedSecret secret other := do
    let secret ← publicKeyOf secret
    let other ← publicKeyOf other
    let shared := crates.diffieHellman secret other
    if shared = Vector.replicate 32 0 then .error "invalid private or public key received"
    else .ok shared.toList
  sha256 data := (crates.sha256 data).toList
  encrypt key iv plain :=
    if long : iv.length = 12 then
      match crates.cipher.encrypt key ⟨iv.toArray, long⟩ plain with
      | some sealed => .ok sealed
      | none => .error "OperationError"
    else .error "OperationError"
  decrypt key iv sealed :=
    if long : iv.length = 12 then
      match crates.cipher.decrypt key ⟨iv.toArray, long⟩ sealed with
      | some plain => .ok plain
      | none => .error "OperationError"
    else .error "OperationError"

theorem packagesOf_implements (crates : Crates) : (packagesOf crates).Implements crates where
  publicKey secret := by
    simp only [packagesOf, publicKeyOf_toList, ok_bind]
    rfl
  sharedSecret secret other nonzero := by
    simp only [packagesOf, publicKeyOf_toList, ok_bind, if_neg nonzero]
  sha256 _ := rfl
  encrypt key nonce plain sealed encrypted := by
    have long : nonce.toList.length = 12 := by simp
    simp only [packagesOf, dif_pos long, toVector_toList, encrypted]
  decrypt key nonce sealed plain decrypted := by
    have long : nonce.toList.length = 12 := by simp
    simp only [packagesOf, dif_pos long, toVector_toList, decrypted]

theorem session_key_handed_over_sample :
    handOff sampleCrates (packagesOf sampleCrates) .rust .typescript sampleNodeSecret sampleEphemeral
        sampleNonce sampleSessionKey = .ok sampleSessionKey ∧
      handOff sampleCrates (packagesOf sampleCrates) .typescript .rust sampleNodeSecret sampleEphemeral
        sampleNonce sampleSessionKey = .ok sampleSessionKey := by
  have returned := (session_key_handed_over sampleCrates (packagesOf sampleCrates) sampleCrates_sound
    (packagesOf_implements sampleCrates)).1
  exact ⟨returned .rust .typescript _ _ _ _, returned .typescript .rust _ _ _ _⟩

end Pinaivu.Sdk
