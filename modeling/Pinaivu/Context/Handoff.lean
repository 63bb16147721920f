import Pinaivu.Context.SessionIndex

/-!
The hand-off of a session key of `crates/context/src/crypto.rs`: the client wraps the key for a
node with an ephemeral X25519 secret, and the node unwraps it with its static one.
-/

namespace Pinaivu.Context

abbrev Secret := Vector UInt8 32

abbrev NodePublicKey := Vector UInt8 32

abbrev SharedSecret := Vector UInt8 32

/-- What is used of `x25519-dalek`, `aes-gcm` and `sha2`. -/
structure Crates where
  publicKey : Secret → NodePublicKey
  diffieHellman : Secret → NodePublicKey → SharedSecret
  cipher : SessionCipher
  sha256 : List UInt8 → Vector UInt8 32

structure Crates.Sound (crates : Crates) : Prop where
  commutes : ∀ first second, crates.diffieHellman first (crates.publicKey second) =
    crates.diffieHellman second (crates.publicKey first)
  /-- The public key of a clamped secret is no point of small order. -/
  contributory : ∀ first second,
    crates.diffieHellman first (crates.publicKey second) ≠ Vector.replicate 32 0
  opens : ∀ key nonce, ∀ plain : SessionKey, ∃ sealed,
    crates.cipher.encrypt key nonce plain.toList = some sealed ∧
      crates.cipher.decrypt key nonce sealed = some plain.toList

def byteString (text : String) : List UInt8 := text.toList.map fun char => char.toNat.toUInt8

/-- `EncryptedBlob::from_bytes` with the text of its error. -/
def EncryptedBlob.readBytes (data : List UInt8) : Except String EncryptedBlob :=
  match EncryptedBlob.fromBytes data with
  | some blob => .ok blob
  | none => .error ("encrypted blob too short: " ++ toString data.length ++ " bytes")

section

variable (crates : Crates)

def SessionKey.encrypt (key : SessionKey) (nonce : Nonce) (plaintext : List UInt8) :
    Except String EncryptedBlob :=
  match crates.cipher.encrypt key nonce plaintext with
  | some ciphertext => .ok ⟨ciphertext, nonce⟩
  | none => .error "AES-GCM encrypt: aead::Error"

def SessionKey.decrypt (key : SessionKey) (blob : EncryptedBlob) : Except String (List UInt8) :=
  match crates.cipher.decrypt key blob.nonce blob.ciphertext with
  | some plaintext => .ok plaintext
  | none => .error "AES-GCM decrypt (wrong key or corrupted blob): aead::Error"

def deriveWrapKey (sharedSecret : SharedSecret) : SessionKey :=
  crates.sha256 (byteString "deai-wrap-key-v1" ++ sharedSecret.toList)

structure KeyPair where
  secret : Secret
  publicKey : NodePublicKey
  derived : publicKey = crates.publicKey secret

abbrev EphemeralKeyPair := KeyPair crates

abbrev NodeStaticKeypair := KeyPair crates

variable {crates}

/-- The secret is the one that the call draws. -/
def EphemeralKeyPair.generate (secret : Secret) : EphemeralKeyPair crates :=
  ⟨secret, crates.publicKey secret, rfl⟩

def NodeStaticKeypair.fromSecretBytes (secret : Secret) : NodeStaticKeypair crates :=
  ⟨secret, crates.publicKey secret, rfl⟩

/-- The nonce is the one that `encrypt` draws. -/
def EphemeralKeyPair.encryptSessionKey (pair : EphemeralKeyPair crates) (nonce : Nonce)
    (nodePublic : NodePublicKey) (sessionKey : SessionKey) :
    Except String (NodePublicKey × List UInt8) := do
  let shared := crates.diffieHellman pair.secret nodePublic
  let wrapKey := deriveWrapKey crates shared
  let wrapped ← wrapKey.encrypt crates nonce sessionKey.toList
  return (pair.publicKey, wrapped.toBytes)

def NodeStaticKeypair.decryptSessionKey (pair : NodeStaticKeypair crates)
    (clientPublic : NodePublicKey) (encryptedKey : List UInt8) : Except String SessionKey := do
  let shared := crates.diffieHellman pair.secret clientPublic
  let wrapKey := deriveWrapKey crates shared
  let blob ← EncryptedBlob.readBytes encryptedKey
  let raw ← wrapKey.decrypt crates blob
  if long : raw.length = 32 then return ⟨raw.toArray, long⟩
  else .error ("decrypted session key has wrong length: " ++ toString raw.length)

end

@[simp] theorem ok_bind {Failure First Second : Type} (first : First)
    (next : First → Except Failure Second) : (Except.ok first >>= next) = next first := rfl

theorem toVector_toList {size : Nat} (bytes : Vector UInt8 size) (long : bytes.toList.toArray.size = size) :
    (⟨bytes.toList.toArray, long⟩ : Vector UInt8 size) = bytes := by
  apply Vector.toList_inj.mp
  simp [Vector.toList]

theorem toBytes_of_fromBytes {data : List UInt8} {blob : EncryptedBlob}
    (read : EncryptedBlob.fromBytes data = some blob) : blob.toBytes = data := by
  unfold EncryptedBlob.fromBytes at read
  split at read
  · obtain rfl := Option.some.inj read
    simp [EncryptedBlob.toBytes, Vector.toList]
  · contradiction

theorem readBytes_toBytes (blob : EncryptedBlob) : EncryptedBlob.readBytes blob.toBytes = .ok blob := by
  rw [EncryptedBlob.readBytes, fromBytes_toBytes]

theorem readBytes_short {data : List UInt8} (short : data.length < 12) :
    EncryptedBlob.readBytes data =
      .error ("encrypted blob too short: " ++ toString data.length ++ " bytes") := by
  have refused : EncryptedBlob.fromBytes data = none := by
    rw [EncryptedBlob.fromBytes, dif_neg (by omega)]
  rw [EncryptedBlob.readBytes, refused]

theorem map_toBytes_readBytes {data : List UInt8} (long : 12 ≤ data.length) :
    (EncryptedBlob.readBytes data).map EncryptedBlob.toBytes = .ok data := by
  obtain ⟨blob, read⟩ : ∃ blob, EncryptedBlob.fromBytes data = some blob := by
    rw [EncryptedBlob.fromBytes, dif_pos long]
    exact ⟨_, rfl⟩
  rw [EncryptedBlob.readBytes, read, Except.map, toBytes_of_fromBytes read]

theorem map_toBytes_readBytes_iff (data : List UInt8) :
    (EncryptedBlob.readBytes data).map EncryptedBlob.toBytes = .ok data ↔ 12 ≤ data.length := by
  constructor
  · intro same
    by_contra short
    rw [readBytes_short (by omega)] at same
    cases same
  · exact map_toBytes_readBytes

section

variable {crates : Crates}

theorem encryptSessionKey_ok (sound : crates.Sound) (pair : EphemeralKeyPair crates)
    (node : NodeStaticKeypair crates) (nonce : Nonce) (key : SessionKey) :
    ∃ sealed, pair.encryptSessionKey nonce node.publicKey key =
        .ok (pair.publicKey, EncryptedBlob.toBytes ⟨sealed, nonce⟩) ∧
      crates.cipher.encrypt (deriveWrapKey crates (crates.diffieHellman pair.secret node.publicKey))
        nonce key.toList = some sealed ∧
      crates.cipher.decrypt (deriveWrapKey crates (crates.diffieHellman node.secret pair.publicKey))
        nonce sealed = some key.toList := by
  have shared : crates.diffieHellman node.secret pair.publicKey =
      crates.diffieHellman pair.secret node.publicKey := by
    rw [pair.derived, node.derived]
    exact sound.commutes _ _
  obtain ⟨sealed, encrypted, decrypted⟩ :=
    sound.opens (deriveWrapKey crates (crates.diffieHellman pair.secret node.publicKey)) nonce key
  refine ⟨sealed, ?_, encrypted, shared ▸ decrypted⟩
  simp only [EphemeralKeyPair.encryptSessionKey, SessionKey.encrypt, encrypted, ok_bind]
  rfl

theorem decryptSessionKey_ok (node : NodeStaticKeypair crates) (clientPublic : NodePublicKey)
    {sealed : List UInt8} {nonce : Nonce} {key : SessionKey}
    (decrypted : crates.cipher.decrypt (deriveWrapKey crates (crates.diffieHellman node.secret clientPublic))
      nonce sealed = some key.toList) :
    node.decryptSessionKey clientPublic (EncryptedBlob.toBytes ⟨sealed, nonce⟩) = .ok key := by
  have long : key.toList.length = 32 := by simp
  simp only [NodeStaticKeypair.decryptSessionKey, readBytes_toBytes, ok_bind, SessionKey.decrypt, decrypted,
    dif_pos long]
  exact congrArg Except.ok (toVector_toList key _)

end

end Pinaivu.Context
