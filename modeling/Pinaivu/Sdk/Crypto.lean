import Pinaivu.Context.Handoff

/-!
The TypeScript side of the hand-off and of the encrypted blobs, `sdk/src/crypto.ts`.
-/

namespace Pinaivu.Sdk

open Context

/-- What is used of WebCrypto, `@noble/curves` and `@noble/hashes`. -/
structure Packages where
  getPublicKey : List UInt8 → Except String (List UInt8)
  getSharedSecret : List UInt8 → List UInt8 → Except String (List UInt8)
  sha256 : List UInt8 → List UInt8
  /-- AES-GCM under an initialisation vector of any length. -/
  encrypt : SessionKey → List UInt8 → List UInt8 → Except String (List UInt8)
  decrypt : SessionKey → List UInt8 → List UInt8 → Except String (List UInt8)

/-- Both languages use the same functions; only `getSharedSecret` refuses a shared secret of
zeros. -/
structure Packages.Implements (packages : Packages) (crates : Crates) : Prop where
  publicKey : ∀ secret, packages.getPublicKey secret.toList = .ok (crates.publicKey secret).toList
  sharedSecret : ∀ secret other, crates.diffieHellman secret other ≠ Vector.replicate 32 0 →
    packages.getSharedSecret secret.toList other.toList = .ok (crates.diffieHellman secret other).toList
  sha256 : ∀ data, packages.sha256 data = (crates.sha256 data).toList
  encrypt : ∀ key nonce plain sealed, crates.cipher.encrypt key nonce plain = some sealed →
    packages.encrypt key nonce.toList plain = .ok sealed
  decrypt : ∀ key nonce sealed plain, crates.cipher.decrypt key nonce sealed = some plain →
    packages.decrypt key nonce.toList sealed = .ok plain

/-- `target.set(source, offset)` of a `Uint8Array`. -/
def setBytes (target source : List UInt8) (offset : Nat) : Except String (List UInt8) :=
  if offset + source.length ≤ target.length then
    .ok (target.take offset ++ source ++ target.drop (offset + source.length))
  else .error "offset is out of bounds"

def encodeText (text : String) : List UInt8 := text.toUTF8.data.toList

def SessionKey.fromBytes (bytes : List UInt8) : Except String SessionKey :=
  if long : bytes.length = 32 then .ok ⟨bytes.toArray, long⟩
  else .error "SessionKey must be 32 bytes"

structure EncryptedBlob where
  ciphertext : List UInt8
  nonce : List UInt8
  deriving DecidableEq

def EncryptedBlob.toBytes (blob : EncryptedBlob) : Except String (List UInt8) := do
  let out := List.replicate (12 + blob.ciphertext.length) 0
  let out ← setBytes out blob.nonce 0
  setBytes out blob.ciphertext 12

def EncryptedBlob.fromBytes (bytes : List UInt8) : Except String EncryptedBlob :=
  if bytes.length < 12 then .error "EncryptedBlob too short"
  else .ok { nonce := bytes.take 12, ciphertext := bytes.drop 12 }

structure Handshake where
  clientPubKey : List UInt8
  wrappedKey : List UInt8
  deriving DecidableEq

section

variable (packages : Packages)

/-- The nonce is the one that the call draws. -/
def SessionKey.encrypt (key : SessionKey) (nonce : Nonce) (plaintext : List UInt8) :
    Except String EncryptedBlob := do
  let ciphertext ← packages.encrypt key nonce.toList plaintext
  return { ciphertext, nonce := nonce.toList }

def SessionKey.decrypt (key : SessionKey) (blob : EncryptedBlob) : Except String (List UInt8) :=
  packages.decrypt key blob.nonce blob.ciphertext

def deriveWrapKey (sharedSecret : List UInt8) : Except String (List UInt8) := do
  let label := encodeText "deai-wrap-key-v1"
  let message := List.replicate (label.length + sharedSecret.length) 0
  let message ← setBytes message label 0
  let message ← setBytes message sharedSecret label.length
  return packages.sha256 message

structure KeyPair where
  privKey : List UInt8
  pubKey : List UInt8
  derived : packages.getPublicKey privKey = .ok pubKey

abbrev EphemeralKeyPair := KeyPair packages

abbrev NodeStaticKeyPair := KeyPair packages

variable {packages}

/-- The private key is the one that the call draws. -/
def KeyPair.generate (privKey : Secret) : Except String (KeyPair packages) :=
  match derived : packages.getPublicKey privKey.toList with
  | .ok pubKey => .ok ⟨privKey.toList, pubKey, derived⟩
  | .error reason => .error reason

def EphemeralKeyPair.wrapSessionKey (pair : EphemeralKeyPair packages) (nonce : Nonce)
    (nodeStaticPubKey : List UInt8) (sessionKey : SessionKey) : Except String Handshake := do
  let sharedSecret ← packages.getSharedSecret pair.privKey nodeStaticPubKey
  let wrapKey ← deriveWrapKey packages sharedSecret
  let wrapKeyObj ← SessionKey.fromBytes wrapKey
  let blob ← SessionKey.encrypt packages wrapKeyObj nonce sessionKey.toList
  let wrappedKey ← blob.toBytes
  return { clientPubKey := pair.pubKey, wrappedKey }

def NodeStaticKeyPair.unwrapSessionKey (pair : NodeStaticKeyPair packages)
    (clientPubKey wrappedKey : List UInt8) : Except String SessionKey := do
  let sharedSecret ← packages.getSharedSecret pair.privKey clientPubKey
  let wrapKey ← deriveWrapKey packages sharedSecret
  let wrapKeyObj ← SessionKey.fromBytes wrapKey
  let blob ← EncryptedBlob.fromBytes wrappedKey
  let rawKey ← SessionKey.decrypt packages wrapKeyObj blob
  SessionKey.fromBytes rawKey

end

theorem setBytes_start (source rest : List UInt8) (filler : UInt8) :
    setBytes (List.replicate (source.length + rest.length) filler) source 0 =
      .ok (source ++ List.replicate rest.length filler) := by
  simp [setBytes]

theorem setBytes_end (first source : List UInt8) (filler : UInt8) {offset : Nat} (here : offset = first.length) :
    setBytes (first ++ List.replicate source.length filler) source offset = .ok (first ++ source) := by
  subst here
  simp [setBytes]

theorem toBytes_eq {blob : EncryptedBlob} (whole : blob.nonce.length = 12) :
    blob.toBytes = .ok (blob.nonce ++ blob.ciphertext) := by
  have first := setBytes_start blob.nonce blob.ciphertext 0
  rw [whole] at first
  simp only [EncryptedBlob.toBytes, first, ok_bind]
  exact setBytes_end blob.nonce blob.ciphertext 0 whole.symm

theorem fromBytes_short {bytes : List UInt8} (short : bytes.length < 12) :
    EncryptedBlob.fromBytes bytes = .error "EncryptedBlob too short" := if_pos short

theorem fromBytes_append {nonce : List UInt8} (whole : nonce.length = 12) (ciphertext : List UInt8) :
    EncryptedBlob.fromBytes (nonce ++ ciphertext) = .ok ⟨ciphertext, nonce⟩ := by
  have first : (nonce ++ ciphertext).take 12 = nonce := List.take_left' whole
  have rest : (nonce ++ ciphertext).drop 12 = ciphertext := List.drop_left' whole
  rw [EncryptedBlob.fromBytes, if_neg (by simp [whole]), first, rest]

theorem fromBytes_nonce {bytes : List UInt8} {blob : EncryptedBlob}
    (read : EncryptedBlob.fromBytes bytes = .ok blob) : blob.nonce.length = 12 := by
  unfold EncryptedBlob.fromBytes at read
  split at read
  · cases read
  · rename_i long
    obtain rfl := Except.ok.inj read
    simp only [List.length_take]
    omega

theorem fromBytes_toBytes_iff (blob : EncryptedBlob) :
    (blob.toBytes >>= EncryptedBlob.fromBytes) = .ok blob ↔ blob.nonce.length = 12 := by
  constructor
  · intro same
    cases written : blob.toBytes with
    | error reason => rw [written] at same; cases same
    | ok bytes =>
        rw [written] at same
        exact fromBytes_nonce same
  · intro whole
    rw [toBytes_eq whole, ok_bind, fromBytes_append whole]

theorem toBytes_fromBytes_iff (bytes : List UInt8) :
    (EncryptedBlob.fromBytes bytes >>= EncryptedBlob.toBytes) = .ok bytes ↔ 12 ≤ bytes.length := by
  constructor
  · intro same
    by_contra short
    rw [fromBytes_short (by omega)] at same
    cases same
  · intro long
    have whole : (bytes.take 12).length = 12 := by simp [long]
    rw [EncryptedBlob.fromBytes, if_neg (by omega), ok_bind, toBytes_eq whole]
    simp

theorem sessionKey_fromBytes (key : SessionKey) : SessionKey.fromBytes key.toList = .ok key := by
  have long : key.toList.length = 32 := by simp
  rw [SessionKey.fromBytes, dif_pos long]
  exact congrArg Except.ok (toVector_toList key _)

end Pinaivu.Sdk
