import Mathlib.Data.List.Basic
import Pinaivu.Common.Types
import Pinaivu.Lib.JsonText

/-!
The signed text of a `ProofOfInference`, its signature and its verification. Ed25519
is a parameter; `serde_json` writes the struct as a compact JSON object.
-/

namespace Pinaivu

open JsonText

def unsignedJson (value : Nat) : Json := .number (.ofNat value)

def uuidJson (id : Uuid) : Json := .string id.toText

def bytesJson {length : Nat} (bytes : Vector UInt8 length) : Json :=
  .array (bytes.toList.map fun byte => unsignedJson byte.toNat)

def optionJson : Option String → Json
  | none => .null
  | some text => .string text

namespace ProofOfInference

def signable (proof : ProofOfInference) : Json := .object
  [("request_id", uuidJson proof.requestId),
    ("session_id", uuidJson proof.sessionId),
    ("node_peer_id", .string proof.nodePeerId),
    ("client_address", .string proof.clientAddress),
    ("model_id", .string proof.modelId),
    ("input_tokens", unsignedJson proof.inputTokens.toNat),
    ("output_tokens", unsignedJson proof.outputTokens.toNat),
    ("latency_ms", unsignedJson proof.latencyMs.toNat),
    ("price_paid_nanox", unsignedJson proof.pricePaidNanox.toNat),
    ("timestamp", unsignedJson proof.timestamp.toNat),
    ("input_hash", bytesJson proof.inputHash),
    ("output_hash", bytesJson proof.outputHash),
    ("settlement_id", .string proof.settlementId),
    ("escrow_tx_id", optionJson proof.escrowTxId),
    ("node_pubkey", bytesJson proof.nodePubkey)]

def canonicalBytes (proof : ProofOfInference) : ByteArray := toBytes proof.signable

def id (sha256 : ByteArray → Vector UInt8 32) (proof : ProofOfInference) : Vector UInt8 32 :=
  sha256 proof.canonicalBytes

end ProofOfInference

structure Ed25519 (SigningKey : Type) where
  verifyingKey : SigningKey → Vector UInt8 32
  sign : SigningKey → ByteArray → Vector UInt8 64
  isVerifyingKey : Vector UInt8 32 → Bool
  verify : Vector UInt8 32 → ByteArray → Vector UInt8 64 → Bool

namespace Ed25519

variable {SigningKey : Type} (scheme : Ed25519 SigningKey)

def Correct : Prop :=
  ∀ key message, scheme.isVerifyingKey (scheme.verifyingKey key) = true ∧
    scheme.verify (scheme.verifyingKey key) message (scheme.sign key message) = true

/-- The signature of a message is a valid signature of no other message, under any key. -/
def Unforgeable (key : SigningKey) (message : ByteArray) : Prop :=
  ∀ verifyingKey other, scheme.isVerifyingKey verifyingKey = true →
    scheme.verify verifyingKey other (scheme.sign key message) = true → other = message

end Ed25519

section

variable {SigningKey : Type} (scheme : Ed25519 SigningKey)

def ProofOfInference.verify (proof : ProofOfInference) : Bool :=
  if scheme.isVerifyingKey proof.nodePubkey then
    if sized : proof.signature.length = 64 then
      scheme.verify proof.nodePubkey proof.canonicalBytes ⟨proof.signature.toArray, sized⟩
    else false
  else false

def signProof (key : SigningKey) (proof : ProofOfInference) : ProofOfInference :=
  let keyed := { proof with nodePubkey := scheme.verifyingKey key }
  { keyed with signature := (scheme.sign key keyed.canonicalBytes).toList }

end

theorem unsignedJson_injective : Function.Injective unsignedJson := by
  intro first second same
  exact NumberToken.ofNat_injective (Json.number.inj same)

theorem uuidJson_injective : Function.Injective uuidJson := by
  intro first second same
  exact Uuid.toText_injective (Json.string.inj same)

theorem bytesJson_injective {length : Nat} :
    Function.Injective (bytesJson : Vector UInt8 length → Json) := by
  intro first second same
  have each : Function.Injective fun byte : UInt8 => unsignedJson byte.toNat := by
    intro first second same
    exact UInt8.toNat_inj.mp (unsignedJson_injective same)
  exact Vector.toList_inj.mp (List.map_injective_iff.mpr each (Json.array.inj same))

theorem optionJson_injective : Function.Injective optionJson := by
  intro first second same
  cases first <;> cases second <;> simp_all [optionJson]

theorem ProofOfInference.eq_of_signable {first second : ProofOfInference}
    (same : first.signable = second.signable) : { first with signature := second.signature } = second := by
  simp only [signable, Json.object.injEq, List.cons.injEq, Prod.mk.injEq, true_and, and_true,
    Json.string.injEq] at same
  obtain ⟨requestId, sessionId, nodePeerId, clientAddress, modelId, inputTokens, outputTokens,
    latencyMs, pricePaid, timestamp, inputHash, outputHash, settlementId, escrowTxId, nodePubkey⟩ := same
  cases first
  cases second
  simp only [mk.injEq, and_true]
  exact ⟨uuidJson_injective requestId, uuidJson_injective sessionId, nodePeerId, clientAddress, modelId,
    UInt32.toNat_inj.mp (unsignedJson_injective inputTokens),
    UInt32.toNat_inj.mp (unsignedJson_injective outputTokens),
    UInt32.toNat_inj.mp (unsignedJson_injective latencyMs),
    UInt64.toNat_inj.mp (unsignedJson_injective pricePaid),
    UInt64.toNat_inj.mp (unsignedJson_injective timestamp),
    bytesJson_injective inputHash, bytesJson_injective outputHash, settlementId,
    optionJson_injective escrowTxId, bytesJson_injective nodePubkey⟩

theorem vector_of_list {length : Nat} {vector : Vector UInt8 length} {bytes : List UInt8}
    (same : bytes = vector.toList) (sized : bytes.length = length) :
    (⟨bytes.toArray, sized⟩ : Vector UInt8 length) = vector := by
  subst same
  simp [Vector.toList]

variable {SigningKey : Type} (scheme : Ed25519 SigningKey)

theorem signature_signProof (key : SigningKey) (proof : ProofOfInference) :
    (signProof scheme key proof).signature =
      (scheme.sign key (signProof scheme key proof).canonicalBytes).toList := rfl

theorem canonicalBytes_signProof {key : SigningKey} {proof : ProofOfInference}
    (keyed : scheme.verifyingKey key = proof.nodePubkey) :
    (signProof scheme key proof).canonicalBytes = proof.canonicalBytes := by
  simp only [signProof, keyed]
  rfl

theorem verify_signProof (correct : scheme.Correct) (key : SigningKey) (proof : ProofOfInference) :
    (signProof scheme key proof).verify scheme = true := by
  obtain ⟨valid, verified⟩ := correct key (signProof scheme key proof).canonicalBytes
  have sized : (signProof scheme key proof).signature.length = 64 := by
    rw [signature_signProof, Vector.length_toList]
  have signer : (signProof scheme key proof).nodePubkey = scheme.verifyingKey key := rfl
  have signature := vector_of_list (signature_signProof scheme key proof) sized
  simp only [ProofOfInference.verify, sized, signer, signature, valid, verified, if_true, dite_true]

/-- The signed bytes determine every field but the signature, so a signed proof
verifies and no other proof verifies with its signature. -/
theorem canonicalBytes_determine (correct : scheme.Correct) :
    (∀ first second : ProofOfInference, first.canonicalBytes = second.canonicalBytes →
      { first with signature := second.signature } = second) ∧
    ∀ key proof, (signProof scheme key proof).verify scheme = true ∧
      (scheme.Unforgeable key (signProof scheme key proof).canonicalBytes →
        ∀ changed, changed.signature = (signProof scheme key proof).signature →
          changed ≠ signProof scheme key proof → changed.verify scheme = false) := by
  have determines : ∀ first second : ProofOfInference, first.canonicalBytes = second.canonicalBytes →
      { first with signature := second.signature } = second := by
    intro first second same
    exact ProofOfInference.eq_of_signable (toBytes_injective same)
  refine ⟨determines, fun key proof => ⟨verify_signProof scheme correct key proof, ?_⟩⟩
  intro unforgeable changed sameSignature different
  by_contra accepted
  rw [Bool.not_eq_false, ProofOfInference.verify] at accepted
  split_ifs at accepted with valid sized
  rw [vector_of_list (sameSignature.trans (signature_signProof scheme key proof)) sized] at accepted
  have same := determines changed _ (unforgeable _ _ valid accepted)
  rw [← sameSignature] at same
  exact different same

def sampleProof : ProofOfInference where
  requestId := ⟨Vector.replicate 16 1⟩
  sessionId := ⟨Vector.replicate 16 2⟩
  nodePeerId := "peer_node"
  clientAddress := "0xClient"
  modelId := "llama3.1:8b"
  inputTokens := 100
  outputTokens := 200
  latencyMs := 150
  pricePaidNanox := 500
  timestamp := 1700000000
  inputHash := Vector.replicate 32 1
  outputHash := Vector.replicate 32 2
  settlementId := "free"
  escrowTxId := none
  nodePubkey := Vector.replicate 32 9
  signature := []

def ProofOfInference.tampered (proof : ProofOfInference) : ProofOfInference :=
  { proof with outputTokens := proof.outputTokens + 1 }

theorem ProofOfInference.tampered_signature (proof : ProofOfInference) :
    proof.tampered.signature = proof.signature := rfl

theorem ProofOfInference.tampered_ne (proof : ProofOfInference) : proof.tampered ≠ proof := by
  intro same
  have tokens : proof.outputTokens + 1 = proof.outputTokens := congrArg outputTokens same
  have values := congrArg UInt32.toNat tokens
  have bound := proof.outputTokens.toNat_lt
  rw [UInt32.toNat_add] at values
  simp only [UInt32.reduceToNat] at values
  omega

def oneMessage (message : ByteArray) : Ed25519 Unit where
  verifyingKey := fun _ => Vector.replicate 32 9
  sign := fun _ signed => if signed.data = message.data then Vector.replicate 64 1 else Vector.replicate 64 2
  isVerifyingKey := fun key => key = Vector.replicate 32 9
  verify := fun _ signed signature =>
    signature = if signed.data = message.data then Vector.replicate 64 1 else Vector.replicate 64 2

theorem oneMessage_correct (message : ByteArray) : (oneMessage message).Correct := by
  intro key signed
  simp [oneMessage]

theorem oneMessage_unforgeable (message : ByteArray) : (oneMessage message).Unforgeable () message := by
  intro verifyingKey other _ accepted
  by_contra different
  have apart : other.data ≠ message.data := fun same => different (ByteArray.ext same)
  have distinct : (Vector.replicate 64 1 : Vector UInt8 64) ≠ Vector.replicate 64 2 := by decide
  simp [oneMessage, apart, distinct] at accepted

theorem canonicalBytes_determine_tampered :
    (signProof (oneMessage sampleProof.canonicalBytes) () sampleProof).verify
        (oneMessage sampleProof.canonicalBytes) = true ∧
      (signProof (oneMessage sampleProof.canonicalBytes) () sampleProof).tampered.verify
        (oneMessage sampleProof.canonicalBytes) = false := by
  generalize written : sampleProof.canonicalBytes = message
  have signed : (signProof (oneMessage message) () sampleProof).canonicalBytes = message :=
    (canonicalBytes_signProof (oneMessage message) rfl).trans written
  obtain ⟨verified, changed⟩ :=
    (canonicalBytes_determine (oneMessage message) (oneMessage_correct message)).2 () sampleProof
  refine ⟨verified, changed ?_ _ (ProofOfInference.tampered_signature _)
    (ProofOfInference.tampered_ne _)⟩
  rw [signed]
  exact oneMessage_unforgeable message

end Pinaivu
