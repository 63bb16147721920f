import Pinaivu.Common.CanonicalBytes
import Pinaivu.Lib.Base58
import Pinaivu.Lib.Hex
import Pinaivu.Programs.AccountChecks
import Pinaivu.Settlement.Adapter
import Pinaivu.Settlement.SolanaInstructions

/-!
The escrow calls of the adapter in `settlement/solana.rs`, up to the instructions that they send.
SHA-256 and Ed25519 are other crates.
-/

namespace Pinaivu.Solana

open Settlement Program.Interface

inductive Failure where
  | message (text : String)
  | panic
  deriving DecidableEq, Repr

/-- `with_context`: the new text stands before the error. A panic stays one. -/
def withContext {Value : Type} (text : String) : Except Failure Value → Except Failure Value
  | .error (.message _) => .error (.message text)
  | outcome => outcome

def decodePubkey (text : String) : Except Failure Key :=
  match Base58.decode text.toList with
  | none => .error (.message ("base58 decode failed for '" ++ text ++ "'"))
  | some bytes =>
      if size : bytes.length = 32 then .ok ⟨bytes.toArray, size⟩
      else .error (.message ("expected 32-byte pubkey, got a different length for '" ++ text ++ "'"))

def encodePubkey (bytes : Key) : String := String.ofList (Base58.encode bytes.toList)

def seedEscrow : List UInt8 := "escrow".toUTF8.data.toList

def seedScore : List UInt8 := "score".toUTF8.data.toList

structure SolanaConfig where
  programIdStr : String
  keypairHex : Option String
  deriving DecidableEq, Repr

/-- The adapter with the part of its configuration that the escrow calls read. -/
structure SolanaAdapter extends SolanaSettlement where
  config : SolanaConfig
  deriving DecidableEq, Repr

/-- A call that gets to `send`: the instructions of its transaction, the context of an error in
sending them, and what it returns for the signature. -/
structure Sending (Value : Type) where
  instructions : List Ix
  context : String
  result : String → Value

section

variable (sha256 : List UInt8 → Vector UInt8 32) (isOnEd25519Curve : Key → Bool)
variable (verifyingKey : Vector UInt8 32 → Key)

def pdaAddress (seeds : List (List UInt8)) (programId : Key) : Except Failure Key :=
  match findPda sha256 isOnEd25519Curve seeds programId with
  | none => .error .panic
  | some (address, _) => .ok address

namespace SolanaAdapter

def new (config : SolanaConfig) : Except Failure SolanaAdapter := do
  let programId ← withContext ("SolanaSettlement: invalid program_id '" ++ config.programIdStr ++ "'")
    (decodePubkey config.programIdStr)
  let statePda ← pdaAddress sha256 isOnEd25519Curve [seedState] programId
  return { programId, statePda, config }

variable (adapter : SolanaAdapter)

/-- The seed of the signing key. Slicing fewer than 32 bytes panics. -/
def signingKey : Except Failure (Vector UInt8 32) :=
  match adapter.config.keypairHex with
  | none => .error (.message "SolanaSettlement: signer_key_hex not configured — read-only mode")
  | some text =>
      match Hex.decode text.toList with
      | none => .error (.message "SolanaSettlement: signer_key_hex is not valid hex")
      | some bytes =>
          if size : (bytes.take 32).length = 32 then .ok ⟨(bytes.take 32).toArray, size⟩ else .error .panic

def signerPubkey : Except Failure Key := do
  let seed ← adapter.signingKey
  return verifyingKey seed

def escrowPda (requestId : Vector UInt8 16) : Except Failure Key :=
  pdaAddress sha256 isOnEd25519Curve [seedEscrow, requestId.toList] adapter.programId

def scorePda (nodePubkey : Vector UInt8 32) : Except Failure Key :=
  pdaAddress sha256 isOnEd25519Curve [seedScore, nodePubkey.toList] adapter.programId

def handleFor (escrowPda : Key) (params : EscrowParams) (signature : String) : EscrowHandle where
  settlementId := "solana"
  requestId := params.requestId
  amountNanox := params.amountNanox
  chainTxId := some signature
  payload := .object [("escrow_pda", .string (encodePubkey escrowPda)),
    ("request_id_bytes", .string (String.ofList (Hex.encode params.requestId.bytes.toList)))]

def lockFunds (params : EscrowParams) : Except Failure (Sending EscrowHandle) := do
  let client ← adapter.signerPubkey verifyingKey
  let nodeWallet ← withContext ("SolanaSettlement: invalid node_address '" ++ params.nodeAddress ++ "'")
    (decodePubkey params.nodeAddress)
  let escrowPda ← adapter.escrowPda sha256 isOnEd25519Curve params.requestId.bytes
  return {
    instructions := [ixLockEscrow sha256 adapter.toSolanaSettlement escrowPda client nodeWallet
      params.requestId.bytes params.amountNanox 0]
    context := "SolanaSettlement: lock_escrow failed for " ++ params.requestId.toText
    result := handleFor escrowPda params }

def handleEscrow (handle : EscrowHandle) : Except Failure Key :=
  match (handle.payload.get "escrow_pda").bind Json.asStr with
  | none => .error (.message "SolanaSettlement: escrow_pda missing from handle")
  | some text => decodePubkey text

def releaseFunds (handle : EscrowHandle) (proof : ProofOfInference) : Except Failure (Sending Unit) := do
  let nodeWallet ← adapter.signerPubkey verifyingKey
  let proofHash := proof.id fun bytes => sha256 bytes.data.toList
  let escrowPda ← handleEscrow handle
  let scorePda ← adapter.scorePda sha256 isOnEd25519Curve proof.nodePubkey
  return {
    instructions := [ixReleaseEscrow sha256 adapter.toSolanaSettlement escrowPda nodeWallet proofHash,
      ixSubmitProof sha256 adapter.toSolanaSettlement scorePda nodeWallet proofHash proof.outputTokens
        proof.latencyMs handle.amountNanox]
    context := "SolanaSettlement: release+proof failed for " ++ handle.requestId.toText
    result := fun _ => () }

def refundFunds (handle : EscrowHandle) : Except Failure (Sending Unit) := do
  let client ← adapter.signerPubkey verifyingKey
  let escrowPda ← handleEscrow handle
  return {
    instructions := [ixRefundEscrow sha256 adapter.toSolanaSettlement escrowPda client]
    context := "SolanaSettlement: refund_escrow failed for " ++ handle.requestId.toText
    result := fun _ => () }

end SolanaAdapter

end

def handlerName : Call → String
  | .initializeProgram .. => "initialize"
  | .lockEscrow .. => "lock_escrow"
  | .releaseEscrow .. => "release_escrow"
  | .refundEscrow .. => "refund_escrow"
  | .registerNode .. => "register_node"
  | .updateNode .. => "update_node"
  | .initializeScore .. => "initialize_score"
  | .submitProof .. => "submit_proof"
  | .anchorMerkleRoot .. => "anchor_merkle_root"

section

variable (sha256 : List UInt8 → Vector UInt8 32) (isOnEd25519Curve : Key → Bool) (settlement : SolanaSettlement)

/-- The program reads the instruction as this call, one of those that the escrow calls send. -/
inductive Ix.IsCall (ix : Ix) : Call → Prop
  | lockEscrow {accounts : LockEscrow} {args : LockEscrowArgs}
      (calls : ix.Calls sha256 settlement "lock_escrow" LockEscrowArgs.deserialize args accounts.metas) :
      IsCall ix (.lockEscrow accounts args)
  | releaseEscrow {accounts : ReleaseEscrow} {args : ReleaseEscrowArgs}
      (calls : ix.Calls sha256 settlement "release_escrow" ReleaseEscrowArgs.deserialize args accounts.metas) :
      IsCall ix (.releaseEscrow accounts args)
  | refundEscrow {accounts : RefundEscrow}
      (calls : ix.Calls sha256 settlement "refund_escrow" refundEscrowArgs () accounts.metas) :
      IsCall ix (.refundEscrow accounts)
  | submitProof {accounts : SubmitProof} {args : SubmitProofArgs}
      (calls : ix.Calls sha256 settlement "submit_proof" SubmitProofArgs.deserialize args accounts.metas) :
      IsCall ix (.submitProof accounts args)

/-- The program takes the transaction that the payer alone signs, as calls of these handlers. -/
def Accepted (chain : Chain) (now : Int64) (payer : Key) (instructions : List Ix) (handlers : List String)
    (after : Chain) : Prop :=
  ∃ calls, List.Forall₂ (Ix.IsCall sha256 settlement) instructions calls ∧ calls.map handlerName = handlers ∧
    process sha256 isOnEd25519Curve settlement.programId now ⟨[payer], calls⟩ chain = .ok after

end

section

variable {sha256 : List UInt8 → Vector UInt8 32} {isOnEd25519Curve : Key → Bool} {settlement : SolanaSettlement}

theorem decodePubkey_of {text : String} {key : Key} (decoded : Base58.decode text.toList = some key.toList) :
    decodePubkey text = .ok key := by
  have size : key.toList.length = 32 := key.length_toList
  unfold decodePubkey
  split
  · rename_i failed
    rw [failed] at decoded
    contradiction
  · rename_i bytes found
    obtain rfl := Option.some.inj (found.symm.trans decoded)
    rw [dif_pos size]
    exact congrArg Except.ok (Vector.toArray_inj.mp key.toArray_toList)

theorem decodePubkey_encodePubkey (key : Key) : decodePubkey (encodePubkey key) = .ok key := by
  apply decodePubkey_of
  rw [encodePubkey, String.toList_ofList, Base58.decode_encode]

theorem handleEscrow_handleFor (escrowPda : Key) (params : EscrowParams) (signature : String) :
    SolanaAdapter.handleEscrow (SolanaAdapter.handleFor escrowPda params signature) = .ok escrowPda :=
  decodePubkey_encodePubkey escrowPda

theorem findPda_of_findProgramAddress {seeds : List (List UInt8)} {programId : Key} {found : Key × UInt8}
    (located : findProgramAddress sha256 isOnEd25519Curve programId seeds = some found) :
    findPda sha256 isOnEd25519Curve seeds programId = some found := by
  have nonces : (List.range 256).reverse = bumps ++ [0] := by
    rw [bumps, List.range_succ_eq_map, List.reverse_cons]
  have each (bump : Nat) :
      (createProgramAddress sha256 isOnEd25519Curve programId (seeds ++ [[UInt8.ofNat bump]])).map
        (fun address => (address, UInt8.ofNat bump)) =
      if isOnEd25519Curve (sha256 (pdaInput seeds programId bump)) then none
      else some (sha256 (pdaInput seeds programId bump), UInt8.ofNat bump) := by
    have input : (seeds ++ [[UInt8.ofNat bump]]).flatten ++ programId.toList ++
        "ProgramDerivedAddress".toUTF8.data.toList = pdaInput seeds programId bump := by
      simp only [pdaInput, pdaMarker, List.flatten_append, List.flatten_cons, List.flatten_nil, List.append_nil]
    rw [createProgramAddress, input]
    split <;> rfl
  rw [findProgramAddress] at located
  simp only [each] at located
  rw [findPda, nonces, List.findSome?_append, located]
  rfl

theorem pdaAddress_of_findProgramAddress {seeds : List (List UInt8)} {programId key : Key} {bump : UInt8}
    (located : findProgramAddress sha256 isOnEd25519Curve programId seeds = some (key, bump)) :
    pdaAddress sha256 isOnEd25519Curve seeds programId = .ok key := by
  rw [pdaAddress, findPda_of_findProgramAddress located]

theorem Ix.Calls.unique {Args : Type} {ix : Ix} {handler : String} {deserialize : ByteReader.Reader Args}
    {args other : Args} {metas others : List AccountMeta}
    (first : ix.Calls sha256 settlement handler deserialize args metas)
    (second : ix.Calls sha256 settlement handler deserialize other others) : args = other ∧ metas = others :=
  ⟨Option.some.inj (first.arguments.symm.trans second.arguments), first.accounts.symm.trans second.accounts⟩

theorem lockEscrow_metas_injective {first second : LockEscrow} (same : first.metas = second.metas) :
    first = second := by
  obtain ⟨escrow, programState, client, nodeWallet, systemProgram, isSystem⟩ := first
  obtain ⟨escrow', programState', client', nodeWallet', systemProgram', isSystem'⟩ := second
  simp only [LockEscrow.metas, field, List.cons.injEq, AccountMeta.mk.injEq, and_true] at same
  obtain ⟨rfl, rfl, rfl, rfl, rfl⟩ := same
  rfl

theorem releaseEscrow_metas_injective {first second : ReleaseEscrow} (same : first.metas = second.metas) :
    first = second := by
  obtain ⟨escrow, programState, nodeWallet⟩ := first
  obtain ⟨escrow', programState', nodeWallet'⟩ := second
  simp only [ReleaseEscrow.metas, field, List.cons.injEq, AccountMeta.mk.injEq, and_true] at same
  obtain ⟨rfl, rfl, rfl⟩ := same
  rfl

theorem refundEscrow_metas_injective {first second : RefundEscrow} (same : first.metas = second.metas) :
    first = second := by
  obtain ⟨escrow, client⟩ := first
  obtain ⟨escrow', client'⟩ := second
  simp only [RefundEscrow.metas, field, List.cons.injEq, AccountMeta.mk.injEq, and_true] at same
  obtain ⟨rfl, rfl⟩ := same
  rfl

theorem submitProof_metas_injective {first second : SubmitProof} (same : first.metas = second.metas) :
    first = second := by
  obtain ⟨score, authority⟩ := first
  obtain ⟨score', authority'⟩ := second
  simp only [SubmitProof.metas, field, List.cons.injEq, AccountMeta.mk.injEq, and_true] at same
  obtain ⟨rfl, rfl⟩ := same
  rfl

theorem Ix.IsCall.unique {ix : Ix} {call other : Call} (first : ix.IsCall sha256 settlement call)
    (second : ix.IsCall sha256 settlement other) (named : handlerName call = handlerName other) : call = other := by
  cases first with
  | lockEscrow calls =>
      cases second <;> simp only [handlerName, String.reduceEq] at named
      rename_i otherCalls
      obtain ⟨rfl, metas⟩ := calls.unique otherCalls
      rw [lockEscrow_metas_injective metas]
  | releaseEscrow calls =>
      cases second <;> simp only [handlerName, String.reduceEq] at named
      rename_i otherCalls
      obtain ⟨rfl, metas⟩ := calls.unique otherCalls
      rw [releaseEscrow_metas_injective metas]
  | refundEscrow calls =>
      cases second <;> simp only [handlerName, String.reduceEq] at named
      rename_i otherCalls
      rw [refundEscrow_metas_injective (calls.unique otherCalls).2]
  | submitProof calls =>
      cases second <;> simp only [handlerName, String.reduceEq] at named
      rename_i otherCalls
      obtain ⟨rfl, metas⟩ := calls.unique otherCalls
      rw [submitProof_metas_injective metas]

theorem isCalls_unique {instructions : List Ix} {calls others : List Call}
    (first : List.Forall₂ (Ix.IsCall sha256 settlement) instructions calls)
    (second : List.Forall₂ (Ix.IsCall sha256 settlement) instructions others)
    (named : others.map handlerName = calls.map handlerName) : others = calls := by
  induction first generalizing others with
  | nil => exact List.forall₂_nil_left_iff.mp second
  | cons head _ ih =>
      cases second with
      | cons otherHead otherRest =>
          obtain ⟨sameHead, sameRest⟩ := List.cons_eq_cons.mp named
          rw [otherHead.unique head sameHead, ih otherRest sameRest]

theorem accepted_iff {chain after : Chain} {now : Int64} {payer : Key} {instructions : List Ix} {calls : List Call}
    {handlers : List String} (known : List.Forall₂ (Ix.IsCall sha256 settlement) instructions calls)
    (named : calls.map handlerName = handlers) :
    Accepted sha256 isOnEd25519Curve settlement chain now payer instructions handlers after ↔
      process sha256 isOnEd25519Curve settlement.programId now ⟨[payer], calls⟩ chain = .ok after := by
  constructor
  · rintro ⟨others, read, otherNames, ok⟩
    rwa [isCalls_unique known read (otherNames.trans named.symm)] at ok
  · exact fun ok => ⟨calls, known, named, ok⟩

end

end Pinaivu.Solana
