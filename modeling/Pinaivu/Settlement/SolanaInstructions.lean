import Pinaivu.Programs.Accounts
import Pinaivu.Settlement.SolanaCore

/-!
The instructions that `settlement/solana.rs` builds for the program, with their data
by hand-written encoders, and what the program reads from them.
-/

namespace Pinaivu.Solana

open ByteReader Borsh Program.Interface

def systemProgram : Key := Vector.replicate 32 0

def disc (sha256 : List UInt8 → Vector UInt8 32) (name : String) : List UInt8 :=
  (sha256 ("global:" ++ name).toUTF8.data.toList).toList.take 8

def encodeLockEscrow (sha256 : List UInt8 → Vector UInt8 32) (requestId : Vector UInt8 16)
    (amount : UInt64) (timeout : Int64) : List UInt8 :=
  disc sha256 "lock_escrow" ++ requestId.toList ++ u64Bytes amount ++ i64Bytes timeout

def encodeReleaseEscrow (sha256 : List UInt8 → Vector UInt8 32) (proofHash : Vector UInt8 32) :
    List UInt8 :=
  disc sha256 "release_escrow" ++ proofHash.toList

def encodeRefundEscrow (sha256 : List UInt8 → Vector UInt8 32) : List UInt8 :=
  disc sha256 "refund_escrow"

def encodeSubmitProof (sha256 : List UInt8 → Vector UInt8 32) (proofHash : Vector UInt8 32)
    (outputTokens latencyMs : UInt32) (lamports : UInt64) : List UInt8 :=
  disc sha256 "submit_proof" ++ proofHash.toList ++ u32Bytes outputTokens ++ u32Bytes latencyMs ++
    u64Bytes lamports

def encodeAnchorMerkleRoot (sha256 : List UInt8 → Vector UInt8 32) (root label : Vector UInt8 32) :
    List UInt8 :=
  disc sha256 "anchor_merkle_root" ++ root.toList ++ label.toList

def pdaMarker : List UInt8 := "ProgramDerivedAddress".toUTF8.data.toList

def pdaInput (seeds : List (List UInt8)) (programId : Key) (nonce : Nat) : List UInt8 :=
  seeds.flatten ++ [UInt8.ofNat nonce] ++ programId.toList ++ pdaMarker

/-- The first nonce from 255 down whose hash is no point of the curve; `none` is the
panic when there is none. -/
def findPda (sha256 : List UInt8 → Vector UInt8 32) (isOnEd25519Curve : Key → Bool)
    (seeds : List (List UInt8)) (programId : Key) : Option (Key × UInt8) :=
  (List.range 256).reverse.findSome? fun nonce =>
    let hash := sha256 (pdaInput seeds programId nonce)
    if isOnEd25519Curve hash then none else some (hash, UInt8.ofNat nonce)

def seedState : List UInt8 := "state".toUTF8.data.toList

structure SolanaSettlement where
  programId : Key
  statePda : Key
  deriving DecidableEq, Repr

variable (sha256 : List UInt8 → Vector UInt8 32) (settlement : SolanaSettlement)

def ixLockEscrow (escrowPda client nodeWallet : Key) (requestId : Vector UInt8 16) (amount : UInt64)
    (timeout : Int64) : Ix where
  programId := settlement.programId
  accounts :=
    [{ pubkey := escrowPda, isWritable := true, isSigner := false },
      { pubkey := settlement.statePda, isWritable := true, isSigner := false },
      { pubkey := client, isWritable := true, isSigner := true },
      { pubkey := nodeWallet, isWritable := false, isSigner := false },
      { pubkey := systemProgram, isWritable := false, isSigner := false }]
  data := encodeLockEscrow sha256 requestId amount timeout

def ixReleaseEscrow (escrowPda nodeWallet : Key) (proofHash : Vector UInt8 32) : Ix where
  programId := settlement.programId
  accounts :=
    [{ pubkey := escrowPda, isWritable := true, isSigner := false },
      { pubkey := settlement.statePda, isWritable := true, isSigner := false },
      { pubkey := nodeWallet, isWritable := true, isSigner := true }]
  data := encodeReleaseEscrow sha256 proofHash

def ixRefundEscrow (escrowPda client : Key) : Ix where
  programId := settlement.programId
  accounts :=
    [{ pubkey := escrowPda, isWritable := true, isSigner := false },
      { pubkey := client, isWritable := true, isSigner := true }]
  data := encodeRefundEscrow sha256

def ixSubmitProof (scorePda authority : Key) (proofHash : Vector UInt8 32)
    (outputTokens latencyMs : UInt32) (lamports : UInt64) : Ix where
  programId := settlement.programId
  accounts :=
    [{ pubkey := scorePda, isWritable := true, isSigner := false },
      { pubkey := authority, isWritable := false, isSigner := true }]
  data := encodeSubmitProof sha256 proofHash outputTokens latencyMs lamports

def ixAnchorMerkleRoot (scorePda authority : Key) (root label : Vector UInt8 32) : Ix where
  programId := settlement.programId
  accounts :=
    [{ pubkey := scorePda, isWritable := true, isSigner := false },
      { pubkey := authority, isWritable := false, isSigner := true }]
  data := encodeAnchorMerkleRoot sha256 root label

def IxAccount.toMeta (account : IxAccount) : AccountMeta where
  pubkey := account.pubkey
  isSigner := account.isSigner
  isWritable := account.isWritable

/-- The instruction calls the handler of the program with these arguments and accounts,
and has no data after the arguments. -/
structure Ix.Calls {Args : Type} (ix : Ix) (handler : String) (deserialize : Reader Args)
    (args : Args) (metas : List AccountMeta) : Prop where
  program : ix.programId = settlement.programId
  discriminator : ix.data.take 8 = sighash sha256 "global" handler
  arguments : readAll deserialize (ix.data.drop 8) = some args
  accounts : ix.accounts.map IxAccount.toMeta = metas

theorem length_disc (name : String) : (disc sha256 name).length = 8 := by
  rw [disc, List.length_take, Vector.length_toList]
  rfl

theorem disc_eq_sighash (name : String) : disc sha256 name = sighash sha256 "global" name := by
  have joined : "global" ++ ":" = "global:" := by decide
  rw [disc, sighash, joined]

theorem Ix.Calls.intro {Args : Type} {ix : Ix} {handler : String} {deserialize : Reader Args}
    {args : Args} {metas : List AccountMeta} (body : List UInt8)
    (program : ix.programId = settlement.programId) (data : ix.data = disc sha256 handler ++ body)
    (reads : Reads deserialize body args) (accounts : ix.accounts.map IxAccount.toMeta = metas) :
    ix.Calls sha256 settlement handler deserialize args metas where
  program := program
  discriminator := by
    rw [data, List.take_left' (length_disc sha256 handler), disc_eq_sighash]
  arguments := by
    rw [data, List.drop_left' (length_disc sha256 handler)]
    exact readAll_eq reads
  accounts := accounts

theorem lock_escrow_calls (escrowPda client nodeWallet : Key) (requestId : Vector UInt8 16)
    (amount : UInt64) (timeout : Int64) :
    (ixLockEscrow sha256 settlement escrowPda client nodeWallet requestId amount timeout).Calls
      sha256 settlement "lock_escrow" LockEscrowArgs.deserialize ⟨requestId, amount, timeout⟩
      (LockEscrow.metas ⟨escrowPda, settlement.statePda, client, nodeWallet, systemProgram, rfl⟩) := by
  apply Ix.Calls.intro _ _ (requestId.toList ++ (u64Bytes amount ++ i64Bytes timeout))
  · rfl
  · simp only [ixLockEscrow, encodeLockEscrow, List.append_assoc]
  · refine (reads_block requestId).bind ?_
    refine (reads_u64 amount).bind ?_
    exact (reads_i64 timeout).map (LockEscrowArgs.mk requestId amount)
  · rfl

theorem release_escrow_calls (escrowPda nodeWallet : Key) (proofHash : Vector UInt8 32) :
    (ixReleaseEscrow sha256 settlement escrowPda nodeWallet proofHash).Calls
      sha256 settlement "release_escrow" ReleaseEscrowArgs.deserialize ⟨proofHash⟩
      (ReleaseEscrow.metas ⟨escrowPda, settlement.statePda, nodeWallet⟩) := by
  apply Ix.Calls.intro _ _ proofHash.toList
  · rfl
  · rfl
  · exact (reads_block proofHash).map ReleaseEscrowArgs.mk
  · rfl

theorem refund_escrow_calls (escrowPda client : Key) :
    (ixRefundEscrow sha256 settlement escrowPda client).Calls
      sha256 settlement "refund_escrow" refundEscrowArgs ()
      (RefundEscrow.metas ⟨escrowPda, client⟩) := by
  apply Ix.Calls.intro _ _ []
  · rfl
  · simp only [ixRefundEscrow, encodeRefundEscrow, List.append_nil]
  · exact Reads.pure ()
  · rfl

theorem submit_proof_calls (scorePda authority : Key) (proofHash : Vector UInt8 32)
    (outputTokens latencyMs : UInt32) (lamports : UInt64) :
    (ixSubmitProof sha256 settlement scorePda authority proofHash outputTokens latencyMs lamports).Calls
      sha256 settlement "submit_proof" SubmitProofArgs.deserialize
      ⟨proofHash, outputTokens, latencyMs, lamports⟩ (SubmitProof.metas ⟨scorePda, authority⟩) := by
  apply Ix.Calls.intro _ _
    (proofHash.toList ++ (u32Bytes outputTokens ++ (u32Bytes latencyMs ++ u64Bytes lamports)))
  · rfl
  · simp only [ixSubmitProof, encodeSubmitProof, List.append_assoc]
  · refine (reads_block proofHash).bind ?_
    refine (reads_u32 outputTokens).bind ?_
    refine (reads_u32 latencyMs).bind ?_
    exact (reads_u64 lamports).map (SubmitProofArgs.mk proofHash outputTokens latencyMs)
  · rfl

theorem anchor_merkle_root_calls (scorePda authority : Key) (root label : Vector UInt8 32) :
    (ixAnchorMerkleRoot sha256 settlement scorePda authority root label).Calls
      sha256 settlement "anchor_merkle_root" AnchorMerkleRootArgs.deserialize ⟨root, label⟩
      (AnchorMerkleRoot.metas ⟨scorePda, authority⟩) := by
  apply Ix.Calls.intro _ _ (root.toList ++ label.toList)
  · rfl
  · simp only [ixAnchorMerkleRoot, encodeAnchorMerkleRoot, List.append_assoc]
  · refine (reads_block root).bind ?_
    exact (reads_block label).map (AnchorMerkleRootArgs.mk root)
  · rfl

/-- Every instruction that the adapter builds is a call of the handler of its name. -/
theorem instructions_match_program :
    (∀ escrowPda client nodeWallet requestId amount timeout,
      (ixLockEscrow sha256 settlement escrowPda client nodeWallet requestId amount timeout).Calls
        sha256 settlement "lock_escrow" LockEscrowArgs.deserialize ⟨requestId, amount, timeout⟩
        (LockEscrow.metas ⟨escrowPda, settlement.statePda, client, nodeWallet, systemProgram, rfl⟩)) ∧
    (∀ escrowPda nodeWallet proofHash,
      (ixReleaseEscrow sha256 settlement escrowPda nodeWallet proofHash).Calls
        sha256 settlement "release_escrow" ReleaseEscrowArgs.deserialize ⟨proofHash⟩
        (ReleaseEscrow.metas ⟨escrowPda, settlement.statePda, nodeWallet⟩)) ∧
    (∀ escrowPda client,
      (ixRefundEscrow sha256 settlement escrowPda client).Calls
        sha256 settlement "refund_escrow" refundEscrowArgs ()
        (RefundEscrow.metas ⟨escrowPda, client⟩)) ∧
    (∀ scorePda authority proofHash outputTokens latencyMs lamports,
      (ixSubmitProof sha256 settlement scorePda authority proofHash outputTokens latencyMs
        lamports).Calls sha256 settlement "submit_proof" SubmitProofArgs.deserialize
        ⟨proofHash, outputTokens, latencyMs, lamports⟩ (SubmitProof.metas ⟨scorePda, authority⟩)) ∧
    (∀ scorePda authority root label,
      (ixAnchorMerkleRoot sha256 settlement scorePda authority root label).Calls
        sha256 settlement "anchor_merkle_root" AnchorMerkleRootArgs.deserialize ⟨root, label⟩
        (AnchorMerkleRoot.metas ⟨scorePda, authority⟩)) :=
  ⟨lock_escrow_calls sha256 settlement, release_escrow_calls sha256 settlement,
    refund_escrow_calls sha256 settlement, submit_proof_calls sha256 settlement,
    anchor_merkle_root_calls sha256 settlement⟩

end Pinaivu.Solana
