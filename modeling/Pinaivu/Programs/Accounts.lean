import Pinaivu.Lib.Borsh

/-!
What a client has to send to the Anchor program: for each instruction its name, the
Borsh arguments of the handler, and the accounts of its `#[derive(Accounts)]` struct
with the flags that the constraints of each field ask for.
-/

namespace Pinaivu.Program.Interface

open ByteReader Borsh

abbrev Key := Vector UInt8 32

structure AccountMeta where
  pubkey : Key
  isSigner : Bool
  isWritable : Bool
  deriving DecidableEq, Repr

inductive FieldType where
  | account
  | signer
  | uncheckedAccount
  | program
  deriving DecidableEq, Repr

inductive Constraint where
  | none
  | mutable
  | init
  deriving DecidableEq, Repr

/-- A field that the instruction creates or changes has to be writable. -/
def field (type : FieldType) (constraint : Constraint) (key : Key) : AccountMeta where
  pubkey := key
  isSigner := type = .signer
  isWritable := constraint ≠ .none

def systemProgramId : Key := Vector.replicate 32 0

/-- `Program<'info, System>` takes the System program and no other. -/
structure LockEscrow where
  escrow : Key
  programState : Key
  client : Key
  nodeWallet : Key
  systemProgram : Key
  isSystem : systemProgram = systemProgramId

def LockEscrow.metas (accounts : LockEscrow) : List AccountMeta :=
  [field .account .init accounts.escrow,
    field .account .mutable accounts.programState,
    field .signer .mutable accounts.client,
    field .uncheckedAccount .none accounts.nodeWallet,
    field .program .none accounts.systemProgram]

structure ReleaseEscrow where
  escrow : Key
  programState : Key
  nodeWallet : Key

def ReleaseEscrow.metas (accounts : ReleaseEscrow) : List AccountMeta :=
  [field .account .mutable accounts.escrow,
    field .account .mutable accounts.programState,
    field .signer .mutable accounts.nodeWallet]

structure RefundEscrow where
  escrow : Key
  client : Key

def RefundEscrow.metas (accounts : RefundEscrow) : List AccountMeta :=
  [field .account .mutable accounts.escrow, field .signer .mutable accounts.client]

structure SubmitProof where
  score : Key
  authority : Key

def SubmitProof.metas (accounts : SubmitProof) : List AccountMeta :=
  [field .account .mutable accounts.score, field .signer .none accounts.authority]

structure AnchorMerkleRoot where
  score : Key
  authority : Key

def AnchorMerkleRoot.metas (accounts : AnchorMerkleRoot) : List AccountMeta :=
  [field .account .mutable accounts.score, field .signer .none accounts.authority]

structure LockEscrowArgs where
  requestId : Vector UInt8 16
  amountLamports : UInt64
  timeoutSecs : Int64
  deriving DecidableEq, Repr

structure ReleaseEscrowArgs where
  proofHash : Vector UInt8 32
  deriving DecidableEq, Repr

structure SubmitProofArgs where
  proofHash : Vector UInt8 32
  outputTokens : UInt32
  latencyMs : UInt32
  lamportsEarned : UInt64
  deriving DecidableEq, Repr

structure AnchorMerkleRootArgs where
  merkleRoot : Vector UInt8 32
  label : Vector UInt8 32
  deriving DecidableEq, Repr

def LockEscrowArgs.deserialize : Reader LockEscrowArgs := do
  let requestId ← block 16
  let amountLamports ← u64
  let timeoutSecs ← i64
  pure ⟨requestId, amountLamports, timeoutSecs⟩

def ReleaseEscrowArgs.deserialize : Reader ReleaseEscrowArgs := do
  let proofHash ← block 32
  pure ⟨proofHash⟩

/-- `refund_escrow` has no argument besides its context. -/
def refundEscrowArgs : Reader Unit := pure ()

def SubmitProofArgs.deserialize : Reader SubmitProofArgs := do
  let proofHash ← block 32
  let outputTokens ← u32
  let latencyMs ← u32
  let lamportsEarned ← u64
  pure ⟨proofHash, outputTokens, latencyMs, lamportsEarned⟩

def AnchorMerkleRootArgs.deserialize : Reader AnchorMerkleRootArgs := do
  let merkleRoot ← block 32
  let label ← block 32
  pure ⟨merkleRoot, label⟩

def sighash (sha256 : List UInt8 → Vector UInt8 32) (nameSpace handler : String) : List UInt8 :=
  (sha256 (nameSpace ++ ":" ++ handler).toUTF8.data.toList).toList.take 8

end Pinaivu.Program.Interface
