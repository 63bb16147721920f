import Pinaivu.Lib.Ledger
import Pinaivu.Lib.Runs
import Mathlib.Data.FinEnum
import Mathlib.Data.Fintype.Sum
import Mathlib.Tactic.DeriveFintype

/-!
The Anchor program of `programs/pinaivu`: `initialize` and the escrow
instructions. Addresses derived from seeds are constructors of `Pubkey`, so they
never meet each other or the address of a wallet, and only wallets sign.
-/

namespace Pinaivu.Program

abbrev Key := BitVec 256

abbrev RequestId := BitVec 128

abbrev Hash := BitVec 256

inductive Pubkey where
  | wallet (key : Key)
  | programState
  | escrow (requestId : RequestId)
  deriving DecidableEq, Fintype

def u64Limit : Nat := 2 ^ 64

def saturatingAdd (left right : Nat) : Nat := min (left + right) (u64Limit - 1)

structure ProgramState where
  admin : Pubkey
  totalNodesRegistered : Nat
  totalJobsCompleted : Nat
  totalVolumeLamports : Nat
  escrowTimeoutSecs : Int
  deriving DecidableEq

def ProgramState.len : Nat := 8 + 32 + 8 + 8 + 8 + 8 + 1

inductive EscrowState where
  | locked
  | released
  | refunded
  deriving DecidableEq, Repr

structure EscrowAccount where
  client : Pubkey
  node : Pubkey
  amountLamports : UInt64
  requestId : RequestId
  state : EscrowState
  createdAt : Int
  expiresAt : Int
  proofHash : Hash
  deriving DecidableEq

def EscrowAccount.len : Nat := 8 + 32 + 32 + 8 + 16 + 1 + 8 + 8 + 32 + 1

def EscrowAccount.release (escrow : EscrowAccount) (proofHash : Hash) : EscrowAccount :=
  { escrow with state := .released, proofHash := proofHash }

def EscrowAccount.refund (escrow : EscrowAccount) : EscrowAccount :=
  { escrow with state := .refunded }

inductive Event where
  | escrowLocked (requestId : RequestId) (client node : Pubkey) (amount : UInt64) (expiresAt : Int)
  | escrowReleased (requestId : RequestId) (node : Pubkey) (amount : UInt64) (proofHash : Hash)
  | escrowRefunded (requestId : RequestId) (client : Pubkey) (amount : UInt64)
  deriving DecidableEq

inductive Error where
  | escrowNotLocked
  | escrowExpired
  | escrowNotExpired
  | unauthorized
  | accountInUse
  | accountNotInitialized
  | constraintSeeds
  | insufficientLamports
  | arithmeticOverflow
  | unbalancedInstruction
  deriving DecidableEq, Repr

structure Bank where
  lamports : Pubkey → Nat
  programState : Option ProgramState
  escrows : RequestId → Option EscrowAccount
  events : List Event

structure Rent where
  minimumBalance : Nat → Nat
  positive : ∀ size, 0 < minimumBalance size

def systemTransfer (bank : Bank) (source target : Pubkey) (amount : Nat) : Except Error Bank :=
  if bank.lamports source < amount then .error .insufficientLamports
  else if u64Limit ≤ bank.lamports target + amount then .error .arithmeticOverflow
  else .ok { bank with lamports := Ledger.transfer bank.lamports source target amount }

/-- Anchor's `init` on an account that holds no data yet: the payer brings it up
to rent exemption. -/
def anchorInit (rent : Rent) (bank : Bank) (payer : Key) (target : Pubkey) (size : Nat) :
    Except Error Bank :=
  let current := bank.lamports target
  let required :=
    if current = 0 then rent.minimumBalance size
    else max (rent.minimumBalance size) 1 - current
  systemTransfer bank (.wallet payer) target required

/-- `**source.lamports -= amount` and `**target.lamports += amount` on `u64`,
without overflow checks. The runtime rejects an instruction that changes the sum. -/
def moveLamports (bank : Bank) (source target : Pubkey) (amount : Nat) : Except Error Bank :=
  let left := (bank.lamports source + u64Limit - amount) % u64Limit
  let reached := (bank.lamports target + amount) % u64Limit
  if left + reached ≠ bank.lamports source + bank.lamports target then .error .unbalancedInstruction
  else .ok { bank with
    lamports := Function.update (Function.update bank.lamports source left) target reached }

def initializeProgram (rent : Rent) (bank : Bank) (admin : Key) (escrowTimeoutSecs : Int) :
    Except Error Bank :=
  match bank.programState with
  | some _ => .error .accountInUse
  | none =>
      match anchorInit rent bank admin .programState ProgramState.len with
      | .error error => .error error
      | .ok funded => .ok { funded with
          programState := some ⟨.wallet admin, 0, 0, 0, escrowTimeoutSecs⟩ }

/-- The account that `lock_escrow` writes; `now + timeout` wraps as an `i64`. -/
def lockedAccount (now : Int) (client : Key) (nodeWallet : Pubkey) (requestId : RequestId)
    (amountLamports : UInt64) (timeout : Int) : EscrowAccount where
  client := .wallet client
  node := nodeWallet
  amountLamports := amountLamports
  requestId := requestId
  state := .locked
  createdAt := now
  expiresAt := (now + timeout).bmod u64Limit
  proofHash := 0

def lockEscrow (rent : Rent) (now : Int) (bank : Bank) (client : Key) (nodeWallet : Pubkey)
    (requestId : RequestId) (amountLamports : UInt64) (timeoutSecs : Int) : Except Error Bank :=
  match bank.escrows requestId, bank.programState with
  | some _, _ => .error .accountInUse
  | none, none => .error .accountNotInitialized
  | none, some state =>
      match anchorInit rent bank client (.escrow requestId) EscrowAccount.len with
      | .error error => .error error
      | .ok created =>
          let timeout := if 0 < timeoutSecs then timeoutSecs else state.escrowTimeoutSecs
          let account := lockedAccount now client nodeWallet requestId amountLamports timeout
          match systemTransfer created (.wallet client) (.escrow requestId)
              amountLamports.toNat with
          | .error error => .error error
          | .ok paid => .ok { paid with
              escrows := Function.update paid.escrows requestId (some account)
              events := paid.events ++ [.escrowLocked requestId account.client account.node
                amountLamports account.expiresAt] }

def ProgramState.countRelease (state : ProgramState) (amount : Nat) : ProgramState :=
  { state with
    totalJobsCompleted := saturatingAdd state.totalJobsCompleted 1
    totalVolumeLamports := saturatingAdd state.totalVolumeLamports amount }

def releaseEscrow (now : Int) (bank : Bank) (requestId : RequestId) (nodeWallet : Key)
    (proofHash : Hash) : Except Error Bank :=
  match bank.escrows requestId, bank.programState with
  | some escrow, some state =>
      if escrow.requestId ≠ requestId then .error .constraintSeeds
      else if escrow.node ≠ .wallet nodeWallet then .error .unauthorized
      else if escrow.state ≠ .locked then .error .escrowNotLocked
      else if escrow.expiresAt < now then .error .escrowExpired
      else
        match moveLamports bank (.escrow requestId) (.wallet nodeWallet)
            escrow.amountLamports.toNat with
        | .error error => .error error
        | .ok moved => .ok { moved with
            escrows := Function.update moved.escrows requestId (some (escrow.release proofHash))
            programState := some (state.countRelease escrow.amountLamports.toNat)
            events := moved.events ++ [.escrowReleased escrow.requestId (.wallet nodeWallet)
              escrow.amountLamports proofHash] }
  | _, _ => .error .accountNotInitialized

def refundEscrow (now : Int) (bank : Bank) (requestId : RequestId) (client : Key) :
    Except Error Bank :=
  match bank.escrows requestId with
  | none => .error .accountNotInitialized
  | some escrow =>
      if escrow.requestId ≠ requestId then .error .constraintSeeds
      else if escrow.client ≠ .wallet client then .error .unauthorized
      else if escrow.state ≠ .locked then .error .escrowNotLocked
      else if now ≤ escrow.expiresAt then .error .escrowNotExpired
      else
        match moveLamports bank (.escrow requestId) (.wallet client)
            escrow.amountLamports.toNat with
        | .error error => .error error
        | .ok moved => .ok { moved with
            escrows := Function.update moved.escrows requestId (some escrow.refund)
            events := moved.events ++ [.escrowRefunded escrow.requestId (.wallet client)
              escrow.amountLamports] }

/-- An instruction with its accounts; a `Key` is a signer. `walletTransfer` is a
transfer outside the program, which never reaches an escrow account. -/
inductive Instruction where
  | initializeProgram (admin : Key) (escrowTimeoutSecs : Int)
  | lockEscrow (client : Key) (nodeWallet : Pubkey) (requestId : RequestId)
      (amountLamports : UInt64) (timeoutSecs : Int)
  | releaseEscrow (requestId : RequestId) (nodeWallet : Key) (proofHash : Hash)
  | refundEscrow (requestId : RequestId) (client : Key)
  | walletTransfer (source target : Key) (amount : Nat)

def execute (rent : Rent) (now : Int) (bank : Bank) : Instruction → Except Error Bank
  | .initializeProgram admin escrowTimeoutSecs => initializeProgram rent bank admin escrowTimeoutSecs
  | .lockEscrow client nodeWallet requestId amountLamports timeoutSecs =>
      lockEscrow rent now bank client nodeWallet requestId amountLamports timeoutSecs
  | .releaseEscrow requestId nodeWallet proofHash =>
      releaseEscrow now bank requestId nodeWallet proofHash
  | .refundEscrow requestId client => refundEscrow now bank requestId client
  | .walletTransfer source target amount => systemTransfer bank (.wallet source) (.wallet target) amount

def step (rent : Rent) (bank : Bank) (call : Int × Instruction) : Bank :=
  match execute rent call.1 bank call.2 with
  | .error _ => bank
  | .ok after => after

/-- The cluster before the program is initialised. Its lamports fit in the `u64`
capitalisation that the runtime keeps. -/
structure Genesis where
  lamports : Pubkey → Nat
  noEscrows : ∀ requestId, lamports (.escrow requestId) = 0
  capitalization : ∑ account, lamports account < u64Limit

def Genesis.bank (genesis : Genesis) : Bank := ⟨genesis.lamports, none, fun _ => none, []⟩

end Pinaivu.Program
