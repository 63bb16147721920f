import Pinaivu.Lib.Runs
import Pinaivu.Programs.Accounts

/-!
What the Anchor program keeps at an address, and which calls it takes: the constraints of the
`#[derive(Accounts)]` structs and the `require!` lines of the handlers. The lamports that a call
moves, the counters of the program state and the figures of a score are in `EscrowCore` and
`ScoreCore`; no constraint reads them.
-/

namespace Pinaivu.Program.Interface

structure ProgramState where
  admin : Key
  escrowTimeoutSecs : Int64
  bump : UInt8
  deriving DecidableEq

inductive EscrowState where
  | locked
  | released
  | refunded
  deriving DecidableEq, Repr

structure EscrowAccount where
  client : Key
  node : Key
  amountLamports : UInt64
  requestId : Vector UInt8 16
  state : EscrowState
  createdAt : Int64
  expiresAt : Int64
  proofHash : Vector UInt8 32
  bump : UInt8
  deriving DecidableEq

structure NodeRegistration where
  authority : Key
  nodePubkey : Vector UInt8 32
  modelHashes : List (Vector UInt8 32)
  gpuVramMb : UInt32
  pricePer1kLamports : UInt64
  registeredAt : Int64
  active : Bool
  bump : UInt8
  deriving DecidableEq

structure NodeScore where
  nodePubkey : Vector UInt8 32
  authority : Key
  bump : UInt8
  deriving DecidableEq

inductive Account where
  | programState (state : ProgramState)
  | escrow (escrow : EscrowAccount)
  | registration (registration : NodeRegistration)
  | score (score : NodeScore)
  deriving DecidableEq

abbrev Chain := Key → Option Account

namespace Account

def asProgramState : Account → Option ProgramState
  | programState state => some state
  | _ => none

def asEscrow : Account → Option EscrowAccount
  | escrow account => some account
  | _ => none

def asRegistration : Account → Option NodeRegistration
  | registration account => some account
  | _ => none

def asScore : Account → Option NodeScore
  | score account => some account
  | _ => none

end Account

inductive Error where
  | accountInUse
  | accountNotInitialized
  | accountDiscriminatorMismatch
  | accountNotSigner
  | constraintSeeds
  | noViableBump
  | unauthorized
  | escrowNotLocked
  | escrowExpired
  | escrowNotExpired
  | invalidProofHash
  | tooManyModels
  deriving DecidableEq, Repr

def require (condition : Prop) [Decidable condition] (error : Error) : Except Error Unit :=
  if condition then .ok () else .error error

/-- `Account<'info, T>`: the program owns the account and it holds a `T`. -/
def load {Data : Type} (read : Account → Option Data) (chain : Chain) (key : Key) : Except Error Data :=
  match chain key with
  | none => .error .accountNotInitialized
  | some account =>
      match read account with
      | none => .error .accountDiscriminatorMismatch
      | some data => .ok data

def write (chain : Chain) (key : Key) (account : Account) : Chain :=
  Function.update chain key (some account)

def seedState : List UInt8 := "state".toUTF8.data.toList

def seedEscrow : List UInt8 := "escrow".toUTF8.data.toList

def seedNode : List UInt8 := "node".toUTF8.data.toList

def seedScore : List UInt8 := "score".toUTF8.data.toList

def Account.signerSeeds : Account → List (List UInt8)
  | .programState data => [seedState] ++ [[data.bump]]
  | .escrow data => [seedEscrow, data.requestId.toList] ++ [[data.bump]]
  | .registration data => [seedNode, data.nodePubkey.toList] ++ [[data.bump]]
  | .score data => [seedScore, data.nodePubkey.toList] ++ [[data.bump]]

structure Initialize where
  programState : Key
  admin : Key

structure RegisterNode where
  registration : Key
  programState : Key
  authority : Key

structure UpdateNode where
  registration : Key
  authority : Key

structure InitializeScore where
  score : Key
  authority : Key

structure RegisterNodeArgs where
  nodePubkey : Vector UInt8 32
  modelHashes : List (Vector UInt8 32)
  gpuVramMb : UInt32
  pricePer1kLamports : UInt64

structure UpdateNodeArgs where
  modelHashes : List (Vector UInt8 32)
  gpuVramMb : UInt32
  pricePer1kLamports : UInt64
  active : Bool

def maxModels : Nat := 8

def lockedAccount (now : Int64) (accounts : LockEscrow) (args : LockEscrowArgs) (escrowTimeoutSecs : Int64)
    (bump : UInt8) : EscrowAccount where
  client := accounts.client
  node := accounts.nodeWallet
  amountLamports := args.amountLamports
  requestId := args.requestId
  state := .locked
  createdAt := now
  expiresAt := now + (if 0 < args.timeoutSecs then args.timeoutSecs else escrowTimeoutSecs)
  proofHash := Vector.replicate 32 0
  bump

section

variable (sha256 : List UInt8 → Vector UInt8 32) (isOnEd25519Curve : Key → Bool) (programId : Key)

def createProgramAddress (seeds : List (List UInt8)) : Option Key :=
  let hash := sha256 (seeds.flatten ++ programId.toList ++ "ProgramDerivedAddress".toUTF8.data.toList)
  if isOnEd25519Curve hash then none else some hash

/-- The bumps that `find_program_address` tries: from 255 down to 1. -/
def bumps : List Nat := ((List.range 255).map Nat.succ).reverse

def findProgramAddress (seeds : List (List UInt8)) : Option (Key × UInt8) :=
  bumps.findSome? fun bump =>
    (createProgramAddress sha256 isOnEd25519Curve programId (seeds ++ [[UInt8.ofNat bump]])).map
      fun address => (address, UInt8.ofNat bump)

/-- `seeds` and `bump = …` of an account that is there. -/
def checkSeeds (key : Key) (account : Account) : Except Error Unit :=
  require (createProgramAddress sha256 isOnEd25519Curve programId account.signerSeeds = some key) .constraintSeeds

/-- `init`, `seeds` and `bump`; the bump is what the handler finds in its context. -/
def initAddress (chain : Chain) (key : Key) (seeds : List (List UInt8)) : Except Error UInt8 :=
  match findProgramAddress sha256 isOnEd25519Curve programId seeds with
  | none => .error .noViableBump
  | some (address, bump) => do
      require (address = key) .constraintSeeds
      require (chain key = none) .accountInUse
      return bump

variable (now : Int64) (signers : List Key) (chain : Chain)

def initializeProgram (accounts : Initialize) (escrowTimeoutSecs : Int64) : Except Error Chain := do
  require (accounts.admin ∈ signers) .accountNotSigner
  let bump ← initAddress sha256 isOnEd25519Curve programId chain accounts.programState [seedState]
  return write chain accounts.programState (.programState ⟨accounts.admin, escrowTimeoutSecs, bump⟩)

def lockEscrow (accounts : LockEscrow) (args : LockEscrowArgs) : Except Error Chain := do
  let state ← load Account.asProgramState chain accounts.programState
  require (accounts.client ∈ signers) .accountNotSigner
  let bump ← initAddress sha256 isOnEd25519Curve programId chain accounts.escrow
    [seedEscrow, args.requestId.toList]
  checkSeeds sha256 isOnEd25519Curve programId accounts.programState (.programState state)
  return write chain accounts.escrow (.escrow (lockedAccount now accounts args state.escrowTimeoutSecs bump))

def releaseEscrow (accounts : ReleaseEscrow) (args : ReleaseEscrowArgs) : Except Error Chain := do
  let escrow ← load Account.asEscrow chain accounts.escrow
  let state ← load Account.asProgramState chain accounts.programState
  require (accounts.nodeWallet ∈ signers) .accountNotSigner
  checkSeeds sha256 isOnEd25519Curve programId accounts.escrow (.escrow escrow)
  require (escrow.node = accounts.nodeWallet) .unauthorized
  checkSeeds sha256 isOnEd25519Curve programId accounts.programState (.programState state)
  require (escrow.state = .locked) .escrowNotLocked
  require (now ≤ escrow.expiresAt) .escrowExpired
  return write chain accounts.escrow
    (.escrow { escrow with state := .released, proofHash := args.proofHash })

def refundEscrow (accounts : RefundEscrow) : Except Error Chain := do
  let escrow ← load Account.asEscrow chain accounts.escrow
  require (accounts.client ∈ signers) .accountNotSigner
  checkSeeds sha256 isOnEd25519Curve programId accounts.escrow (.escrow escrow)
  require (escrow.client = accounts.client) .unauthorized
  require (escrow.state = .locked) .escrowNotLocked
  require (escrow.expiresAt < now) .escrowNotExpired
  return write chain accounts.escrow (.escrow { escrow with state := .refunded })

def registerNode (accounts : RegisterNode) (args : RegisterNodeArgs) : Except Error Chain := do
  let state ← load Account.asProgramState chain accounts.programState
  require (accounts.authority ∈ signers) .accountNotSigner
  let bump ← initAddress sha256 isOnEd25519Curve programId chain accounts.registration
    [seedNode, args.nodePubkey.toList]
  checkSeeds sha256 isOnEd25519Curve programId accounts.programState (.programState state)
  require (args.modelHashes.length ≤ maxModels) .tooManyModels
  return write chain accounts.registration (.registration {
    authority := accounts.authority
    nodePubkey := args.nodePubkey
    modelHashes := args.modelHashes
    gpuVramMb := args.gpuVramMb
    pricePer1kLamports := args.pricePer1kLamports
    registeredAt := now
    active := true
    bump })

def updateNode (accounts : UpdateNode) (args : UpdateNodeArgs) : Except Error Chain := do
  let registration ← load Account.asRegistration chain accounts.registration
  require (accounts.authority ∈ signers) .accountNotSigner
  checkSeeds sha256 isOnEd25519Curve programId accounts.registration (.registration registration)
  require (registration.authority = accounts.authority) .unauthorized
  require (args.modelHashes.length ≤ maxModels) .tooManyModels
  return write chain accounts.registration (.registration { registration with
    modelHashes := args.modelHashes
    gpuVramMb := args.gpuVramMb
    pricePer1kLamports := args.pricePer1kLamports
    active := args.active })

def initializeScore (accounts : InitializeScore) (nodePubkey : Vector UInt8 32) : Except Error Chain := do
  require (accounts.authority ∈ signers) .accountNotSigner
  let bump ← initAddress sha256 isOnEd25519Curve programId chain accounts.score
    [seedScore, nodePubkey.toList]
  return write chain accounts.score (.score ⟨nodePubkey, accounts.authority, bump⟩)

/-- The constraints that `SubmitProof` and `AnchorMerkleRoot` share. -/
def ownScore (score authority : Key) : Except Error Unit := do
  let account ← load Account.asScore chain score
  require (authority ∈ signers) .accountNotSigner
  checkSeeds sha256 isOnEd25519Curve programId score (.score account)
  require (account.authority = authority) .unauthorized

def submitProof (accounts : SubmitProof) (args : SubmitProofArgs) : Except Error Chain := do
  ownScore sha256 isOnEd25519Curve programId signers chain accounts.score accounts.authority
  require (args.proofHash ≠ Vector.replicate 32 0) .invalidProofHash
  return chain

def anchorMerkleRoot (accounts : AnchorMerkleRoot) (_ : AnchorMerkleRootArgs) : Except Error Chain := do
  ownScore sha256 isOnEd25519Curve programId signers chain accounts.score accounts.authority
  return chain

end

inductive Call where
  | initializeProgram (accounts : Initialize) (escrowTimeoutSecs : Int64)
  | lockEscrow (accounts : LockEscrow) (args : LockEscrowArgs)
  | releaseEscrow (accounts : ReleaseEscrow) (args : ReleaseEscrowArgs)
  | refundEscrow (accounts : RefundEscrow)
  | registerNode (accounts : RegisterNode) (args : RegisterNodeArgs)
  | updateNode (accounts : UpdateNode) (args : UpdateNodeArgs)
  | initializeScore (accounts : InitializeScore) (nodePubkey : Vector UInt8 32)
  | submitProof (accounts : SubmitProof) (args : SubmitProofArgs)
  | anchorMerkleRoot (accounts : AnchorMerkleRoot) (args : AnchorMerkleRootArgs)

def Call.escrow : Call → Option Key
  | .lockEscrow accounts _ => some accounts.escrow
  | .releaseEscrow accounts _ => some accounts.escrow
  | .refundEscrow accounts => some accounts.escrow
  | _ => none

structure Batch where
  signers : List Key
  calls : List Call

section

variable (sha256 : List UInt8 → Vector UInt8 32) (isOnEd25519Curve : Key → Bool) (programId : Key)

def execute (now : Int64) (signers : List Key) (chain : Chain) : Call → Except Error Chain
  | .initializeProgram accounts escrowTimeoutSecs =>
      initializeProgram sha256 isOnEd25519Curve programId signers chain accounts escrowTimeoutSecs
  | .lockEscrow accounts args =>
      lockEscrow sha256 isOnEd25519Curve programId now signers chain accounts args
  | .releaseEscrow accounts args =>
      releaseEscrow sha256 isOnEd25519Curve programId now signers chain accounts args
  | .refundEscrow accounts => refundEscrow sha256 isOnEd25519Curve programId now signers chain accounts
  | .registerNode accounts args =>
      registerNode sha256 isOnEd25519Curve programId now signers chain accounts args
  | .updateNode accounts args => updateNode sha256 isOnEd25519Curve programId signers chain accounts args
  | .initializeScore accounts nodePubkey =>
      initializeScore sha256 isOnEd25519Curve programId signers chain accounts nodePubkey
  | .submitProof accounts args => submitProof sha256 isOnEd25519Curve programId signers chain accounts args
  | .anchorMerkleRoot accounts args =>
      anchorMerkleRoot sha256 isOnEd25519Curve programId signers chain accounts args

/-- A transaction takes effect as a whole. -/
def process (now : Int64) (batch : Batch) (chain : Chain) : Except Error Chain :=
  batch.calls.foldlM (execute sha256 isOnEd25519Curve programId now batch.signers) chain

/-- A transaction at the time of its block; one that fails leaves the accounts as they were. -/
def step (chain : Chain) (event : Int64 × Batch) : Chain :=
  match process sha256 isOnEd25519Curve programId event.1 event.2 chain with
  | .error _ => chain
  | .ok after => after

def deployed (history : List (Int64 × Batch)) : Chain :=
  Runs.run (step sha256 isOnEd25519Curve programId) (fun _ => none) history

end

theorem write_self (chain : Chain) (key : Key) (account : Account) :
    write chain key account key = some account := by
  rw [write, Function.update_self]

theorem write_of_ne {chain : Chain} {key other : Key} {account : Account} (different : other ≠ key) :
    write chain key account other = chain other := by
  rw [write, Function.update_of_ne different]

theorem bind_ok_iff {Failure First Last : Type} {first : Except Failure First} {next : First → Except Failure Last}
    {result : Last} : (first >>= next) = .ok result ↔ ∃ value, first = .ok value ∧ next value = .ok result := by
  cases first with
  | error error => exact iff_of_false (by rintro ⟨⟩) (by rintro ⟨_, ⟨⟩, _⟩)
  | ok value => exact ⟨fun same => ⟨value, rfl, same⟩, by rintro ⟨_, ⟨⟩, same⟩; exact same⟩

@[simp] theorem pure_ok_iff {Value : Type} {value result : Value} :
    (pure value : Except Error Value) = .ok result ↔ value = result :=
  Except.ok.injEq value result ▸ Iff.rfl

@[simp] theorem require_ok_iff {condition : Prop} [Decidable condition] {error : Error} {value : Unit} :
    require condition error = .ok value ↔ condition := by
  unfold require
  split
  · exact iff_of_true rfl ‹_›
  · exact iff_of_false (by rintro ⟨⟩) ‹_›

theorem load_ok_iff {Data : Type} {read : Account → Option Data} {wrap : Data → Account}
    (reads : ∀ account data, read account = some data ↔ account = wrap data) {chain : Chain} {key : Key}
    {data : Data} : load read chain key = .ok data ↔ chain key = some (wrap data) := by
  unfold load
  split
  · rename_i absent
    simp [absent]
  · rename_i account present
    rw [present, Option.some.injEq, ← reads]
    split
    · rename_i other
      simp [other]
    · rename_i found known
      simp [known]

theorem asProgramState_iff (account : Account) (data : ProgramState) :
    account.asProgramState = some data ↔ account = .programState data := by
  cases account <;> simp [Account.asProgramState]

theorem asEscrow_iff (account : Account) (data : EscrowAccount) :
    account.asEscrow = some data ↔ account = .escrow data := by
  cases account <;> simp [Account.asEscrow]

theorem asRegistration_iff (account : Account) (data : NodeRegistration) :
    account.asRegistration = some data ↔ account = .registration data := by
  cases account <;> simp [Account.asRegistration]

theorem asScore_iff (account : Account) (data : NodeScore) :
    account.asScore = some data ↔ account = .score data := by
  cases account <;> simp [Account.asScore]

section

variable {sha256 : List UInt8 → Vector UInt8 32} {isOnEd25519Curve : Key → Bool} {programId : Key}
variable {now : Int64} {signers : List Key} {chain after : Chain}

@[simp] theorem checkSeeds_ok_iff {key : Key} {account : Account} {value : Unit} :
    checkSeeds sha256 isOnEd25519Curve programId key account = .ok value ↔
      createProgramAddress sha256 isOnEd25519Curve programId account.signerSeeds = some key := by
  rw [checkSeeds, require_ok_iff]

@[simp] theorem initAddress_ok_iff {key : Key} {seeds : List (List UInt8)} {bump : UInt8} :
    initAddress sha256 isOnEd25519Curve programId chain key seeds = .ok bump ↔
      findProgramAddress sha256 isOnEd25519Curve programId seeds = some (key, bump) ∧ chain key = none := by
  unfold initAddress
  split
  · rename_i missing
    simp [missing]
  · rename_i address found located
    simp only [located, bind_ok_iff, require_ok_iff, pure_ok_iff, Option.some.injEq, Prod.mk.injEq]
    constructor
    · rintro ⟨-, rfl, -, free, rfl⟩
      exact ⟨⟨rfl, rfl⟩, free⟩
    · rintro ⟨⟨rfl, rfl⟩, free⟩
      exact ⟨(), rfl, (), free, rfl⟩

theorem findProgramAddress_derives {seeds : List (List UInt8)} {key : Key} {bump : UInt8}
    (found : findProgramAddress sha256 isOnEd25519Curve programId seeds = some (key, bump)) :
    createProgramAddress sha256 isOnEd25519Curve programId (seeds ++ [[bump]]) = some key := by
  obtain ⟨number, -, hit⟩ := List.exists_of_findSome?_eq_some found
  obtain ⟨address, derived, same⟩ := Option.map_eq_some_iff.mp hit
  obtain ⟨rfl, rfl⟩ := Prod.mk.inj same
  exact derived

theorem findProgramAddress_first {seeds : List (List UInt8)} {key : Key}
    (derived : createProgramAddress sha256 isOnEd25519Curve programId (seeds ++ [[255]]) = some key) :
    findProgramAddress sha256 isOnEd25519Curve programId seeds = some (key, 255) := by
  have first : bumps = 255 :: ((List.range 254).map Nat.succ).reverse := by
    rw [bumps, List.range_succ, List.map_append, List.reverse_append]
    rfl
  have bump : UInt8.ofNat 255 = 255 := rfl
  rw [findProgramAddress, first, List.findSome?_cons, bump, derived]
  rfl

theorem initialized_ok_iff {payer key : Key} {seeds : List (List UInt8)} {account : UInt8 → Account} :
    (do
      require (payer ∈ signers) .accountNotSigner
      let bump ← initAddress sha256 isOnEd25519Curve programId chain key seeds
      return write chain key (account bump)) = Except.ok after ↔
      ∃ bump, payer ∈ signers ∧ findProgramAddress sha256 isOnEd25519Curve programId seeds = some (key, bump) ∧
        chain key = none ∧ after = write chain key (account bump) := by
  simp only [bind_ok_iff, require_ok_iff, initAddress_ok_iff, pure_ok_iff]
  constructor
  · rintro ⟨-, signed, bump, ⟨found, free⟩, rfl⟩
    exact ⟨bump, signed, found, free, rfl⟩
  · rintro ⟨bump, signed, found, free, rfl⟩
    exact ⟨(), signed, bump, ⟨found, free⟩, rfl⟩

theorem initializeProgram_ok_iff {accounts : Initialize} {escrowTimeoutSecs : Int64} :
    initializeProgram sha256 isOnEd25519Curve programId signers chain accounts escrowTimeoutSecs = .ok after ↔
      ∃ bump, accounts.admin ∈ signers ∧
        findProgramAddress sha256 isOnEd25519Curve programId [seedState] = some (accounts.programState, bump) ∧
        chain accounts.programState = none ∧
        after = write chain accounts.programState (.programState ⟨accounts.admin, escrowTimeoutSecs, bump⟩) :=
  initialized_ok_iff

theorem initializeScore_ok_iff {accounts : InitializeScore} {nodePubkey : Vector UInt8 32} :
    initializeScore sha256 isOnEd25519Curve programId signers chain accounts nodePubkey = .ok after ↔
      ∃ bump, accounts.authority ∈ signers ∧
        findProgramAddress sha256 isOnEd25519Curve programId [seedScore, nodePubkey.toList] =
          some (accounts.score, bump) ∧
        chain accounts.score = none ∧
        after = write chain accounts.score (.score ⟨nodePubkey, accounts.authority, bump⟩) :=
  initialized_ok_iff

theorem lockEscrow_ok_iff {accounts : LockEscrow} {args : LockEscrowArgs} :
    lockEscrow sha256 isOnEd25519Curve programId now signers chain accounts args = .ok after ↔
      ∃ state bump, chain accounts.programState = some (.programState state) ∧ accounts.client ∈ signers ∧
        findProgramAddress sha256 isOnEd25519Curve programId [seedEscrow, args.requestId.toList] =
          some (accounts.escrow, bump) ∧
        chain accounts.escrow = none ∧
        createProgramAddress sha256 isOnEd25519Curve programId (Account.programState state).signerSeeds =
          some accounts.programState ∧
        after = write chain accounts.escrow
          (.escrow (lockedAccount now accounts args state.escrowTimeoutSecs bump)) := by
  simp only [lockEscrow, bind_ok_iff, load_ok_iff asProgramState_iff, require_ok_iff, checkSeeds_ok_iff,
    initAddress_ok_iff, pure_ok_iff]
  constructor
  · rintro ⟨state, present, -, signed, bump, ⟨found, free⟩, -, seeds, rfl⟩
    exact ⟨state, bump, present, signed, found, free, seeds, rfl⟩
  · rintro ⟨state, bump, present, signed, found, free, seeds, rfl⟩
    exact ⟨state, present, (), signed, bump, ⟨found, free⟩, (), seeds, rfl⟩

/-- The constraints of `ReleaseEscrow` and the checks of its handler. -/
structure ReleaseAllowed (now : Int64) (signers : List Key) (chain : Chain) (accounts : ReleaseEscrow)
    (escrow : EscrowAccount) (state : ProgramState) : Prop where
  escrowPresent : chain accounts.escrow = some (.escrow escrow)
  statePresent : chain accounts.programState = some (.programState state)
  signed : accounts.nodeWallet ∈ signers
  escrowSeeds : createProgramAddress sha256 isOnEd25519Curve programId (Account.escrow escrow).signerSeeds =
    some accounts.escrow
  authorized : escrow.node = accounts.nodeWallet
  stateSeeds : createProgramAddress sha256 isOnEd25519Curve programId (Account.programState state).signerSeeds =
    some accounts.programState
  locked : escrow.state = .locked
  inTime : now ≤ escrow.expiresAt

theorem releaseEscrow_ok_iff {accounts : ReleaseEscrow} {args : ReleaseEscrowArgs} :
    releaseEscrow sha256 isOnEd25519Curve programId now signers chain accounts args = .ok after ↔
      ∃ escrow state, @ReleaseAllowed sha256 isOnEd25519Curve programId now signers chain accounts escrow state ∧
        after = write chain accounts.escrow
          (.escrow { escrow with state := .released, proofHash := args.proofHash }) := by
  simp only [releaseEscrow, bind_ok_iff, load_ok_iff asProgramState_iff, load_ok_iff asEscrow_iff,
    require_ok_iff, checkSeeds_ok_iff, pure_ok_iff]
  constructor
  · rintro ⟨escrow, escrowPresent, state, statePresent, -, signed, -, escrowSeeds, -, authorized, -, stateSeeds,
      -, locked, -, inTime, rfl⟩
    exact ⟨escrow, state,
      ⟨escrowPresent, statePresent, signed, escrowSeeds, authorized, stateSeeds, locked, inTime⟩, rfl⟩
  · rintro ⟨escrow, state, allowed, rfl⟩
    exact ⟨escrow, allowed.escrowPresent, state, allowed.statePresent, (), allowed.signed, (), allowed.escrowSeeds,
      (), allowed.authorized, (), allowed.stateSeeds, (), allowed.locked, (), allowed.inTime, rfl⟩

/-- The constraints of `RefundEscrow` and the checks of its handler. -/
structure RefundAllowed (now : Int64) (signers : List Key) (chain : Chain) (accounts : RefundEscrow)
    (escrow : EscrowAccount) : Prop where
  present : chain accounts.escrow = some (.escrow escrow)
  signed : accounts.client ∈ signers
  seeds : createProgramAddress sha256 isOnEd25519Curve programId (Account.escrow escrow).signerSeeds =
    some accounts.escrow
  authorized : escrow.client = accounts.client
  locked : escrow.state = .locked
  expired : escrow.expiresAt < now

theorem refundEscrow_ok_iff {accounts : RefundEscrow} :
    refundEscrow sha256 isOnEd25519Curve programId now signers chain accounts = .ok after ↔
      ∃ escrow, @RefundAllowed sha256 isOnEd25519Curve programId now signers chain accounts escrow ∧
        after = write chain accounts.escrow (.escrow { escrow with state := .refunded }) := by
  simp only [refundEscrow, bind_ok_iff, load_ok_iff asEscrow_iff, require_ok_iff, checkSeeds_ok_iff, pure_ok_iff]
  constructor
  · rintro ⟨escrow, present, -, signed, -, seeds, -, authorized, -, locked, -, expired, rfl⟩
    exact ⟨escrow, ⟨present, signed, seeds, authorized, locked, expired⟩, rfl⟩
  · rintro ⟨escrow, allowed, rfl⟩
    exact ⟨escrow, allowed.present, (), allowed.signed, (), allowed.seeds, (), allowed.authorized,
      (), allowed.locked, (), allowed.expired, rfl⟩

theorem ownScore_ok_iff {score authority : Key} {value : Unit} :
    ownScore sha256 isOnEd25519Curve programId signers chain score authority = .ok value ↔
      ∃ account, chain score = some (.score account) ∧ authority ∈ signers ∧
        createProgramAddress sha256 isOnEd25519Curve programId (Account.score account).signerSeeds = some score ∧
        account.authority = authority := by
  simp only [ownScore, bind_ok_iff, load_ok_iff asScore_iff, require_ok_iff, checkSeeds_ok_iff]
  constructor
  · rintro ⟨account, present, -, signed, -, seeds, owned⟩
    exact ⟨account, present, signed, seeds, owned⟩
  · rintro ⟨account, present, signed, seeds, owned⟩
    exact ⟨account, present, (), signed, (), seeds, owned⟩

theorem submitProof_ok_iff {accounts : SubmitProof} {args : SubmitProofArgs} :
    submitProof sha256 isOnEd25519Curve programId signers chain accounts args = .ok after ↔
      (∃ account, chain accounts.score = some (.score account) ∧ accounts.authority ∈ signers ∧
        createProgramAddress sha256 isOnEd25519Curve programId (Account.score account).signerSeeds =
          some accounts.score ∧
        account.authority = accounts.authority) ∧
      args.proofHash ≠ Vector.replicate 32 0 ∧ after = chain := by
  simp only [submitProof, bind_ok_iff, ownScore_ok_iff, require_ok_iff, pure_ok_iff]
  constructor
  · rintro ⟨-, own, -, nonzero, rfl⟩
    exact ⟨own, nonzero, rfl⟩
  · rintro ⟨own, nonzero, rfl⟩
    exact ⟨(), own, (), nonzero, rfl⟩

inductive Change (sha256 : List UInt8 → Vector UInt8 32) (isOnEd25519Curve : Key → Bool) (programId : Key)
    (chain : Chain) (call : Call) : Chain → Prop
  | unchanged : Change sha256 isOnEd25519Curve programId chain call chain
  | created (key : Key) (account : Account) (free : chain key = none)
      (derived : createProgramAddress sha256 isOnEd25519Curve programId account.signerSeeds = some key) :
      Change sha256 isOnEd25519Curve programId chain call (write chain key account)
  | settled (key : Key) (old new : EscrowAccount) (present : chain key = some (.escrow old))
      (about : call.escrow = some key)
      (sameSeeds : (Account.escrow new).signerSeeds = (Account.escrow old).signerSeeds) :
      Change sha256 isOnEd25519Curve programId chain call (write chain key (.escrow new))
  | updated (key : Key) (old new : NodeRegistration) (present : chain key = some (.registration old))
      (sameSeeds : (Account.registration new).signerSeeds = (Account.registration old).signerSeeds) :
      Change sha256 isOnEd25519Curve programId chain call (write chain key (.registration new))

theorem execute_change {call : Call}
    (ok : execute sha256 isOnEd25519Curve programId now signers chain call = .ok after) :
    Change sha256 isOnEd25519Curve programId chain call after := by
  cases call with
  | initializeProgram accounts escrowTimeoutSecs =>
      obtain ⟨bump, -, found, free, rfl⟩ := initializeProgram_ok_iff.mp ok
      exact .created _ _ free (findProgramAddress_derives found)
  | lockEscrow accounts args =>
      obtain ⟨state, bump, -, -, found, free, -, rfl⟩ := lockEscrow_ok_iff.mp ok
      exact .created _ _ free (findProgramAddress_derives found)
  | releaseEscrow accounts args =>
      obtain ⟨escrow, state, allowed, rfl⟩ := releaseEscrow_ok_iff.mp ok
      exact .settled _ escrow _ allowed.escrowPresent rfl rfl
  | refundEscrow accounts =>
      obtain ⟨escrow, allowed, rfl⟩ := refundEscrow_ok_iff.mp ok
      exact .settled _ escrow _ allowed.present rfl rfl
  | registerNode accounts args =>
      simp only [execute, registerNode, bind_ok_iff, initAddress_ok_iff, pure_ok_iff] at ok
      obtain ⟨-, -, -, -, bump, ⟨found, free⟩, -, -, -, -, rfl⟩ := ok
      exact .created _ _ free (findProgramAddress_derives found)
  | updateNode accounts args =>
      simp only [execute, updateNode, bind_ok_iff, load_ok_iff asRegistration_iff, pure_ok_iff] at ok
      obtain ⟨registration, present, -, -, -, -, -, -, -, -, rfl⟩ := ok
      exact .updated _ registration _ present rfl
  | initializeScore accounts nodePubkey =>
      obtain ⟨bump, -, found, free, rfl⟩ := initializeScore_ok_iff.mp ok
      exact .created _ _ free (findProgramAddress_derives found)
  | submitProof accounts args =>
      obtain ⟨-, -, rfl⟩ := submitProof_ok_iff.mp ok
      exact .unchanged
  | anchorMerkleRoot accounts args =>
      simp only [execute, anchorMerkleRoot, bind_ok_iff, pure_ok_iff] at ok
      obtain ⟨-, -, rfl⟩ := ok
      exact .unchanged

def WellDerived (sha256 : List UInt8 → Vector UInt8 32) (isOnEd25519Curve : Key → Bool) (programId : Key)
    (chain : Chain) : Prop :=
  ∀ key account, chain key = some account →
    createProgramAddress sha256 isOnEd25519Curve programId account.signerSeeds = some key

theorem wellDerived_write {key : Key} {account : Account} (well : WellDerived sha256 isOnEd25519Curve programId chain)
    (derived : createProgramAddress sha256 isOnEd25519Curve programId account.signerSeeds = some key) :
    WellDerived sha256 isOnEd25519Curve programId (write chain key account) := by
  intro other found present
  by_cases same : other = key
  · rw [same, write_self, Option.some.injEq] at present
    rw [← present, same, derived]
  · rw [write_of_ne same] at present
    exact well other found present

theorem Change.wellDerived {call : Call} (change : Change sha256 isOnEd25519Curve programId chain call after)
    (well : WellDerived sha256 isOnEd25519Curve programId chain) :
    WellDerived sha256 isOnEd25519Curve programId after := by
  cases change with
  | unchanged => exact well
  | created key account free derived => exact wellDerived_write well derived
  | settled key old new present about sameSeeds =>
      exact wellDerived_write well (sameSeeds ▸ well key _ present)
  | updated key old new present sameSeeds =>
      exact wellDerived_write well (sameSeeds ▸ well key _ present)

theorem Change.keeps {call : Call} (change : Change sha256 isOnEd25519Curve programId chain call after) {key : Key}
    {account : Account} (present : chain key = some account) (lasting : account.asRegistration = none)
    (untouched : account.asEscrow = none ∨ call.escrow ≠ some key) : after key = some account := by
  cases change with
  | unchanged => exact present
  | created fresh added free derived =>
      have other : key ≠ fresh := by
        rintro rfl
        simp [free] at present
      rw [write_of_ne other, present]
  | settled settled old new held about sameSeeds =>
      have other : key ≠ settled := by
        rintro rfl
        obtain rfl := Option.some.inj (held.symm.trans present)
        rcases untouched with noEscrow | notAbout
        · simp [Account.asEscrow] at noEscrow
        · exact notAbout about
      rw [write_of_ne other, present]
  | updated changed old new held sameSeeds =>
      have other : key ≠ changed := by
        rintro rfl
        obtain rfl := Option.some.inj (held.symm.trans present)
        simp [Account.asRegistration] at lasting
      rw [write_of_ne other, present]

theorem process_cons_iff {call : Call} {rest : List Call} :
    process sha256 isOnEd25519Curve programId now ⟨signers, call :: rest⟩ chain = .ok after ↔
      ∃ middle, execute sha256 isOnEd25519Curve programId now signers chain call = .ok middle ∧
        process sha256 isOnEd25519Curve programId now ⟨signers, rest⟩ middle = .ok after := by
  rw [process, List.foldlM_cons, bind_ok_iff]
  rfl

theorem process_nil_iff : process sha256 isOnEd25519Curve programId now ⟨signers, []⟩ chain = .ok after ↔
    chain = after :=
  pure_ok_iff

theorem process_keeps (P : Chain → Prop) {batch : Batch}
    (keep : ∀ chain call after, call ∈ batch.calls → Change sha256 isOnEd25519Curve programId chain call after →
      P chain → P after)
    (ok : process sha256 isOnEd25519Curve programId now batch chain = .ok after) (holds : P chain) : P after := by
  obtain ⟨signers, calls⟩ := batch
  induction calls generalizing chain with
  | nil =>
      obtain rfl := process_nil_iff.mp ok
      exact holds
  | cons call rest ih =>
      obtain ⟨middle, first, later⟩ := process_cons_iff.mp ok
      have stepped := keep chain call middle List.mem_cons_self (execute_change first) holds
      exact ih stepped (fun chain other after member => keep chain other after (List.mem_cons_of_mem call member)) later

theorem run_keeps (P : Chain → Prop) (history : List (Int64 × Batch))
    (keep : ∀ event ∈ history, ∀ chain, ∀ call ∈ event.2.calls, ∀ after,
      Change sha256 isOnEd25519Curve programId chain call after → P chain → P after)
    (holds : P chain) : P (Runs.run (step sha256 isOnEd25519Curve programId) chain history) := by
  induction history generalizing chain with
  | nil => exact holds
  | cons event rest ih =>
      refine ih (fun later member => keep later (List.mem_cons_of_mem event member)) ?_
      unfold step
      split
      · exact holds
      · rename_i after ok
        exact process_keeps P (fun chain call after member => keep event List.mem_cons_self chain call member after)
          ok holds

theorem deployed_wellDerived (history : List (Int64 × Batch)) :
    WellDerived sha256 isOnEd25519Curve programId (deployed sha256 isOnEd25519Curve programId history) :=
  run_keeps (WellDerived sha256 isOnEd25519Curve programId) history
    (fun _ _ _ _ _ _ change well => change.wellDerived well) (fun _ _ present => nomatch present)

end

end Pinaivu.Program.Interface
