import Pinaivu.Programs.AccountChecks
import Pinaivu.Programs.ScoreInvariant

/-!
The registry of the Anchor program over whole histories of transactions: what its events and its
counter say of the registrations, and who can change one.
-/

namespace Pinaivu.Program.Interface

inductive RegistryEvent where
  | nodeRegistered (authority : Key) (nodePubkey : Vector UInt8 32) (gpuVramMb : UInt32) (pricePer1kLamports : UInt64)
  | nodeUpdated (nodePubkey : Vector UInt8 32) (gpuVramMb : UInt32) (pricePer1kLamports : UInt64) (active : Bool)
  deriving DecidableEq

def registrationAt (chain : Chain) (key : Key) : Option NodeRegistration := (chain key).bind Account.asRegistration

def programStateAt (chain : Chain) (key : Key) : Option ProgramState := (chain key).bind Account.asProgramState

/-- The accounts with the counter `total_nodes_registered` of the program state at each address, and
the events of the registry. -/
structure Registry where
  accounts : Chain
  totalNodesRegistered : Key → UInt64
  events : List RegistryEvent

def Registry.empty : Registry := ⟨fun _ => none, fun _ => 0, []⟩

def countNodes (totals : Key → UInt64) : Call → Key → UInt64
  | .initializeProgram accounts _ => Function.update totals accounts.programState 0
  | .registerNode accounts _ =>
      Function.update totals accounts.programState (saturatingAdd64 (totals accounts.programState) 1)
  | _ => totals

def emitted (chain : Chain) : Call → List RegistryEvent
  | .registerNode accounts args =>
      [.nodeRegistered accounts.authority args.nodePubkey args.gpuVramMb args.pricePer1kLamports]
  | .updateNode accounts args =>
      (registrationAt chain accounts.registration).toList.map fun registration =>
        .nodeUpdated registration.nodePubkey args.gpuVramMb args.pricePer1kLamports args.active
  | _ => []

section

variable (sha256 : List UInt8 → Vector UInt8 32) (isOnEd25519Curve : Key → Bool) (programId : Key)

def Registry.execute (now : Int64) (signers : List Key) (registry : Registry) (call : Call) :
    Except Error Registry := do
  let accounts ← Interface.execute sha256 isOnEd25519Curve programId now signers registry.accounts call
  return ⟨accounts, countNodes registry.totalNodesRegistered call, registry.events ++ emitted registry.accounts call⟩

def Registry.process (now : Int64) (batch : Batch) (registry : Registry) : Except Error Registry :=
  batch.calls.foldlM (Registry.execute sha256 isOnEd25519Curve programId now batch.signers) registry

def Registry.step (registry : Registry) (event : Int64 × Batch) : Registry :=
  match registry.process sha256 isOnEd25519Curve programId event.1 event.2 with
  | .error _ => registry
  | .ok after => after

def Registry.deployed (history : List (Int64 × Batch)) : Registry :=
  Runs.run (Registry.step sha256 isOnEd25519Curve programId) .empty history

/-- The registration of a node, at the address that clients derive from its key. -/
def registered (chain : Chain) (nodePubkey : Vector UInt8 32) : Option NodeRegistration :=
  (findProgramAddress sha256 isOnEd25519Curve programId [seedNode, nodePubkey.toList]).bind fun address =>
    (registrationAt chain address.1).filter fun registration => registration.nodePubkey = nodePubkey

end

structure Listing where
  authority : Key
  gpuVramMb : UInt32
  pricePer1kLamports : UInt64
  active : Bool
  deriving DecidableEq

def NodeRegistration.listing (registration : NodeRegistration) : Listing :=
  ⟨registration.authority, registration.gpuVramMb, registration.pricePer1kLamports, registration.active⟩

abbrev Directory := Vector UInt8 32 → Option Listing

def Directory.apply (directory : Directory) : RegistryEvent → Directory
  | .nodeRegistered authority nodePubkey gpuVramMb pricePer1kLamports =>
      Function.update directory nodePubkey (some ⟨authority, gpuVramMb, pricePer1kLamports, true⟩)
  | .nodeUpdated nodePubkey gpuVramMb pricePer1kLamports active =>
      Function.update directory nodePubkey
        ((directory nodePubkey).map fun listing => ⟨listing.authority, gpuVramMb, pricePer1kLamports, active⟩)

def indexed (events : List RegistryEvent) : Directory := events.foldl Directory.apply fun _ => none

def RegistryEvent.registeredKey : RegistryEvent → Option (Vector UInt8 32)
  | .nodeRegistered _ nodePubkey _ _ => some nodePubkey
  | .nodeUpdated .. => none

def registeredKeys (events : List RegistryEvent) : List (Vector UInt8 32) :=
  events.filterMap RegistryEvent.registeredKey

theorem registrationAt_write (chain : Chain) (key : Key) (account : Account) :
    registrationAt (write chain key account) = Function.update (registrationAt chain) key account.asRegistration := by
  funext other
  by_cases same : other = key
  · rw [same, Function.update_self, registrationAt, write_self]
    rfl
  · rw [Function.update_of_ne same, registrationAt, write_of_ne same]
    rfl

theorem programStateAt_write (chain : Chain) (key : Key) (account : Account) :
    programStateAt (write chain key account) = Function.update (programStateAt chain) key account.asProgramState := by
  funext other
  by_cases same : other = key
  · rw [same, Function.update_self, programStateAt, write_self]
    rfl
  · rw [Function.update_of_ne same, programStateAt, write_of_ne same]
    rfl

theorem registrationAt_iff {chain : Chain} {key : Key} {registration : NodeRegistration} :
    registrationAt chain key = some registration ↔ chain key = some (.registration registration) := by
  rw [registrationAt, Option.bind_eq_some_iff]
  constructor
  · rintro ⟨account, present, read⟩
    rw [present, (asRegistration_iff account registration).mp read]
  · intro present
    exact ⟨_, present, rfl⟩

theorem programStateAt_iff {chain : Chain} {key : Key} {state : ProgramState} :
    programStateAt chain key = some state ↔ chain key = some (.programState state) := by
  rw [programStateAt, Option.bind_eq_some_iff]
  constructor
  · rintro ⟨account, present, read⟩
    rw [present, (asProgramState_iff account state).mp read]
  · intro present
    exact ⟨_, present, rfl⟩

def registration (now : Int64) (authority : Key) (args : RegisterNodeArgs) (bump : UInt8) : NodeRegistration where
  authority
  nodePubkey := args.nodePubkey
  modelHashes := args.modelHashes
  gpuVramMb := args.gpuVramMb
  pricePer1kLamports := args.pricePer1kLamports
  registeredAt := now
  active := true
  bump

def NodeRegistration.update (registration : NodeRegistration) (args : UpdateNodeArgs) : NodeRegistration :=
  { registration with
    modelHashes := args.modelHashes
    gpuVramMb := args.gpuVramMb
    pricePer1kLamports := args.pricePer1kLamports
    active := args.active }

section

variable {sha256 : List UInt8 → Vector UInt8 32} {isOnEd25519Curve : Key → Bool} {programId : Key}
variable {now : Int64} {signers : List Key} {chain after : Chain}

theorem registerNode_ok_iff {accounts : RegisterNode} {args : RegisterNodeArgs} :
    registerNode sha256 isOnEd25519Curve programId now signers chain accounts args = .ok after ↔
      ∃ state bump, chain accounts.programState = some (.programState state) ∧ accounts.authority ∈ signers ∧
        findProgramAddress sha256 isOnEd25519Curve programId [seedNode, args.nodePubkey.toList] =
          some (accounts.registration, bump) ∧
        chain accounts.registration = none ∧
        createProgramAddress sha256 isOnEd25519Curve programId (Account.programState state).signerSeeds =
          some accounts.programState ∧
        args.modelHashes.length ≤ maxModels ∧
        after = write chain accounts.registration (.registration (registration now accounts.authority args bump)) := by
  simp only [registerNode, bind_ok_iff, load_ok_iff asProgramState_iff, require_ok_iff, checkSeeds_ok_iff,
    initAddress_ok_iff, pure_ok_iff]
  constructor
  · rintro ⟨state, present, -, signed, bump, ⟨found, free⟩, -, seeds, -, few, rfl⟩
    exact ⟨state, bump, present, signed, found, free, seeds, few, rfl⟩
  · rintro ⟨state, bump, present, signed, found, free, seeds, few, rfl⟩
    exact ⟨state, present, (), signed, bump, ⟨found, free⟩, (), seeds, (), few, rfl⟩

theorem updateNode_ok_iff {accounts : UpdateNode} {args : UpdateNodeArgs} :
    updateNode sha256 isOnEd25519Curve programId signers chain accounts args = .ok after ↔
      ∃ registration, chain accounts.registration = some (.registration registration) ∧
        accounts.authority ∈ signers ∧
        createProgramAddress sha256 isOnEd25519Curve programId (Account.registration registration).signerSeeds =
          some accounts.registration ∧
        registration.authority = accounts.authority ∧ args.modelHashes.length ≤ maxModels ∧
        after = write chain accounts.registration (.registration (registration.update args)) := by
  simp only [updateNode, bind_ok_iff, load_ok_iff asRegistration_iff, require_ok_iff, checkSeeds_ok_iff, pure_ok_iff]
  constructor
  · rintro ⟨registration, present, -, signed, -, seeds, -, owned, -, few, rfl⟩
    exact ⟨registration, present, signed, seeds, owned, few, rfl⟩
  · rintro ⟨registration, present, signed, seeds, owned, few, rfl⟩
    exact ⟨registration, present, (), signed, (), seeds, (), owned, (), few, rfl⟩

inductive Move (sha256 : List UInt8 → Vector UInt8 32) (isOnEd25519Curve : Key → Bool) (programId : Key) (now : Int64)
    (signers : List Key) (chain : Chain) : Call → Chain → Prop
  | initialized (accounts : Initialize) (escrowTimeoutSecs : Int64) (bump : UInt8)
      (found : findProgramAddress sha256 isOnEd25519Curve programId [seedState] = some (accounts.programState, bump))
      (free : chain accounts.programState = none) :
      Move sha256 isOnEd25519Curve programId now signers chain (.initializeProgram accounts escrowTimeoutSecs)
        (write chain accounts.programState (.programState ⟨accounts.admin, escrowTimeoutSecs, bump⟩))
  | registered (accounts : RegisterNode) (args : RegisterNodeArgs) (bump : UInt8) (state : ProgramState)
      (present : chain accounts.programState = some (.programState state)) (signed : accounts.authority ∈ signers)
      (found : findProgramAddress sha256 isOnEd25519Curve programId [seedNode, args.nodePubkey.toList] =
        some (accounts.registration, bump))
      (free : chain accounts.registration = none) (few : args.modelHashes.length ≤ maxModels) :
      Move sha256 isOnEd25519Curve programId now signers chain (.registerNode accounts args)
        (write chain accounts.registration (.registration (registration now accounts.authority args bump)))
  | updated (accounts : UpdateNode) (args : UpdateNodeArgs) (registration : NodeRegistration)
      (present : chain accounts.registration = some (.registration registration))
      (signed : registration.authority ∈ signers) (owned : registration.authority = accounts.authority)
      (few : args.modelHashes.length ≤ maxModels) :
      Move sha256 isOnEd25519Curve programId now signers chain (.updateNode accounts args)
        (write chain accounts.registration (.registration (registration.update args)))
  | elsewhere (call : Call) (after : Chain) (uncounted : ∀ totals, countNodes totals call = totals)
      (silent : emitted chain call = []) (registrations : registrationAt after = registrationAt chain)
      (states : programStateAt after = programStateAt chain) :
      Move sha256 isOnEd25519Curve programId now signers chain call after

theorem registrationAt_other {key : Key} {account : Account} (free : registrationAt chain key = none)
    (other : account.asRegistration = none) : registrationAt (write chain key account) = registrationAt chain := by
  rw [registrationAt_write, other, ← free, Function.update_eq_self]

theorem programStateAt_other {key : Key} {account : Account} (free : programStateAt chain key = none)
    (other : account.asProgramState = none) : programStateAt (write chain key account) = programStateAt chain := by
  rw [programStateAt_write, other, ← free, Function.update_eq_self]

theorem registrationAt_none {key : Key} {account : Option Account} (there : chain key = account)
    (other : account.bind Account.asRegistration = none) : registrationAt chain key = none := by
  rw [registrationAt, there, other]

theorem programStateAt_none {key : Key} {account : Option Account} (there : chain key = account)
    (other : account.bind Account.asProgramState = none) : programStateAt chain key = none := by
  rw [programStateAt, there, other]

theorem elsewhere_new {key : Key} {account : Account} (free : chain key = none)
    (registration : account.asRegistration = none) (state : account.asProgramState = none) :
    registrationAt (write chain key account) = registrationAt chain ∧
      programStateAt (write chain key account) = programStateAt chain :=
  ⟨registrationAt_other (registrationAt_none free rfl) registration,
    programStateAt_other (programStateAt_none free rfl) state⟩

theorem elsewhere_escrow {key : Key} {old new : EscrowAccount} (present : chain key = some (.escrow old)) :
    registrationAt (write chain key (.escrow new)) = registrationAt chain ∧
      programStateAt (write chain key (.escrow new)) = programStateAt chain :=
  ⟨registrationAt_other (registrationAt_none present rfl) rfl,
    programStateAt_other (programStateAt_none present rfl) rfl⟩

theorem execute_move {call : Call} (ok : execute sha256 isOnEd25519Curve programId now signers chain call = .ok after) :
    Move sha256 isOnEd25519Curve programId now signers chain call after := by
  cases call with
  | initializeProgram accounts escrowTimeoutSecs =>
      obtain ⟨bump, -, found, free, rfl⟩ := initializeProgram_ok_iff.mp ok
      exact .initialized accounts escrowTimeoutSecs bump found free
  | lockEscrow accounts args =>
      obtain ⟨state, bump, -, -, -, free, -, rfl⟩ := lockEscrow_ok_iff.mp ok
      exact .elsewhere _ _ (fun _ => rfl) rfl (elsewhere_new free rfl rfl).1 (elsewhere_new free rfl rfl).2
  | releaseEscrow accounts args =>
      obtain ⟨escrow, state, allowed, rfl⟩ := releaseEscrow_ok_iff.mp ok
      obtain ⟨registrations, states⟩ := elsewhere_escrow allowed.escrowPresent
      exact .elsewhere _ _ (fun _ => rfl) rfl registrations states
  | refundEscrow accounts =>
      obtain ⟨escrow, allowed, rfl⟩ := refundEscrow_ok_iff.mp ok
      obtain ⟨registrations, states⟩ := elsewhere_escrow allowed.present
      exact .elsewhere _ _ (fun _ => rfl) rfl registrations states
  | registerNode accounts args =>
      obtain ⟨state, bump, present, signed, found, free, -, few, rfl⟩ := registerNode_ok_iff.mp ok
      exact .registered accounts args bump state present signed found free few
  | updateNode accounts args =>
      obtain ⟨registration, present, signed, -, owned, few, rfl⟩ := updateNode_ok_iff.mp ok
      exact .updated accounts args registration present (owned ▸ signed) owned few
  | initializeScore accounts nodePubkey =>
      obtain ⟨bump, -, -, free, rfl⟩ := initializeScore_ok_iff.mp ok
      exact .elsewhere _ _ (fun _ => rfl) rfl (elsewhere_new free rfl rfl).1 (elsewhere_new free rfl rfl).2
  | submitProof accounts args =>
      obtain ⟨-, -, rfl⟩ := submitProof_ok_iff.mp ok
      exact .elsewhere _ _ (fun _ => rfl) rfl rfl rfl
  | anchorMerkleRoot accounts args =>
      simp only [execute, anchorMerkleRoot, bind_ok_iff, pure_ok_iff] at ok
      obtain ⟨-, -, rfl⟩ := ok
      exact .elsewhere _ _ (fun _ => rfl) rfl rfl rfl

theorem indexed_append (events last : List RegistryEvent) :
    indexed (events ++ last) = last.foldl Directory.apply (indexed events) := by
  rw [indexed, List.foldl_append, ← indexed]

/-- The registrations are where their node keys put them, and the events and the counter account for
each of them. -/
structure Indexed (sha256 : List UInt8 → Vector UInt8 32) (isOnEd25519Curve : Key → Bool) (programId : Key)
    (registry : Registry) : Prop where
  placed : ∀ key registration, registrationAt registry.accounts key = some registration →
    findProgramAddress sha256 isOnEd25519Curve programId [seedNode, registration.nodePubkey.toList] =
      some (key, registration.bump)
  states : ∀ key state, programStateAt registry.accounts key = some state →
    findProgramAddress sha256 isOnEd25519Curve programId [seedState] = some (key, state.bump)
  listed : ∀ nodePubkey, indexed registry.events nodePubkey =
    (registered sha256 isOnEd25519Curve programId registry.accounts nodePubkey).map NodeRegistration.listing
  once : (registeredKeys registry.events).Nodup
  known : ∀ nodePubkey, nodePubkey ∈ registeredKeys registry.events ↔ (indexed registry.events nodePubkey).isSome
  counted : ∀ key state, programStateAt registry.accounts key = some state →
    (registry.totalNodesRegistered key).toNat = min (registeredKeys registry.events).length (u64Limit - 1)
  started : registeredKeys registry.events ≠ [] → ∃ key state, programStateAt registry.accounts key = some state

theorem empty_indexed : Indexed sha256 isOnEd25519Curve programId .empty where
  placed _ _ present := nomatch present
  states _ _ present := nomatch present
  listed nodePubkey := by
    rw [registered, Registry.empty]
    cases findProgramAddress sha256 isOnEd25519Curve programId [seedNode, nodePubkey.toList] with
    | none => rfl
    | some address => rfl
  once := List.nodup_nil
  known nodePubkey := by simp [registeredKeys, Registry.empty, indexed]
  counted _ _ present := nomatch present
  started some := absurd rfl some

theorem registered_iff {registry : Registry} (holds : Indexed sha256 isOnEd25519Curve programId registry)
    {nodePubkey : Vector UInt8 32} {registration : NodeRegistration} :
    registered sha256 isOnEd25519Curve programId registry.accounts nodePubkey = some registration ↔
      registration.nodePubkey = nodePubkey ∧ ∃ key, registrationAt registry.accounts key = some registration := by
  simp only [registered, Option.bind_eq_some_iff, Option.filter_eq_some_iff, decide_eq_true_eq]
  constructor
  · rintro ⟨address, -, present, named⟩
    exact ⟨named, address.1, present⟩
  · rintro ⟨rfl, key, present⟩
    exact ⟨(key, registration.bump), holds.placed key registration present, present, rfl⟩

theorem registered_write {key : Key} {bump : UInt8} {new : NodeRegistration}
    (found : findProgramAddress sha256 isOnEd25519Curve programId [seedNode, new.nodePubkey.toList] = some (key, bump))
    (sameNode : ∀ old, registrationAt chain key = some old → old.nodePubkey = new.nodePubkey) :
    registered sha256 isOnEd25519Curve programId (write chain key (.registration new)) =
      Function.update (registered sha256 isOnEd25519Curve programId chain) new.nodePubkey (some new) := by
  funext node
  by_cases same : node = new.nodePubkey
  · rw [same, Function.update_self, registered, found, registrationAt_write]
    simp [Account.asRegistration]
  · rw [Function.update_of_ne same, registered, registered]
    cases findProgramAddress sha256 isOnEd25519Curve programId [seedNode, node.toList] with
    | none => rfl
    | some address =>
        rw [Option.bind_some, Option.bind_some, registrationAt_write]
        by_cases collision : address.1 = key
        · -- Two node keys with one address: the account belongs to neither search for the other.
          have other : ∀ old, registrationAt chain key = some old → ¬ old.nodePubkey = node := by
            intro old present wrong
            exact same (wrong ▸ sameNode old present)
          have written : (Account.registration new).asRegistration = some new := rfl
          rw [collision, Function.update_self, written]
          cases before : registrationAt chain key with
          | none => simp [Ne.symm same]
          | some old => simp [Option.filter_some, Ne.symm same, other old before]
        · rw [Function.update_of_ne collision]

theorem placed_write {key : Key} (new : NodeRegistration)
    (placed : ∀ other registration, registrationAt chain other = some registration →
      findProgramAddress sha256 isOnEd25519Curve programId [seedNode, registration.nodePubkey.toList] =
        some (other, registration.bump))
    (found : findProgramAddress sha256 isOnEd25519Curve programId [seedNode, new.nodePubkey.toList] =
      some (key, new.bump)) :
    ∀ other registration, registrationAt (write chain key (.registration new)) other = some registration →
      findProgramAddress sha256 isOnEd25519Curve programId [seedNode, registration.nodePubkey.toList] =
        some (other, registration.bump) := by
  intro other registration there
  rw [registrationAt_write] at there
  by_cases same : other = key
  · rw [same, Function.update_self] at there
    obtain rfl := Option.some.inj there
    rw [same]
    exact found
  · rw [Function.update_of_ne same] at there
    exact placed other registration there

theorem listed_write {key : Key} (new : NodeRegistration) {directory : Directory}
    (listed : ∀ nodePubkey, directory nodePubkey =
      (registered sha256 isOnEd25519Curve programId chain nodePubkey).map NodeRegistration.listing)
    (found : findProgramAddress sha256 isOnEd25519Curve programId [seedNode, new.nodePubkey.toList] =
      some (key, new.bump))
    (sameNode : ∀ old, registrationAt chain key = some old → old.nodePubkey = new.nodePubkey)
    (nodePubkey : Vector UInt8 32) :
    Function.update directory new.nodePubkey (some new.listing) nodePubkey =
      (registered sha256 isOnEd25519Curve programId (write chain key (.registration new)) nodePubkey).map
        NodeRegistration.listing := by
  rw [registered_write found sameNode]
  by_cases same : nodePubkey = new.nodePubkey
  · rw [same, Function.update_self, Function.update_self]
    rfl
  · rw [Function.update_of_ne same, Function.update_of_ne same, listed]

section

variable {registry : Registry} (holds : Indexed sha256 isOnEd25519Curve programId registry)

include holds

theorem Indexed.unlisted {key : Key} {bump : UInt8} {nodePubkey : Vector UInt8 32}
    (found : findProgramAddress sha256 isOnEd25519Curve programId [seedNode, nodePubkey.toList] = some (key, bump))
    (free : registry.accounts key = none) : indexed registry.events nodePubkey = none := by
  rw [holds.listed, registered, found, Option.bind_some, registrationAt, free]
  rfl

theorem Indexed.state_unique {key other : Key} {state : ProgramState} {bump : UInt8}
    (present : programStateAt registry.accounts key = some state)
    (found : findProgramAddress sha256 isOnEd25519Curve programId [seedState] = some (other, bump)) : key = other := by
  have there := holds.states key state present
  rw [found, Option.some.injEq, Prod.mk.injEq] at there
  exact there.1.symm

theorem Indexed.initialize (accounts : Initialize) (escrowTimeoutSecs : Int64) (bump : UInt8)
    (found : findProgramAddress sha256 isOnEd25519Curve programId [seedState] = some (accounts.programState, bump))
    (free : registry.accounts accounts.programState = none) :
    Indexed sha256 isOnEd25519Curve programId
      ⟨write registry.accounts accounts.programState (.programState ⟨accounts.admin, escrowTimeoutSecs, bump⟩),
        Function.update registry.totalNodesRegistered accounts.programState 0, registry.events⟩ := by
  have registrations : registrationAt
      (write registry.accounts accounts.programState (.programState ⟨accounts.admin, escrowTimeoutSecs, bump⟩)) =
        registrationAt registry.accounts :=
    registrationAt_other (registrationAt_none free rfl) rfl
  -- Without a program state nobody could register.
  have nobody : registeredKeys registry.events = [] := by
    by_contra some
    obtain ⟨key, state, present⟩ := holds.started some
    rw [holds.state_unique present found, programStateAt_none free rfl] at present
    contradiction
  refine ⟨?_, ?_, ?_, holds.once, holds.known, ?_, fun some => absurd nobody some⟩
  · intro key registration present
    rw [registrations] at present
    exact holds.placed key registration present
  · intro key state present
    rw [programStateAt_write] at present
    by_cases same : key = accounts.programState
    · rw [same, Function.update_self] at present
      obtain rfl := Option.some.inj present
      rw [same]
      exact found
    · rw [Function.update_of_ne same] at present
      exact holds.states key state present
  · intro nodePubkey
    rw [holds.listed, registered, registered, registrations]
  · intro key state present
    have here : key = accounts.programState := by
      by_contra elsewhere
      rw [programStateAt_write, Function.update_of_ne elsewhere] at present
      exact elsewhere (holds.state_unique present found)
    dsimp only
    rw [here, Function.update_self, nobody]
    rfl

theorem Indexed.register (now : Int64) (accounts : RegisterNode) (args : RegisterNodeArgs) (bump : UInt8)
    (state : ProgramState) (present : registry.accounts accounts.programState = some (.programState state))
    (found : findProgramAddress sha256 isOnEd25519Curve programId [seedNode, args.nodePubkey.toList] =
      some (accounts.registration, bump))
    (free : registry.accounts accounts.registration = none) :
    Indexed sha256 isOnEd25519Curve programId
      ⟨write registry.accounts accounts.registration (.registration (registration now accounts.authority args bump)),
        countNodes registry.totalNodesRegistered (.registerNode accounts args),
        registry.events ++ emitted registry.accounts (.registerNode accounts args)⟩ := by
  have unlisted := holds.unlisted found free
  have keys : registeredKeys (registry.events ++ emitted registry.accounts (.registerNode accounts args)) =
      registeredKeys registry.events ++ [args.nodePubkey] := List.filterMap_append
  have listings : indexed (registry.events ++ emitted registry.accounts (.registerNode accounts args)) =
      Function.update (indexed registry.events) args.nodePubkey
        (some (registration now accounts.authority args bump).listing) := indexed_append _ _
  have states : programStateAt (write registry.accounts accounts.registration
      (.registration (registration now accounts.authority args bump))) = programStateAt registry.accounts :=
    programStateAt_other (programStateAt_none free rfl) rfl
  have absent : ∀ old, registrationAt registry.accounts accounts.registration = some old →
      old.nodePubkey = args.nodePubkey := by
    intro old there
    rw [registrationAt_none free rfl] at there
    contradiction
  refine ⟨placed_write (registration now accounts.authority args bump) holds.placed found, ?_, ?_, ?_, ?_, ?_, ?_⟩
  · intro key other there
    rw [states] at there
    exact holds.states key other there
  · intro nodePubkey
    rw [listings]
    exact listed_write (registration now accounts.authority args bump) holds.listed found absent nodePubkey
  · have fresh : args.nodePubkey ∉ registeredKeys registry.events := by
      rw [holds.known, unlisted]
      simp
    rw [keys]
    exact List.nodup_append_comm.mp (List.nodup_cons.mpr ⟨fresh, holds.once⟩)
  · intro nodePubkey
    rw [keys, listings, List.mem_append, List.mem_singleton, holds.known]
    by_cases same : nodePubkey = args.nodePubkey
    · simp [same]
    · simp [same]
  · intro key other there
    rw [states] at there
    have here : key = accounts.programState :=
      holds.state_unique there (holds.states _ state (programStateAt_iff.mpr present))
    have before := holds.counted key other there
    rw [keys, List.length_append, List.length_singleton]
    subst here
    simp only [countNodes, Function.update_self, saturatingAdd64_toNat]
    have one : (1 : UInt64).toNat = 1 := rfl
    omega
  · intro _
    exact ⟨accounts.programState, state, by rw [states]; exact programStateAt_iff.mpr present⟩

theorem Indexed.update (accounts : UpdateNode) (args : UpdateNodeArgs) (old : NodeRegistration)
    (present : registry.accounts accounts.registration = some (.registration old)) :
    Indexed sha256 isOnEd25519Curve programId
      ⟨write registry.accounts accounts.registration (.registration (old.update args)),
        registry.totalNodesRegistered, registry.events ++ emitted registry.accounts (.updateNode accounts args)⟩ := by
  have there : registrationAt registry.accounts accounts.registration = some old := registrationAt_iff.mpr present
  have found := holds.placed accounts.registration old there
  have event : emitted registry.accounts (.updateNode accounts args) =
      [.nodeUpdated old.nodePubkey args.gpuVramMb args.pricePer1kLamports args.active] := by rw [emitted, there]; rfl
  have keys : registeredKeys (registry.events ++ emitted registry.accounts (.updateNode accounts args)) =
      registeredKeys registry.events := by
    rw [event, registeredKeys, List.filterMap_append]
    exact List.append_nil _
  have known : indexed registry.events old.nodePubkey = some old.listing := by
    rw [holds.listed, (registered_iff holds).mpr ⟨rfl, accounts.registration, there⟩]
    rfl
  have listings : indexed (registry.events ++ emitted registry.accounts (.updateNode accounts args)) =
      Function.update (indexed registry.events) old.nodePubkey (some (old.update args).listing) := by
    rw [event, indexed_append]
    simp only [List.foldl_cons, List.foldl_nil, Directory.apply, known]
    rfl
  have states : programStateAt (write registry.accounts accounts.registration (.registration (old.update args))) =
      programStateAt registry.accounts :=
    programStateAt_other (programStateAt_none present rfl) rfl
  have sameNode : ∀ other, registrationAt registry.accounts accounts.registration = some other →
      other.nodePubkey = (old.update args).nodePubkey := by
    intro other same
    rw [there, Option.some.injEq] at same
    rw [← same]
    rfl
  refine ⟨placed_write (old.update args) holds.placed found, ?_, ?_, ?_, ?_, ?_, ?_⟩
  · intro key other same
    rw [states] at same
    exact holds.states key other same
  · intro nodePubkey
    rw [listings]
    exact listed_write (old.update args) holds.listed found sameNode nodePubkey
  · rw [keys]
    exact holds.once
  · intro nodePubkey
    rw [keys, listings, holds.known]
    by_cases same : nodePubkey = old.nodePubkey
    · simp [same, known]
    · simp [same]
  · intro key state same
    rw [states] at same
    rw [keys]
    exact holds.counted key state same
  · rw [keys, states]
    exact holds.started

theorem Indexed.step {signers : List Key} {now : Int64} {call : Call} {after : Chain}
    (move : Move sha256 isOnEd25519Curve programId now signers registry.accounts call after) :
    Indexed sha256 isOnEd25519Curve programId
      ⟨after, countNodes registry.totalNodesRegistered call, registry.events ++ emitted registry.accounts call⟩ := by
  cases move with
  | initialized accounts escrowTimeoutSecs bump found free =>
      have silent : emitted registry.accounts (.initializeProgram accounts escrowTimeoutSecs) = [] := rfl
      rw [silent, List.append_nil]
      exact holds.initialize accounts escrowTimeoutSecs bump found free
  | registered accounts args bump state present signed found free few =>
      exact holds.register now accounts args bump state present found free
  | updated accounts args old present signed owned few => exact holds.update accounts args old present
  | elsewhere _ _ uncounted silent registrations states =>
      rw [uncounted, silent, List.append_nil]
      refine ⟨?_, ?_, ?_, holds.once, holds.known, ?_, ?_⟩
      · rw [registrations]
        exact holds.placed
      · rw [states]
        exact holds.states
      · intro nodePubkey
        rw [holds.listed, registered, registered, registrations]
      · rw [states]
        exact holds.counted
      · rw [states]
        exact holds.started

end

/-! The registry over histories. -/

section

variable {registry result : Registry}

theorem registry_execute_iff {call : Call} :
    registry.execute sha256 isOnEd25519Curve programId now signers call = .ok result ↔
      ∃ accounts, execute sha256 isOnEd25519Curve programId now signers registry.accounts call = .ok accounts ∧
        ⟨accounts, countNodes registry.totalNodesRegistered call,
          registry.events ++ emitted registry.accounts call⟩ = result := by
  rw [Registry.execute, bind_ok_iff]
  exact exists_congr fun accounts => and_congr_right fun _ => pure_ok_iff

theorem registry_process_nil :
    registry.process sha256 isOnEd25519Curve programId now ⟨signers, []⟩ = .ok result ↔ registry = result :=
  pure_ok_iff

theorem registry_process_cons {call : Call} {rest : List Call} :
    registry.process sha256 isOnEd25519Curve programId now ⟨signers, call :: rest⟩ = .ok result ↔
      ∃ middle, registry.execute sha256 isOnEd25519Curve programId now signers call = .ok middle ∧
        middle.process sha256 isOnEd25519Curve programId now ⟨signers, rest⟩ = .ok result := by
  rw [Registry.process, List.foldlM_cons, bind_ok_iff]
  exact Iff.rfl

/-- The counter and the events decide nothing. -/
theorem registry_process_accounts (calls : List Call) (registry : Registry) :
    (registry.process sha256 isOnEd25519Curve programId now ⟨signers, calls⟩).map Registry.accounts =
      process sha256 isOnEd25519Curve programId now ⟨signers, calls⟩ registry.accounts := by
  induction calls generalizing registry with
  | nil => rfl
  | cons call rest ih =>
      simp only [Registry.process, process, List.foldlM_cons] at ih ⊢
      cases outcome : execute sha256 isOnEd25519Curve programId now signers registry.accounts call with
      | error reason =>
          rw [Registry.execute, outcome]
          rfl
      | ok accounts =>
          rw [Registry.execute, outcome]
          exact ih _

theorem registry_step_accounts (registry : Registry) (event : Int64 × Batch) :
    (registry.step sha256 isOnEd25519Curve programId event).accounts =
      step sha256 isOnEd25519Curve programId registry.accounts event := by
  have same := @registry_process_accounts sha256 isOnEd25519Curve programId event.1 event.2.signers event.2.calls
    registry
  rw [Registry.step, step, ← same]
  cases registry.process sha256 isOnEd25519Curve programId event.1 event.2 with
  | error reason => rfl
  | ok after => rfl

theorem registry_deployed_accounts (history : List (Int64 × Batch)) :
    (Registry.deployed sha256 isOnEd25519Curve programId history).accounts =
      deployed sha256 isOnEd25519Curve programId history := by
  apply @Runs.related_run _ _ (Registry.step sha256 isOnEd25519Curve programId) _
    (step sha256 isOnEd25519Curve programId) fun registry chain => registry.accounts = chain
  · rintro registry chain event rfl
    exact registry_step_accounts registry event
  · rfl

theorem process_indexed (calls : List Call) {registry result : Registry}
    (holds : Indexed sha256 isOnEd25519Curve programId registry)
    (ok : registry.process sha256 isOnEd25519Curve programId now ⟨signers, calls⟩ = .ok result) :
    Indexed sha256 isOnEd25519Curve programId result := by
  induction calls generalizing registry with
  | nil =>
      obtain rfl := registry_process_nil.mp ok
      exact holds
  | cons call rest ih =>
      obtain ⟨middle, first, later⟩ := registry_process_cons.mp ok
      obtain ⟨accounts, taken, rfl⟩ := registry_execute_iff.mp first
      exact ih (holds.step (execute_move taken)) later

theorem deployed_indexed (history : List (Int64 × Batch)) :
    Indexed sha256 isOnEd25519Curve programId (Registry.deployed sha256 isOnEd25519Curve programId history) := by
  refine Runs.invariant_run (Indexed sha256 isOnEd25519Curve programId) ?_ empty_indexed history
  intro registry event holds
  rw [Registry.step]
  cases outcome : registry.process sha256 isOnEd25519Curve programId event.1 event.2 with
  | error reason => exact holds
  | ok after => exact process_indexed event.2.calls holds outcome

end

end

end Pinaivu.Program.Interface
