import Pinaivu.Programs.RegistryRuns

/-!
The life of one registration of the Anchor program: it begins with the call that its authority signs,
and only calls that the same authority signs change it.
-/

namespace Pinaivu.Program.Interface

open Borsh (u32Bytes u64Bytes i64Bytes)

/-- `NodeRegistration::LEN`, with the discriminator. -/
def NodeRegistration.len : Nat := 8 + 32 + 32 + (4 + maxModels * 32) + 4 + 8 + 8 + 1 + 1

def NodeRegistration.data (discriminator : Vector UInt8 8) (registration : NodeRegistration) : List UInt8 :=
  discriminator.toList ++ registration.authority.toList ++ registration.nodePubkey.toList ++
    u32Bytes (.ofNat registration.modelHashes.length) ++ (registration.modelHashes.map Vector.toList).flatten ++
    u32Bytes registration.gpuVramMb ++ u64Bytes registration.pricePer1kLamports ++
    i64Bytes registration.registeredAt ++ [if registration.active then 1 else 0] ++ [registration.bump]

def Call.updateOf (key authority : Key) : Call → Option UpdateNodeArgs
  | .updateNode accounts args =>
      if accounts.registration = key ∧ accounts.authority = authority then some args else none
  | _ => none

/-- The updates of the registration at `key` that its authority asks for in a transaction. -/
def updatesIn (signers : List Key) (key authority : Key) (calls : List Call) : List UpdateNodeArgs :=
  if signers.contains authority then calls.filterMap (Call.updateOf key authority) else []

def updatesOf (key authority : Key) (history : List (Int64 × Batch)) : List UpdateNodeArgs :=
  history.flatMap fun event => updatesIn event.2.signers key authority event.2.calls

def NodeRegistration.updateAll (registration : NodeRegistration) (updates : List UpdateNodeArgs) : NodeRegistration :=
  updates.foldl NodeRegistration.update registration

structure NodeRegistration.Same (first second : NodeRegistration) : Prop where
  authority : second.authority = first.authority
  nodePubkey : second.nodePubkey = first.nodePubkey
  registeredAt : second.registeredAt = first.registeredAt
  bump : second.bump = first.bump

theorem updateAll_append (registration : NodeRegistration) (first second : List UpdateNodeArgs) :
    registration.updateAll (first ++ second) = (registration.updateAll first).updateAll second :=
  List.foldl_append

theorem updateAll_same (registration : NodeRegistration) (updates : List UpdateNodeArgs) :
    registration.Same (registration.updateAll updates) := by
  induction updates generalizing registration with
  | nil => exact ⟨rfl, rfl, rfl, rfl⟩
  | cons args rest ih =>
      have later := ih (registration.update args)
      exact ⟨later.authority, later.nodePubkey, later.registeredAt, later.bump⟩

theorem length_hashes (hashes : List (Vector UInt8 32)) :
    (hashes.map Vector.toList).flatten.length = 32 * hashes.length := by
  induction hashes with
  | nil => rfl
  | cons hash rest ih =>
      rw [List.map_cons, List.flatten_cons, List.length_append, ih, Vector.length_toList, List.length_cons]
      omega

theorem length_data_le (discriminator : Vector UInt8 8) {registration : NodeRegistration}
    (few : registration.modelHashes.length ≤ maxModels) :
    (registration.data discriminator).length ≤ NodeRegistration.len := by
  have limit : maxModels = 8 := rfl
  simp only [NodeRegistration.data, NodeRegistration.len, List.length_append, Vector.length_toList, length_hashes,
    u32Bytes, u64Bytes, i64Bytes, Borsh.length_littleEndian, List.length_singleton]
  omega

section

variable {sha256 : List UInt8 → Vector UInt8 32} {isOnEd25519Curve : Key → Bool} {programId : Key}
variable {now : Int64} {signers : List Key} {chain after : Chain}

theorem updatesIn_cons (call : Call) (calls : List Call) (key authority : Key) :
    (updatesIn signers key authority calls).Sublist (updatesIn signers key authority (call :: calls)) := by
  unfold updatesIn
  split
  · exact (List.sublist_cons_self call calls).filterMap _
  · exact List.Sublist.refl []

theorem updatesIn_update {accounts : UpdateNode} {args : UpdateNodeArgs} (signed : accounts.authority ∈ signers)
    (calls : List Call) :
    updatesIn signers accounts.registration accounts.authority (.updateNode accounts args :: calls) =
      args :: updatesIn signers accounts.registration accounts.authority calls := by
  simp [updatesIn, signed, Call.updateOf]

theorem Move.keeps {call : Call}
    (move : Move sha256 isOnEd25519Curve programId now signers chain call after) {key : Key}
    {before : NodeRegistration} (present : registrationAt chain key = some before) :
    registrationAt after key = some before ∨
      ∃ accounts args, call = .updateNode accounts args ∧ accounts.registration = key ∧
        accounts.authority = before.authority ∧ before.authority ∈ signers ∧
        registrationAt after key = some (before.update args) := by
  cases move with
  | initialized accounts escrowTimeoutSecs bump found free =>
      left
      rw [registrationAt_other (registrationAt_none free rfl) rfl]
      exact present
  | registered accounts args bump state there signed found free few =>
      left
      have other : key ≠ accounts.registration := by
        rintro rfl
        rw [registrationAt_none free rfl] at present
        contradiction
      rw [registrationAt_write, Function.update_of_ne other]
      exact present
  | updated accounts args old there signed owned few =>
      by_cases same : accounts.registration = key
      · right
        rw [← same, registrationAt_iff, there, Option.some.injEq, Account.registration.injEq] at present
        subst present
        refine ⟨accounts, args, rfl, same, owned.symm, signed, ?_⟩
        rw [registrationAt_write, same, Function.update_self]
        rfl
      · left
        rw [registrationAt_write, Function.update_of_ne (Ne.symm same)]
        exact present
  | elsewhere _ _ uncounted silent registrations states =>
      left
      rw [registrations]
      exact present

theorem process_lasts (calls : List Call) {chain after : Chain}
    (ok : process sha256 isOnEd25519Curve programId now ⟨signers, calls⟩ chain = .ok after) {key : Key}
    {before : NodeRegistration} (present : registrationAt chain key = some before) :
    ∃ updates, updates.Sublist (updatesIn signers key before.authority calls) ∧
      registrationAt after key = some (before.updateAll updates) := by
  induction calls generalizing chain before with
  | nil =>
      obtain rfl := process_nil_iff.mp ok
      exact ⟨[], List.nil_sublist _, present⟩
  | cons call rest ih =>
      obtain ⟨middle, first, later⟩ := process_cons_iff.mp ok
      rcases (execute_move first).keeps present with kept | ⟨accounts, args, rfl, rfl, owner, signed, changed⟩
      · obtain ⟨updates, asked, result⟩ := ih later kept
        exact ⟨updates, asked.trans (updatesIn_cons call rest key before.authority), result⟩
      · obtain ⟨updates, asked, result⟩ := ih later changed
        refine ⟨args :: updates, ?_, result⟩
        rw [← owner] at signed ⊢
        rw [updatesIn_update signed, owner]
        exact asked.cons_cons args

theorem step_lasts (event : Int64 × Batch) {key : Key} {before : NodeRegistration}
    (present : registrationAt chain key = some before) :
    ∃ updates, updates.Sublist (updatesIn event.2.signers key before.authority event.2.calls) ∧
      registrationAt (step sha256 isOnEd25519Curve programId chain event) key = some (before.updateAll updates) := by
  unfold step
  split
  · exact ⟨[], List.nil_sublist _, present⟩
  · rename_i after ok
    exact process_lasts event.2.calls ok present

theorem run_lasts (events : List (Int64 × Batch)) {chain : Chain} {key : Key} {before : NodeRegistration}
    (present : registrationAt chain key = some before) :
    ∃ updates, updates.Sublist (updatesOf key before.authority events) ∧
      registrationAt (Runs.run (step sha256 isOnEd25519Curve programId) chain events) key =
        some (before.updateAll updates) := by
  induction events generalizing chain before with
  | nil => exact ⟨[], List.nil_sublist _, present⟩
  | cons event rest ih =>
      obtain ⟨first, asked, middle⟩ := step_lasts event present
      obtain ⟨second, askedLater, last⟩ := ih middle
      rw [(updateAll_same before first).authority] at askedLater
      refine ⟨first ++ second, ?_, ?_⟩
      · exact asked.append askedLater
      · rw [updateAll_append]
        exact last

/-- The call that a registration comes from. -/
structure Begins (key : Key) (event : Int64 × Batch) (accounts : RegisterNode) (args : RegisterNodeArgs) : Prop where
  called : .registerNode accounts args ∈ event.2.calls
  address : accounts.registration = key
  signed : accounts.authority ∈ event.2.signers

theorem Move.begins {call : Call}
    (move : Move sha256 isOnEd25519Curve programId now signers chain call after) {key : Key}
    {new : NodeRegistration} (absent : registrationAt chain key = none)
    (present : registrationAt after key = some new) :
    ∃ accounts args bump, call = .registerNode accounts args ∧ accounts.registration = key ∧
      accounts.authority ∈ signers ∧ new = registration now accounts.authority args bump := by
  cases move with
  | initialized accounts escrowTimeoutSecs bump found free =>
      rw [registrationAt_other (registrationAt_none free rfl) rfl, absent] at present
      contradiction
  | registered accounts args bump state there signed found free few =>
      by_cases same : accounts.registration = key
      · rw [registrationAt_write, same, Function.update_self] at present
        exact ⟨accounts, args, bump, rfl, same, signed, (Option.some.inj present).symm⟩
      · rw [registrationAt_write, Function.update_of_ne (Ne.symm same), absent] at present
        contradiction
  | updated accounts args old there signed owned few =>
      by_cases same : accounts.registration = key
      · rw [← same, registrationAt_iff.mpr there] at absent
        contradiction
      · rw [registrationAt_write, Function.update_of_ne (Ne.symm same), absent] at present
        contradiction
  | elsewhere _ _ uncounted silent registrations states =>
      rw [registrations, absent] at present
      contradiction

theorem process_begins (calls : List Call) {chain after : Chain}
    (ok : process sha256 isOnEd25519Curve programId now ⟨signers, calls⟩ chain = .ok after) {key : Key}
    {new : NodeRegistration} (absent : registrationAt chain key = none)
    (present : registrationAt after key = some new) :
    ∃ accounts args bump updates, Begins key (now, ⟨signers, calls⟩) accounts args ∧
      updates.Sublist (updatesIn signers key accounts.authority calls) ∧
      new = (registration now accounts.authority args bump).updateAll updates := by
  induction calls generalizing chain with
  | nil =>
      obtain rfl := process_nil_iff.mp ok
      rw [absent] at present
      contradiction
  | cons call rest ih =>
      obtain ⟨middle, first, later⟩ := process_cons_iff.mp ok
      cases between : registrationAt middle key with
      | none =>
          obtain ⟨accounts, args, bump, updates, begins, asked, rfl⟩ := ih later between
          exact ⟨accounts, args, bump, updates,
            ⟨List.mem_cons_of_mem call begins.called, begins.address, begins.signed⟩,
            asked.trans (updatesIn_cons call rest key accounts.authority), rfl⟩
      | some fresh =>
          obtain ⟨accounts, args, bump, rfl, address, signed, rfl⟩ := (execute_move first).begins absent between
          obtain ⟨updates, asked, result⟩ := process_lasts rest later between
          rw [present, Option.some.injEq] at result
          exact ⟨accounts, args, bump, updates, ⟨List.mem_cons_self, address, signed⟩,
            asked.trans (updatesIn_cons _ rest key accounts.authority), result⟩

theorem run_begins (history : List (Int64 × Batch)) {key : Key} {new : NodeRegistration}
    (present : registrationAt (deployed sha256 isOnEd25519Curve programId history) key = some new) :
    ∃ event ∈ history, ∃ accounts args bump updates, Begins key event accounts args ∧
      updates.Sublist (updatesOf key accounts.authority history) ∧
      new = (registration event.1 accounts.authority args bump).updateAll updates := by
  induction history using List.reverseRecOn generalizing new with
  | nil => contradiction
  | append_singleton earlier last ih =>
      rw [deployed, Runs.run_concat, ← deployed] at present
      have split (authority : Key) : updatesOf key authority (earlier ++ [last]) =
          updatesOf key authority earlier ++ updatesIn last.2.signers key authority last.2.calls := by
        rw [updatesOf, List.flatMap_append, ← updatesOf, List.flatMap_singleton]
      cases before : registrationAt (deployed sha256 isOnEd25519Curve programId earlier) key with
      | some old =>
          obtain ⟨event, member, accounts, args, bump, updates, begins, asked, rfl⟩ := ih before
          obtain ⟨more, askedNow, result⟩ := @step_lasts sha256 isOnEd25519Curve programId _ last key _ before
          rw [present, Option.some.injEq] at result
          refine ⟨event, List.mem_append_left _ member, accounts, args, bump, updates ++ more, begins, ?_, ?_⟩
          · rw [split]
            rw [(updateAll_same _ updates).authority] at askedNow
            exact asked.append askedNow
          · rw [updateAll_append]
            exact result
      | none =>
          unfold step at present
          split at present
          · rw [before] at present
            contradiction
          · rename_i after ok
            obtain ⟨accounts, args, bump, updates, begins, asked, rfl⟩ :=
              process_begins last.2.calls ok before present
            refine ⟨last, by simp, accounts, args, bump, updates, begins, ?_, rfl⟩
            rw [split]
            exact asked.trans (List.sublist_append_right _ _)

def Roomy (chain : Chain) : Prop :=
  ∀ key registration, registrationAt chain key = some registration → registration.modelHashes.length ≤ maxModels

theorem roomy_write (roomy : Roomy chain) {key : Key} {new : NodeRegistration}
    (few : new.modelHashes.length ≤ maxModels) : Roomy (write chain key (.registration new)) := by
  intro other registration present
  rw [registrationAt_write] at present
  by_cases same : other = key
  · rw [same, Function.update_self] at present
    obtain rfl := Option.some.inj present
    exact few
  · rw [Function.update_of_ne same] at present
    exact roomy other registration present

theorem Move.roomy {call : Call} (move : Move sha256 isOnEd25519Curve programId now signers chain call after)
    (roomy : Roomy chain) : Roomy after := by
  cases move with
  | initialized accounts escrowTimeoutSecs bump found free =>
      intro key registration present
      rw [registrationAt_other (registrationAt_none free rfl) rfl] at present
      exact roomy key registration present
  | registered accounts args bump state there signed found free few => exact roomy_write roomy few
  | updated accounts args old there signed owned few => exact roomy_write roomy few
  | elsewhere _ _ uncounted silent registrations states =>
      intro key registration present
      rw [registrations] at present
      exact roomy key registration present

theorem process_roomy (calls : List Call) {chain after : Chain}
    (ok : process sha256 isOnEd25519Curve programId now ⟨signers, calls⟩ chain = .ok after) (roomy : Roomy chain) :
    Roomy after := by
  induction calls generalizing chain with
  | nil =>
      obtain rfl := process_nil_iff.mp ok
      exact roomy
  | cons call rest ih =>
      obtain ⟨middle, first, later⟩ := process_cons_iff.mp ok
      exact ih later ((execute_move first).roomy roomy)

theorem deployed_roomy (history : List (Int64 × Batch)) :
    Roomy (deployed sha256 isOnEd25519Curve programId history) := by
  have nothing : Roomy fun _ => none := by
    intro key registration present
    contradiction
  refine Runs.invariant_run Roomy ?_ nothing history
  intro chain event roomy
  unfold step
  split
  · exact roomy
  · rename_i after ok
    exact process_roomy event.2.calls ok roomy

end

/-- A registration was made by a call that its authority signed, and is what that call wrote with some of
the updates, in their order, that the authority signed since; it fits the space of its account; and
whatever follows it stays at its address, changed only by updates that the authority signs. -/
theorem registration_lifetime (sha256 : List UInt8 → Vector UInt8 32) (isOnEd25519Curve : Key → Bool)
    (programId : Key) (first rest : List (Int64 × Batch)) {key : Key} {current : NodeRegistration}
    (present : deployed sha256 isOnEd25519Curve programId first key = some (.registration current)) :
    (∃ event ∈ first, ∃ accounts args bump updates, Begins key event accounts args ∧
      updates.Sublist (updatesOf key accounts.authority first) ∧
      current = (registration event.1 accounts.authority args bump).updateAll updates) ∧
    (∀ discriminator, (current.data discriminator).length ≤ NodeRegistration.len) ∧
    ∃ updates, updates.Sublist (updatesOf key current.authority rest) ∧
      deployed sha256 isOnEd25519Curve programId (first ++ rest) key =
        some (.registration (current.updateAll updates)) ∧
      current.Same (current.updateAll updates) := by
  have here := registrationAt_iff.mpr present
  refine ⟨run_begins first here, ?_, ?_⟩
  · intro discriminator
    exact length_data_le discriminator (deployed_roomy first key current here)
  · obtain ⟨updates, asked, last⟩ := @run_lasts sha256 isOnEd25519Curve programId rest _ key _ here
    refine ⟨updates, asked, ?_, updateAll_same current updates⟩
    rw [deployed, Runs.run_append, ← registrationAt_iff]
    exact last

def testProgram : Key := Vector.replicate 32 7

def testWallet : Key := Vector.replicate 32 5

def testNode : Vector UInt8 32 := Vector.replicate 32 1

def testState : Key :=
  #v[3, 156, 164, 196, 173, 139, 82, 157, 180, 241, 115, 198, 108, 154, 20, 39, 222, 72, 170, 174, 232, 3, 224, 198,
     78, 10, 162, 161, 173, 22, 49, 41]

def testRegistration : Key :=
  #v[250, 194, 254, 143, 176, 51, 94, 2, 169, 143, 217, 198, 240, 169, 194, 15, 32, 117, 213, 68, 68, 6, 215, 248, 59,
     126, 95, 13, 220, 233, 139, 234]

/-- SHA-256 at the two inputs from which the addresses with the bump 255 are made. -/
def testSha256 (input : List UInt8) : Vector UInt8 32 :=
  if input = ([seedState] ++ [[255]]).flatten ++ testProgram.toList ++ "ProgramDerivedAddress".toUTF8.data.toList then
    testState
  else testRegistration

def testCurve : Key → Bool := fun _ => false

def testArgs : RegisterNodeArgs := ⟨testNode, [Vector.replicate 32 9], 24576, 500⟩

def testHistory : List (Int64 × Batch) :=
  [(1700000000, ⟨[testWallet], [.initializeProgram ⟨testState, testWallet⟩ 3600,
    .registerNode ⟨testRegistration, testState, testWallet⟩ testArgs]⟩)]

/-- Another wallet tries to change the price, and then the wallet itself takes the node offline. -/
def testUpdates : List (Int64 × Batch) :=
  [(1700000001, ⟨[testNode], [.updateNode ⟨testRegistration, testNode⟩ ⟨[], 24576, 1, true⟩]⟩),
    (1700000002, ⟨[testWallet], [.updateNode ⟨testRegistration, testWallet⟩ ⟨[], 24576, 500, false⟩]⟩)]

def testStarted : Chain := write (fun _ => none) testState (.programState ⟨testWallet, 3600, 255⟩)

theorem test_deployed : deployed testSha256 testCurve testProgram testHistory testRegistration =
    some (.registration (registration 1700000000 testWallet testArgs 255)) := by
  have state : findProgramAddress testSha256 testCurve testProgram [seedState] = some (testState, 255) :=
    findProgramAddress_first (by decide +kernel)
  have node : findProgramAddress testSha256 testCurve testProgram [seedNode, testNode.toList] =
      some (testRegistration, 255) :=
    findProgramAddress_first (by decide +kernel)
  have started : execute testSha256 testCurve testProgram 1700000000 [testWallet] (fun _ => none)
      (.initializeProgram ⟨testState, testWallet⟩ 3600) = .ok testStarted :=
    initializeProgram_ok_iff.mpr ⟨255, List.mem_singleton_self _, state, rfl, rfl⟩
  have joined : execute testSha256 testCurve testProgram 1700000000 [testWallet] testStarted
      (.registerNode ⟨testRegistration, testState, testWallet⟩ testArgs) =
        .ok (write testStarted testRegistration (.registration (registration 1700000000 testWallet testArgs 255))) := by
    refine registerNode_ok_iff.mpr
      ⟨⟨testWallet, 3600, 255⟩, 255, write_self _ _ _, List.mem_singleton_self _, node, ?_,
        findProgramAddress_derives state, by decide, rfl⟩
    exact write_of_ne (show testRegistration ≠ testState by decide)
  have processed := process_cons_iff.mpr ⟨_, started, process_cons_iff.mpr ⟨_, joined, process_nil_iff.mpr rfl⟩⟩
  rw [deployed, testHistory, Runs.run_cons, Runs.run_nil, step, processed]
  exact write_self _ _ _

theorem registration_lifetime_test :
    ∃ updates, updates.Sublist [⟨[], 24576, 500, false⟩] ∧
      deployed testSha256 testCurve testProgram (testHistory ++ testUpdates) testRegistration =
        some (.registration ((registration 1700000000 testWallet testArgs 255).updateAll updates)) := by
  obtain ⟨-, -, updates, asked, last, -⟩ :=
    registration_lifetime testSha256 testCurve testProgram testHistory testUpdates test_deployed
  refine ⟨updates, ?_, last⟩
  have only : updatesOf testRegistration (registration 1700000000 testWallet testArgs 255).authority testUpdates =
      [⟨[], 24576, 500, false⟩] := by
    have stranger : testWallet ≠ testNode := by decide
    simp [updatesOf, updatesIn, testUpdates, registration, Call.updateOf, stranger]
  rwa [only] at asked

end Pinaivu.Program.Interface
