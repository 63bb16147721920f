import Pinaivu.Settlement.SolanaAdapter

/-!
Whether the Solana adapter can release and refund what it locked. The program records the node that
`lock_funds` is given; `release_funds` signs with the adapter's own key.
-/

namespace Pinaivu.Solana

open Settlement Program.Interface

/-- An adapter that locked funds: the program took its instruction, and no call since then was about
that escrow. -/
structure LockedRun (sha256 : List UInt8 → Vector UInt8 32) (isOnEd25519Curve : Key → Bool)
    (verifyingKey : Vector UInt8 32 → Key) (adapter : SolanaAdapter) (params : EscrowParams) where
  built : SolanaAdapter.new sha256 isOnEd25519Curve adapter.config = .ok adapter
  signer : Key
  own : adapter.signerPubkey verifyingKey = .ok signer
  sending : Sending EscrowHandle
  requested : adapter.lockFunds sha256 isOnEd25519Curve verifyingKey params = .ok sending
  signature : String
  history : List (Int64 × Batch)
  lockTime : Int64
  locked : Chain
  accepted : Accepted sha256 isOnEd25519Curve adapter.toSolanaSettlement
    (deployed sha256 isOnEd25519Curve adapter.programId history) lockTime signer sending.instructions
    ["lock_escrow"] locked
  escrowPda : Key
  located : adapter.escrowPda sha256 isOnEd25519Curve params.requestId.bytes = .ok escrowPda
  escrow : EscrowAccount
  recorded : locked escrowPda = some (.escrow escrow)
  since : List (Int64 × Batch)
  untouched : ∀ event ∈ since, ∀ call ∈ event.2.calls, call.escrow ≠ some escrowPda

namespace LockedRun

variable {sha256 : List UInt8 → Vector UInt8 32} {isOnEd25519Curve : Key → Bool}
variable {verifyingKey : Vector UInt8 32 → Key} {adapter : SolanaAdapter} {params : EscrowParams}
variable (run : LockedRun sha256 isOnEd25519Curve verifyingKey adapter params)

def handle : EscrowHandle := run.sending.result run.signature

def chain : Chain := Runs.run (step sha256 isOnEd25519Curve adapter.programId) run.locked run.since

/-- The score account of the node that made the proof is there, under the adapter's key. -/
def ScoreReady (proof : ProofOfInference) : Prop :=
  ∃ scorePda score, adapter.scorePda sha256 isOnEd25519Curve proof.nodePubkey = .ok scorePda ∧
    run.chain scorePda = some (.score score) ∧ score.authority = run.signer

def Releasable (proof : ProofOfInference) : Prop :=
  ∃ sending, adapter.releaseFunds sha256 isOnEd25519Curve verifyingKey run.handle proof = .ok sending ∧
    ∀ now ≤ run.escrow.expiresAt, ∃ after,
      Accepted sha256 isOnEd25519Curve adapter.toSolanaSettlement run.chain now run.signer sending.instructions
        ["release_escrow", "submit_proof"] after

def Refundable : Prop :=
  ∃ sending, adapter.refundFunds sha256 verifyingKey run.handle = .ok sending ∧
    ∀ now, run.escrow.expiresAt < now → ∃ after,
      Accepted sha256 isOnEd25519Curve adapter.toSolanaSettlement run.chain now run.signer sending.instructions
        ["refund_escrow"] after

end LockedRun

section

variable {sha256 : List UInt8 → Vector UInt8 32} {isOnEd25519Curve : Key → Bool}
variable {verifyingKey : Vector UInt8 32 → Key} {adapter : SolanaAdapter} {params : EscrowParams}

theorem withContext_ok {Value : Type} {text : String} {outcome : Except Failure Value} {value : Value}
    (ok : withContext text outcome = .ok value) : outcome = .ok value := by
  unfold withContext at ok
  split at ok
  · contradiction
  · exact ok

theorem lockFunds_ok {sending : Sending EscrowHandle}
    (ok : adapter.lockFunds sha256 isOnEd25519Curve verifyingKey params = .ok sending) :
    ∃ client nodeWallet escrowPda, adapter.signerPubkey verifyingKey = .ok client ∧
      decodePubkey params.nodeAddress = .ok nodeWallet ∧
      adapter.escrowPda sha256 isOnEd25519Curve params.requestId.bytes = .ok escrowPda ∧
      sending.instructions = [ixLockEscrow sha256 adapter.toSolanaSettlement escrowPda client nodeWallet
        params.requestId.bytes params.amountNanox 0] ∧
      sending.result = SolanaAdapter.handleFor escrowPda params := by
  rw [SolanaAdapter.lockFunds, bind_ok_iff] at ok
  obtain ⟨client, own, ok⟩ := ok
  obtain ⟨nodeWallet, decoded, ok⟩ := bind_ok_iff.mp ok
  obtain ⟨escrowPda, located, ok⟩ := bind_ok_iff.mp ok
  obtain rfl := Except.ok.inj ok
  exact ⟨client, nodeWallet, escrowPda, own, withContext_ok decoded, located, rfl, rfl⟩

namespace LockedRun

variable (run : LockedRun sha256 isOnEd25519Curve verifyingKey adapter params)

structure Known (nodeWallet : Key) (state : ProgramState) (chain : Chain) : Prop where
  wellDerived : WellDerived sha256 isOnEd25519Curve adapter.programId chain
  escrowPresent : chain run.escrowPda = some (.escrow run.escrow)
  statePresent : chain adapter.statePda = some (.programState state)
  client : run.escrow.client = run.signer
  node : run.escrow.node = nodeWallet
  stillLocked : run.escrow.state = .locked

theorem known_locked : ∃ nodeWallet state, decodePubkey params.nodeAddress = .ok nodeWallet ∧
    run.Known nodeWallet state run.locked := by
  obtain ⟨client, nodeWallet, escrowPda, own, decoded, located, sent, -⟩ := lockFunds_ok run.requested
  obtain rfl := Except.ok.inj (run.own.symm.trans own)
  obtain rfl := Except.ok.inj (run.located.symm.trans located)
  have accepted := run.accepted
  rw [sent] at accepted
  have isLock := Ix.IsCall.lockEscrow (lock_escrow_calls sha256 adapter.toSolanaSettlement run.escrowPda run.signer
    nodeWallet params.requestId.bytes params.amountNanox 0)
  have processed := (accepted_iff (.cons isLock .nil) rfl).mp accepted
  have well := process_keeps _ (fun _ _ _ _ change before => change.wellDerived before) processed
    (deployed_wellDerived run.history)
  obtain ⟨locked, taken, done⟩ := process_cons_iff.mp processed
  obtain rfl := process_nil_iff.mp done
  obtain ⟨state, bump, statePresent, -, -, free, -, written⟩ := lockEscrow_ok_iff.mp taken
  have recorded := run.recorded
  rw [written, write_self, Option.some.injEq, Account.escrow.injEq] at recorded
  refine ⟨nodeWallet, state, decoded, well, run.recorded, ?_, by rw [← recorded, lockedAccount],
    by rw [← recorded, lockedAccount], by rw [← recorded, lockedAccount]⟩
  have other : adapter.statePda ≠ run.escrowPda := by
    intro same
    rw [same, free] at statePresent
    contradiction
  rw [written, write_of_ne other, statePresent]

theorem known_chain : ∃ nodeWallet state, decodePubkey params.nodeAddress = .ok nodeWallet ∧
    run.Known nodeWallet state run.chain := by
  obtain ⟨nodeWallet, state, decoded, known⟩ := run.known_locked
  refine ⟨nodeWallet, state, decoded, ?_⟩
  refine run_keeps (run.Known nodeWallet state) run.since ?_ known
  intro event member chain call called after change before
  have untouched := run.untouched event member call called
  exact { before with
    wellDerived := change.wellDerived before.wellDerived
    escrowPresent := change.keeps before.escrowPresent rfl (.inr untouched)
    statePresent := change.keeps before.statePresent rfl (.inl rfl) }

theorem handleEscrow_handle : SolanaAdapter.handleEscrow run.handle = .ok run.escrowPda := by
  obtain ⟨-, -, escrowPda, -, -, located, -, result⟩ := lockFunds_ok run.requested
  obtain rfl := Except.ok.inj (run.located.symm.trans located)
  rw [handle, result]
  exact handleEscrow_handleFor run.escrowPda params run.signature

theorem refundable : run.Refundable := by
  obtain ⟨nodeWallet, state, -, known⟩ := run.known_chain
  unfold Refundable SolanaAdapter.refundFunds
  rw [run.own, run.handleEscrow_handle]
  refine ⟨_, rfl, ?_⟩
  intro now expired
  have isRefund := Ix.IsCall.refundEscrow
    (refund_escrow_calls sha256 adapter.toSolanaSettlement run.escrowPda run.signer)
  have allowed : RefundAllowed now [run.signer] run.chain ⟨run.escrowPda, run.signer⟩ run.escrow := {
    present := known.escrowPresent
    signed := List.mem_singleton_self _
    seeds := known.wellDerived _ _ known.escrowPresent
    authorized := known.client
    locked := known.stillLocked
    expired }
  have taken : execute sha256 isOnEd25519Curve adapter.programId now [run.signer] run.chain
      (.refundEscrow ⟨run.escrowPda, run.signer⟩) = .ok _ :=
    refundEscrow_ok_iff.mpr ⟨run.escrow, allowed, rfl⟩
  have processed := process_cons_iff.mpr ⟨_, taken, process_nil_iff.mpr rfl⟩
  exact ⟨_, (accepted_iff (.cons isRefund .nil) rfl).mpr processed⟩

def releaseInstructions (scorePda : Key) (proof : ProofOfInference) : List Ix :=
  [ixReleaseEscrow sha256 adapter.toSolanaSettlement run.escrowPda run.signer
      (proof.id fun bytes => sha256 bytes.data.toList),
    ixSubmitProof sha256 adapter.toSolanaSettlement scorePda run.signer
      (proof.id fun bytes => sha256 bytes.data.toList) proof.outputTokens proof.latencyMs run.handle.amountNanox]

theorem releaseFunds_ok {proof : ProofOfInference} {scorePda : Key}
    (located : adapter.scorePda sha256 isOnEd25519Curve proof.nodePubkey = .ok scorePda) :
    ∃ sending, adapter.releaseFunds sha256 isOnEd25519Curve verifyingKey run.handle proof = .ok sending ∧
      sending.instructions = run.releaseInstructions scorePda proof := by
  unfold SolanaAdapter.releaseFunds
  rw [run.own, run.handleEscrow_handle, located]
  exact ⟨_, rfl, rfl⟩

theorem releaseInstructions_calls (scorePda : Key) (proof : ProofOfInference) :
    List.Forall₂ (Ix.IsCall sha256 adapter.toSolanaSettlement) (run.releaseInstructions scorePda proof)
      [.releaseEscrow ⟨run.escrowPda, adapter.statePda, run.signer⟩ ⟨proof.id fun bytes => sha256 bytes.data.toList⟩,
        .submitProof ⟨scorePda, run.signer⟩ ⟨proof.id fun bytes => sha256 bytes.data.toList, proof.outputTokens,
          proof.latencyMs, run.handle.amountNanox⟩] :=
  .cons (.releaseEscrow (release_escrow_calls sha256 adapter.toSolanaSettlement run.escrowPda run.signer _))
    (.cons (.submitProof (submit_proof_calls sha256 adapter.toSolanaSettlement scorePda run.signer _ _ _ _)) .nil)

/-- The program takes the release only from the recorded node, and only with a proof hash that is not zero. -/
theorem of_release_accepted {proof : ProofOfInference} {scorePda nodeWallet : Key} {state : ProgramState}
    (known : run.Known nodeWallet state run.chain) {now : Int64} {after : Chain}
    (accepted : Accepted sha256 isOnEd25519Curve adapter.toSolanaSettlement run.chain now run.signer
      (run.releaseInstructions scorePda proof) ["release_escrow", "submit_proof"] after) :
    nodeWallet = run.signer ∧ (proof.id fun bytes => sha256 bytes.data.toList) ≠ Vector.replicate 32 0 := by
  have processed := (accepted_iff (run.releaseInstructions_calls scorePda proof) rfl).mp accepted
  obtain ⟨middle, released, rest⟩ := process_cons_iff.mp processed
  obtain ⟨last, submitted, -⟩ := process_cons_iff.mp rest
  obtain ⟨escrow, other, allowed, -⟩ := releaseEscrow_ok_iff.mp released
  have same := known.escrowPresent.symm.trans allowed.escrowPresent
  obtain rfl := Account.escrow.inj (Option.some.inj same)
  exact ⟨known.node.symm.trans allowed.authorized, (submitProof_ok_iff.mp submitted).2.1⟩

theorem release_accepted {proof : ProofOfInference} {scorePda : Key} {score : NodeScore} {state : ProgramState}
    (known : run.Known run.signer state run.chain) (present : run.chain scorePda = some (.score score))
    (owned : score.authority = run.signer)
    (nonzero : (proof.id fun bytes => sha256 bytes.data.toList) ≠ Vector.replicate 32 0) {now : Int64}
    (inTime : now ≤ run.escrow.expiresAt) :
    ∃ after, Accepted sha256 isOnEd25519Curve adapter.toSolanaSettlement run.chain now run.signer
      (run.releaseInstructions scorePda proof) ["release_escrow", "submit_proof"] after := by
  have allowed : ReleaseAllowed now [run.signer] run.chain ⟨run.escrowPda, adapter.statePda, run.signer⟩
      run.escrow state := {
    escrowPresent := known.escrowPresent
    statePresent := known.statePresent
    signed := List.mem_singleton_self _
    escrowSeeds := known.wellDerived _ _ known.escrowPresent
    authorized := known.node
    stateSeeds := known.wellDerived _ _ known.statePresent
    locked := known.stillLocked
    inTime }
  have other : scorePda ≠ run.escrowPda := by
    rintro rfl
    have same := Option.some.inj (known.escrowPresent.symm.trans present)
    contradiction
  obtain ⟨middle, released, kept⟩ : ∃ middle,
      execute sha256 isOnEd25519Curve adapter.programId now [run.signer] run.chain
        (.releaseEscrow ⟨run.escrowPda, adapter.statePda, run.signer⟩
          ⟨proof.id fun bytes => sha256 bytes.data.toList⟩) = .ok middle ∧
      middle scorePda = some (.score score) :=
    ⟨_, releaseEscrow_ok_iff.mpr ⟨run.escrow, state, allowed, rfl⟩, (write_of_ne other).trans present⟩
  have submitted : execute sha256 isOnEd25519Curve adapter.programId now [run.signer] middle
      (.submitProof ⟨scorePda, run.signer⟩ ⟨proof.id fun bytes => sha256 bytes.data.toList, proof.outputTokens,
        proof.latencyMs, run.handle.amountNanox⟩) = .ok middle :=
    submitProof_ok_iff.mpr
      ⟨⟨score, kept, List.mem_singleton_self _, known.wellDerived _ _ present, owned⟩, nonzero, rfl⟩
  have processed := process_cons_iff.mpr
    ⟨middle, released, process_cons_iff.mpr ⟨middle, submitted, process_nil_iff.mpr rfl⟩⟩
  exact ⟨middle, (accepted_iff (run.releaseInstructions_calls scorePda proof) rfl).mpr processed⟩

theorem releasable_iff {proof : ProofOfInference} (ready : run.ScoreReady proof) :
    run.Releasable proof ↔ decodePubkey params.nodeAddress = .ok run.signer ∧
      (proof.id fun bytes => sha256 bytes.data.toList) ≠ Vector.replicate 32 0 := by
  obtain ⟨scorePda, score, located, present, owned⟩ := ready
  obtain ⟨nodeWallet, state, decoded, known⟩ := run.known_chain
  obtain ⟨sending, sent, instructions⟩ := run.releaseFunds_ok located
  rw [decoded, Except.ok.injEq]
  constructor
  · rintro ⟨other, otherSent, taken⟩
    obtain rfl := Except.ok.inj (sent.symm.trans otherSent)
    obtain ⟨after, accepted⟩ := taken run.escrow.expiresAt (Int64.le_refl _)
    rw [instructions] at accepted
    exact run.of_release_accepted known accepted
  · rintro ⟨rfl, nonzero⟩
    refine ⟨sending, sent, ?_⟩
    intro now inTime
    rw [instructions]
    exact run.release_accepted known present owned nonzero inTime

end LockedRun

/-- What the adapter locked it can refund after the expiry, and it can release it exactly when the node
address of the parameters is its own and the proof hash is not zero. -/
theorem release_and_refund_iff (run : LockedRun sha256 isOnEd25519Curve verifyingKey adapter params)
    {proof : ProofOfInference} (ready : run.ScoreReady proof) :
    run.Releasable proof ∧ run.Refundable ↔ decodePubkey params.nodeAddress = .ok run.signer ∧
      (proof.id fun bytes => sha256 bytes.data.toList) ≠ Vector.replicate 32 0 := by
  rw [run.releasable_iff ready]
  exact and_iff_left run.refundable

end

/-! SHA-256, Ed25519 and the curve at one program, one signer and one proof. -/

def sampleNode : Vector UInt8 32 :=
  #v[129, 57, 119, 14, 168, 125, 23, 95, 86, 163, 84, 102, 195, 76, 126, 204, 203, 141, 138, 145, 180, 238, 55, 162,
     93, 246, 15, 91, 143, 201, 179, 148]

def sampleSigner : Key :=
  #v[234, 74, 108, 99, 226, 156, 82, 10, 190, 245, 80, 123, 19, 46, 197, 249, 149, 71, 118, 174, 190, 190, 123, 146,
     66, 30, 234, 105, 20, 70, 210, 44]

def otherWallet : Key :=
  #v[19, 152, 246, 44, 109, 26, 69, 124, 81, 186, 106, 75, 95, 61, 189, 47, 105, 252, 169, 50, 22, 33, 141, 200, 153,
     126, 65, 107, 209, 125, 147, 202]

def sampleStatePda : Key :=
  #v[231, 215, 27, 199, 108, 198, 221, 236, 146, 246, 113, 39, 51, 127, 122, 236, 227, 136, 143, 24, 49, 56, 68, 33,
     131, 187, 180, 199, 130, 4, 41, 120]

def sampleEscrowPda : Key :=
  #v[208, 160, 27, 181, 52, 226, 54, 197, 77, 227, 133, 242, 144, 233, 10, 146, 207, 51, 206, 96, 27, 35, 8, 59, 39,
     160, 70, 200, 154, 54, 20, 217]

def sampleScorePda : Key :=
  #v[1, 220, 53, 233, 32, 78, 147, 214, 169, 95, 68, 65, 170, 45, 83, 194, 100, 137, 190, 42, 131, 103, 233, 54, 53,
     245, 126, 129, 74, 216, 96, 113]

def lockHash : Vector UInt8 32 :=
  #v[55, 16, 5, 80, 13, 102, 206, 104, 144, 229, 10, 190, 26, 170, 219, 210, 199, 234, 106, 240, 235, 92, 70, 207, 71,
     91, 152, 170, 159, 251, 154, 60]

def releaseHash : Vector UInt8 32 :=
  #v[146, 253, 129, 233, 20, 145, 181, 206, 137, 249, 217, 195, 110, 167, 33, 26, 9, 220, 53, 251, 101, 143, 248, 184,
     217, 36, 154, 210, 37, 177, 92, 79]

def refundHash : Vector UInt8 32 :=
  #v[107, 186, 89, 99, 26, 194, 23, 204, 237, 199, 5, 195, 78, 6, 229, 250, 86, 166, 22, 182, 122, 117, 12, 179, 153,
     237, 162, 86, 80, 121, 82, 13]

def submitHash : Vector UInt8 32 :=
  #v[54, 241, 46, 84, 4, 212, 46, 94, 86, 240, 184, 11, 79, 69, 140, 120, 226, 169, 242, 17, 90, 214, 250, 167, 67,
     140, 222, 68, 133, 16, 248, 47]

def sampleProofHash : Vector UInt8 32 :=
  #v[130, 244, 48, 160, 23, 53, 158, 37, 72, 89, 146, 243, 27, 90, 242, 120, 253, 43, 74, 88, 40, 121, 71, 62, 16,
     174, 4, 127, 30, 58, 17, 245]

def sampleInput (seeds : List (List UInt8)) : List UInt8 :=
  (seeds ++ [[255]]).flatten ++ (Vector.replicate 32 3 : Key).toList ++ "ProgramDerivedAddress".toUTF8.data.toList

def sampleRequest : Vector UInt8 16 := Vector.replicate 16 1

def sampleSha256 (input : List UInt8) : Vector UInt8 32 :=
  if input = sampleInput [Program.Interface.seedState] then sampleStatePda
  else if input = sampleInput [Program.Interface.seedEscrow, sampleRequest.toList] then sampleEscrowPda
  else if input = sampleInput [Program.Interface.seedScore, sampleNode.toList] then sampleScorePda
  else if input = "global:lock_escrow".toUTF8.data.toList then lockHash
  else if input = "global:release_escrow".toUTF8.data.toList then releaseHash
  else if input = "global:refund_escrow".toUTF8.data.toList then refundHash
  else if input = "global:submit_proof".toUTF8.data.toList then submitHash
  else sampleProofHash

def sampleConfig : SolanaConfig where
  programIdStr := encodePubkey (Vector.replicate 32 3)
  keypairHex := some (String.ofList (Hex.encode ((Vector.replicate 32 7 : Key) ++ sampleSigner).toList))

def sampleAdapter : SolanaAdapter where
  programId := Vector.replicate 32 3
  statePda := sampleStatePda
  config := sampleConfig

def sampleParams (node : Key) : EscrowParams where
  requestId := ⟨sampleRequest⟩
  amountNanox := 500
  clientAddress := "http-api-client"
  nodeAddress := encodePubkey node
  tokenId := "native"

def sampleProof : ProofOfInference where
  requestId := ⟨sampleRequest⟩
  sessionId := ⟨Vector.replicate 16 2⟩
  nodePeerId := "peer"
  clientAddress := "http-api-client"
  modelId := "llama3.1:8b"
  inputTokens := 12
  outputTokens := 200
  latencyMs := 100
  pricePaidNanox := 500
  timestamp := 1700000000
  inputHash := Vector.replicate 32 1
  outputHash := Vector.replicate 32 2
  settlementId := "solana"
  escrowTxId := none
  nodePubkey := sampleNode
  signature := []

def sampleCurve : Key → Bool := fun _ => false

def sampleVerifyingKey : Vector UInt8 32 → Key := fun _ => sampleSigner

def sampleHistory : List (Int64 × Batch) :=
  [(1700000000, ⟨[sampleSigner], [.initializeProgram ⟨sampleStatePda, sampleSigner⟩ 3600,
    .initializeScore ⟨sampleScorePda, sampleSigner⟩ sampleNode]⟩)]

def sampleBefore : Chain :=
  write (write (fun _ => none) sampleStatePda (.programState ⟨sampleSigner, 3600, 255⟩)) sampleScorePda
    (.score ⟨sampleNode, sampleSigner, 255⟩)

def sampleEscrow (node : Key) : EscrowAccount :=
  lockedAccount 1700000001 ⟨sampleEscrowPda, sampleStatePda, sampleSigner, node, systemProgram, rfl⟩
    ⟨sampleRequest, 500, 0⟩ 3600 255

def sampleLocked (node : Key) : Chain := write sampleBefore sampleEscrowPda (.escrow (sampleEscrow node))

theorem sample_state_found : findProgramAddress sampleSha256 sampleCurve sampleAdapter.programId
    [Program.Interface.seedState] = some (sampleStatePda, 255) :=
  findProgramAddress_first (by decide +kernel)

theorem sample_escrow_found : findProgramAddress sampleSha256 sampleCurve sampleAdapter.programId
    [Program.Interface.seedEscrow, sampleRequest.toList] = some (sampleEscrowPda, 255) :=
  findProgramAddress_first (by decide +kernel)

theorem sample_score_found : findProgramAddress sampleSha256 sampleCurve sampleAdapter.programId
    [Program.Interface.seedScore, sampleNode.toList] = some (sampleScorePda, 255) :=
  findProgramAddress_first (by decide +kernel)

theorem sample_built : SolanaAdapter.new sampleSha256 sampleCurve sampleConfig = .ok sampleAdapter := by
  have state := pdaAddress_of_findProgramAddress sample_state_found
  have program : decodePubkey sampleConfig.programIdStr = .ok sampleAdapter.programId :=
    decodePubkey_encodePubkey _
  unfold SolanaAdapter.new
  rw [program]
  exact bind_ok_iff.mpr ⟨_, rfl, bind_ok_iff.mpr ⟨sampleStatePda, state, rfl⟩⟩

theorem sample_own : sampleAdapter.signerPubkey sampleVerifyingKey = .ok sampleSigner := by
  have decoded : Hex.decode (String.ofList (Hex.encode ((Vector.replicate 32 7 : Key) ++ sampleSigner).toList)).toList =
      some ((Vector.replicate 32 7 : Key) ++ sampleSigner).toList := by
    rw [String.toList_ofList, Hex.decode_encode]
  have key : sampleAdapter.signingKey = .ok (Vector.replicate 32 7) := by
    simp only [SolanaAdapter.signingKey, sampleAdapter, sampleConfig, decoded]
    rfl
  rw [SolanaAdapter.signerPubkey, key]
  rfl

theorem sample_deployed : deployed sampleSha256 sampleCurve sampleAdapter.programId sampleHistory = sampleBefore := by
  have started : execute sampleSha256 sampleCurve sampleAdapter.programId 1700000000 [sampleSigner] (fun _ => none)
      (.initializeProgram ⟨sampleStatePda, sampleSigner⟩ 3600) = .ok _ :=
    initializeProgram_ok_iff.mpr ⟨255, List.mem_singleton_self _, sample_state_found, rfl, rfl⟩
  have scored : execute sampleSha256 sampleCurve sampleAdapter.programId 1700000000 [sampleSigner]
      (write (fun _ => none) sampleStatePda (.programState ⟨sampleSigner, 3600, 255⟩))
      (.initializeScore ⟨sampleScorePda, sampleSigner⟩ sampleNode) = .ok sampleBefore := by
    refine initializeScore_ok_iff.mpr ⟨255, List.mem_singleton_self _, sample_score_found, ?_, rfl⟩
    exact write_of_ne (show sampleScorePda ≠ sampleStatePda by decide)
  have processed : process sampleSha256 sampleCurve sampleAdapter.programId 1700000000
      ⟨[sampleSigner], [.initializeProgram ⟨sampleStatePda, sampleSigner⟩ 3600,
        .initializeScore ⟨sampleScorePda, sampleSigner⟩ sampleNode]⟩ (fun _ => none) = .ok sampleBefore :=
    process_cons_iff.mpr ⟨_, started, process_cons_iff.mpr ⟨_, scored, process_nil_iff.mpr rfl⟩⟩
  rw [deployed, sampleHistory, Runs.run_cons, Runs.run_nil, step, processed]

theorem sample_locked (node : Key) :
    execute sampleSha256 sampleCurve sampleAdapter.programId 1700000001 [sampleSigner] sampleBefore
      (.lockEscrow ⟨sampleEscrowPda, sampleStatePda, sampleSigner, node, systemProgram, rfl⟩ ⟨sampleRequest, 500, 0⟩) =
    .ok (sampleLocked node) := by
  refine lockEscrow_ok_iff.mpr ⟨⟨sampleSigner, 3600, 255⟩, 255, ?_, List.mem_singleton_self _,
    sample_escrow_found, ?_, findProgramAddress_derives sample_state_found, rfl⟩
  · exact (write_of_ne (show sampleStatePda ≠ sampleScorePda by decide)).trans (write_self _ _ _)
  · exact (write_of_ne (show sampleEscrowPda ≠ sampleScorePda by decide)).trans
      (write_of_ne (show sampleEscrowPda ≠ sampleStatePda by decide))

def sampleRun (node : Key) :
    LockedRun sampleSha256 sampleCurve sampleVerifyingKey sampleAdapter (sampleParams node) where
  built := sample_built
  signer := sampleSigner
  own := sample_own
  sending := {
    instructions := [ixLockEscrow sampleSha256 sampleAdapter.toSolanaSettlement sampleEscrowPda sampleSigner node
      sampleRequest 500 0]
    context := "SolanaSettlement: lock_escrow failed for " ++ (sampleParams node).requestId.toText
    result := SolanaAdapter.handleFor sampleEscrowPda (sampleParams node) }
  requested := by
    have decoded : decodePubkey (sampleParams node).nodeAddress = .ok node := decodePubkey_encodePubkey node
    have located : sampleAdapter.escrowPda sampleSha256 sampleCurve (sampleParams node).requestId.bytes =
        .ok sampleEscrowPda := pdaAddress_of_findProgramAddress sample_escrow_found
    unfold SolanaAdapter.lockFunds
    rw [sample_own, decoded, located]
    rfl
  signature := "signature"
  history := sampleHistory
  lockTime := 1700000001
  locked := sampleLocked node
  accepted := by
    have isLock := Ix.IsCall.lockEscrow (lock_escrow_calls sampleSha256 sampleAdapter.toSolanaSettlement
      sampleEscrowPda sampleSigner node sampleRequest 500 0)
    have processed := process_cons_iff.mpr ⟨_, sample_locked node, process_nil_iff.mpr rfl⟩
    rw [sample_deployed]
    exact (accepted_iff (.cons isLock .nil) rfl).mpr processed
  escrowPda := sampleEscrowPda
  located := pdaAddress_of_findProgramAddress sample_escrow_found
  escrow := sampleEscrow node
  recorded := write_self _ _ _
  since := []
  untouched := by simp

theorem sample_score_ready (node : Key) : (sampleRun node).ScoreReady sampleProof := by
  have other : sampleScorePda ≠ sampleEscrowPda := by decide
  have present : sampleLocked node sampleScorePda = some (.score ⟨sampleNode, sampleSigner, 255⟩) := by
    rw [sampleLocked, write_of_ne other, sampleBefore, write_self]
  exact ⟨sampleScorePda, _, pdaAddress_of_findProgramAddress sample_score_found, present, rfl⟩

theorem sampleSha256_ne (input : List UInt8) : sampleSha256 input ≠ Vector.replicate 32 0 := by
  unfold sampleSha256
  split_ifs <;> decide

theorem release_and_refund_iff_own :
    (sampleRun sampleSigner).Releasable sampleProof ∧ (sampleRun sampleSigner).Refundable :=
  (release_and_refund_iff (sampleRun sampleSigner) (sample_score_ready sampleSigner)).mpr
    ⟨decodePubkey_encodePubkey sampleSigner, sampleSha256_ne _⟩

/-- An escrow for the wallet of another node. -/
theorem other_node_stuck : (sampleRun otherWallet).ScoreReady sampleProof ∧
    ¬ ((sampleRun otherWallet).Releasable sampleProof ∧ (sampleRun otherWallet).Refundable) := by
  refine ⟨sample_score_ready otherWallet, ?_⟩
  rintro ⟨releasable, -⟩
  have own := (((sampleRun otherWallet).releasable_iff (sample_score_ready otherWallet)).mp releasable).1
  have decoded : decodePubkey (sampleParams otherWallet).nodeAddress = .ok otherWallet :=
    decodePubkey_encodePubkey otherWallet
  have same : otherWallet = sampleSigner := Except.ok.inj (decoded.symm.trans own)
  revert same
  decide

end Pinaivu.Solana
