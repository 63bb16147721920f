import Pinaivu.Node.ApiProofs

/-!
The escrow calls of one settlement with what the adapter answers to each, and what becomes of
the funds that it locks.
-/

namespace Pinaivu.Api

open Settlement

structure EscrowAdapter extends SettlementAdapter where
  refundFunds : EscrowHandle → Except String Unit

inductive AdapterCall where
  | lockFunds (adapter : String) (params : EscrowParams) (answer : Except String EscrowHandle)
  | releaseFunds (adapter : String) (handle : EscrowHandle) (proof : ProofOfInference) (answer : Except String Unit)
  | refundFunds (adapter : String) (handle : EscrowHandle) (answer : Except String Unit)

section

variable {SigningKey : Type} (scheme : Ed25519 SigningKey) (sha256 : ByteArray → Vector UInt8 32)
variable (node : NodeState SigningKey) (circumstances : Circumstances) (adapters : List EscrowAdapter)
variable (wanted : Option (List String)) (work : Work)

def selectEscrow : Option EscrowAdapter :=
  adapters.find? fun adapter => adapter.id ∈ wanted.getD ["receipt", "free"]

def releaseProof (adapter : EscrowAdapter) (handle : EscrowHandle) : ProofOfInference :=
  (buildReceipt scheme sha256 node.identity adapter.id work circumstances.now handle.chainTxId).1

/-- `settle_and_build_receipt`: no path calls `refund_funds`. -/
def settleCalls : List AdapterCall × Option ReceiptInfo :=
  match selectEscrow adapters wanted with
  | none => ([], none)
  | some adapter =>
      let params := escrowParams scheme node work.requestId work.amountNanox
      match adapter.lockFunds params with
      | .error reason => ([.lockFunds adapter.id params (.error reason)], none)
      | .ok handle =>
          let built := buildReceipt scheme sha256 node.identity adapter.id work circumstances.now handle.chainTxId
          ([.lockFunds adapter.id params (.ok handle),
              .releaseFunds adapter.id handle built.1 (adapter.releaseFunds handle built.1)],
            some built.2)

/-- What was locked has been released, or a refund was asked for; and a receipt stands for a
release. -/
structure Concluded (calls : List AdapterCall) (receipt : Option ReceiptInfo) : Prop where
  funds : ∀ adapter params handle, .lockFunds adapter params (.ok handle) ∈ calls →
    (∃ proof, .releaseFunds adapter handle proof (.ok ()) ∈ calls) ∨
      ∃ answer, .refundFunds adapter handle answer ∈ calls
  receipt : receipt.isSome = true → ∃ adapter handle proof, .releaseFunds adapter handle proof (.ok ()) ∈ calls

def ReleasesLocked : Prop :=
  ∀ adapter handle, selectEscrow adapters wanted = some adapter →
    adapter.lockFunds (escrowParams scheme node work.requestId work.amountNanox) = .ok handle →
    adapter.releaseFunds handle (releaseProof scheme sha256 node circumstances work adapter handle) = .ok ()

def AdapterCall.effects : AdapterCall → List Effect
  | .lockFunds adapter params answer => [.lockFunds adapter params answer.isOk]
  | .releaseFunds adapter handle proof _ => [.signProof proof, .releaseFunds adapter handle proof]
  | .refundFunds .. => []

theorem settleCalls_effects (same : node.settlements = adapters.map EscrowAdapter.toSettlementAdapter) :
    settleAndBuildReceipt scheme sha256 node circumstances wanted work =
      ((settleCalls scheme sha256 node circumstances adapters wanted work).1.flatMap AdapterCall.effects,
        (settleCalls scheme sha256 node circumstances adapters wanted work).2) := by
  have selected : selectAdapter node.settlements (wanted.getD ["receipt", "free"]) =
      (selectEscrow adapters wanted).map EscrowAdapter.toSettlementAdapter := by
    rw [selectAdapter, selectEscrow, same, List.find?_map]
    rfl
  cases found : selectEscrow adapters wanted with
  | none => simp [settleAndBuildReceipt, settleCalls, selected, found]
  | some adapter =>
      cases locked : adapter.lockFunds (escrowParams scheme node work.requestId work.amountNanox) <;>
        simp [settleAndBuildReceipt, settleCalls, selected, found, locked, AdapterCall.effects, Except.isOk,
          Except.toBool]

theorem concluded_released_iff (name : String) (params : EscrowParams) (handle : EscrowHandle)
    (proof : ProofOfInference) (answer : Except String Unit) (receipt : ReceiptInfo) :
    Concluded [.lockFunds name params (.ok handle), .releaseFunds name handle proof answer] (some receipt) ↔
      answer = .ok () := by
  constructor
  · intro concluded
    obtain ⟨other, released, shown, member⟩ := concluded.receipt rfl
    simp only [List.mem_cons, reduceCtorEq, List.not_mem_nil, or_false, false_or] at member
    exact (AdapterCall.releaseFunds.inj member).2.2.2.symm
  · rintro rfl
    refine ⟨?_, fun _ => ⟨name, handle, proof, List.mem_cons_of_mem _ List.mem_cons_self⟩⟩
    intro other sent locked member
    simp only [List.mem_cons, reduceCtorEq, List.not_mem_nil, or_false] at member
    obtain ⟨rfl, -, same⟩ := AdapterCall.lockFunds.inj member
    obtain rfl := Except.ok.inj same
    exact .inl ⟨proof, List.mem_cons_of_mem _ List.mem_cons_self⟩

variable {scheme sha256 node circumstances adapters wanted work}

theorem releasesLocked_iff {adapter : EscrowAdapter} {handle : EscrowHandle}
    (selected : selectEscrow adapters wanted = some adapter)
    (locked : adapter.lockFunds (escrowParams scheme node work.requestId work.amountNanox) = .ok handle) :
    ReleasesLocked scheme sha256 node circumstances adapters wanted work ↔
      adapter.releaseFunds handle (releaseProof scheme sha256 node circumstances work adapter handle) = .ok () := by
  constructor
  · intro releases
    exact releases adapter handle selected locked
  · rintro released other otherHandle same lockedOk
    obtain rfl := Option.some.inj (selected.symm.trans same)
    obtain rfl := Except.ok.inj (locked.symm.trans lockedOk)
    exact released

theorem releasesLocked_of_error {adapter : EscrowAdapter} {reason : String}
    (selected : selectEscrow adapters wanted = some adapter)
    (failed : adapter.lockFunds (escrowParams scheme node work.requestId work.amountNanox) = .error reason) :
    ReleasesLocked scheme sha256 node circumstances adapters wanted work := by
  rintro other handle same lockedOk
  obtain rfl := Option.some.inj (selected.symm.trans same)
  rw [failed] at lockedOk
  contradiction

variable (scheme sha256 node circumstances adapters wanted work)

/-- A settlement ends with its funds released or given back, and a receipt only for a release,
exactly when the adapter releases what it locks. -/
theorem settlement_concluded_iff :
    Concluded (settleCalls scheme sha256 node circumstances adapters wanted work).1
        (settleCalls scheme sha256 node circumstances adapters wanted work).2 ↔
      ReleasesLocked scheme sha256 node circumstances adapters wanted work := by
  cases selected : selectEscrow adapters wanted with
  | none =>
      refine iff_of_true ?_ (by simp [ReleasesLocked, selected])
      simp only [settleCalls, selected]
      exact ⟨by simp, by simp⟩
  | some adapter =>
      cases locked : adapter.lockFunds (escrowParams scheme node work.requestId work.amountNanox) with
      | error reason =>
          refine iff_of_true ?_ (releasesLocked_of_error selected locked)
          simp only [settleCalls, selected, locked]
          exact ⟨by simp, by simp⟩
      | ok handle =>
          rw [releasesLocked_iff selected locked]
          simp only [settleCalls, selected, locked, concluded_released_iff]
          rfl

end

/-- An escrow that takes the lock and whose release does not go through. -/
def stuckAdapter : EscrowAdapter where
  toSettlementAdapter := { freeAdapter with releaseFunds := fun _ _ => .error "releaseEscrow: connection refused" }
  refundFunds _ := .ok ()

def sampleWork : Work where
  requestId := ⟨Vector.replicate 16 4⟩
  modelId := "llama3.1:8b"
  inputTokens := 3
  outputTokens := 1
  latencyMs := 350
  amountNanox := 1000
  prompt := "Capital of France?"
  output := "Paris"

theorem stuck_release_concludes_nothing :
    ¬ Concluded (settleCalls (oneMessage ByteArray.empty) (fun _ => Vector.replicate 32 0) (sampleNode [])
          (sampleCircumstances []) [stuckAdapter] none sampleWork).1
        (settleCalls (oneMessage ByteArray.empty) (fun _ => Vector.replicate 32 0) (sampleNode [])
          (sampleCircumstances []) [stuckAdapter] none sampleWork).2 := by
  intro concluded
  obtain ⟨name, handle, proof, member⟩ := concluded.receipt rfl
  have calls : (settleCalls (oneMessage ByteArray.empty) (fun _ => Vector.replicate 32 0) (sampleNode [])
      (sampleCircumstances []) [stuckAdapter] none sampleWork).1 = [_, .releaseFunds "free" _ _ (.error _)] := rfl
  simp [calls] at member

end Pinaivu.Api
