import Pinaivu.Reputation.StoreHistory

/-!
The order of submissions. The id that duplicates are recognised by leaves out the signature, so
of two copies of a proof the first one counts, whether or not it verifies.
-/

namespace Pinaivu.Reputation

open LocalReputationStore

section

variable {SigningKey : Type} (prims : Primitives SigningKey)

def submitAll (localPeerId : NodePeerId) (submissions : List (UInt64 × ProofOfInference)) :
    LocalReputationStore :=
  submissions.foldl (fun store submitted => (store.recordProof prims submitted.1 submitted.2).1)
    (.inMemory localPeerId)

/-- The proof, or a copy of it, is kept and verifies. -/
def Counted (store : LocalReputationStore) (proof : ProofOfInference) : Prop :=
  ∃ kept ∈ history prims store proof.nodePeerId,
    kept.id prims.sha256 = proof.id prims.sha256 ∧ kept.verify prims.scheme = true

/-- However the proofs are ordered, every node ends with the same counts, and every proof that
verifies is counted. -/
def OrderIrrelevant (localPeerId : NodePeerId) (proofs : List ProofOfInference) : Prop :=
  (∀ first second : List (UInt64 × ProofOfInference), (first.map Prod.snd).Perm proofs →
    (second.map Prod.snd).Perm proofs → ∀ nodeId,
      ((submitAll prims localPeerId first).getScore prims nodeId).totalJobs =
        ((submitAll prims localPeerId second).getScore prims nodeId).totalJobs ∧
      ((submitAll prims localPeerId first).getScore prims nodeId).verifiedProofs =
        ((submitAll prims localPeerId second).getScore prims nodeId).verifiedProofs) ∧
  ∀ order : List (UInt64 × ProofOfInference), (order.map Prod.snd).Perm proofs →
    ∀ proof ∈ proofs, proof.verify prims.scheme = true →
      Counted prims (submitAll prims localPeerId order) proof

/-- Copies of one proof verify together or not at all. -/
def CopiesAgree (proofs : List ProofOfInference) : Prop :=
  ∀ first ∈ proofs, ∀ second ∈ proofs, first.nodePeerId = second.nodePeerId →
    first.id prims.sha256 = second.id prims.sha256 →
    first.verify prims.scheme = second.verify prims.scheme

variable {prims}

theorem submitAll_spec (localPeerId : NodePeerId) (submissions : List (UInt64 × ProofOfInference)) :
    StoreConsistent prims (submitAll prims localPeerId submissions) ∧
      ∀ nodeId, history prims (submitAll prims localPeerId submissions) nodeId =
        KeyedList.firsts (·.id prims.sha256) []
          ((submissions.map Prod.snd).filter fun proof => proof.nodePeerId = nodeId) := by
  induction submissions using List.reverseRecOn with
  | nil => exact ⟨fun entry member => absurd member List.not_mem_nil, fun nodeId => rfl⟩
  | append_singleton before last ih =>
      obtain ⟨consistent, histories⟩ := ih
      have stepped : submitAll prims localPeerId (before ++ [last]) =
          ((submitAll prims localPeerId before).recordProof prims last.1 last.2).1 := by
        simp [submitAll]
      rw [stepped]
      refine ⟨recordProof_consistent consistent last.1 last.2, fun nodeId => ?_⟩
      rw [history_recordProof consistent, histories]
      by_cases same : last.2.nodePeerId = nodeId
      · simp [same, KeyedList.firsts, extend]
      · simp [same]

theorem of_node {proofs : List ProofOfInference} {nodeId : NodePeerId} {proof : ProofOfInference} :
    proof ∈ proofs.filter (fun proof => proof.nodePeerId = nodeId) ↔
      proof ∈ proofs ∧ proof.nodePeerId = nodeId := by
  simp [List.mem_filter]

theorem countsSame {localPeerId : NodePeerId} {proofs : List ProofOfInference}
    (agree : CopiesAgree prims proofs) {first second : List (UInt64 × ProofOfInference)}
    (firstOrder : (first.map Prod.snd).Perm proofs) (secondOrder : (second.map Prod.snd).Perm proofs)
    (nodeId : NodePeerId) :
    ((submitAll prims localPeerId first).getScore prims nodeId).totalJobs =
        ((submitAll prims localPeerId second).getScore prims nodeId).totalJobs ∧
      ((submitAll prims localPeerId first).getScore prims nodeId).verifiedProofs =
        ((submitAll prims localPeerId second).getScore prims nodeId).verifiedProofs := by
  obtain ⟨firstConsistent, firstHistory⟩ := @submitAll_spec _ prims localPeerId first
  obtain ⟨secondConsistent, secondHistory⟩ := @submitAll_spec _ prims localPeerId second
  have firstScores := getScore_scores firstConsistent nodeId
  have secondScores := getScore_scores secondConsistent nodeId
  have own : ((first.map Prod.snd).filter fun proof => proof.nodePeerId = nodeId).Perm
      ((second.map Prod.snd).filter fun proof => proof.nodePeerId = nodeId) :=
    (firstOrder.trans secondOrder.symm).filter _
  have copies : ∀ row ∈ (first.map Prod.snd).filter (fun proof => proof.nodePeerId = nodeId),
      ∀ other ∈ (first.map Prod.snd).filter (fun proof => proof.nodePeerId = nodeId),
      row.id prims.sha256 = other.id prims.sha256 →
      row.verify prims.scheme = other.verify prims.scheme := by
    intro row member other present
    obtain ⟨member, rowNode⟩ := of_node.mp member
    obtain ⟨present, otherNode⟩ := of_node.mp present
    exact agree row (firstOrder.mem_iff.mp member) other (firstOrder.mem_iff.mp present)
      (rowNode.trans otherNode.symm)
  constructor
  · rw [firstScores.totalJobs, secondScores.totalJobs, firstHistory, secondHistory,
      KeyedList.length_firsts_perm own]
  · rw [firstScores.verifiedProofs, secondScores.verifiedProofs, firstHistory, secondHistory,
      KeyedList.countP_firsts_perm own copies]

theorem counted_of_agree {localPeerId : NodePeerId} {proofs : List ProofOfInference}
    (agree : CopiesAgree prims proofs) {order : List (UInt64 × ProofOfInference)}
    (same : (order.map Prod.snd).Perm proofs) {proof : ProofOfInference} (member : proof ∈ proofs)
    (verifies : proof.verify prims.scheme = true) :
    Counted prims (submitAll prims localPeerId order) proof := by
  have histories := (@submitAll_spec _ prims localPeerId order).2 proof.nodePeerId
  have own := of_node.mpr ⟨same.mem_iff.mpr member, rfl⟩
  have listed : proof.id prims.sha256 ∈ (history prims (submitAll prims localPeerId order)
      proof.nodePeerId).map (·.id prims.sha256) := by
    rw [histories, KeyedList.mem_map_key_firsts]
    exact .inr (List.mem_map_of_mem own)
  obtain ⟨kept, present, sameId⟩ := List.mem_map.mp listed
  refine ⟨kept, present, sameId, ?_⟩
  rw [histories] at present
  rcases KeyedList.mem_firsts present with absent | submitted
  · exact absurd absent List.not_mem_nil
  · obtain ⟨submitted, node⟩ := of_node.mp submitted
    rw [agree kept (same.mem_iff.mp submitted) proof member node sameId, verifies]

theorem verifies_of_counted {localPeerId : NodePeerId} {proofs : List ProofOfInference}
    (counted : ∀ order : List (UInt64 × ProofOfInference), (order.map Prod.snd).Perm proofs →
      ∀ proof ∈ proofs, proof.verify prims.scheme = true →
        Counted prims (submitAll prims localPeerId order) proof)
    {proof copy : ProofOfInference} (member : proof ∈ proofs) (present : copy ∈ proofs)
    (node : proof.nodePeerId = copy.nodePeerId)
    (same : proof.id prims.sha256 = copy.id prims.sha256) (verifies : proof.verify prims.scheme = true) :
    copy.verify prims.scheme = true := by
  let order := copy :: proofs.erase copy
  let submissions := order.map fun proof => ((0 : UInt64), proof)
  have values : submissions.map Prod.snd = order := by
    simp [submissions, Function.comp_def]
  have copyFirst : (submissions.map Prod.snd).Perm proofs := by
    rw [values]
    exact (List.perm_cons_erase present).symm
  obtain ⟨kept, listed, keptId, keptVerifies⟩ := counted submissions copyFirst proof member verifies
  rw [(@submitAll_spec _ prims localPeerId submissions).2, values] at listed
  have first : copy ∈ KeyedList.firsts (fun proof => proof.id prims.sha256) []
      (order.filter fun other => other.nodePeerId = proof.nodePeerId) := by
    rw [List.filter_cons_of_pos (by simpa using node.symm)]
    exact KeyedList.mem_firsts_start (List.mem_singleton_self copy) _
  have unique := @KeyedList.firsts_nodup _ _ _ (fun proof => proof.id prims.sha256) [] List.nodup_nil
    (order.filter fun other => other.nodePeerId = proof.nodePeerId)
  have equal := List.inj_on_of_nodup_map unique listed first (keptId.trans same)
  rw [← equal]
  exact keptVerifies

/-- The order of submissions does not matter exactly when copies of a proof agree. -/
theorem order_irrelevant_iff (localPeerId : NodePeerId) (proofs : List ProofOfInference) :
    OrderIrrelevant prims localPeerId proofs ↔ CopiesAgree prims proofs := by
  constructor
  · rintro ⟨-, counted⟩ first member second present node same
    rw [Bool.eq_iff_iff]
    constructor
    · exact verifies_of_counted counted member present node same
    · exact verifies_of_counted counted present member node.symm same.symm
  · intro agree
    exact ⟨fun first second firstOrder secondOrder nodeId =>
        countsSame agree firstOrder secondOrder nodeId,
      fun order same proof member verifies => counted_of_agree agree same member verifies⟩

end

/-- A proof, and before it a copy of it with another signature. -/
theorem bad_copy_suppresses : ¬OrderIrrelevant samplePrims "peer"
    [sampleProof 1 (List.replicate 64 0), sampleProof 1 (List.replicate 64 1)] := by
  rintro ⟨-, counted⟩
  have same : (sampleProof 1 (List.replicate 64 1)).id samplePrims.sha256 =
      (sampleProof 1 (List.replicate 64 0)).id samplePrims.sha256 := by
    rw [id_sample, id_sample]
  have good : (sampleProof 1 (List.replicate 64 1)).verify samplePrims.scheme = true := rfl
  have bad : (sampleProof 1 (List.replicate 64 0)).verify samplePrims.scheme = false := rfl
  have verifies := verifies_of_counted counted (List.mem_cons_of_mem _ (List.mem_singleton_self _))
    (List.mem_cons_self ..) rfl same good
  exact Bool.false_ne_true (bad.symm.trans verifies)

end Pinaivu.Reputation
