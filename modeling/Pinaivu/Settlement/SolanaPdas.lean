import Mathlib.Data.Set.Function
import Pinaivu.Settlement.SolanaRelease

/-!
The addresses that `find_pda` derives: which nonce it ends at, and that the adapter's three kinds of
address never meet while SHA-256 keeps apart what it is given.
-/

namespace Pinaivu.Solana

inductive Pda where
  | state
  | escrow (requestId : Vector UInt8 16)
  | score (nodePubkey : Vector UInt8 32)
  deriving DecidableEq, Repr

def Pda.seeds : Pda → List (List UInt8)
  | .state => [seedState]
  | .escrow requestId => [seedEscrow, requestId.toList]
  | .score nodePubkey => [seedScore, nodePubkey.toList]

/-- The inputs of SHA-256 in a search that ends at this nonce. -/
def hashedInputs (programId : Key) (pda : Pda) (nonce : UInt8) : Set (List UInt8) :=
  {input | ∃ tried, nonce.toNat ≤ tried ∧ tried < 256 ∧ input = pdaInput pda.seeds programId tried}

theorem findSome_descending_iff {Value : Type} (test : Nat → Option Value) (count : Nat) (value : Value) :
    (List.range count).reverse.findSome? test = some value ↔
      ∃ top < count, test top = some value ∧ ∀ larger, top < larger → larger < count → test larger = none := by
  induction count with
  | zero => simp
  | succ count ih =>
      rw [List.range_succ, List.reverse_concat, List.findSome?_cons]
      cases last : test count with
      | some found =>
          constructor
          · intro same
            refine ⟨count, Nat.lt_succ_self count, last.trans same, ?_⟩
            intro larger above below
            omega
          · rintro ⟨top, bound, found, none⟩
            by_cases same : top = count
            · rw [same, last] at found
              exact found
            · have missing := none count (by omega) (Nat.lt_succ_self count)
              rw [last] at missing
              contradiction
      | none =>
          rw [ih]
          constructor
          · rintro ⟨top, bound, found, none⟩
            refine ⟨top, Nat.lt_succ_of_lt bound, found, ?_⟩
            intro larger above below
            by_cases same : larger = count
            · rw [same, last]
            · exact none larger above (by omega)
          · rintro ⟨top, bound, found, none⟩
            have different : top ≠ count := by
              rintro rfl
              rw [last] at found
              contradiction
            refine ⟨top, by omega, found, ?_⟩
            intro larger above below
            exact none larger above (by omega)

section

variable (sha256 : List UInt8 → Vector UInt8 32) (isOnEd25519Curve : Key → Bool)

structure LargestOffCurve (seeds : List (List UInt8)) (programId address : Key) (nonce : UInt8) : Prop where
  hash : address = sha256 (pdaInput seeds programId nonce.toNat)
  offCurve : isOnEd25519Curve address = false
  largest : ∀ larger, nonce.toNat < larger → larger < 256 →
    isOnEd25519Curve (sha256 (pdaInput seeds programId larger)) = true

theorem findPda_eq_some_iff (seeds : List (List UInt8)) (programId address : Key) (nonce : UInt8) :
    findPda sha256 isOnEd25519Curve seeds programId = some (address, nonce) ↔
      LargestOffCurve sha256 isOnEd25519Curve seeds programId address nonce := by
  rw [findPda, findSome_descending_iff]
  constructor
  · rintro ⟨top, bound, found, none⟩
    dsimp only at found none
    split at found
    · contradiction
    · next off =>
        obtain ⟨rfl, rfl⟩ := Prod.mk.inj (Option.some.inj found)
        have same : (UInt8.ofNat top).toNat = top := UInt8.toNat_ofNat_of_lt' bound
        refine ⟨by rw [same], by simpa using off, ?_⟩
        intro larger above below
        rw [same] at above
        simpa using none larger above below
  · rintro ⟨rfl, off, largest⟩
    refine ⟨nonce.toNat, nonce.toNat_lt, by simp [off], ?_⟩
    intro larger above below
    simpa using largest larger above below

end

def Pda.seedLength : Pda → Nat
  | .state => 5
  | .escrow _ => 22
  | .score _ => 37

theorem length_seeds (pda : Pda) : pda.seeds.flatten.length = pda.seedLength := by
  have escrow : seedEscrow.length = 6 := by decide
  have score : seedScore.length = 5 := by decide
  cases pda with
  | state => rfl
  | escrow requestId => simp [Pda.seeds, Pda.seedLength, escrow]
  | score nodePubkey => simp [Pda.seeds, Pda.seedLength, score]

/-- The lengths keep the kinds apart, and the contents the keys of a kind. -/
theorem pdaInput_injective {programId : Key} {first second : Pda} {firstNonce secondNonce : Nat}
    (same : pdaInput first.seeds programId firstNonce = pdaInput second.seeds programId secondNonce) :
    first = second := by
  have lengths := congrArg List.length same
  simp only [pdaInput, List.length_append, List.length_singleton] at lengths
  have seeds : first.seeds.flatten = second.seeds.flatten := by
    simp only [pdaInput, List.append_assoc] at same
    exact List.append_inj_left same (by omega)
  have kinds : first.seeds.flatten.length = second.seeds.flatten.length := by rw [seeds]
  rw [length_seeds, length_seeds] at kinds
  cases first with
  | state =>
      cases second with
      | state => rfl
      | _ => simp [Pda.seedLength] at kinds
  | escrow requestId =>
      cases second with
      | escrow other =>
          have keys : requestId.toList = other.toList := by simpa [Pda.seeds] using seeds
          rw [Vector.toList_inj.mp keys]
      | _ => simp [Pda.seedLength] at kinds
  | score nodePubkey =>
      cases second with
      | score other =>
          have keys : nodePubkey.toList = other.toList := by simpa [Pda.seeds] using seeds
          rw [Vector.toList_inj.mp keys]
      | _ => simp [Pda.seedLength] at kinds

/-- The address of a search is the hash for the largest nonce off the curve, and no two of the
adapter's addresses are the same where SHA-256 has no collision among what the two searches hash. -/
theorem pda_separation (sha256 : List UInt8 → Vector UInt8 32) (isOnEd25519Curve : Key → Bool) (programId : Key) :
    (∀ (pda : Pda) (address : Key) (nonce : UInt8),
        findPda sha256 isOnEd25519Curve pda.seeds programId = some (address, nonce) ↔
          LargestOffCurve sha256 isOnEd25519Curve pda.seeds programId address nonce) ∧
      ∀ (first second : Pda) (firstFound secondFound : Key × UInt8),
        findPda sha256 isOnEd25519Curve first.seeds programId = some firstFound →
        findPda sha256 isOnEd25519Curve second.seeds programId = some secondFound →
        Set.InjOn sha256 (hashedInputs programId first firstFound.2 ∪ hashedInputs programId second secondFound.2) →
        first ≠ second → firstFound.1 ≠ secondFound.1 := by
  refine ⟨fun pda => findPda_eq_some_iff sha256 isOnEd25519Curve pda.seeds programId, ?_⟩
  rintro first second ⟨firstAddress, firstNonce⟩ ⟨secondAddress, secondNonce⟩ firstFound secondFound injective
    different same
  rw [findPda_eq_some_iff] at firstFound secondFound
  apply different
  have hashes : sha256 (pdaInput first.seeds programId firstNonce.toNat) =
      sha256 (pdaInput second.seeds programId secondNonce.toNat) := by
    rw [← firstFound.hash, ← secondFound.hash]
    exact same
  apply pdaInput_injective
  apply injective _ _ hashes
  · exact Or.inl ⟨firstNonce.toNat, Nat.le_refl _, firstNonce.toNat_lt, rfl⟩
  · exact Or.inr ⟨secondNonce.toNat, Nat.le_refl _, secondNonce.toNat_lt, rfl⟩

theorem mem_hashedInputs_last {programId : Key} {pda : Pda} {input : List UInt8}
    (hashed : input ∈ hashedInputs programId pda 255) : input = pdaInput pda.seeds programId 255 := by
  obtain ⟨tried, above, below, rfl⟩ := hashed
  have last : (255 : UInt8).toNat = 255 := rfl
  have same : tried = 255 := by omega
  rw [same]

theorem pda_separation_sample :
    findPda sampleSha256 sampleCurve Pda.state.seeds sampleAdapter.programId = some (sampleStatePda, 255) ∧
      findPda sampleSha256 sampleCurve (Pda.escrow sampleRequest).seeds sampleAdapter.programId =
        some (sampleEscrowPda, 255) ∧
      sampleStatePda ≠ sampleEscrowPda := by
  have separation := pda_separation sampleSha256 sampleCurve sampleAdapter.programId
  have state : findPda sampleSha256 sampleCurve Pda.state.seeds sampleAdapter.programId =
      some (sampleStatePda, 255) :=
    findPda_of_findProgramAddress sample_state_found
  have escrow : findPda sampleSha256 sampleCurve (Pda.escrow sampleRequest).seeds sampleAdapter.programId =
      some (sampleEscrowPda, 255) :=
    findPda_of_findProgramAddress sample_escrow_found
  refine ⟨state, escrow, separation.2 .state (.escrow sampleRequest) _ _ state escrow ?_ (by simp)⟩
  have stateHash := ((findPda_eq_some_iff _ _ _ _ _ _).mp state).hash
  have escrowHash := ((findPda_eq_some_iff _ _ _ _ _ _).mp escrow).hash
  have keys : sampleStatePda ≠ sampleEscrowPda := by decide
  have different : sampleSha256 (pdaInput Pda.state.seeds sampleAdapter.programId 255) ≠
      sampleSha256 (pdaInput (Pda.escrow sampleRequest).seeds sampleAdapter.programId 255) := by
    rw [stateHash, escrowHash] at keys
    exact keys
  rintro first (firstState | firstEscrow) second (secondState | secondEscrow) same
  · rw [mem_hashedInputs_last firstState, mem_hashedInputs_last secondState]
  · rw [mem_hashedInputs_last firstState, mem_hashedInputs_last secondEscrow] at same
    exact absurd same different
  · rw [mem_hashedInputs_last firstEscrow, mem_hashedInputs_last secondState] at same
    exact absurd same.symm different
  · rw [mem_hashedInputs_last firstEscrow, mem_hashedInputs_last secondEscrow]

end Pinaivu.Solana
