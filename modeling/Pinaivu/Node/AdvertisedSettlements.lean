import Pinaivu.Node.AdapterLoading

/-!
The settlements that a node advertises against those that it loaded: the advertised list
is the configuration as it stands, and an incomplete adapter is skipped.
-/

namespace Pinaivu.Node

open P2P Inference

section

variable {SigningKey : Type} (libraries : Libraries SigningKey) (solanaFeature : Bool)

/-- The configuration has all that an adapter of its kind is built from. -/
def Complete (config : SettlementAdapterConfig) : Prop :=
  if config.id = "free" ∨ config.id = "receipt" ∨ config.id = "arc-gateway" ∨ config.id = "channel" then True
  else if config.id = "sui" then
    config.rpcUrl.isSome ∧ config.packageId.isSome ∧ config.contractAddress.isSome
  else if isEvm config.id then
    config.rpcUrl.isSome ∧ config.contractAddress.isSome ∧ (evmChainId config).isSome
  else if config.id = "solana" then
    solanaFeature ∧ config.rpcUrl.isSome ∧ (config.contractAddress.bind (decodePubkey libraries)).isSome
  else False

variable {libraries solanaFeature}

theorem loadSui_id {config : SettlementAdapterConfig} {adapter : Adapter}
    (loaded : loadSui config = .loaded adapter) : adapter.id = "sui" := by
  rw [loadSui] at loaded
  split at loaded
  · cases loaded
    rfl
  · cases loaded

theorem loadEvm_id {config : SettlementAdapterConfig} {adapter : Adapter}
    (loaded : loadEvm config = .loaded adapter) : adapter.id = config.id := by
  rw [loadEvm] at loaded
  split at loaded
  · cases loaded
    rfl
  · cases loaded

theorem loadSolana_id {config : SettlementAdapterConfig} {adapter : Adapter}
    (loaded : loadSolana libraries config = .loaded adapter) : adapter.id = "solana" := by
  rw [loadSolana] at loaded
  split at loaded
  · split at loaded
    · cases loaded
    · split at loaded
      · cases loaded
      · cases loaded
        rfl
  · cases loaded

theorem loadAdapter_id {config : SettlementAdapterConfig} {adapter : Adapter}
    (loaded : loadAdapter libraries solanaFeature config = .loaded adapter) : adapter.id = config.id := by
  rw [loadAdapter] at loaded
  split_ifs at loaded with free receipt gateway channel sui evm solana feature
  · cases loaded
    exact free.symm
  · cases loaded
    exact receipt.symm
  · cases loaded
    exact gateway.symm
  · cases loaded
    exact channel.symm
  · exact (loadSui_id loaded).trans sui.symm
  · exact loadEvm_id loaded
  · exact (loadSolana_id loaded).trans solana.symm

theorem loadSui_loaded_iff (config : SettlementAdapterConfig) :
    (∃ adapter, loadSui config = .loaded adapter) ↔
      config.rpcUrl.isSome ∧ config.packageId.isSome ∧ config.contractAddress.isSome := by
  rw [loadSui]
  cases config.rpcUrl <;> cases config.packageId <;> cases config.contractAddress <;> simp

theorem loadEvm_loaded_iff (config : SettlementAdapterConfig) :
    (∃ adapter, loadEvm config = .loaded adapter) ↔
      config.rpcUrl.isSome ∧ config.contractAddress.isSome ∧ (evmChainId config).isSome := by
  rw [loadEvm]
  cases config.rpcUrl <;> cases config.contractAddress <;> cases evmChainId config <;> simp

theorem loadSolana_loaded_iff {config : SettlementAdapterConfig}
    (running : loadSolana libraries config ≠ .panicked) :
    (∃ adapter, loadSolana libraries config = .loaded adapter) ↔
      config.rpcUrl.isSome ∧ (config.contractAddress.bind (decodePubkey libraries)).isSome := by
  cases rpc : config.rpcUrl with
  | none => simp [loadSolana, rpc]
  | some rpcUrl =>
      cases address : config.contractAddress with
      | none => simp [loadSolana, rpc, address]
      | some text =>
          cases decoded : decodePubkey libraries text with
          | none => simp [loadSolana, rpc, address, decoded]
          | some programId =>
              cases derived : Solana.findPda libraries.sha256 libraries.isOnEd25519Curve [Solana.seedState]
                  programId with
              | none => simp [loadSolana, rpc, address, decoded, derived] at running
              | some pda => simp [loadSolana, rpc, address, decoded, derived]

theorem loadAdapter_loaded_iff {config : SettlementAdapterConfig}
    (running : loadAdapter libraries solanaFeature config ≠ .panicked) :
    (∃ adapter, loadAdapter libraries solanaFeature config = .loaded adapter) ↔
      Complete libraries solanaFeature config := by
  rw [Complete]
  by_cases plain : config.id = "free" ∨ config.id = "receipt" ∨ config.id = "arc-gateway" ∨ config.id = "channel"
  · rw [if_pos plain, iff_true]
    rcases plain with named | named | named | named <;> simp [loadAdapter, named]
  · have fromChain : loadAdapter libraries solanaFeature config =
        if config.id = "sui" then loadSui config
        else if isEvm config.id then loadEvm config
        else if config.id = "solana" then if solanaFeature then loadSolana libraries config else .skipped
        else .skipped := by
      simp only [not_or] at plain
      rw [loadAdapter, if_neg plain.1, if_neg plain.2.1, if_neg plain.2.2.1, if_neg plain.2.2.2]
    rw [fromChain] at running ⊢
    rw [if_neg plain]
    split_ifs at running ⊢ with sui evm solana feature
    · exact loadSui_loaded_iff config
    · exact loadEvm_loaded_iff config
    · rw [loadSolana_loaded_iff running]
      simp [feature]
    · simp [feature]
    · simp

theorem loadAdapters_id_iff {configs : List SettlementAdapterConfig} {adapters : List Adapter}
    (loaded : loadAdapters libraries solanaFeature configs = some adapters) (id : String) :
    (∃ adapter ∈ adapters, adapter.id = id) ↔
      ∃ config ∈ configs, config.id = id ∧ Complete libraries solanaFeature config := by
  induction configs generalizing adapters with
  | nil =>
      cases loaded
      simp
  | cons config rest ih =>
      rw [loadAdapters] at loaded
      cases outcome : loadAdapter libraries solanaFeature config with
      | panicked => simp [outcome] at loaded
      | skipped =>
          rw [outcome] at loaded
          have incomplete : ¬Complete libraries solanaFeature config := by
            rw [← loadAdapter_loaded_iff (by simp [outcome]), outcome]
            simp
          simp only [List.mem_cons, or_and_right, exists_or, exists_eq_left, ih loaded, incomplete, and_false,
            false_or]
      | loaded adapter =>
          have named := loadAdapter_id outcome
          have whole : Complete libraries solanaFeature config :=
            (loadAdapter_loaded_iff (by simp [outcome])).mp ⟨adapter, outcome⟩
          rw [outcome] at loaded
          obtain ⟨others, found, rfl⟩ := Option.map_eq_some_iff.mp loaded
          simp only [List.mem_cons, or_and_right, exists_or, exists_eq_left, ih found, whole, and_true, named]

theorem ensureFreeFallback_id_iff (adapters : List Adapter) (id : String) :
    (∃ adapter ∈ ensureFreeFallback adapters, adapter.id = id) ↔
      id = "free" ∨ ∃ adapter ∈ adapters, adapter.id = id := by
  rw [ensureFreeFallback]
  split_ifs with present
  · obtain ⟨fallback, member, named⟩ := List.any_eq_true.mp present
    rw [beq_iff_eq] at named
    constructor
    · exact Or.inr
    · rintro (rfl | found)
      · exact ⟨fallback, member, named⟩
      · exact found
  · simp only [List.mem_append, List.mem_singleton, or_and_right, exists_or, exists_eq_left]
    rw [or_comm, Adapter.id, eq_comm]

theorem settlements_id_iff {config : NodeConfig} {adapters : List Adapter}
    (started : settlements libraries solanaFeature config = some adapters) (id : String) :
    (∃ adapter ∈ adapters, adapter.id = id) ↔
      id = "free" ∨
        ∃ configured ∈ config.settlement.adapters, configured.id = id ∧
          Complete libraries solanaFeature configured := by
  obtain ⟨loaded, found, rfl⟩ := Option.map_eq_some_iff.mp started
  rw [ensureFreeFallback_id_iff, loadAdapters_id_iff found]

end

def serving (lockFunds : Adapter → Settlement.EscrowParams → Except String Settlement.EscrowHandle)
    (releaseFunds : Adapter → Settlement.EscrowHandle → ProofOfInference → Except String Unit)
    (adapter : Adapter) : Api.SettlementAdapter where
  id := adapter.id
  lockFunds := lockFunds adapter
  releaseFunds := releaseFunds adapter

section

variable (lockFunds : Adapter → Settlement.EscrowParams → Except String Settlement.EscrowHandle)
variable (releaseFunds : Adapter → Settlement.EscrowHandle → ProofOfInference → Except String Unit)

theorem selectAdapter_isSome_iff (adapters : List Adapter) (id : String) :
    (Api.selectAdapter (adapters.map (serving lockFunds releaseFunds)) [id]).isSome = true ↔
      ∃ adapter ∈ adapters, adapter.id = id := by
  rw [Api.selectAdapter, List.find?_isSome]
  simp [serving]

variable {SigningKey : Type} (libraries : Libraries SigningKey) (solanaFeature : Bool)

theorem advertised_usable_iff (config : NodeConfig) (adapters : List Adapter) (peerId : NodePeerId)
    (available : Except String (List String)) (reputation : Except String ReputationScore) (load : Load)
    (request : InferenceRequest) (started : settlements libraries solanaFeature config = some adapters) :
    (∀ offer ∈ (nodeCapabilities config peerId available reputation).acceptedSettlements ++
        (buildBid config load request peerId).acceptedSettlements,
      (Api.selectAdapter (adapters.map (serving lockFunds releaseFunds)) [offer.settlementId]).isSome = true) ↔
    ∀ adapter ∈ config.settlement.adapters, adapter.id = "free" ∨
      ∃ other ∈ config.settlement.adapters, other.id = adapter.id ∧ Complete libraries solanaFeature other := by
  simp only [selectAdapter_isSome_iff, settlements_id_iff started, List.mem_append, nodeCapabilities, buildBid,
    List.mem_map]
  constructor
  · intro usable adapter member
    exact usable _ (Or.inl ⟨adapter, member, rfl⟩)
  · rintro found offer (⟨adapter, member, rfl⟩ | ⟨adapter, member, rfl⟩)
    · exact found adapter member
    · exact found adapter member

end

def unusedLibraries : Libraries Unit where
  evm := {
    keccak256 := fun _ => Vector.replicate 32 0
    fromBytes := fun _ => none
    publicKey := fun _ => Vector.replicate 64 0
    signPrehashRecoverable := fun _ _ => none }
  base58 := fun _ => none
  sha256 := fun _ => Vector.replicate 32 0
  isOnEd25519Curve := fun _ => false

def configured (id : String) (rpcUrl : Option String) : NodeConfig where
  gpu := ⟨1⟩
  inference := ⟨8192⟩
  pricing := ⟨10, 100, false⟩
  privacy := ⟨false⟩
  health := ⟨none⟩
  settlement := ⟨[{
    id := id
    pricePer1k := 10
    tokenId := "native"
    rpcUrl := rpcUrl
    contractAddress := some "0x5fbdb2315678afecb367f032d93f642f64180aa3"
    packageId := some "0xabc"
    chainId := none
    signerKeyHex := none
    nodePubkeyHex := none
    circleApiKey := none }]⟩

def advertisedRequest : InferenceRequest where
  requestId := ⟨Vector.replicate 16 5⟩
  sessionId := ⟨Vector.replicate 16 6⟩
  modelPreference := "llama3.1:8b"
  contextBlobId := none
  promptEncrypted := []
  promptNonce := []
  maxTokens := 256
  temperature := .ofNat 1
  escrowTxId := ""
  budgetNanox := 10000
  timestamp := 0
  clientPeerId := "client"
  privacyLevel := .standard
  acceptedSettlements := ["sui"]
  targetPeerId := none
  responseTopic := none
  promptPlain := none

theorem advertised_usable_evm :
    ⟨"evm-8453", 10, "native"⟩ ∈ (buildBid (configured "evm-8453" (some "https://mainnet.base.org")) ⟨0, 0⟩
        advertisedRequest "node").acceptedSettlements ∧
      (Api.selectAdapter ((ensureFreeFallback [.evm {
            id := "evm-8453"
            contractAddress := "0x5fbdb2315678afecb367f032d93f642f64180aa3"
            chainId := 8453
            signerSeed := none
            rpcUrl := "https://mainnet.base.org"
            pricePer1k := 10
            tokenId := "native" }]).map (serving (fun _ _ => .error "") (fun _ _ _ => .error "")))
          ["evm-8453"]).isSome = true := by
  have offered : ⟨"evm-8453", 10, "native"⟩ ∈ (buildBid (configured "evm-8453" (some "https://mainnet.base.org"))
      ⟨0, 0⟩ advertisedRequest "node").acceptedSettlements := List.mem_singleton.mpr rfl
  refine ⟨offered, ?_⟩
  refine (advertised_usable_iff (fun _ _ => .error "") (fun _ _ _ => .error "") unusedLibraries false
    (configured "evm-8453" (some "https://mainnet.base.org")) _ "node" (.ok []) (.error "") ⟨0, 0⟩ advertisedRequest
    rfl).mpr ?_ _ (List.mem_append_right _ offered)
  intro adapter member
  obtain rfl := List.mem_singleton.mp member
  refine Or.inr ⟨_, List.mem_singleton.mpr rfl, rfl, ?_⟩
  rw [Complete, if_neg (by decide), if_neg (by decide), if_pos (by decide)]
  exact ⟨rfl, rfl, rfl⟩

/-- `sui` without an endpoint is advertised, and only `free` is loaded. -/
theorem unusable_sui :
    settlements unusedLibraries false (configured "sui" none) = some [.free] ∧
    ¬∀ offer ∈ (nodeCapabilities (configured "sui" none) "node" (.ok []) (.error "")).acceptedSettlements ++
        (buildBid (configured "sui" none) ⟨0, 0⟩ advertisedRequest "node").acceptedSettlements,
      (Api.selectAdapter ([Adapter.free].map (serving (fun _ _ => .error "") (fun _ _ _ => .error "")))
        [offer.settlementId]).isSome = true := by
  refine ⟨rfl, ?_⟩
  intro usable
  have found := usable ⟨"sui", 10, "native"⟩ (List.mem_append_left _ (List.mem_singleton.mpr rfl))
  exact absurd found (by decide)

end Pinaivu.Node
