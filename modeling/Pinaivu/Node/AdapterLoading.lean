import Pinaivu.Inference.BidCore
import Pinaivu.Node.ApiCore
import Pinaivu.Settlement.EvmCore
import Pinaivu.Settlement.SolanaInstructions

/-!
The settlement adapters that the daemon loads from its configuration, and the ones that
it advertises in its capabilities and its bids.
-/

namespace Pinaivu.Node

open P2P Inference

/-- Functions of other crates that the constructors of adapters call. -/
structure Libraries (SigningKey : Type) where
  evm : Evm.Crypto SigningKey
  base58 : String → Option (List UInt8)
  sha256 : List UInt8 → Vector UInt8 32
  isOnEd25519Curve : Solana.Key → Bool

structure ArcGatewayConfig where
  circleApiKey : String
  usdcAddress : String
  nodeAddress : String
  pricePer1k : NanoX
  arcRpcUrl : String
  deriving DecidableEq, Repr

structure ChannelChainConfig where
  rpcUrl : String
  contractAddress : String
  chainId : UInt64
  signerSeed : Vector UInt8 32
  deriving DecidableEq, Repr

structure SuiConfig where
  rpcUrl : String
  packageId : String
  treasuryAddress : String
  pricePer1k : NanoX
  tokenId : String
  signerSeed : Option (Vector UInt8 32)
  deriving DecidableEq, Repr

structure EvmConfig extends Evm.EvmConfig where
  rpcUrl : String
  pricePer1k : NanoX
  tokenId : String

structure SolanaConfig where
  rpcUrl : String
  programIdStr : String
  keypairHex : Option String
  nodeP2pPubkeyHex : Option String
  pricePer1k : NanoX
  deriving DecidableEq, Repr

inductive Adapter where
  | free
  | receipt
  | arcGateway (config : ArcGatewayConfig)
  | channel (chain : Option ChannelChainConfig)
  | sui (config : SuiConfig)
  | evm (config : EvmConfig)
  | solana (config : SolanaConfig) (settlement : Solana.SolanaSettlement)

/-- An EVM adapter answers with the id of its configuration. -/
def Adapter.id : Adapter → String
  | .free => "free"
  | .receipt => "receipt"
  | .arcGateway _ => "arc-gateway"
  | .channel _ => "channel"
  | .sui _ => "sui"
  | .evm config => config.id
  | .solana _ _ => "solana"

inductive Loading where
  | loaded (adapter : Adapter)
  | skipped
  | panicked

def seedOfHex (text : String) : Option (Vector UInt8 32) := do
  let bytes ← Hex.decode text.toList
  if size : bytes.length = 32 then some ⟨bytes.toArray, size⟩ else none

def tokenOf (config : SettlementAdapterConfig) : String :=
  if config.tokenId = "" then "native" else config.tokenId

/-- `str::parse::<u64>`: one plus sign may come first. -/
def parseU64 (text : List Char) : Option UInt64 :=
  let digits := match text with
    | '+' :: digits => digits
    | digits => digits
  if digits = [] ∨ ¬digits.all Char.isDigit then none
  else
    let value := digits.foldl (fun total digit => 10 * total + (digit.toNat - '0'.toNat)) 0
    if value < 18446744073709551616 then some (UInt64.ofNat value) else none

section

variable {SigningKey : Type} (libraries : Libraries SigningKey)

def nodeAddress (config : SettlementAdapterConfig) : Option String := do
  let text ← config.signerKeyHex
  let seed ← seedOfHex text
  let address ← (Evm.ethAddress libraries.evm seed).toOption
  some ("0x" ++ Api.hexText address.toList)

def arcGateway (config : SettlementAdapterConfig) : Adapter := .arcGateway {
  circleApiKey := config.circleApiKey.getD ""
  usdcAddress := config.contractAddress.getD ""
  nodeAddress := (nodeAddress libraries config).getD ""
  pricePer1k := config.pricePer1k
  arcRpcUrl := config.rpcUrl.getD "https://rpc.testnet.arc.network" }

/-- Without a complete chain section the channel is kept in memory. -/
def channel (config : SettlementAdapterConfig) : Adapter := .channel do
  let rpcUrl ← config.rpcUrl
  let contractAddress ← config.contractAddress
  let signerSeed ← config.signerKeyHex.bind seedOfHex
  some { rpcUrl, contractAddress, chainId := config.chainId.getD 1, signerSeed }

def loadSui (config : SettlementAdapterConfig) : Loading :=
  match config.rpcUrl, config.packageId, config.contractAddress with
  | some rpcUrl, some packageId, some treasuryAddress => .loaded (.sui {
      rpcUrl, packageId, treasuryAddress
      pricePer1k := config.pricePer1k
      tokenId := tokenOf config
      signerSeed := config.signerKeyHex.bind seedOfHex })
  | _, _, _ => .skipped

/-- The configured chain id, or else the one in the name of the adapter. -/
def evmChainId (config : SettlementAdapterConfig) : Option UInt64 :=
  match config.chainId with
  | some chainId => some chainId
  | none => parseU64 (config.id.toList.drop 4)

def loadEvm (config : SettlementAdapterConfig) : Loading :=
  match config.rpcUrl, config.contractAddress, evmChainId config with
  | some rpcUrl, some contractAddress, some chainId => .loaded (.evm {
      id := config.id
      rpcUrl, contractAddress, chainId
      pricePer1k := config.pricePer1k
      tokenId := tokenOf config
      signerSeed := config.signerKeyHex.bind seedOfHex })
  | _, _, _ => .skipped

def decodePubkey (text : String) : Option Solana.Key := do
  let bytes ← libraries.base58 text
  if size : bytes.length = 32 then some ⟨bytes.toArray, size⟩ else none

def loadSolana (config : SettlementAdapterConfig) : Loading :=
  match config.rpcUrl, config.contractAddress with
  | some rpcUrl, some programIdStr =>
      match decodePubkey libraries programIdStr with
      | none => .skipped
      | some programId =>
          match Solana.findPda libraries.sha256 libraries.isOnEd25519Curve [Solana.seedState] programId with
          | none => .panicked
          | some (statePda, _) => .loaded (.solana {
              rpcUrl, programIdStr
              keypairHex := config.signerKeyHex
              nodeP2pPubkeyHex := config.nodePubkeyHex
              pricePer1k := config.pricePer1k } { programId, statePda })
  | _, _ => .skipped

def isEvm (id : String) : Bool := "evm-".toList.isPrefixOf id.toList

variable (solanaFeature : Bool)

/-- `solanaFeature` is the cargo feature that the node was compiled with. -/
def loadAdapter (config : SettlementAdapterConfig) : Loading :=
  if config.id = "free" then .loaded .free
  else if config.id = "receipt" then .loaded .receipt
  else if config.id = "arc-gateway" then .loaded (arcGateway libraries config)
  else if config.id = "channel" then .loaded (channel config)
  else if config.id = "sui" then loadSui config
  else if isEvm config.id then loadEvm config
  else if config.id = "solana" then if solanaFeature then loadSolana libraries config else .skipped
  else .skipped

/-- `none` is a panic. -/
def loadAdapters : List SettlementAdapterConfig → Option (List Adapter)
  | [] => some []
  | config :: rest =>
      match loadAdapter libraries solanaFeature config with
      | .loaded adapter => (loadAdapters rest).map (adapter :: ·)
      | .skipped => loadAdapters rest
      | .panicked => none

def ensureFreeFallback (adapters : List Adapter) : List Adapter :=
  if adapters.any fun adapter => adapter.id == "free" then adapters else adapters ++ [.free]

def settlements (config : NodeConfig) : Option (List Adapter) :=
  (loadAdapters libraries solanaFeature config.settlement.adapters).map ensureFreeFallback

end

inductive GpuType where
  | nvidiaCuda
  | amdRocm
  | appleMetal
  | cpu
  deriving DecidableEq, Repr

structure NodeCapabilities where
  peerId : NodePeerId
  models : List String
  gpuVramMb : UInt32
  gpuType : GpuType
  region : Option String
  teeEnabled : Bool
  reputation : ReputationScore
  acceptedSettlements : List SettlementOffer
  apiUrl : Option String

def nodeCapabilities (config : NodeConfig) (peerId : NodePeerId) (available : Except String (List String))
    (reputation : Except String ReputationScore) : NodeCapabilities where
  peerId := peerId
  models := available.toOption.getD []
  gpuVramMb := 0
  gpuType := .cpu
  region := none
  teeEnabled := config.privacy.teeEnabled
  reputation := reputation.toOption.getD defaultReputation
  acceptedSettlements :=
    config.settlement.adapters.map fun adapter => ⟨adapter.id, adapter.pricePer1k, adapter.tokenId⟩
  apiUrl := config.health.apiUrl

end Pinaivu.Node
