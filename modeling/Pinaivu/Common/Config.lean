import Pinaivu.Common.Types

/-!
The sections of `NodeConfig` in `crates/common/src/config.rs` that bids, announcements
and the settlement adapters are made from.
-/

namespace Pinaivu

/-- On a 64-bit target. -/
structure GpuSection where
  concurrentJobs : UInt64
  deriving DecidableEq, Repr

structure InferenceSection where
  maxContextLength : UInt32
  deriving DecidableEq, Repr

structure PricingSection where
  pricePer1kTokens : NanoX
  minEscrow : NanoX
  autoPricing : Bool
  deriving DecidableEq, Repr

structure PrivacySection where
  teeEnabled : Bool
  deriving DecidableEq, Repr

/-- A price of zero stands for the global one. -/
structure SettlementAdapterConfig where
  id : String
  pricePer1k : NanoX
  tokenId : String
  rpcUrl : Option String
  contractAddress : Option String
  packageId : Option String
  chainId : Option UInt64
  signerKeyHex : Option String
  nodePubkeyHex : Option String
  circleApiKey : Option String
  deriving DecidableEq, Repr

structure SettlementSection where
  adapters : List SettlementAdapterConfig
  deriving DecidableEq, Repr

structure HealthSection where
  apiUrl : Option String
  deriving DecidableEq, Repr

structure NodeConfig where
  gpu : GpuSection
  inference : InferenceSection
  pricing : PricingSection
  privacy : PrivacySection
  health : HealthSection
  settlement : SettlementSection
  deriving DecidableEq, Repr

end Pinaivu
