import Pinaivu.Lib.HashTree
import Pinaivu.Reputation.MerkleCore
import Pinaivu.Reputation.MerkleChecks
import Pinaivu.Reputation.MerkleBinding
import Pinaivu.Contracts.DeAIEscrowCore
import Pinaivu.Contracts.DeAIEscrowSolvency
import Pinaivu.Programs.EscrowConservation
import Pinaivu.Programs.EscrowSettlement
import Pinaivu.Common.Types
import Pinaivu.Settlement.Adapter
import Pinaivu.Settlement.ChannelCore
import Pinaivu.Settlement.ChannelConservation
import Pinaivu.Lib.BigEndian
import Pinaivu.Lib.RlpFormat
import Pinaivu.Settlement.Eip1559Core
import Pinaivu.Settlement.Eip1559RoundTrip
import Pinaivu.Settlement.Eip1559Canonical
import Pinaivu.Settlement.EvmCalls
import Pinaivu.Settlement.EvmCore
import Pinaivu.Settlement.EvmEscrowId
import Pinaivu.Lib.ByteReader
import Pinaivu.Settlement.SolanaCore
import Pinaivu.Lib.Ranked
import Pinaivu.Settlement.SolanaMessage
import Pinaivu.Lib.KeyedList
import Pinaivu.Lib.Runs
import Pinaivu.Persistence.JobCore
import Pinaivu.Persistence.JobLifecycle
import Pinaivu.Common.CanonicalBytes
import Pinaivu.Lib.JsonDecode
import Pinaivu.P2P.WireCore
import Pinaivu.Lib.SeenFilter
import Pinaivu.P2P.GossipDelivery
import Pinaivu.P2P.SdkWire
import Pinaivu.Lib.UnicodeText
import Pinaivu.Node.X402Core
import Pinaivu.Node.X402Soundness
import Pinaivu.Node.X402Replay
import Pinaivu.Context.SessionCore
import Pinaivu.Context.SessionIndex
import Pinaivu.Context.SessionRaces
import Pinaivu.Common.SerdeJson
import Pinaivu.Lib.SharedCell
import Pinaivu.Node.ApiCore
import Pinaivu.Node.ApiProofs
import Pinaivu.Node.ApiReceipts
import Pinaivu.P2P.Payloads
import Pinaivu.Persistence.NonceStore
import Pinaivu.Persistence.PostgresJobs
import Pinaivu.Lib.JsonPretty
import Pinaivu.Reputation.LocalStore
import Pinaivu.Reputation.StoreReload
import Pinaivu.Reputation.StoreOrder
import Pinaivu.Reputation.GossipRoots
import Pinaivu.Context.FileIsolation
import Pinaivu.Context.MemoryExpiry
import Pinaivu.Context.TurnRaces
import Pinaivu.Context.SessionLoad
import Pinaivu.Context.BlobHistory
import Pinaivu.Context.FailedSaves
import Pinaivu.Contracts.DeAIEscrowTrace
import Pinaivu.Contracts.DeAIEscrowAuthorisation
import Pinaivu.Contracts.DeAIEscrowProgress
import Pinaivu.Contracts.DeAIEscrowEvents
import Pinaivu.Programs.ScoreCore
import Pinaivu.Programs.ScoreInvariant
import Pinaivu.Node.SettlementOutcome
import Pinaivu.Lib.Tickets
import Pinaivu.Settlement.EvmNonces
import Pinaivu.Inference.SchedulerCore
import Pinaivu.Inference.SchedulerCapacity
import Pinaivu.Lib.JsRuntime
import Pinaivu.Lib.LineStream
import Pinaivu.P2P.TargetedRequests
import Pinaivu.Node.NdjsonStream
import Pinaivu.Node.SseStream
import Pinaivu.Lib.Borsh
import Pinaivu.Programs.Accounts
import Pinaivu.Settlement.SolanaInstructions
import Pinaivu.Common.Config
import Pinaivu.Inference.BidCore
import Pinaivu.Inference.BidPrices
import Pinaivu.Node.RemoteExecution
import Pinaivu.Node.AdapterLoading
import Pinaivu.Node.AdvertisedSettlements
import Pinaivu.Node.ClientReplay
import Pinaivu.Common.LedgerConsistency
import Pinaivu.Context.Handoff
import Pinaivu.Sdk.Crypto
import Pinaivu.Lib.Snapshots
import Pinaivu.Sdk.KeyHandoff
import Pinaivu.Sdk.SessionCore
import Pinaivu.Sdk.SessionBlobs
import Pinaivu.Sdk.LoadedSessions
import Pinaivu.Sdk.ConcurrentSends
import Pinaivu.Reputation.MerklePosition
import Pinaivu.Context.ContextWindows
import Pinaivu.Node.ContextTrim
import Pinaivu.Programs.EscrowExpiry
import Pinaivu.Programs.ScoreMonotone
import Pinaivu.Context.IndexRecovery
import Pinaivu.Inference.SchedulerRejections
import Pinaivu.Lib.Base64
import Pinaivu.Node.EncryptedPrompts
import Pinaivu.Lib.Base58
import Pinaivu.Programs.AccountChecks
import Pinaivu.Programs.RegistryRuns
import Pinaivu.Programs.RegistrationLifetime
import Pinaivu.Settlement.SolanaAdapter
import Pinaivu.Settlement.SolanaRelease
import Pinaivu.Lib.FirstMatch
import Pinaivu.Node.ChatMessages
import Pinaivu.Node.ModelFallback
import Pinaivu.Inference.AutoPricing
import Pinaivu.Node.ResponseCleanup
import Pinaivu.Node.WebHistory
import Pinaivu.Node.WebStreams
import Pinaivu.P2P.Announcements
import Pinaivu.P2P.ModelTopics
import Pinaivu.P2P.StreamEnd
import Pinaivu.Persistence.Sweeps
import Pinaivu.Settlement.SuiLocks
import Pinaivu.Node.X402Acceptance
import Pinaivu.Context.MemoryHistory
import Pinaivu.Context.RedisSessions
import Pinaivu.Lib.NodeBuffer
import Pinaivu.Programs.LatencyAverage
import Pinaivu.Settlement.SolanaPdas
import Pinaivu.Programs.ScoreAccount
import Pinaivu.Lib.AbiFormat
import Pinaivu.Settlement.EvmRegistration
import Pinaivu.Persistence.PeerStore
import Pinaivu.Lib.BestPick
import Pinaivu.Node.WebBidChoice
import Pinaivu.Sdk.BidChoice
import Pinaivu.Storage.LocalBlobs
import Pinaivu.Lib.SlidingWindow
import Pinaivu.Inference.ThrottleWindow
import Pinaivu.Lib.ChannelStream
import Pinaivu.Inference.OllamaStream
import Pinaivu.Lib.Mailboxes
import Pinaivu.Node.BidCollection
import Pinaivu.Node.ChunkCollection
import Pinaivu.Lib.TornLines
import Pinaivu.Node.JobJournal
import Pinaivu.Node.RequestGate
import Pinaivu.Node.JournaledJobs
import Pinaivu.Settlement.ChannelChain
import Pinaivu.Lib.ExpiringKeys
import Pinaivu.Persistence.RedisNonces
import Pinaivu.Persistence.RedisPeers
