import Pinaivu.Lib.Runs
import Pinaivu.Programs.EscrowCore

/-!
The score instructions of `programs/pinaivu`. A score account is found by the node key that its
address is derived from; whether the payer of a new account can fund it is part of the call.
-/

namespace Pinaivu.Program

def saturatingAdd64 (left right : UInt64) : UInt64 := .ofNat (min (left.toNat + right.toNat) (u64Limit - 1))

def saturatingMul64 (left right : UInt64) : UInt64 := .ofNat (min (left.toNat * right.toNat) (u64Limit - 1))

def saturatingSub64 (left right : UInt64) : UInt64 := .ofNat (left.toNat - right.toNat)

structure NodeScore where
  nodePubkey : Hash
  authority : Key
  merkleRoot : Hash
  merkleRootLabel : Hash
  totalJobs : UInt64
  totalTokensEarned : UInt64
  totalLamportsEarned : UInt64
  successRateBps : UInt16
  avgLatencyMs : UInt32
  score : UInt64
  lastUpdated : Int
  deriving DecidableEq, Repr

namespace NodeScore

def recomputeScore (account : NodeScore) : NodeScore :=
  let success := saturatingMul64 account.successRateBps.toUInt64 400000000 / 10000
  let jobsCapped := min account.totalJobs 10000
  let jobs := saturatingMul64 jobsCapped 400000000 / 10000
  let latencyCapped := min account.avgLatencyMs.toUInt64 5000
  let latency := saturatingMul64 (saturatingSub64 5000 latencyCapped) 200000000 / 5000
  { account with score := success + jobs + latency }

/-- The new average before its cast to `u32`. -/
def averaged (account : NodeScore) (latencyMs : UInt32) : UInt64 :=
  (account.avgLatencyMs.toUInt64 * 9 + latencyMs.toUInt64) / 10

end NodeScore

inductive ScoreEvent where
  | scoreInitialized (nodePubkey : Hash) (authority : Key)
  | proofSubmitted (nodePubkey proofHash : Hash) (outputTokens latencyMs : UInt32)
      (lamportsEarned newScore totalJobs : UInt64)
  | merkleRootAnchored (nodePubkey merkleRoot label : Hash) (timestamp : Int)
  deriving DecidableEq, Repr

inductive ScoreError where
  | accountInUse
  | insufficientLamports
  | accountNotInitialized
  | constraintSeeds
  | unauthorized
  | invalidProofHash
  deriving DecidableEq, Repr

structure ScoreBoard where
  scores : Hash → Option NodeScore
  events : List ScoreEvent

def ScoreBoard.empty : ScoreBoard := ⟨fun _ => none, []⟩

def ScoreBoard.write (board : ScoreBoard) (address : Hash) (account : NodeScore) (event : ScoreEvent) : ScoreBoard where
  scores := Function.update board.scores address (some account)
  events := board.events ++ [event]

/-- The account of a node with no jobs; the success rate starts at 100%. -/
def NodeScore.initial (now : Int) (authority : Key) (nodePubkey : Hash) : NodeScore where
  nodePubkey
  authority
  merkleRoot := 0
  merkleRootLabel := 0
  totalJobs := 0
  totalTokensEarned := 0
  totalLamportsEarned := 0
  successRateBps := 10000
  avgLatencyMs := 0
  score := 0
  lastUpdated := now

def initializeScore (now : Int) (board : ScoreBoard) (authority : Key) (funded : Bool) (nodePubkey : Hash) :
    Except ScoreError ScoreBoard :=
  match board.scores nodePubkey with
  | some _ => .error .accountInUse
  | none =>
      if funded then
        .ok (board.write nodePubkey (.initial now authority nodePubkey) (.scoreInitialized nodePubkey authority))
      else .error .insufficientLamports

def ownScore (board : ScoreBoard) (address : Hash) (authority : Key) : Except ScoreError NodeScore :=
  match board.scores address with
  | none => .error .accountNotInitialized
  | some account =>
      if account.nodePubkey ≠ address then .error .constraintSeeds
      else if account.authority ≠ authority then .error .unauthorized
      else .ok account

/-- The account with one more job, and the moving average `(9 * old + sample) / 10`. -/
def NodeScore.count (account : NodeScore) (outputTokens latencyMs : UInt32) (lamportsEarned : UInt64) : NodeScore :=
  { account with
    totalJobs := saturatingAdd64 account.totalJobs 1
    totalTokensEarned := saturatingAdd64 account.totalTokensEarned outputTokens.toUInt64
    totalLamportsEarned := saturatingAdd64 account.totalLamportsEarned lamportsEarned
    avgLatencyMs := (account.averaged latencyMs).toUInt32 }

def NodeScore.record (account : NodeScore) (now : Int) (outputTokens latencyMs : UInt32) (lamportsEarned : UInt64) :
    NodeScore :=
  { (account.count outputTokens latencyMs lamportsEarned).recomputeScore with lastUpdated := now }

def submitProof (now : Int) (board : ScoreBoard) (address : Hash) (authority : Key) (proofHash : Hash)
    (outputTokens latencyMs : UInt32) (lamportsEarned : UInt64) : Except ScoreError ScoreBoard :=
  match ownScore board address authority with
  | .error error => .error error
  | .ok account =>
      if proofHash = 0 then .error .invalidProofHash
      else
        let score := account.record now outputTokens latencyMs lamportsEarned
        .ok (board.write address score
          (.proofSubmitted score.nodePubkey proofHash outputTokens latencyMs lamportsEarned
            score.score score.totalJobs))

def anchorMerkleRoot (now : Int) (board : ScoreBoard) (address : Hash) (authority : Key) (merkleRoot label : Hash) :
    Except ScoreError ScoreBoard :=
  match ownScore board address authority with
  | .error error => .error error
  | .ok account =>
      .ok (board.write address
        { account with merkleRoot, merkleRootLabel := label, lastUpdated := now }
        (.merkleRootAnchored account.nodePubkey merkleRoot label now))

inductive ScoreInstruction where
  | initializeScore (authority : Key) (funded : Bool) (nodePubkey : Hash)
  | submitProof (address : Hash) (authority : Key) (proofHash : Hash) (outputTokens latencyMs : UInt32)
      (lamportsEarned : UInt64)
  | anchorMerkleRoot (address : Hash) (authority : Key) (merkleRoot label : Hash)
  deriving DecidableEq, Repr

def ScoreBoard.execute (board : ScoreBoard) : Int × ScoreInstruction → Except ScoreError ScoreBoard
  | (now, .initializeScore authority funded nodePubkey) => Program.initializeScore now board authority funded nodePubkey
  | (now, .submitProof address authority proofHash outputTokens latencyMs lamportsEarned) =>
      Program.submitProof now board address authority proofHash outputTokens latencyMs lamportsEarned
  | (now, .anchorMerkleRoot address authority merkleRoot label) =>
      Program.anchorMerkleRoot now board address authority merkleRoot label

/-- The runtime keeps the accounts as they were when an instruction fails. -/
def ScoreBoard.step (board : ScoreBoard) (call : Int × ScoreInstruction) : ScoreBoard :=
  match board.execute call with
  | .error _ => board
  | .ok after => after

end Pinaivu.Program
