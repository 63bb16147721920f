import Pinaivu.Lib.BigEndian
import Pinaivu.Lib.Hex
import Pinaivu.Lib.NodeBuffer
import Pinaivu.Programs.ScoreCore

/-!
The data of a score account, and what `decodeNodeScore` of the leaderboard route reads from it.
-/

namespace Pinaivu.Program

open Borsh (littleEndian u32Bytes u64Bytes i64Bytes)
open ByteReader (TextAt)
open NodeBuffer

structure ScoreAccount extends NodeScore where
  bump : UInt8
  deriving DecidableEq, Repr

/-- `NodeScore::LEN`, with the discriminator. -/
def NodeScore.len : Nat := 8 + 32 + 32 + 32 + 32 + 8 + 8 + 8 + 2 + 4 + 8 + 8 + 1

def keyBytes (key : Key) : List UInt8 := BigEndian.bytes 32 key.toNat

namespace ScoreAccount

def fields (account : ScoreAccount) : List (List UInt8) :=
  [keyBytes account.nodePubkey,
    keyBytes account.authority,
    keyBytes account.merkleRoot,
    keyBytes account.merkleRootLabel,
    u64Bytes account.totalJobs,
    u64Bytes account.totalTokensEarned,
    u64Bytes account.totalLamportsEarned,
    littleEndian 2 account.successRateBps.toNat,
    u32Bytes account.avgLatencyMs,
    u64Bytes account.score,
    i64Bytes (.ofInt account.lastUpdated),
    [account.bump]]

def serialize (account : ScoreAccount) : List UInt8 := account.fields.flatten

def data (discriminator : Vector UInt8 8) (account : ScoreAccount) : List UInt8 :=
  discriminator.toList ++ account.serialize

/-- The counters and the timestamp of which every double is exact. -/
structure Representable (account : ScoreAccount) : Prop where
  totalJobs : account.totalJobs.toNat < 9007199254740992
  totalTokensEarned : account.totalTokensEarned.toNat < 9007199254740992
  totalLamportsEarned : account.totalLamportsEarned.toNat < 9007199254740992
  score : account.score.toNat < 9007199254740992
  lastUpdated : account.lastUpdated.natAbs ≤ 9007199254740992

end ScoreAccount

/-- Numbers are doubles, all of them integers here. -/
structure NodeScoreEntry where
  pubkey : String
  nodePubkey : String
  score : Int
  totalJobs : Int
  successRateBps : Int
  avgLatencyMs : Int
  totalLamportsEarned : Int
  totalTokensEarned : Int
  lastUpdated : Int
  deriving DecidableEq, Repr

inductive DecodeError where
  | error (message : String)
  | rangeError
  deriving DecidableEq, Repr

def nodeScoreSize : Nat := 183

def readU64LE (buf : List UInt8) (offset : Nat) : Option Int := do
  let lo ← readUInt32LE buf offset
  let hi ← readUInt32LE buf (offset + 4)
  return double (lo + double (hi * 4294967296))

def readI64LE (buf : List UInt8) (offset : Nat) : Option Int := do
  let lo ← readUInt32LE buf offset
  let hi ← readInt32LE buf (offset + 4)
  return double (lo + double (hi * 4294967296))

def readEntry (accountPubkey : String) (data : List UInt8) : Option NodeScoreEntry := do
  let totalJobs ← readU64LE data 136
  let totalTokensEarned ← readU64LE data 144
  let totalLamportsEarned ← readU64LE data 152
  let successRateBps ← readUInt16LE data 160
  let avgLatencyMs ← readUInt32LE data 162
  let score ← readU64LE data 166
  let lastUpdated ← readI64LE data 174
  return {
    pubkey := accountPubkey
    nodePubkey := String.ofList (Hex.encode ((data.drop 8).take 32))
    score, totalJobs, successRateBps, avgLatencyMs, totalLamportsEarned, totalTokensEarned, lastUpdated }

def decodeNodeScore (accountPubkey : String) (data : List UInt8) : Except DecodeError NodeScoreEntry :=
  if data.length < nodeScoreSize then .error (.error s!"account data too short: {data.length}")
  else
    match readEntry accountPubkey data with
    | some entry => .ok entry
    | none => .error .rangeError

theorem readU64LE_within {buf : List UInt8} {offset : Nat} (room : offset + 8 ≤ buf.length) :
    ∃ number, readU64LE buf offset = some number := by
  obtain ⟨lo, low⟩ := readUIntLE_within (show offset + 4 ≤ buf.length by omega)
  obtain ⟨hi, high⟩ := readUIntLE_within (show offset + 4 + 4 ≤ buf.length by omega)
  rw [readU64LE, readUInt32LE, low, high]
  exact ⟨_, rfl⟩

theorem readI64LE_within {buf : List UInt8} {offset : Nat} (room : offset + 8 ≤ buf.length) :
    ∃ number, readI64LE buf offset = some number := by
  obtain ⟨lo, low⟩ := readUIntLE_within (show offset + 4 ≤ buf.length by omega)
  obtain ⟨hi, high⟩ := readUIntLE_within (show offset + 4 + 4 ≤ buf.length by omega)
  rw [readI64LE, readInt32LE, readUInt32LE, low, high]
  exact ⟨_, rfl⟩

/-- The one check leaves no read outside the account, whatever its bytes. -/
theorem decodeNodeScore_error_iff (accountPubkey : String) (data : List UInt8) (failure : DecodeError) :
    decodeNodeScore accountPubkey data = .error failure ↔
      data.length < nodeScoreSize ∧ failure = .error s!"account data too short: {data.length}" := by
  unfold decodeNodeScore
  split
  · next short => simp [short, eq_comm]
  · next long =>
      have size : 183 ≤ data.length := Nat.le_of_not_lt long
      obtain ⟨totalJobs, first⟩ := readU64LE_within (show 136 + 8 ≤ data.length by omega)
      obtain ⟨totalTokens, second⟩ := readU64LE_within (show 144 + 8 ≤ data.length by omega)
      obtain ⟨totalLamports, third⟩ := readU64LE_within (show 152 + 8 ≤ data.length by omega)
      obtain ⟨successRate, fourth⟩ := readUIntLE_within (show 160 + 2 ≤ data.length by omega)
      obtain ⟨latency, fifth⟩ := readUIntLE_within (show 162 + 4 ≤ data.length by omega)
      obtain ⟨score, sixth⟩ := readU64LE_within (show 166 + 8 ≤ data.length by omega)
      obtain ⟨lastUpdated, seventh⟩ := readI64LE_within (show 174 + 8 ≤ data.length by omega)
      have read : (readEntry accountPubkey data).isSome := by
        rw [readEntry, first, second, third, readUInt16LE, fourth, readUInt32LE, fifth, sixth, seventh]
        rfl
      obtain ⟨entry, found⟩ := Option.isSome_iff_exists.mp read
      simp [found, long]

theorem double_halves {lo hi : Int} (low : 0 ≤ lo ∧ lo < 4294967296)
    (small : (lo + hi * 4294967296).natAbs ≤ 9007199254740992) :
    double (lo + double (hi * 4294967296)) = lo + hi * 4294967296 := by
  have high : double (hi * 4294967296) = hi * 4294967296 := by
    apply double_exact
    omega
  rw [high]
  exact double_exact small

theorem u64Bytes_halves (number : UInt64) :
    u64Bytes number = littleEndian 4 number.toNat ++ littleEndian 4 (number.toNat / 4294967296) :=
  Borsh.littleEndian_add 4 4 number.toNat

def ScoreAccount.entry (account : ScoreAccount) (accountPubkey : String) : NodeScoreEntry where
  pubkey := accountPubkey
  nodePubkey := String.ofList (Hex.encode (keyBytes account.nodePubkey))
  score := account.score.toNat
  totalJobs := account.totalJobs.toNat
  successRateBps := account.successRateBps.toNat
  avgLatencyMs := account.avgLatencyMs.toNat
  totalLamportsEarned := account.totalLamportsEarned.toNat
  totalTokensEarned := account.totalTokensEarned.toNat
  lastUpdated := account.lastUpdated

theorem readU64LE_u64Bytes {buf : List UInt8} {offset : Nat} {number : UInt64}
    (found : TextAt buf offset (u64Bytes number)) (small : number.toNat < 9007199254740992) :
    readU64LE buf offset = some (number.toNat : Int) := by
  rw [u64Bytes_halves] at found
  have low : readUInt32LE buf offset = some (number.toNat % 4294967296) := readUIntLE_littleEndian found.left
  have high : readUInt32LE buf (offset + 4) = some (number.toNat / 4294967296 % 4294967296) :=
    readUIntLE_littleEndian found.right
  rw [readU64LE, low, high]
  apply congrArg some
  rw [double_halves]
  · omega
  · omega
  · omega

theorem toNat_toUInt64_ofInt (number : Int) :
    ((Int64.ofInt number).toUInt64.toNat : Int) = number % 18446744073709551616 := by
  have bits : (Int64.ofInt number).toUInt64.toNat = (BitVec.ofInt 64 number).toNat := rfl
  rw [bits, BitVec.toNat_ofInt]
  apply Int.toNat_of_nonneg
  omega

theorem readI64LE_i64Bytes {buf : List UInt8} {offset : Nat} {number : Int}
    (found : TextAt buf offset (i64Bytes (.ofInt number))) (small : number.natAbs ≤ 9007199254740992) :
    readI64LE buf offset = some number := by
  have stored := toNat_toUInt64_ofInt number
  rw [i64Bytes, u64Bytes_halves] at found
  have low : readUInt32LE buf offset = some ((Int64.ofInt number).toUInt64.toNat % 4294967296) :=
    readUIntLE_littleEndian found.left
  have high := readInt32LE_littleEndian found.right
  rw [Borsh.length_littleEndian] at high
  generalize (Int64.ofInt number).toUInt64.toNat = unsigned at stored low high
  have signed : ((unsigned / 4294967296 : Nat) : Int).bmod 4294967296 = number / 4294967296 := by
    rw [Int.bmod_def]
    split <;> omega
  rw [readI64LE, low, high, signed]
  apply congrArg some
  rw [double_halves]
  · omega
  · omega
  · omega

section

variable (discriminator : Vector UInt8 8) (account : ScoreAccount)

theorem data_eq_flatten : account.data discriminator = (discriminator.toList :: account.fields).flatten := rfl

theorem widths_fields :
    (discriminator.toList :: account.fields).map List.length = [8, 32, 32, 32, 32, 8, 8, 8, 2, 4, 8, 8, 1] := by
  simp [ScoreAccount.fields, keyBytes, u64Bytes, u32Bytes, i64Bytes]

theorem length_data : (account.data discriminator).length = NodeScore.len := by
  simp [data_eq_flatten, ScoreAccount.fields, keyBytes, u64Bytes, u32Bytes, i64Bytes, NodeScore.len]

theorem textAt_data {index offset : Nat} {field : List UInt8}
    (found : (discriminator.toList :: account.fields)[index]? = some field)
    (starts : fieldOffset [8, 32, 32, 32, 32, 8, 8, 8, 2, 4, 8, 8, 1] index = offset) :
    TextAt (account.data discriminator) offset field := by
  have placed := textAt_field found
  rw [widths_fields, starts] at placed
  exact placed

theorem readEntry_data (accountPubkey : String) (representable : account.Representable) :
    readEntry accountPubkey (account.data discriminator) = some (account.entry accountPubkey) := by
  have text {index offset : Nat} {field : List UInt8} := @textAt_data discriminator account index offset field
  have node : ((account.data discriminator).drop 8).take 32 = keyBytes account.nodePubkey :=
    (@text 1 8 (keyBytes account.nodePubkey) rfl rfl).take_drop
  have rate : readUInt16LE (account.data discriminator) 160 = some account.successRateBps.toNat :=
    readUIntLE_small (@text 8 160 _ rfl rfl) account.successRateBps.toNat_lt
  have latency : readUInt32LE (account.data discriminator) 162 = some account.avgLatencyMs.toNat :=
    readUIntLE_small (@text 9 162 _ rfl rfl) account.avgLatencyMs.toNat_lt
  rw [readEntry, readU64LE_u64Bytes (@text 5 136 _ rfl rfl) representable.totalJobs,
    readU64LE_u64Bytes (@text 6 144 _ rfl rfl) representable.totalTokensEarned,
    readU64LE_u64Bytes (@text 7 152 _ rfl rfl) representable.totalLamportsEarned, rate, latency,
    readU64LE_u64Bytes (@text 10 166 _ rfl rfl) representable.score,
    readI64LE_i64Bytes (@text 11 174 _ rfl rfl) representable.lastUpdated, node]
  rfl

end

/-- The leaderboard shows what the program stored, of an account of the length that it allocates. -/
theorem leaderboard_decodes (accountPubkey : String) (discriminator : Vector UInt8 8) (account : ScoreAccount)
    (representable : account.Representable) :
    (account.data discriminator).length = NodeScore.len ∧ NodeScore.len = 183 ∧
      decodeNodeScore accountPubkey (account.data discriminator) = .ok (account.entry accountPubkey) := by
  have length := length_data discriminator account
  refine ⟨length, rfl, ?_⟩
  have long : ¬(account.data discriminator).length < nodeScoreSize := by
    rw [length]
    decide
  rw [decodeNodeScore, if_neg long, readEntry_data discriminator account accountPubkey representable]

/-- The first bytes of the hash of `account:NodeScore`. -/
def scoreDiscriminator : Vector UInt8 8 := #v[124, 163, 166, 232, 13, 74, 213, 209]

def sampleScore : ScoreAccount where
  nodePubkey := 1
  authority := 2
  merkleRoot := 3
  merkleRootLabel := 4
  totalJobs := 5000000000
  totalTokensEarned := 9007199254740991
  totalLamportsEarned := 0
  successRateBps := 10000
  avgLatencyMs := 4294967295
  score := 1000000000
  lastUpdated := -9007199254740992
  bump := 255

theorem leaderboard_decodes_sample :
    sampleScore.Representable ∧
      decodeNodeScore "account" (sampleScore.data scoreDiscriminator) = .ok {
        pubkey := "account"
        nodePubkey := String.ofList (Hex.encode (keyBytes 1))
        score := 1000000000
        totalJobs := 5000000000
        successRateBps := 10000
        avgLatencyMs := 4294967295
        totalLamportsEarned := 0
        totalTokensEarned := 9007199254740991
        lastUpdated := -9007199254740992 } := by
  have representable : sampleScore.Representable := by
    constructor <;> decide
  exact ⟨representable, (leaderboard_decodes "account" scoreDiscriminator sampleScore representable).2.2⟩

end Pinaivu.Program
