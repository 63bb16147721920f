import Pinaivu.Lib.FirstMatch
import Pinaivu.Node.AdapterLoading

/-!
`lock_funds` of `settlement/sui.rs`: two searches of the wallet's coins, one for the coin
that the escrow takes and one for the coin that pays for gas. Building, signing and executing
the transaction are one answer of the node. Errors are kept as those of the EVM adapter.
-/

namespace Pinaivu.Sui

open FirstMatch Settlement Node
open Evm (Failure withContext withContext_ok bind_ok)

structure SuiCoin where
  coinObjectId : String
  balance : String
  deriving DecidableEq, Repr

/-- A balance that is no number counts as zero. -/
def SuiCoin.mist (coin : SuiCoin) : UInt64 := (parseU64 coin.balance.toList).getD 0

structure MoveCall where
  signer : String
  packageId : String
  moduleName : String
  function : String
  typeArgs : List Json
  args : List Json
  gasCoin : String
  gasBudget : String

structure SuiAnswers where
  paymentPage : Except Failure (List SuiCoin)
  gasPage : Except Failure (List SuiCoin)
  execute : MoveCall → Except Failure String

def numberText (value : UInt64) : String := toString value.toNat

def toHexArg (bytes : List UInt8) : Json := .string ("0x" ++ Api.hexText bytes)

def Covers (minMist : UInt64) (coin : SuiCoin) : Prop := minMist ≤ coin.mist

def foundCoin (page : List SuiCoin) (minMist : UInt64) : Option SuiCoin :=
  page.find? fun coin => decide (minMist ≤ coin.mist)

def pickGasCoin (answer : Except Failure (List SuiCoin)) (address : String) (minMist : UInt64) :
    Except Failure String := do
  let page ← answer
  match foundCoin page minMist with
  | some coin => .ok coin.coinObjectId
  | none => .error (.error ["no SUI coin with balance ≥ " ++ numberText minMist ++ " MIST found for " ++ address])

section

variable (addressOf : Vector UInt8 32 → String) (config : SuiConfig) (answers : SuiAnswers)

def signer : Except Failure String :=
  match config.signerSeed with
  | some seed => .ok (addressOf seed)
  | none => .error (.error ["SuiSettlement: no signer_key_hex configured"])

def moveCall (moduleName function : String) (typeArgs args : List Json) (gasBudget : UInt64) :
    Except Failure MoveCall := do
  let signerAddr ← signer addressOf config
  let gasCoin ← withContext ("SuiSettlement: picking gas coin for " ++ moduleName ++ "::" ++ function)
    (pickGasCoin answers.gasPage signerAddr gasBudget)
  return {
    signer := signerAddr
    packageId := config.packageId
    moduleName, function, typeArgs, args, gasCoin
    gasBudget := numberText gasBudget }

def lockCall (requestId : String) (amountMist : UInt64) (nodeAddress : String) (gasBudget : UInt64) :
    Except Failure MoveCall := do
  let signerAddr ← signer addressOf config
  let paymentCoin ← withContext "SuiSettlement: insufficient SUI for lock_escrow"
    (pickGasCoin answers.paymentPage signerAddr amountMist)
  moveCall addressOf config answers "escrow" "lock_escrow" [] [
    toHexArg requestId.toUTF8.data.toList,
    .string nodeAddress,
    .string config.treasuryAddress,
    .string paymentCoin] gasBudget

def lockOnChain (requestId : String) (amountMist : UInt64) (nodeAddress : String) : Except Failure String := do
  let call ← lockCall addressOf config answers requestId amountMist nodeAddress 25000000
  answers.execute call

def lockFunds (params : EscrowParams) : Except Failure EscrowHandle := do
  let escrowId ← withContext ("SuiSettlement: lock_escrow failed for " ++ params.requestId.toText)
    (lockOnChain addressOf config answers params.requestId.toText params.amountNanox params.nodeAddress)
  return {
    settlementId := "sui"
    requestId := params.requestId
    amountNanox := params.amountNanox
    chainTxId := some escrowId
    payload := .object [("escrow_object_id", .string escrowId)] }

end

/-- The last argument of `lock_escrow`, whose whole coin goes to the escrow. -/
def MoveCall.paymentCoin (call : MoveCall) : Option String := call.args[3]?.bind Json.asStr

def LocksRightCoin (page : List SuiCoin) (amount : UInt64) (call : MoveCall) : Prop :=
  ∃ coin, foundCoin page amount = some coin ∧ call.paymentCoin = some coin.coinObjectId ∧
    coin.mist = amount ∧ call.gasCoin ≠ coin.coinObjectId

/-- No call is made without a coin for gas. Else every larger coin comes after one of the
amount, and the two searches do not end at one object. -/
def CoinsFit (paymentPage gasPage : List SuiCoin) (amount gasBudget : UInt64) : Prop :=
  (∀ coin ∈ gasPage, ¬Covers gasBudget coin) ∨
    (Preceded (Covers amount) (fun coin => coin.mist = amount) paymentPage ∧
      ∀ paid gas, IsFirst (Covers amount) paymentPage paid → IsFirst (Covers gasBudget) gasPage gas →
        gas.coinObjectId ≠ paid.coinObjectId)

theorem covers_of_exact {amount : UInt64} {coin : SuiCoin} (exactly : coin.mist = amount) : Covers amount coin := by
  unfold Covers
  rw [exactly]
  exact UInt64.le_refl amount

theorem foundCoin_iff (page : List SuiCoin) (minMist : UInt64) (coin : SuiCoin) :
    foundCoin page minMist = some coin ↔ IsFirst (Covers minMist) page coin := by
  rw [foundCoin, find_eq_some_iff]
  simp only [decide_eq_true_eq]
  rfl

theorem pickGasCoin_iff (page : List SuiCoin) (address : String) (minMist : UInt64) (id : String) :
    pickGasCoin (.ok page) address minMist = .ok id ↔
      ∃ coin, IsFirst (Covers minMist) page coin ∧ coin.coinObjectId = id := by
  simp only [← foundCoin_iff]
  cases found : foundCoin page minMist with
  | none => simp [pickGasCoin, found, bind, Except.bind]
  | some coin => simp [pickGasCoin, found, bind, Except.bind]

section

variable (addressOf : Vector UInt8 32 → String) (config : SuiConfig)

theorem lockCall_coins {answers : SuiAnswers} {requestId nodeAddress : String} {amount gasBudget : UInt64}
    {call : MoveCall}
    (submitted : lockCall addressOf config answers requestId amount nodeAddress gasBudget = .ok call) :
    ∃ paymentPage gasPage paid gas,
      answers.paymentPage = .ok paymentPage ∧ answers.gasPage = .ok gasPage ∧ config.signerSeed ≠ none ∧
        IsFirst (Covers amount) paymentPage paid ∧ IsFirst (Covers gasBudget) gasPage gas ∧
        call.paymentCoin = some paid.coinObjectId ∧ call.gasCoin = gas.coinObjectId := by
  obtain ⟨address, signed, rest⟩ := bind_ok submitted
  obtain ⟨payment, paying, built⟩ := bind_ok rest
  obtain ⟨again, _, built⟩ := bind_ok built
  obtain ⟨gasCoin, forGas, made⟩ := bind_ok built
  have configured : config.signerSeed ≠ none := by
    intro missing
    simp [signer, missing] at signed
  replace paying := withContext_ok paying
  replace forGas := withContext_ok forGas
  obtain ⟨paymentPage, paymentAnswer, _⟩ := bind_ok paying
  obtain ⟨gasPage, gasAnswer, _⟩ := bind_ok forGas
  rw [paymentAnswer, pickGasCoin_iff] at paying
  rw [gasAnswer, pickGasCoin_iff] at forGas
  obtain ⟨paid, firstPaid, rfl⟩ := paying
  obtain ⟨gas, firstGas, rfl⟩ := forGas
  obtain rfl := Except.ok.inj made
  exact ⟨paymentPage, gasPage, paid, gas, paymentAnswer, gasAnswer, configured, firstPaid, firstGas, rfl, rfl⟩

theorem lockCall_made {answers : SuiAnswers} (requestId nodeAddress : String) {amount gasBudget : UInt64}
    {paymentPage gasPage : List SuiCoin} {paid gas : SuiCoin} (configured : config.signerSeed ≠ none)
    (paymentAnswer : answers.paymentPage = .ok paymentPage) (gasAnswer : answers.gasPage = .ok gasPage)
    (firstPaid : IsFirst (Covers amount) paymentPage paid) (firstGas : IsFirst (Covers gasBudget) gasPage gas) :
    ∃ call, lockCall addressOf config answers requestId amount nodeAddress gasBudget = .ok call ∧
      call.paymentCoin = some paid.coinObjectId ∧ call.gasCoin = gas.coinObjectId := by
  obtain ⟨seed, signing⟩ := Option.ne_none_iff_exists'.mp configured
  have signed : signer addressOf config = .ok (addressOf seed) := by simp [signer, signing]
  have paying : pickGasCoin answers.paymentPage (addressOf seed) amount = .ok paid.coinObjectId := by
    rw [paymentAnswer, pickGasCoin_iff]
    exact ⟨paid, firstPaid, rfl⟩
  have forGas : pickGasCoin answers.gasPage (addressOf seed) gasBudget = .ok gas.coinObjectId := by
    rw [gasAnswer, pickGasCoin_iff]
    exact ⟨gas, firstGas, rfl⟩
  simp [lockCall, moveCall, MoveCall.paymentCoin, Json.asStr, signed, paying, forGas, withContext, bind,
    Except.bind, pure, Except.pure]

theorem firsts_fit {answers : SuiAnswers} {requestId nodeAddress : String} {amount gasBudget : UInt64}
    {paymentPage gasPage : List SuiCoin} {paid gas : SuiCoin} (configured : config.signerSeed ≠ none)
    (paymentAnswer : answers.paymentPage = .ok paymentPage) (gasAnswer : answers.gasPage = .ok gasPage)
    (firstPaid : IsFirst (Covers amount) paymentPage paid) (firstGas : IsFirst (Covers gasBudget) gasPage gas)
    (locks : ∀ call page, lockCall addressOf config answers requestId amount nodeAddress gasBudget = .ok call →
      answers.paymentPage = .ok page → LocksRightCoin page amount call) :
    paid.mist = amount ∧ gas.coinObjectId ≠ paid.coinObjectId := by
  obtain ⟨call, made, _, gasCoin⟩ := lockCall_made addressOf config requestId nodeAddress configured paymentAnswer
    gasAnswer firstPaid firstGas
  obtain ⟨coin, found, _, exactly, different⟩ := locks call paymentPage made paymentAnswer
  rw [(foundCoin_iff _ _ _).mpr firstPaid, Option.some_inj] at found
  rw [gasCoin, ← found] at different
  exact ⟨found ▸ exactly, different⟩

theorem lockFunds_submits {answers : SuiAnswers} {params : EscrowParams} {handle : EscrowHandle}
    (locked : lockFunds addressOf config answers params = .ok handle) :
    ∃ call digest, lockCall addressOf config answers params.requestId.toText params.amountNanox params.nodeAddress
        25000000 = .ok call ∧ answers.execute call = .ok digest ∧ handle.chainTxId = some digest := by
  obtain ⟨digest, submitted, made⟩ := bind_ok locked
  obtain ⟨call, built, executed⟩ := bind_ok (withContext_ok submitted)
  obtain rfl := Except.ok.inj made
  exact ⟨call, digest, built, executed, rfl⟩

theorem lock_right_coin_iff (answers : SuiAnswers) (requestId nodeAddress : String) (amount gasBudget : UInt64) :
    (∀ call page, lockCall addressOf config answers requestId amount nodeAddress gasBudget = .ok call →
        answers.paymentPage = .ok page → LocksRightCoin page amount call) ↔
      ∀ paymentPage gasPage, config.signerSeed ≠ none → answers.paymentPage = .ok paymentPage →
        answers.gasPage = .ok gasPage → CoinsFit paymentPage gasPage amount gasBudget := by
  constructor
  · intro locks paymentPage gasPage configured paymentAnswer gasAnswer
    by_cases unpaid : ∀ coin ∈ gasPage, ¬Covers gasBudget coin
    · exact Or.inl unpaid
    · refine Or.inr ?_
      push Not at unpaid
      obtain ⟨coin, member, covers⟩ := unpaid
      obtain ⟨gas, firstGas⟩ := exists_first member covers
      constructor
      · rw [preceded_iff fun _ => covers_of_exact]
        intro paid firstPaid
        exact (firsts_fit addressOf config configured paymentAnswer gasAnswer firstPaid firstGas locks).1
      · intro paid gas firstPaid firstGas
        exact (firsts_fit addressOf config configured paymentAnswer gasAnswer firstPaid firstGas locks).2
  · intro fits call page submitted paymentAnswer
    obtain ⟨_, gasPage, paid, gas, samePayment, gasAnswer, configured, firstPaid, firstGas, payment, gasCoin⟩ :=
      lockCall_coins addressOf config submitted
    rw [paymentAnswer] at samePayment
    obtain rfl := Except.ok.inj samePayment
    rcases fits page gasPage configured paymentAnswer gasAnswer with unpaid | ⟨preceded, different⟩
    · obtain ⟨_, _, _, covers, _⟩ := id firstGas
      exact absurd covers (unpaid gas firstGas.mem)
    · refine ⟨paid, (foundCoin_iff _ _ _).mpr firstPaid, payment, ?_, ?_⟩
      · rw [preceded_iff fun _ => covers_of_exact] at preceded
        exact preceded paid firstPaid
      · rw [gasCoin]
        exact different paid gas firstPaid firstGas

end

def suiWallet : SuiConfig where
  rpcUrl := "https://fullnode.mainnet.sui.io"
  packageId := "0xabc"
  treasuryAddress := "0xdef"
  pricePer1k := 10
  tokenId := "native"
  signerSeed := some (Vector.replicate 32 7)

def oneCoin : SuiAnswers where
  paymentPage := .ok [⟨"0xc01", "1000000000"⟩]
  gasPage := .ok [⟨"0xc01", "1000000000"⟩]
  execute _ := .ok "digest"

/-- For a price of a thousand the escrow takes the whole coin, which is to pay for gas as well. -/
theorem lock_takes_whole_coin :
    ∃ call, lockCall (fun _ => "0x01") suiWallet oneCoin "r" 1000 "0x02" 25000000 = .ok call ∧
      call.paymentCoin = some "0xc01" ∧ call.gasCoin = "0xc01" ∧
      ¬LocksRightCoin [⟨"0xc01", "1000000000"⟩] 1000 call := by
  have first (min : UInt64) (covers : Covers min ⟨"0xc01", "1000000000"⟩) :
      IsFirst (Covers min) [⟨"0xc01", "1000000000"⟩] ⟨"0xc01", "1000000000"⟩ := ⟨[], [], rfl, covers, by simp⟩
  have large : (⟨"0xc01", "1000000000"⟩ : SuiCoin).mist = 1000000000 := by decide +kernel
  have firstPaid := first 1000 (by unfold Covers; rw [large]; decide)
  obtain ⟨call, made, payment, gasCoin⟩ := @lockCall_made (fun _ => "0x01") suiWallet oneCoin "r" "0x02" 1000
    25000000 _ _ _ _ (by simp [suiWallet]) rfl rfl firstPaid (first 25000000 (by unfold Covers; rw [large]; decide))
  refine ⟨call, made, payment, gasCoin, ?_⟩
  rintro ⟨coin, found, _, exactly, _⟩
  rw [(foundCoin_iff _ _ _).mpr firstPaid, Option.some_inj] at found
  rw [← found, large] at exactly
  exact absurd exactly (by decide)

end Pinaivu.Sui
