import Pinaivu.Common.SerdeJson
import Pinaivu.Lib.FirstMatch
import Pinaivu.Node.X402Soundness

/-!
Which adequate payments the log loop of `verify_onchain` accepts. The first transfer to the
node decides, and of its amount the last 64 bits.
-/

namespace Pinaivu.X402

open FirstMatch JsonText

section

variable (lower : String → String) (config : X402Section)

def Adequate (log : TxLog) : Prop :=
  TransfersToNode lower config log ∧ ∃ amount, fullAmount log.data = some amount ∧ config.priceUnits.toNat ≤ amount

def Stops (log : TxLog) : Prop := skips lower config log = false

def LetsThrough (log : TxLog) : Prop := TransfersToNode lower config log ∧ Passes lower config log

variable {lower config} {log : TxLog}

theorem stops_of_transfers (transfer : TransfersToNode lower config log) : Stops lower config log := by
  obtain ⟨signature, source, target, rest, topics, same, recipient⟩ := transfer
  simp [Stops, skips, topics, same, recipient]

theorem checkLogs_first_iff (logs : List TxLog) :
    (∃ address, checkLogs lower config (lower config.nodeEvmAddress) logs = .ok address) ↔
      ∃ log, IsFirst (Stops lower config) logs log ∧ LetsThrough lower config log := by
  induction logs with
  | nil =>
      constructor
      · rintro ⟨address, accepted⟩
        contradiction
      · rintro ⟨log, first, _⟩
        exact absurd first.mem (by simp)
  | cons head rest ih =>
      simp only [checkLogs_cons_ok, exists_or, exists_and_left, ih]
      constructor
      · rintro (⟨skipped, log, first, passes⟩ | ⟨transfer, amount, source⟩)
        · exact ⟨log, isFirst_cons_iff.mpr (Or.inr ⟨by simp [Stops, skipped], first⟩), passes⟩
        · exact ⟨head, isFirst_cons_iff.mpr (Or.inl ⟨stops_of_transfers transfer, rfl⟩), transfer, amount, source⟩
      · rintro ⟨log, first, passes⟩
        rcases isFirst_cons_iff.mp first with ⟨stops, rfl⟩ | ⟨skipped, later⟩
        · exact Or.inr ⟨passes.1, passes.2⟩
        · exact Or.inl ⟨by simpa [Stops] using skipped, log, later, passes⟩

theorem verifyOnchain_receipt {response : Json} {receipt : TxReceipt}
    (confirmed : confirmedReceipt config (.ok response) = .ok receipt) :
    (∃ payer, verifyOnchain lower config (.ok response) = .ok payer) ↔
      AddressedToNode lower config receipt ∨
        ∃ log, IsFirst (Stops lower config) receipt.logs log ∧ LetsThrough lower config log := by
  rw [← checkLogs_first_iff]
  cases target : receipt.«to» with
  | none => simp [verifyOnchain, confirmed, target, AddressedToNode]
  | some address =>
      by_cases direct : lower address = lower config.nodeEvmAddress
      · simp [verifyOnchain, confirmed, target, AddressedToNode, direct]
      · simp [verifyOnchain, confirmed, target, AddressedToNode, direct]

/-- A receipt with an adequate transfer is accepted exactly when it is addressed to the node, or
each log that would end the loop unpaid comes after one that is let through. -/
theorem adequate_accepted_iff {response : Json} {receipt : TxReceipt}
    (confirmed : confirmedReceipt config (.ok response) = .ok receipt)
    (adequate : ∃ log ∈ receipt.logs, Adequate lower config log) :
    (∃ address, verifyOnchain lower config (.ok response) = .ok address) ↔
      AddressedToNode lower config receipt ∨
        Preceded (Stops lower config) (LetsThrough lower config) receipt.logs := by
  have stops : ∀ log, LetsThrough lower config log → Stops lower config log :=
    fun log passes => stops_of_transfers passes.1
  obtain ⟨log, member, transfer, _⟩ := adequate
  obtain ⟨first, isFirst⟩ := exists_first member (stops_of_transfers transfer)
  have decided : (∃ log, IsFirst (Stops lower config) receipt.logs log ∧ LetsThrough lower config log) ↔
      Preceded (Stops lower config) (LetsThrough lower config) receipt.logs := by
    rw [preceded_iff stops]
    constructor
    · rintro ⟨decides, found, passes⟩ other otherFirst
      rwa [otherFirst.unique found]
    · intro passes
      exact ⟨first, isFirst, passes first isFirst⟩
  rw [verifyOnchain_receipt confirmed, decided]

end

def TxLog.toJson (log : TxLog) : Json := .object
  [("topics", .array (log.topics.map Json.string)), ("data", .string log.data)]

def confirmedLogs (logs : List TxLog) : TxReceipt where
  status := some "0x1"
  «to» := some "0x2222222222222222222222222222222222222222"
  logs := logs

def receiptResponse (logs : List TxLog) : Json := .object
  [("jsonrpc", .string "2.0"),
    ("result", .object
      [("status", .string "0x1"),
        ("to", .string "0x2222222222222222222222222222222222222222"),
        ("logs", .array (logs.map TxLog.toJson))])]

theorem decodeLog_toJson (log : TxLog) : decodeLog log.toJson = some log := by
  have topics : decodeList decodeString (.array (log.topics.map Json.string)) = some log.topics :=
    @decodeList_map String Json.string decodeString (fun _ => rfl) log.topics
  rw [decodeLog, TxLog.toJson, structFields_object 0 (by simp), Option.bind_eq_bind, Option.bind_some]
  simp (disch := decide) only [requiredField_head, requiredField_tail, topics, decodeString]
  rfl

theorem decodeReceipt_toJson (logs : List TxLog) :
    decodeReceipt (.object [("status", .string "0x1"), ("to", .string "0x2222222222222222222222222222222222222222"),
      ("logs", .array (logs.map TxLog.toJson))]) = some (confirmedLogs logs) := by
  have decoded : decodeList decodeLog (.array (logs.map TxLog.toJson)) = some logs :=
    decodeList_map decodeLog_toJson logs
  rw [decodeReceipt, receiptFields, structFields_object 1 (by simp), Option.bind_eq_bind, Option.bind_some]
  simp (disch := decide) only [optionalField_head, optionalField_tail, decodeOption, decodeString]
  change (decodeList decodeLog _).bind _ = _
  rw [decoded]
  rfl

theorem confirmedReceipt_response (logs : List TxLog) :
    confirmedReceipt baseConfig (.ok (receiptResponse logs)) = .ok (confirmedLogs logs) := by
  have decoded : decodeEnvelope (receiptResponse logs) = some ⟨some (confirmedLogs logs), none⟩ := by
    rw [decodeEnvelope, envelopeFields, receiptResponse, structFields_object 0 (by simp), Option.bind_eq_bind,
      Option.bind_some]
    simp (disch := decide) only [optionalField_head, optionalField_tail, decodeOption, decodeReceipt_toJson]
    rfl
  simp [confirmedReceipt, baseConfig, decoded, confirmedLogs]

def transferOf (amount : String) : TxLog where
  topics :=
    [transferSig,
      "0x0000000000000000000000003333333333333333333333333333333333333333",
      "0x0000000000000000000000001111111111111111111111111111111111111111"]
  data := "0x" ++ amount

def dustLog : TxLog := transferOf "0000000000000000000000000000000000000000000000000000000000000001"

def priceLog : TxLog := transferOf "00000000000000000000000000000000000000000000000000000000000003e8"

def wideLog : TxLog := transferOf "0000000000000000000000000000000000000000000000010000000000000000"

theorem transferOf_transfers (amount : String) : TransfersToNode asciiLower baseConfig (transferOf amount) :=
  ⟨transferSig, _, _, [], rfl, by decide +kernel, by decide +kernel⟩

/-- The first transfer to the node has too little in its last 64 bits. -/
theorem short_refused {amount : String} {value : Nat} (full : fullAmount ("0x" ++ amount) = some value)
    (short : value % 18446744073709551616 < 1000) (rest : List TxLog) :
    ¬∃ address,
      verifyOnchain asciiLower baseConfig (.ok (receiptResponse (transferOf amount :: rest))) = .ok address := by
  rintro ⟨address, accepted⟩
  have elsewhere : asciiLower "0x2222222222222222222222222222222222222222" ≠ asciiLower baseConfig.nodeEvmAddress := by
    decide +kernel
  have logs : checkLogs asciiLower baseConfig (asciiLower baseConfig.nodeEvmAddress) (transferOf amount :: rest) =
      .ok address := by
    simpa [verifyOnchain, confirmedReceipt_response, confirmedLogs, elsewhere] using accepted
  rcases checkLogs_cons_ok.mp logs with ⟨skipped, _⟩ | ⟨_, enough, _⟩
  · have stops := stops_of_transfers (transferOf_transfers amount)
    exact Bool.noConfusion (skipped.symm.trans stops)
  · have price := (checkAmount_full_iff full).mp enough
    have required : baseConfig.priceUnits.toNat = 1000 := by decide
    omega

/-- A payment after a dust transfer, and one whose amount is a multiple of 2 to the 64. -/
theorem adequate_refused :
    (Adequate asciiLower baseConfig priceLog ∧
      ¬∃ address, verifyOnchain asciiLower baseConfig (.ok (receiptResponse [dustLog, priceLog])) = .ok address) ∧
    Adequate asciiLower baseConfig wideLog ∧
      ¬∃ address, verifyOnchain asciiLower baseConfig (.ok (receiptResponse [wideLog])) = .ok address := by
  have dust : fullAmount dustLog.data = some 1 := by decide +kernel
  have price : fullAmount priceLog.data = some 1000 := by decide +kernel
  have wide : fullAmount wideLog.data = some 18446744073709551616 := by decide +kernel
  refine ⟨⟨⟨transferOf_transfers _, 1000, price, by decide⟩, short_refused dust (by decide) _⟩,
    ⟨transferOf_transfers _, _, wide, by decide⟩, short_refused wide (by decide) _⟩

/-- The full price alone is let through. -/
theorem price_accepted :
    (∃ address, verifyOnchain asciiLower baseConfig (.ok (receiptResponse [priceLog])) = .ok address) ↔
      AddressedToNode asciiLower baseConfig (confirmedLogs [priceLog]) ∨
        Preceded (Stops asciiLower baseConfig) (LetsThrough asciiLower baseConfig) [priceLog] :=
  adequate_accepted_iff (confirmedReceipt_response [priceLog])
    ⟨priceLog, List.mem_singleton_self _, transferOf_transfers _, 1000, by decide +kernel, by decide⟩

end Pinaivu.X402
