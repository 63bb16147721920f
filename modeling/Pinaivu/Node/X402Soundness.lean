import Pinaivu.Node.X402Core

/-!
What an accepted payment proves. The log's emitting contract stands in the receipt's
JSON, which `TxLog` does not read, so payment is stated on the JSON.
-/

namespace Pinaivu.X402

open JsonText UnicodeText

def responseReceipt (response : Json) : Option Json :=
  (envelopeFields response).bind fun fields => fields "result"

def receiptLogs (receipt : Json) : List Json :=
  match (receiptFields receipt).bind fun fields => fields "logs" with
  | some (.array items) => items
  | _ => []

def responseLogs (response : Json) : List Json :=
  match responseReceipt response with
  | some receipt => receiptLogs receipt
  | none => []

def fullAmount (data : String) : Option Nat :=
  match data.toList with
  | '0' :: 'x' :: digits => if digits.length = 64 then Hex.number digits else none
  | _ => none

section

variable (lower : String → String) (config : X402Section)

def EmittedByUsdc (raw : Json) : Prop :=
  ∃ members address, raw = .object members ∧ members.lookup "address" = some (.string address) ∧
    lower address = lower config.usdcAddress

def TransfersToNode (log : TxLog) : Prop :=
  ∃ signature source target rest, log.topics = signature :: source :: target :: rest ∧
    lower signature = transferSig ∧
    topicAddress (lower target) = .ok (lower config.nodeEvmAddress)

def Pays (raw : Json) (log : TxLog) : Prop :=
  decodeLog raw = some log ∧ TransfersToNode lower config log ∧ EmittedByUsdc lower config raw ∧
    ∃ amount, fullAmount log.data = some amount ∧ config.priceUnits.toNat ≤ amount

/-- The receipt has status `0x1` and a log of the USDC contract that transfers at least
the price to the node. -/
def Paid (response : Json) : Prop :=
  ∃ receipt, (responseReceipt response).bind decodeReceipt = some receipt ∧
    receipt.status = some "0x1" ∧
    ∃ raw ∈ responseLogs response, ∃ log, Pays lower config raw log

def skips (log : TxLog) : Bool :=
  match log.topics with
  | signature :: _ :: target :: _ =>
      if lower signature ≠ transferSig then true
      else
        match topicAddress (lower target) with
        | .ok recipient => recipient ≠ lower config.nodeEvmAddress
        | .error _ => false
  | _ => true

def payer (log : TxLog) : Except Failure String :=
  match log.topics with
  | _ :: source :: _ => topicAddress (lower source)
  | _ => .error .panic

def Passes (log : TxLog) : Prop :=
  checkAmount config log.data = .ok () ∧ ∃ address, payer lower log = .ok address

/-- The first log that is not passed over. -/
def Decisive (raws : List Json) (raw : Json) (log : TxLog) : Prop :=
  ∃ earlier later, raws = earlier ++ raw :: later ∧ decodeLog raw = some log ∧
    TransfersToNode lower config log ∧
    ∀ other ∈ earlier, ∀ skipped, decodeLog other = some skipped → skips lower config skipped = true

def AddressedToNode (receipt : TxReceipt) : Prop :=
  ∃ target, receipt.«to» = some target ∧ lower target = lower config.nodeEvmAddress

/-- The receipt takes a branch that looks at no payment: it is addressed to the node, or
the log that decides passes without being a full amount of the USDC contract. -/
def Unchecked (response : Json) : Prop :=
  ∃ receipt, confirmedReceipt config (.ok response) = .ok receipt ∧
    (AddressedToNode lower config receipt ∨
      ∃ raw log, Decisive lower config (responseLogs response) raw log ∧ Passes lower config log ∧
        ¬(EmittedByUsdc lower config raw ∧ (fullAmount log.data).isSome))

end

theorem decodeEnvelope_result {response : Json} {envelope : RpcEnvelope} {receipt : TxReceipt}
    (decoded : decodeEnvelope response = some envelope) (result : envelope.result = some receipt) :
    ∃ json, responseReceipt response = some json ∧ decodeReceipt json = some receipt := by
  simp only [decodeEnvelope, Option.bind_eq_bind, Option.pure_def, Option.bind_eq_some_iff,
    Option.some.injEq] at decoded
  obtain ⟨fields, read, found, resultField, error, _, rfl⟩ := decoded
  obtain rfl : found = some receipt := result
  obtain ⟨json, present, receiptRead⟩ := optionalField_some resultField
  exact ⟨json, by simp only [responseReceipt, read, Option.bind_some, present], receiptRead⟩

theorem confirmedReceipt_ok {config : X402Section} {response : Json} {receipt : TxReceipt}
    (confirmed : confirmedReceipt config (.ok response) = .ok receipt) :
    receipt.status = some "0x1" ∧
      ∃ json, responseReceipt response = some json ∧ decodeReceipt json = some receipt := by
  unfold confirmedReceipt at confirmed
  split at confirmed
  · contradiction
  · simp only at confirmed
    split at confirmed
    · contradiction
    · rename_i envelope decoded
      split at confirmed
      · contradiction
      · contradiction
      · rename_i found noError result
        split at confirmed
        · contradiction
        · rename_i status known
          split at confirmed
          · rename_i success
            obtain rfl : found = receipt := Except.ok.inj confirmed
            exact ⟨by rw [known, success], decodeEnvelope_result decoded result⟩
          · contradiction

theorem decodeReceipt_logs {json : Json} {receipt : TxReceipt}
    (decoded : decodeReceipt json = some receipt) :
    (receiptLogs json).mapM decodeLog = some receipt.logs := by
  simp only [decodeReceipt, Option.bind_eq_bind, Option.pure_def, Option.bind_eq_some_iff] at decoded
  obtain ⟨fields, read, status, _, target, _, made⟩ := decoded
  simp only [receiptLogs, read, Option.bind_some]
  cases present : fields "logs" with
  | none =>
      simp only [present, Option.bind_some, Option.some.injEq] at made
      simp [← made]
  | some value =>
      simp only [present, Option.bind_eq_some_iff, Option.some.injEq] at made
      obtain ⟨logs, items, rfl⟩ := made
      cases value <;> simp_all [decodeList]

section

variable {lower : String → String} {config : X402Section} {log : TxLog}

theorem checkLogs_cons_ok {logs : List TxLog} {address : String} :
    checkLogs lower config (lower config.nodeEvmAddress) (log :: logs) = .ok address ↔
      (skips lower config log = true ∧
        checkLogs lower config (lower config.nodeEvmAddress) logs = .ok address) ∨
      (TransfersToNode lower config log ∧ checkAmount config log.data = .ok () ∧
        payer lower log = .ok address) := by
  obtain ⟨topics, data⟩ := log
  rcases topics with _ | ⟨signature, _ | ⟨source, _ | ⟨target, rest⟩⟩⟩
  · simp [checkLogs, skips, TransfersToNode]
  · simp [checkLogs, skips, TransfersToNode]
  · simp [checkLogs, skips, TransfersToNode]
  · by_cases transfer : lower signature = transferSig
    · cases recipient : topicAddress (lower target) with
      | error failure => simp [checkLogs, skips, TransfersToNode, transfer, recipient, bind, Except.bind]
      | ok address =>
          by_cases mine : address = lower config.nodeEvmAddress
          · simp [checkLogs, skips, TransfersToNode, payer, transfer, recipient, mine, bind, Except.bind]
            cases checkAmount config data <;> simp
          · simp [checkLogs, skips, TransfersToNode, transfer, recipient, mine, bind, Except.bind]
    · simp [checkLogs, skips, TransfersToNode, transfer]

/-- A payment is accepted by the logs exactly when the first log of a transfer to the node
passes. -/
theorem checkLogs_ok {raws : List Json} {logs : List TxLog} (decoded : raws.mapM decodeLog = some logs) :
    (∃ address, checkLogs lower config (lower config.nodeEvmAddress) logs = .ok address) ↔
      ∃ raw log, Decisive lower config raws raw log ∧ Passes lower config log := by
  induction raws generalizing logs with
  | nil =>
      obtain rfl : [] = logs := by simpa using decoded
      simp [checkLogs, Decisive]
  | cons first raws ih =>
      simp only [List.mapM_cons, Option.bind_eq_bind, Option.pure_def, Option.bind_eq_some_iff,
        Option.some.injEq] at decoded
      obtain ⟨log, read, later, rest, rfl⟩ := decoded
      constructor
      · rintro ⟨address, accepted⟩
        rcases checkLogs_cons_ok.mp accepted with ⟨skipped, accepted⟩ | ⟨transfer, amount, source⟩
        · obtain ⟨raw, found, ⟨earlier, behind, rfl, foundRead, transfer, passed⟩, passes⟩ :=
            (ih rest).mp ⟨address, accepted⟩
          refine ⟨raw, found, ⟨first :: earlier, behind, rfl, foundRead, transfer, ?_⟩, passes⟩
          intro other member value otherRead
          rcases List.mem_cons.mp member with rfl | member
          · obtain rfl : log = value := Option.some.inj (read.symm.trans otherRead)
            exact skipped
          · exact passed other member value otherRead
        · exact ⟨first, log, ⟨[], raws, rfl, read, transfer, by simp⟩, amount, address, source⟩
      · rintro ⟨raw, found, ⟨earlier, behind, split, foundRead, transfer, passed⟩, amount, address, source⟩
        cases earlier with
        | nil =>
            obtain ⟨rfl, rfl⟩ := List.cons.inj split
            obtain rfl : log = found := Option.some.inj (read.symm.trans foundRead)
            exact ⟨address, checkLogs_cons_ok.mpr (.inr ⟨transfer, amount, source⟩)⟩
        | cons head earlier =>
            obtain ⟨rfl, rfl⟩ := List.cons.inj split
            have skipped := passed first List.mem_cons_self log read
            obtain ⟨address, accepted⟩ := (ih rest).mpr ⟨raw, found, ⟨earlier, behind, rfl, foundRead, transfer,
              fun other member => passed other (List.mem_cons_of_mem _ member)⟩, amount, address, source⟩
            exact ⟨address, checkLogs_cons_ok.mpr (.inl ⟨skipped, accepted⟩)⟩

theorem trimStart0x_digits {digits : List Char} (hex : ∀ char ∈ digits, (Hex.digitValue char).isSome) :
    trimStart0x digits = digits := by
  unfold trimStart0x
  split
  · rename_i rest
    have letter := hex 'x' (by simp)
    contradiction
  · rfl

theorem byteLength_digits {digits : List Char} (hex : ∀ char ∈ digits, (Hex.digitValue char).isSome) :
    byteLength digits = digits.length := by
  have sizes : digits.map Char.utf8Size = digits.map fun _ => 1 :=
    List.map_congr_left fun char member => Hex.utf8Size_digit (hex char member)
  simp [byteLength, sizes]

theorem byteDrop_digits {digits : List Char} (hex : ∀ char ∈ digits, (Hex.digitValue char).isSome)
    (count : Nat) (bound : count ≤ digits.length) : byteDrop count digits = some (digits.drop count) := by
  induction count generalizing digits with
  | zero => rw [byteDrop, List.drop_zero]
  | succ count ih =>
      cases digits with
      | nil => simp at bound
      | cons char rest =>
          have size := Hex.utf8Size_digit (hex char List.mem_cons_self)
          rw [byteDrop, size, if_pos (by omega), Nat.add_sub_cancel, List.drop_succ_cons]
          exact ih (fun other member => hex other (List.mem_cons_of_mem char member)) (Nat.le_of_succ_le_succ bound)

theorem fromStrRadix16_digits {digits : List Char} {value : Nat} (read : Hex.number digits = some value)
    (nonempty : digits ≠ []) (bound : value < 2 ^ 64) : fromStrRadix16 digits = some value := by
  have unsigned : ∀ rest, digits ≠ '+' :: rest := by
    rintro rest rfl
    have sign := Hex.digit_of_number read '+' List.mem_cons_self
    contradiction
  unfold fromStrRadix16
  split
  · exact absurd rfl (unsigned _)
  · simp only [nonempty, if_false, read, Option.bind_eq_bind, Option.bind_some, bound, if_true]

/-- Of a full word the amount check compares the last 64 bits with the price. -/
theorem checkAmount_full_iff {data : String} {amount : Nat} (full : fullAmount data = some amount) :
    checkAmount config data = .ok () ↔ config.priceUnits.toNat ≤ amount % 18446744073709551616 := by
  unfold fullAmount at full
  split at full
  · rename_i digits word
    split_ifs at full with length
    have hex := Hex.digit_of_number full
    obtain ⟨upper, low, read, bound, whole⟩ :=
      @Hex.number_append (digits.take 48) (digits.drop 48) amount (by rwa [List.take_append_drop])
    have width : (digits.drop 48).length = 16 := by rw [List.length_drop, length]
    rw [width] at bound whole
    have last : fromStrRadix16 (digits.drop 48) = some low := by
      refine fromStrRadix16_digits read ?_ bound
      intro empty
      simp [empty] at width
    have trimmed : trimStart0x data.toList = digits := by
      rw [word, trimStart0x, trimStart0x_digits hex]
    have cut : lastBytes 16 digits = .ok (digits.drop 48) := by
      rw [lastBytes, byteLength_digits hex, length, byteDrop_digits hex 48 (by omega)]
    have rest : amount % 18446744073709551616 = low := by omega
    rw [rest]
    simp [checkAmount, trimmed, byteLength_digits hex, length, cut, last, bind, Except.bind]
  · contradiction

end

section

variable {lower : String → String} {config : X402Section} {response : Json}

theorem verifyOnchain_ok :
    (∃ address, verifyOnchain lower config (.ok response) = .ok address) ↔
      ∃ receipt, confirmedReceipt config (.ok response) = .ok receipt ∧
        (AddressedToNode lower config receipt ∨
          ∃ raw log, Decisive lower config (responseLogs response) raw log ∧ Passes lower config log) := by
  cases confirmed : confirmedReceipt config (.ok response) with
  | error reason => simp [verifyOnchain, confirmed]
  | ok receipt =>
      obtain ⟨-, json, found, decoded⟩ := confirmedReceipt_ok confirmed
      have logs : responseLogs response = receiptLogs json := by rw [responseLogs, found]
      have accepted := @checkLogs_ok lower config _ _ (decodeReceipt_logs decoded)
      rw [← logs] at accepted
      cases target : receipt.«to» with
      | none => simp [verifyOnchain, confirmed, target, AddressedToNode, accepted]
      | some address =>
          by_cases direct : lower address = lower config.nodeEvmAddress
          · simp [verifyOnchain, confirmed, target, AddressedToNode, direct]
          · simp [verifyOnchain, confirmed, target, AddressedToNode, direct, accepted]

theorem paid_of_checked {receipt : TxReceipt} {raw : Json} {log : TxLog}
    (confirmed : confirmedReceipt config (.ok response) = .ok receipt)
    (decisive : Decisive lower config (responseLogs response) raw log) (passes : Passes lower config log)
    (checked : EmittedByUsdc lower config raw ∧ (fullAmount log.data).isSome) : Paid lower config response := by
  obtain ⟨success, json, found, decoded⟩ := confirmedReceipt_ok confirmed
  obtain ⟨earlier, later, split, read, transfer, -⟩ := decisive
  obtain ⟨amount, full⟩ := Option.isSome_iff_exists.mp checked.2
  refine ⟨receipt, by rw [found, Option.bind_some, decoded], success, raw, by simp [split], log, read, transfer,
    checked.1, amount, full,
    ((checkAmount_full_iff full).mp passes.1).trans (Nat.mod_le _ _)⟩

end

/-- An accepted payment is a payment exactly when the receipt takes no unchecked branch or
pays all the same. -/
theorem verify_sound_iff (lower : String → String) (config : X402Section) (response : Json) :
    ((∃ address, verifyOnchain lower config (.ok response) = .ok address) → Paid lower config response) ↔
      (Unchecked lower config response → Paid lower config response) := by
  constructor
  · rintro sound ⟨receipt, confirmed, addressed | ⟨raw, log, decisive, passes, -⟩⟩
    · exact sound (verifyOnchain_ok.mpr ⟨receipt, confirmed, .inl addressed⟩)
    · exact sound (verifyOnchain_ok.mpr ⟨receipt, confirmed, .inr ⟨raw, log, decisive, passes⟩⟩)
  · intro sound accepted
    obtain ⟨receipt, confirmed, addressed | ⟨raw, log, decisive, passes⟩⟩ := verifyOnchain_ok.mp accepted
    · exact sound ⟨receipt, confirmed, .inl addressed⟩
    · by_cases checked : EmittedByUsdc lower config raw ∧ (fullAmount log.data).isSome
      · exact paid_of_checked confirmed decisive passes checked
      · exact sound ⟨receipt, confirmed, .inr ⟨raw, log, decisive, passes, checked⟩⟩

def asciiLower (text : String) : String := String.ofList (text.toList.map Char.toLower)

def baseConfig : X402Section where
  enabled := true
  usdcAddress := "0x036cbd53842c5426634e7929541ec2318f3dcf7e"
  priceUnits := 1000
  network := "base-sepolia"
  nodeEvmAddress := "0x1111111111111111111111111111111111111111"
  rpcUrl := "https://sepolia.base.org"

/-- A transfer event of another contract, with no amount. -/
def emptyTransferLog : List (String × Json) :=
  [("address", .string "0x2222222222222222222222222222222222222222"),
    ("topics", .array
      [.string transferSig,
        .string "0x0000000000000000000000003333333333333333333333333333333333333333",
        .string "0x0000000000000000000000001111111111111111111111111111111111111111"]),
    ("data", .string "0x")]

def emptyTransferResponse : Json := .object
  [("jsonrpc", .string "2.0"),
    ("result", .object
      [("status", .string "0x1"),
        ("to", .string "0x2222222222222222222222222222222222222222"),
        ("logs", .array [.object emptyTransferLog])])]

theorem empty_transfer_accepted :
    baseConfig.usdcAddress ≠ "" ∧
    verifyOnchain asciiLower baseConfig (.ok emptyTransferResponse) =
      .ok "0x3333333333333333333333333333333333333333" ∧
    ¬ Paid asciiLower baseConfig emptyTransferResponse := by
  refine ⟨by decide, by decide +kernel, ?_⟩
  rintro ⟨receipt, _, _, raw, member, log, _, _, ⟨members, address, rfl, found, same⟩, _⟩
  have logs : responseLogs emptyTransferResponse = [.object emptyTransferLog] := by rfl
  obtain rfl : members = emptyTransferLog := by simpa [logs] using member
  obtain rfl : "0x2222222222222222222222222222222222222222" = address := by
    simpa [emptyTransferLog] using found
  revert same
  decide

end Pinaivu.X402
