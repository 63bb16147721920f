import Pinaivu.Lib.RlpFormat
import Pinaivu.Settlement.Eip1559Core

/-!
The encoder of the settlement crate writes the standard format, so that a standard
decoder reads back every nested item, and with it the fields of a transaction.
-/

namespace Pinaivu.Evm

theorem skipZeros_bytes {width number : Nat} (small : number < 256 ^ width) :
    skipZeros (BigEndian.bytes width number) = BigEndian.minimal number := by
  rw [skipZeros, BigEndian.drop_zeros, BigEndian.trim_bytes small]

theorem trimmedLength_eq {len : Nat} (small : len < 2 ^ 64) :
    trimmedLength len = BigEndian.minimal len := skipZeros_bytes small

theorem length_trimmedLength_le (len : Nat) : (trimmedLength len).length ≤ 8 := by
  have shorter := BigEndian.length_trim_le (BigEndian.bytes 8 len)
  rwa [← BigEndian.drop_zeros, BigEndian.length_bytes] at shorter

theorem rlpLenPrefix_eq {len : Nat} (small : len < 2 ^ 64) (offset : UInt8) :
    rlpLenPrefix len offset = Rlp.lengthPrefix len offset.toNat := by
  unfold rlpLenPrefix Rlp.lengthPrefix
  rw [trimmedLength_eq small]
  simp [UInt8.ofNat_add]

theorem rlpBytes_eq {data : List UInt8} (small : data.length < 2 ^ 64) :
    rlpBytes data = Rlp.encode (.bytes data) := by
  unfold rlpBytes
  rw [Rlp.encode, Rlp.encodeBytes]
  split
  · rename_i byte
    rw [rlpLenPrefix_eq (by norm_num)]
    simp [Rlp.selfEncoded]
  · rename_i plain
    have prefixed : Rlp.selfEncoded data = false := by
      unfold Rlp.selfEncoded
      split
      · exact absurd rfl (plain _)
      · rfl
    rw [rlpLenPrefix_eq small, prefixed]
    simp

theorem rlpUint_eq (number : U128) :
    rlpUint number = Rlp.encode (.bytes (BigEndian.minimal number.toNat)) := by
  have bound : number.toNat < 256 ^ 16 := number.isLt
  unfold rlpUint
  split
  · rename_i zero
    have none : number.toNat = 0 := by rw [zero]; rfl
    rw [none, BigEndian.minimal_zero, Rlp.encode]
    rfl
  · have width := BigEndian.length_minimal_le bound
    rw [skipZeros_bytes bound, rlpBytes_eq (by omega)]

theorem encodeAll_eq (items : List Rlp.Item) :
    Rlp.encodeAll items = (items.map Rlp.encode).flatten := by
  induction items with
  | nil => simp [Rlp.encodeAll]
  | cons item rest ih => simp [Rlp.encodeAll, ih]

theorem rlpList_eq {items : List Rlp.Item} (small : (Rlp.encodeAll items).length < 2 ^ 64) :
    rlpList (items.map Rlp.encode) = Rlp.encode (.list items) := by
  rw [rlpList, ← encodeAll_eq, Rlp.encode, rlpLenPrefix_eq small]
  rfl

/-- What the three encoders build: strings, integers and lists of such items. -/
inductive Term where
  | bytes (data : List UInt8)
  | uint (number : U128)
  | list (items : List Term)

mutual

def Term.encode : Term → List UInt8
  | .bytes data => rlpBytes data
  | .uint number => rlpUint number
  | .list items => rlpList (encodeEach items)

def encodeEach : List Term → List (List UInt8)
  | [] => []
  | term :: rest => term.encode :: encodeEach rest

end

mutual

def Term.item : Term → Rlp.Item
  | .bytes data => .bytes data
  | .uint number => .bytes (BigEndian.minimal number.toNat)
  | .list items => .list (itemEach items)

def itemEach : List Term → List Rlp.Item
  | [] => []
  | term :: rest => term.item :: itemEach rest

end

mutual

def Term.Fits : Term → Prop
  | .bytes data => data.length < 2 ^ 64
  | .uint _ => True
  | .list items => (encodeEach items).flatten.length < 2 ^ 64 ∧ FitsEach items

def FitsEach : List Term → Prop
  | [] => True
  | term :: rest => term.Fits ∧ FitsEach rest

end

mutual

theorem Term.encode_eq (term : Term) (fits : term.Fits) : term.encode = Rlp.encode term.item := by
  cases term with
  | bytes data =>
      rw [Term.Fits] at fits
      rw [Term.encode, Term.item, rlpBytes_eq fits]
  | uint number => rw [Term.encode, Term.item, rlpUint_eq]
  | list items =>
      rw [Term.Fits] at fits
      have each := encodeEach_eq items fits.2
      have payload := fits.1
      rw [each, ← encodeAll_eq] at payload
      rw [Term.encode, Term.item, each, rlpList_eq payload]

theorem encodeEach_eq (items : List Term) (fits : FitsEach items) :
    encodeEach items = (itemEach items).map Rlp.encode := by
  cases items with
  | nil => rw [encodeEach, itemEach, List.map_nil]
  | cons term rest =>
      rw [FitsEach] at fits
      rw [encodeEach, itemEach, List.map_cons, term.encode_eq fits.1, encodeEach_eq rest fits.2]

end

theorem Term.payload_small (term : Term) (fits : term.Fits) :
    Rlp.payloadLength term.item < 2 ^ 64 := by
  cases term with
  | bytes data =>
      rw [Term.Fits] at fits
      rwa [Term.item, Rlp.payloadLength]
  | uint number =>
      have bound : number.toNat < 256 ^ 16 := number.isLt
      have width := BigEndian.length_minimal_le bound
      rw [Term.item, Rlp.payloadLength]
      omega
  | list items =>
      rw [Term.Fits] at fits
      rw [Term.item, Rlp.payloadLength, encodeAll_eq, ← encodeEach_eq items fits.2]
      exact fits.1

theorem Term.decode_encode (term : Term) (fits : term.Fits) (rest : List UInt8) :
    Rlp.decode (term.encode ++ rest) = some (term.item, rest) := by
  rw [term.encode_eq fits, Rlp.decode_encode_append _ (term.payload_small fits)]

def intItem (number : Nat) : Rlp.Item := .bytes (BigEndian.minimal number)

def unsignedItems (tx : TxParams) : List Rlp.Item :=
  [intItem tx.chainId.toNat, intItem tx.nonce.toNat, intItem tx.maxPriorityFee.toNat,
    intItem tx.maxFee.toNat, intItem tx.gasLimit.toNat, .bytes tx.toAddress.toList,
    intItem tx.value.toNat, .bytes tx.data, .list []]

def signatureItems (signature : Signature) : List Rlp.Item :=
  [intItem signature.recoveryId.toNat, .bytes signature.r.toList, .bytes signature.s.toList]

theorem rlpUint_u128 (number : UInt64) :
    rlpUint (u128 number) = Rlp.encode (intItem number.toNat) := by
  rw [rlpUint_eq, toNat_u128, intItem]

theorem unsignedFields_eq (tx : TxParams) :
    unsignedFields tx = (unsignedItems tx).map Rlp.encode := by
  have data := tx.dataLength
  have address : tx.toAddress.toList.length < 2 ^ 64 := by simp
  simp only [unsignedFields, unsignedItems, List.map_cons, List.map_nil, rlpUint_u128,
    rlpBytes_eq address, rlpBytes_eq (show tx.data.length < 2 ^ 64 by omega)]
  rfl

theorem signedFields_eq (tx : TxParams) (signature : Signature) :
    signedFields tx signature =
      (unsignedItems tx ++ signatureItems signature).map Rlp.encode := by
  have recovery := signature.recoveryId.toNat_lt
  have parity : rlpUint (BitVec.ofNat 128 signature.recoveryId.toNat) =
      Rlp.encode (intItem signature.recoveryId.toNat) := by
    rw [rlpUint_eq, BitVec.toNat_ofNat, Nat.mod_eq_of_lt (by omega), intItem]
  have r : signature.r.toList.length < 2 ^ 64 := by simp
  have s : signature.s.toList.length < 2 ^ 64 := by simp
  have fields : signedFields tx signature = unsignedFields tx ++
      [rlpUint (BitVec.ofNat 128 signature.recoveryId.toNat), rlpBytes signature.r.toList,
        rlpBytes signature.s.toList] := rfl
  rw [fields, unsignedFields_eq, List.map_append, parity, rlpBytes_eq r, rlpBytes_eq s]
  rfl

theorem length_intItem_le {number : Nat} (small : number < 2 ^ 64) :
    (Rlp.encode (intItem number)).length ≤ 17 := by
  have bound : number < 256 ^ 8 := small
  have width := BigEndian.length_minimal_le bound
  have short : (BigEndian.minimal number).length < 2 ^ 64 := by omega
  have encoded := Rlp.length_encode_bytes_le short
  rw [intItem]
  omega

theorem length_encode_vector_le {size : Nat} (bytes : Vector UInt8 size) (small : size < 2 ^ 64) :
    (Rlp.encode (.bytes bytes.toList)).length ≤ size + 9 := by
  have length : bytes.toList.length = size := by simp
  have encoded := Rlp.length_encode_bytes_le (length.trans_lt small)
  omega

theorem unsigned_small (tx : TxParams) :
    (Rlp.encodeAll (unsignedItems tx)).length < 2 ^ 63 + 256 := by
  have data := tx.dataLength
  have dataItem := Rlp.length_encode_bytes_le (show tx.data.length < 2 ^ 64 by omega)
  have address := length_encode_vector_le tx.toAddress (by norm_num)
  have chainId := length_intItem_le tx.chainId.toNat_lt
  have nonce := length_intItem_le tx.nonce.toNat_lt
  have priorityFee := length_intItem_le tx.maxPriorityFee.toNat_lt
  have fee := length_intItem_le tx.maxFee.toNat_lt
  have gas := length_intItem_le tx.gasLimit.toNat_lt
  have value := length_intItem_le tx.value.toNat_lt
  have accessList : (Rlp.encode (.list [])).length = 1 := rfl
  simp only [unsignedItems, Rlp.encodeAll, List.length_append, List.length_nil]
  omega

theorem signed_small (tx : TxParams) (signature : Signature) :
    (Rlp.encodeAll (unsignedItems tx ++ signatureItems signature)).length < 2 ^ 64 := by
  have unsigned := unsigned_small tx
  have recovery := signature.recoveryId.toNat_lt
  have parity := length_intItem_le (show signature.recoveryId.toNat < 2 ^ 64 by omega)
  have r := length_encode_vector_le signature.r (by norm_num)
  have s := length_encode_vector_le signature.s (by norm_num)
  have split : Rlp.encodeAll (unsignedItems tx ++ signatureItems signature) =
      Rlp.encodeAll (unsignedItems tx) ++ Rlp.encodeAll (signatureItems signature) := by
    rw [encodeAll_eq, encodeAll_eq, encodeAll_eq, List.map_append, List.flatten_append]
  rw [split, List.length_append]
  simp only [signatureItems, Rlp.encodeAll, List.length_append, List.length_nil]
  omega

theorem signingInput_eq (tx : TxParams) :
    signingInput tx = 0x02 :: Rlp.encode (.list (unsignedItems tx)) := by
  have small := unsigned_small tx
  rw [signingInput, unsignedFields_eq, rlpList_eq (by omega)]

theorem decode_signed (tx : TxParams) (signature : Signature) :
    Rlp.decode (rlpList (signedFields tx signature)) =
      some (.list (unsignedItems tx ++ signatureItems signature), []) := by
  have small := signed_small tx signature
  have decoded := Rlp.decode_encode_append (.list (unsignedItems tx ++ signatureItems signature))
    small []
  rwa [List.append_nil, ← rlpList_eq small, ← signedFields_eq] at decoded

theorem intItem_injective {first second : Nat} (same : intItem first = intItem second) :
    first = second := by
  have digits := Rlp.Item.bytes.inj same
  rw [← BigEndian.value_minimal first, digits, BigEndian.value_minimal]

theorem unsignedItems_injective {first second : TxParams}
    (same : unsignedItems first = unsignedItems second) : first = second := by
  simp only [unsignedItems, List.cons.injEq, Rlp.Item.bytes.injEq, and_true] at same
  obtain ⟨chainId, nonce, priorityFee, fee, gas, address, value, data⟩ := same
  cases first
  cases second
  simp only [TxParams.mk.injEq]
  exact ⟨UInt64.toNat_inj.mp (intItem_injective chainId),
    UInt64.toNat_inj.mp (intItem_injective nonce),
    UInt64.toNat_inj.mp (intItem_injective priorityFee),
    UInt64.toNat_inj.mp (intItem_injective fee), UInt64.toNat_inj.mp (intItem_injective gas),
    Vector.toList_inj.mp address, UInt64.toNat_inj.mp (intItem_injective value), data⟩

theorem signingInput_injective {first second : TxParams}
    (same : signingInput first = signingInput second) : first = second := by
  have firstSmall := unsigned_small first
  have secondSmall := unsigned_small second
  rw [signingInput_eq, signingInput_eq] at same
  have items := Rlp.encode_injective (show Rlp.payloadLength (.list (unsignedItems first)) < 2 ^ 64 by
    rw [Rlp.payloadLength]; omega) (show Rlp.payloadLength (.list (unsignedItems second)) < 2 ^ 64 by
    rw [Rlp.payloadLength]; omega) (List.cons.inj same).2
  exact unsignedItems_injective (Rlp.Item.list.inj items)

theorem lenPrefix_fits (offset : UInt8) (known : offset = 0x80 ∨ offset = 0xc0) (len : Nat) :
    (len < 56 → offset.toNat + len < 256) ∧
      offset.toNat + 55 + (trimmedLength len).length < 256 := by
  have digits := length_trimmedLength_le len
  have bound : offset.toNat ≤ 0xc0 := by
    rcases known with rfl | rfl
    · decide
    · decide
  omega

/-- Every nested item is read back exactly and no prefix byte overflows; what is
signed determines the transaction; and it is what remains of the signed transaction
without its last three items. -/
theorem rlp_uniquely_decodable :
    (∀ term : Term, term.Fits → ∀ rest,
      Rlp.decode (term.encode ++ rest) = some (term.item, rest)) ∧
      (∀ offset : UInt8, offset = 0x80 ∨ offset = 0xc0 → ∀ len,
        (len < 56 → offset.toNat + len < 256) ∧
          offset.toNat + 55 + (trimmedLength len).length < 256) ∧
      (∀ first second : TxParams, signingInput first = signingInput second → first = second) ∧
      ∀ (SigningKey : Type) (crypto : Crypto SigningKey) (tx : TxParams) (seed : Vector UInt8 32)
        (raw : List UInt8), signEip1559 crypto tx seed = .ok raw →
          ∃ items, raw.head? = some 0x02 ∧ Rlp.decode raw.tail = some (.list items, []) ∧
            0x02 :: Rlp.encode (.list (items.take (items.length - 3))) = signingInput tx := by
  refine ⟨fun term fits rest => term.decode_encode fits rest, lenPrefix_fits,
    fun _ _ same => signingInput_injective same, ?_⟩
  intro SigningKey crypto tx seed raw produced
  obtain ⟨signature, rfl⟩ := signEip1559_ok produced
  refine ⟨unsignedItems tx ++ signatureItems signature, rfl, decode_signed tx signature, ?_⟩
  rw [signingInput_eq]
  rfl

end Pinaivu.Evm
