import Pinaivu.Settlement.Eip1559RoundTrip

/-!
Which integer fields of a signed transaction are canonical. All but two go through
`rlpUint`; the signature's `r` and `s` are written as strings of 32 bytes.
-/

namespace Pinaivu.Evm

def CanonicalAt (items : List Rlp.Item) (position value : Nat) : Prop :=
  ∃ digits, items[position]? = some (.bytes digits) ∧ BigEndian.Minimal digits ∧
    BigEndian.value digits = value

def integerFields (tx : TxParams) (signature : Signature) : List (Nat × Nat) :=
  [(0, tx.chainId.toNat), (1, tx.nonce.toNat), (2, tx.maxPriorityFee.toNat), (3, tx.maxFee.toNat),
    (4, tx.gasLimit.toNat), (6, tx.value.toNat), (9, signature.recoveryId.toNat),
    (10, BigEndian.value signature.r.toList), (11, BigEndian.value signature.s.toList)]

def IntegersCanonical (raw : List UInt8) (tx : TxParams) (signature : Signature) : Prop :=
  ∃ items, Rlp.decode raw.tail = some (.list items, []) ∧
    ∀ field ∈ integerFields tx signature, CanonicalAt items field.1 field.2

theorem canonicalAt_intItem {items : List Rlp.Item} {position value : Nat}
    (found : items[position]? = some (intItem value)) : CanonicalAt items position value :=
  ⟨_, found, BigEndian.minimal_minimal value, BigEndian.value_minimal value⟩

theorem canonicalAt_bytes {items : List Rlp.Item} {position : Nat} {data : List UInt8}
    (found : items[position]? = some (.bytes data)) :
    CanonicalAt items position (BigEndian.value data) ↔ BigEndian.Minimal data := by
  constructor
  · rintro ⟨digits, present, minimal, -⟩
    rw [found] at present
    rwa [Rlp.Item.bytes.inj (Option.some.inj present)]
  · intro minimal
    exact ⟨data, found, minimal, rfl⟩

theorem minimal_vector {size : Nat} [NeZero size] (bytes : Vector UInt8 size) :
    BigEndian.Minimal bytes.toList ↔ bytes.head ≠ 0 := by
  simp [BigEndian.Minimal, List.head?_eq_getElem?, Vector.head, NeZero.pos]

theorem integersCanonical_iff (tx : TxParams) (signature : Signature) :
    IntegersCanonical (0x02 :: rlpList (signedFields tx signature)) tx signature ↔
      signature.r.head ≠ 0 ∧ signature.s.head ≠ 0 := by
  have decoded := decode_signed tx signature
  have r := canonicalAt_bytes (show (unsignedItems tx ++ signatureItems signature)[10]? =
    some (.bytes signature.r.toList) from rfl)
  have s := canonicalAt_bytes (show (unsignedItems tx ++ signatureItems signature)[11]? =
    some (.bytes signature.s.toList) from rfl)
  rw [← minimal_vector, ← minimal_vector, ← r, ← s]
  constructor
  · rintro ⟨items, found, canonical⟩
    rw [List.tail_cons, decoded] at found
    obtain rfl := Rlp.Item.list.inj (Prod.mk.inj (Option.some.inj found)).1
    refine ⟨canonical (10, _) ?_, canonical (11, _) ?_⟩
    · simp [integerFields]
    · simp [integerFields]
  · rintro ⟨rCanonical, sCanonical⟩
    refine ⟨_, decoded, ?_⟩
    simp only [integerFields, List.forall_mem_cons, List.not_mem_nil, IsEmpty.forall_iff,
      implies_true, and_true]
    exact ⟨canonicalAt_intItem rfl, canonicalAt_intItem rfl, canonicalAt_intItem rfl,
      canonicalAt_intItem rfl, canonicalAt_intItem rfl, canonicalAt_intItem rfl,
      canonicalAt_intItem rfl, rCanonical, sCanonical⟩

def signatureOf {SigningKey : Type} (crypto : Crypto SigningKey) (tx : TxParams)
    (seed : Vector UInt8 32) : Option Signature :=
  (crypto.fromBytes seed).bind fun signingKey =>
    crypto.signPrehashRecoverable signingKey (crypto.keccak256 (signingInput tx))

theorem signEip1559_of_signature {SigningKey : Type} {crypto : Crypto SigningKey} {tx : TxParams}
    {seed : Vector UInt8 32} {signature : Signature}
    (signed : signatureOf crypto tx seed = some signature) :
    signEip1559 crypto tx seed = .ok (0x02 :: rlpList (signedFields tx signature)) := by
  obtain ⟨signingKey, key, answer⟩ := Option.bind_eq_some_iff.mp signed
  simp only [signEip1559, key, answer]

/-- The signed transaction has only canonical integers exactly when neither half of
the signature starts with a zero byte. -/
theorem signEip1559_canonical_iff {SigningKey : Type} (crypto : Crypto SigningKey) (tx : TxParams)
    (seed : Vector UInt8 32) (signature : Signature)
    (signed : signatureOf crypto tx seed = some signature) :
    ∃ raw, signEip1559 crypto tx seed = .ok raw ∧
      (IntegersCanonical raw tx signature ↔ signature.r.head ≠ 0 ∧ signature.s.head ≠ 0) :=
  ⟨_, signEip1559_of_signature signed, integersCanonical_iff tx signature⟩

def emptyTransfer (nonce : UInt64) : TxParams where
  chainId := 1
  nonce := nonce
  maxPriorityFee := 1000000000
  maxFee := 2000000000
  gasLimit := 21000
  toAddress := Vector.replicate 20 0xab
  value := 0
  data := []
  dataLength := by norm_num

def recorded (hash : Vector UInt8 32) (signature : Signature) : Crypto Unit where
  keccak256 := fun _ => hash
  fromBytes := fun _ => some ()
  publicKey := fun _ => testPublicKey
  signPrehashRecoverable := fun _ _ => some signature

def firstHash : Vector UInt8 32 :=
  #v[161, 213, 146, 61, 50, 151, 139, 229, 140, 118, 129, 117, 31, 16, 161, 197, 143, 121, 48, 231,
  47, 69, 225, 19, 221, 128, 73, 133, 78, 244, 78, 58]

def firstSignature : Signature where
  r :=
    #v[209, 67, 251, 216, 172, 61, 90, 251, 190, 218, 99, 50, 142, 15, 142, 73, 164, 199, 69, 133,
    73, 215, 8, 90, 142, 52, 235, 115, 188, 192, 70, 138]
  s :=
    #v[19, 153, 104, 72, 120, 85, 203, 99, 189, 141, 247, 43, 65, 240, 132, 100, 196, 42, 26, 11,
    170, 9, 70, 147, 162, 124, 29, 251, 68, 89, 99, 129]
  recoveryId := 1

theorem signEip1559_canonical_first :
    ∃ raw, signEip1559 (recorded firstHash firstSignature) (emptyTransfer 0) testSeed = .ok raw ∧
      IntegersCanonical raw (emptyTransfer 0) firstSignature := by
  obtain ⟨raw, produced, canonical⟩ := signEip1559_canonical_iff
    (recorded firstHash firstSignature) (emptyTransfer 0) testSeed firstSignature rfl
  exact ⟨raw, produced, canonical.mpr (by decide)⟩

def laterHash : Vector UInt8 32 :=
  #v[8, 83, 64, 125, 57, 13, 56, 118, 198, 98, 35, 85, 48, 116, 216, 40, 60, 73, 213, 255, 170,
  180, 154, 2, 56, 229, 235, 17, 190, 229, 24, 217]

/-- The signature of nonce 193 under the same key: `s` starts with a zero byte. -/
def laterSignature : Signature where
  r :=
    #v[19, 254, 158, 118, 199, 97, 133, 51, 195, 166, 243, 195, 238, 20, 165, 19, 106, 182, 105,
    171, 228, 98, 23, 102, 210, 198, 113, 154, 200, 23, 216, 178]
  s :=
    #v[0, 77, 15, 2, 114, 184, 69, 8, 44, 143, 147, 249, 255, 179, 116, 11, 57, 148, 176, 107, 160,
    92, 189, 241, 62, 51, 93, 160, 40, 207, 69, 216]
  recoveryId := 1

theorem signEip1559_leading_zero :
    ∃ raw, signEip1559 (recorded laterHash laterSignature) (emptyTransfer 193) testSeed = .ok raw ∧
      ¬IntegersCanonical raw (emptyTransfer 193) laterSignature := by
  have signed : signatureOf (recorded laterHash laterSignature) (emptyTransfer 193) testSeed =
      some laterSignature := rfl
  refine ⟨_, signEip1559_of_signature signed, ?_⟩
  rw [integersCanonical_iff]
  decide

end Pinaivu.Evm
