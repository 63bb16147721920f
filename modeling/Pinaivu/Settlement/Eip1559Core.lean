import Pinaivu.Lib.BigEndian

/-!
RLP encoding and EIP-1559 signing of `settlement/evm.rs`. Keccak and the
secp256k1 signer are other crates: they are the fields of `Crypto`.
-/

namespace Pinaivu.Evm

abbrev U128 := BitVec 128

def u128 (number : UInt64) : U128 := number.toBitVec.setWidth 128

@[simp] theorem toNat_u128 (number : UInt64) : (u128 number).toNat = number.toNat := by
  have bound := number.toNat_lt
  rw [u128, BitVec.toNat_setWidth, UInt64.toNat_toBitVec]
  omega

/-- `&bytes[skip..]`, where `skip` counts the leading zero bytes. -/
def skipZeros (bytes : List UInt8) : List UInt8 :=
  let skip := (bytes.takeWhile (· == 0)).length
  bytes.drop skip

def trimmedLength (len : Nat) : List UInt8 := skipZeros (BigEndian.bytes 8 len)

def rlpLenPrefix (len : Nat) (offset : UInt8) : List UInt8 :=
  if len < 56 then [offset + UInt8.ofNat len]
  else (offset + 55 + UInt8.ofNat (trimmedLength len).length) :: trimmedLength len

def rlpBytes (data : List UInt8) : List UInt8 :=
  match data with
  | [byte] => if byte < 0x80 then [byte] else rlpLenPrefix 1 0x80 ++ [byte]
  | data => rlpLenPrefix data.length 0x80 ++ data

def rlpUint (number : U128) : List UInt8 :=
  if number = 0 then [0x80] else rlpBytes (skipZeros (BigEndian.bytes 16 number.toNat))

def rlpList (items : List (List UInt8)) : List UInt8 :=
  let payload := items.flatten
  rlpLenPrefix payload.length 0xc0 ++ payload

/-- No slice has more than `isize::MAX` bytes. -/
structure TxParams where
  chainId : UInt64
  nonce : UInt64
  maxPriorityFee : UInt64
  maxFee : UInt64
  gasLimit : UInt64
  toAddress : Vector UInt8 20
  value : UInt64
  data : List UInt8
  dataLength : data.length < 2 ^ 63

structure Signature where
  r : Vector UInt8 32
  s : Vector UInt8 32
  recoveryId : UInt8

/-- `publicKey` is the uncompressed point without its type byte. -/
structure Crypto (SigningKey : Type) where
  keccak256 : List UInt8 → Vector UInt8 32
  fromBytes : Vector UInt8 32 → Option SigningKey
  publicKey : SigningKey → Vector UInt8 64
  signPrehashRecoverable : SigningKey → Vector UInt8 32 → Option Signature

inductive SignError where
  | invalidKey
  | signingFailed
  deriving DecidableEq, Repr

def SignError.text : SignError → String
  | .invalidKey => "EvmSettlement: invalid secp256k1 key"
  | .signingFailed => "EvmSettlement: secp256k1 signing failed"

def unsignedFields (tx : TxParams) : List (List UInt8) :=
  [rlpUint (u128 tx.chainId), rlpUint (u128 tx.nonce), rlpUint (u128 tx.maxPriorityFee),
    rlpUint (u128 tx.maxFee), rlpUint (u128 tx.gasLimit), rlpBytes tx.toAddress.toList,
    rlpUint (u128 tx.value), rlpBytes tx.data, rlpList []]

def signingInput (tx : TxParams) : List UInt8 := 0x02 :: rlpList (unsignedFields tx)

def signedFields (tx : TxParams) (signature : Signature) : List (List UInt8) :=
  [rlpUint (u128 tx.chainId), rlpUint (u128 tx.nonce), rlpUint (u128 tx.maxPriorityFee),
    rlpUint (u128 tx.maxFee), rlpUint (u128 tx.gasLimit), rlpBytes tx.toAddress.toList,
    rlpUint (u128 tx.value), rlpBytes tx.data, rlpList [],
    rlpUint (BitVec.ofNat 128 signature.recoveryId.toNat), rlpBytes signature.r.toList,
    rlpBytes signature.s.toList]

def signEip1559 {SigningKey : Type} (crypto : Crypto SigningKey) (tx : TxParams)
    (seed : Vector UInt8 32) : Except SignError (List UInt8) :=
  match crypto.fromBytes seed with
  | none => .error .invalidKey
  | some signingKey =>
      let hash := crypto.keccak256 (signingInput tx)
      match crypto.signPrehashRecoverable signingKey hash with
      | none => .error .signingFailed
      | some signature => .ok (0x02 :: rlpList (signedFields tx signature))

theorem signEip1559_ok {SigningKey : Type} {crypto : Crypto SigningKey} {tx : TxParams}
    {seed : Vector UInt8 32} {raw : List UInt8} (produced : signEip1559 crypto tx seed = .ok raw) :
    ∃ signature, raw = 0x02 :: rlpList (signedFields tx signature) := by
  unfold signEip1559 at produced
  split at produced
  · cases produced
  · dsimp only at produced
    split at produced
    · cases produced
    · rename_i signature _
      exact ⟨signature, (Except.ok.inj produced).symm⟩

def testSeed : Vector UInt8 32 := Vector.replicate 32 42

def testPublicKey : Vector UInt8 64 :=
  #v[91, 229, 233, 71, 130, 9, 103, 74, 150, 230, 15, 31, 3, 127, 97, 118, 84, 15, 208, 1, 250, 29,
  100, 105, 71, 112, 197, 106, 119, 9, 196, 44, 3, 90, 136, 195, 132, 61, 191, 139, 16, 213, 44,
  199, 30, 38, 204, 225, 113, 225, 170, 30, 50, 248, 225, 147, 201, 246, 166, 189, 143, 7, 184,
  191]

def ownAddressHash : Vector UInt8 32 :=
  #v[253, 78, 32, 13, 175, 197, 87, 246, 114, 85, 128, 76, 176, 229, 134, 61, 13, 223, 126, 16, 94,
  64, 159, 238, 14, 204, 1, 35, 163, 98, 225, 75]

end Pinaivu.Evm
