import Pinaivu.Settlement.SolanaWire

/-!
The transaction builder of `settlement/solana.rs`. The Ed25519 signer is another
crate; it is the argument `sign`.
-/

namespace Pinaivu.Solana

structure IxAccount where
  pubkey : Key
  isWritable : Bool
  isSigner : Bool
  deriving DecidableEq, Repr

structure Ix where
  programId : Key
  accounts : List IxAccount
  data : List UInt8
  deriving DecidableEq, Repr

def compactU16 (count : Nat) : List UInt8 :=
  let n := UInt16.ofNat count
  if n < 0x80 then [n.toUInt8]
  else if n < 0x4000 then [((n &&& 0x7f) ||| 0x80).toUInt8, (n >>> 7).toUInt8]
  else
    [((n &&& 0x7f) ||| 0x80).toUInt8, (((n >>> 7) &&& 0x7f) ||| 0x80).toUInt8, (n >>> 14).toUInt8]

/-- Adds an account, or raises the privileges of the entry that is there. -/
def ensureAccount : List IxAccount → IxAccount → List IxAccount
  | [], account => [account]
  | existing :: rest, account =>
      if existing.pubkey = account.pubkey then
        ⟨existing.pubkey, existing.isWritable || account.isWritable,
          existing.isSigner || account.isSigner⟩ :: rest
      else existing :: ensureAccount rest account

def collectAccounts (payer : Key) (instructions : List Ix) : List IxAccount :=
  instructions.foldl
    (fun map ix => ix.accounts.foldl ensureAccount (ensureAccount map ⟨ix.programId, false, false⟩))
    (ensureAccount [] ⟨payer, true, true⟩)

def sortKey (account : IxAccount) : Nat × Nat :=
  ((!account.isSigner).toNat, (!account.isWritable).toNat)

def keyLe (first second : Nat × Nat) : Bool :=
  first.1 < second.1 || first.1 == second.1 && first.2 ≤ second.2

def sortAccounts (map : List IxAccount) : List IxAccount :=
  map.mergeSort fun first second => keyLe (sortKey first) (sortKey second)

def header (map : List IxAccount) : Header where
  numRequiredSignatures := UInt8.ofNat (map.countP fun account => account.isSigner)
  numReadonlySigned :=
    UInt8.ofNat (map.countP fun account => account.isSigner && !account.isWritable)
  numReadonlyUnsigned :=
    UInt8.ofNat (map.countP fun account => !account.isSigner && !account.isWritable)

/-- `none` is the panic of `unwrap` on a key that is not in the map. -/
def idxOf (map : List IxAccount) (pubkey : Key) : Option UInt8 :=
  (map.findIdx? fun account => account.pubkey == pubkey).map UInt8.ofNat

def encodeInstruction (map : List IxAccount) (ix : Ix) : Option (List UInt8) := do
  let programIndex ← idxOf map ix.programId
  let accounts ← ix.accounts.mapM fun account => idxOf map account.pubkey
  pure ([programIndex] ++ compactU16 ix.accounts.length ++ accounts ++
    compactU16 ix.data.length ++ ix.data)

def encodeMessage (map : List IxAccount) (instructions : List Ix)
    (recentBlockhash : Vector UInt8 32) : Option (List UInt8) := do
  let header := header map
  let compiled ← instructions.mapM (encodeInstruction map)
  pure ([header.numRequiredSignatures, header.numReadonlySigned, header.numReadonlyUnsigned] ++
    compactU16 map.length ++ map.flatMap (fun account => account.pubkey.toList) ++
    recentBlockhash.toList ++ compactU16 instructions.length ++ compiled.flatten)

def buildTransaction (instructions : List Ix) (payer : Key)
    (sign : List UInt8 → Vector UInt8 64) (recentBlockhash : Vector UInt8 32) :
    Option (List UInt8) := do
  let map := sortAccounts (collectAccounts payer instructions)
  let message ← encodeMessage map instructions recentBlockhash
  pure (compactU16 1 ++ (sign message).toList ++ message)

end Pinaivu.Solana
