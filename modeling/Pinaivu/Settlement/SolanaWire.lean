import Pinaivu.Lib.ByteReader

/-!
The wire format of a legacy Solana transaction as a validator reads it: signatures,
a header of three counts, account keys, a blockhash and compiled instructions.
-/

namespace Pinaivu.Solana

open ByteReader

abbrev Key := Vector UInt8 32

structure Header where
  numRequiredSignatures : UInt8
  numReadonlySigned : UInt8
  numReadonlyUnsigned : UInt8
  deriving DecidableEq, Repr

structure CompiledInstruction where
  programIndex : UInt8
  accounts : List UInt8
  data : List UInt8
  deriving DecidableEq, Repr

structure Message where
  header : Header
  keys : List Key
  recentBlockhash : Vector UInt8 32
  instructions : List CompiledInstruction
  deriving DecidableEq, Repr

structure Transaction where
  signatures : List (Vector UInt8 64)
  message : Message
  deriving DecidableEq, Repr

/-- An array length of one to three bytes, seven bits in each; only the shortest form. -/
def readLength : Reader Nat
  | [] => none
  | first :: rest =>
      if first.toNat < 0x80 then some (first.toNat, rest)
      else
        match rest with
        | [] => none
        | second :: rest =>
            if second.toNat < 0x80 then
              if second = 0 then none
              else some (first.toNat - 0x80 + 0x80 * second.toNat, rest)
            else
              match rest with
              | [] => none
              | third :: rest =>
                  if third = 0 ∨ 3 < third.toNat then none
                  else
                    some (first.toNat - 0x80 + 0x80 * (second.toNat - 0x80) +
                      0x4000 * third.toNat, rest)

def readArray {Value : Type} (reader : Reader Value) : Reader (List Value) := do
  let count ← readLength
  times reader count

def readHeader : Reader Header := do
  let required ← byte
  let readonlySigned ← byte
  let readonlyUnsigned ← byte
  pure ⟨required, readonlySigned, readonlyUnsigned⟩

def readData : Reader (List UInt8) := do
  let count ← readLength
  bytes count

def readInstruction : Reader CompiledInstruction := do
  let programIndex ← byte
  let accounts ← readArray byte
  let data ← readData
  pure ⟨programIndex, accounts, data⟩

def readMessage : Reader Message := do
  let header ← readHeader
  let keys ← readArray (block 32)
  let recentBlockhash ← block 32
  let instructions ← readArray readInstruction
  pure ⟨header, keys, recentBlockhash, instructions⟩

def readTransaction : Reader Transaction := do
  let signatures ← readArray (block 64)
  let message ← readMessage
  pure ⟨signatures, message⟩

def Message.IsSigner (message : Message) (index : Nat) : Prop :=
  index < message.header.numRequiredSignatures.toNat

/-- Among the signers and among the others, the last keys are readonly. -/
def Message.IsWritable (message : Message) (index : Nat) : Prop :=
  let required := message.header.numRequiredSignatures.toNat
  index + message.header.numReadonlySigned.toNat < required ∨
    required ≤ index ∧ index + message.header.numReadonlyUnsigned.toNat < message.keys.length

end Pinaivu.Solana
