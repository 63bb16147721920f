import Pinaivu.Lib.AbiFormat
import Pinaivu.Settlement.EvmEscrowId

/-!
The calldata with which an agent registers its address and its metadata URI, and what a contract decodes from it.
-/

namespace Pinaivu.Evm

/-- A string is no longer than an allocation can be. -/
abbrev Uri := { text : String // text.toUTF8.data.toList.length < 9223372036854775808 }

def Uri.bytes (uri : Uri) : List UInt8 := uri.val.toUTF8.data.toList

/-- An address that does not parse is sent as the zero address. -/
def encodeRegisterCall (keccak256 : List UInt8 → Vector UInt8 32) (agentAddr : String) (uri : Uri) : List UInt8 :=
  let selector := abiSelector keccak256 "register(address,string)"
  let addrBytes :=
    match parseAddr agentAddr with
    | .ok address => address
    | .error _ => Vector.replicate 20 0
  let addrWord := abiAddress addrBytes
  let offsetWord := abiUint256 64
  let uriBytes := uri.bytes
  let lenWord := abiUint256 (.ofNat uriBytes.length)
  let paddedLen := (uriBytes.length + 31) / 32 * 32
  let paddedData := uriBytes ++ zeros (paddedLen - uriBytes.length)
  selector ++ addrWord ++ offsetWord ++ lenWord ++ paddedData

def AddressText (text : String) (address : Vector UInt8 20) : Prop :=
  ∃ digits, Hex.decode digits = some address.toList ∧ (text.toList = digits ∨ text.toList = '0' :: 'x' :: digits)

theorem stripHex_of_decode {digits : List Char} {bytes : List UInt8} (found : Hex.decode digits = some bytes) :
    stripHex digits = digits := by
  unfold stripHex
  split
  · next rest => simp [Hex.decode, Hex.digitValue] at found
  · rfl

theorem parseAddr_of_addressText {text : String} {address : Vector UInt8 20} (valid : AddressText text address) :
    parseAddr text = .ok address := by
  obtain ⟨digits, found, forms⟩ := valid
  have stripped : stripHex text.toList = digits := by
    rcases forms with plain | marked
    · rw [plain, stripHex_of_decode found]
    · rw [marked, stripHex]
  have length : address.toList.length = 20 := address.length_toList
  simp only [parseAddr, stripped, found, dif_pos length, Vector.toArray_toList]

theorem abiUint256_eq_word (number : UInt64) : abiUint256 number = AbiFormat.word number.toNat := by
  apply BigEndian.value_injective
  · simp [abiUint256, zeros, AbiFormat.word]
  · have small : number.toNat < 256 ^ 32 := Nat.lt_trans number.toNat_lt (by decide)
    rw [value_abiUint256, AbiFormat.word, BigEndian.value_bytes, Nat.mod_eq_of_lt small]

theorem length_abiSelector (keccak256 : List UInt8 → Vector UInt8 32) (sig : String) :
    (abiSelector keccak256 sig).length = 4 := by
  simp [abiSelector]

theorem encodeRegisterCall_eq {keccak256 : List UInt8 → Vector UInt8 32} {agentAddr : String}
    {address : Vector UInt8 20} (valid : AddressText agentAddr address) (uri : Uri) :
    encodeRegisterCall keccak256 agentAddr uri =
      abiSelector keccak256 "register(address,string)" ++ AbiFormat.encode [.address address, .bytes uri.bytes] := by
  have length : (UInt64.ofNat uri.bytes.length).toNat = uri.bytes.length :=
    UInt64.toNat_ofNat_of_lt' (Nat.lt_trans uri.property (by decide))
  have padding : zeros ((uri.bytes.length + 31) / 32 * 32 - uri.bytes.length) = AbiFormat.padding uri.bytes.length := by
    rw [zeros, AbiFormat.padding]
    congr 1
    omega
  rw [encodeRegisterCall, parseAddr_of_addressText valid]
  simp only [abiUint256_eq_word, length, padding]
  simp [AbiFormat.encode, AbiFormat.heads, AbiFormat.head, AbiFormat.tail, abiAddress, zeros]

theorem encode_registration (address : Vector UInt8 20) (content : List UInt8) :
    AbiFormat.encode [.address address, .bytes content] =
      zeros 12 ++ (address.toList ++ AbiFormat.word 64 ++ AbiFormat.word content.length) ++
        (content ++ AbiFormat.padding content.length) := by
  simp [AbiFormat.encode, AbiFormat.heads, AbiFormat.head, AbiFormat.tail, zeros]

/-- A decoder that also checks the padding reads back what is registered. -/
theorem register_call_round_trip (keccak256 : List UInt8 → Vector UInt8 32) (agentAddr : String)
    (address : Vector UInt8 20) (uri : Uri) (valid : AddressText agentAddr address) :
    let output := encodeRegisterCall keccak256 agentAddr uri
    AbiFormat.decode [.address, .bytes] (output.drop 4) = some [.address address, .bytes uri.bytes] ∧
      (output.drop 4).take 12 = zeros 12 ∧
      (∃ count < 32, output.drop 100 = uri.bytes ++ zeros count) ∧
      output.length % 32 = 4 := by
  intro output
  have call : output = abiSelector keccak256 "register(address,string)" ++
      AbiFormat.encode [.address address, .bytes uri.bytes] := encodeRegisterCall_eq valid uri
  have selector := length_abiSelector keccak256 "register(address,string)"
  have arguments : output.drop 4 = AbiFormat.encode [.address address, .bytes uri.bytes] := by
    rw [call, List.drop_left' selector]
  have layout := encode_registration address uri.bytes
  have twelve : (zeros 12).length = 12 := rfl
  refine ⟨?_, ?_, ⟨(32 - uri.bytes.length % 32) % 32, by omega, ?_⟩, ?_⟩
  · rw [arguments]
    apply AbiFormat.decode_encode
    have bound : uri.bytes.length < 9223372036854775808 := uri.property
    have lengths := congrArg List.length layout
    simp only [List.length_append, AbiFormat.length_word, AbiFormat.padding, List.length_replicate, twelve,
      Vector.length_toList] at lengths
    omega
  · rw [arguments, layout, List.append_assoc, List.take_left' twelve]
  · have heads :
        (zeros 12 ++ (address.toList ++ AbiFormat.word 64 ++ AbiFormat.word uri.bytes.length)).length = 96 := by
      simp [zeros]
    have further : output.drop 100 = (output.drop 4).drop 96 := by rw [List.drop_drop]
    rw [further, arguments, layout, List.drop_left' heads]
    rfl
  · have whole := AbiFormat.length_encode_mod [.address address, .bytes uri.bytes]
    rw [call, List.length_append, selector]
    omega

/-- Keccak-256 of `register(address,string)`. -/
def registerHash : Vector UInt8 32 :=
  #v[50, 67, 74, 46, 144, 114, 94, 213, 144, 218, 255, 7, 162, 68, 48, 80, 1, 197, 140, 73, 247, 190, 247, 60, 229, 231,
     36, 154, 207, 105, 245, 97]

def sampleAgent : Vector UInt8 20 := Vector.replicate 20 171

theorem register_call_round_trip_sample :
    AbiFormat.decode [.address, .bytes]
        ((encodeRegisterCall (fun _ => registerHash) "0xabababABabababababababababababababababab"
          ⟨"agent é", by decide +kernel⟩).drop 4) =
      some [.address sampleAgent, .bytes "agent é".toUTF8.data.toList] :=
  (register_call_round_trip _ "0xabababABabababababababababababababababab" sampleAgent
    ⟨"agent é", by decide +kernel⟩
    ⟨"abababABabababababababababababababababab".toList, by decide +kernel, Or.inr (by decide +kernel)⟩).1

end Pinaivu.Evm
