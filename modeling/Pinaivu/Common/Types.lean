import Pinaivu.Lib.Hex

/-!
Types of `crates/common/src/types.rs` that several crates exchange.
-/

namespace Pinaivu

structure Uuid where
  bytes : Vector UInt8 16
  deriving DecidableEq, Repr

def Uuid.toText (id : Uuid) : String :=
  let digits := Hex.encode id.bytes.toList
  String.ofList (digits.take 8 ++ '-' :: (digits.drop 8).take 4 ++ '-' :: (digits.drop 12).take 4 ++
    '-' :: (digits.drop 16).take 4 ++ '-' :: digits.drop 20)

def Uuid.ofDigits (digits : List Char) : Option Uuid := do
  let bytes ← Hex.decode digits
  if sized : bytes.length = 16 then some ⟨⟨bytes.toArray, sized⟩⟩ else none

def Uuid.parseHyphenated (text : List Char) : Option Uuid :=
  if [8, 13, 18, 23].all fun position => text[position]? = some '-' then
    ofDigits (text.take 8 ++ (text.drop 9).take 4 ++ (text.drop 14).take 4 ++
      (text.drop 19).take 4 ++ text.drop 24)
  else none

/-- `Uuid::parse_str`: plain, hyphenated, in braces, or as a URN. -/
def Uuid.parseStr (text : String) : Option Uuid :=
  let chars := text.toList
  if chars.length = 32 then ofDigits chars
  else if chars.length = 36 then parseHyphenated chars
  else if chars.length = 38 ∧ chars.head? = some '{' ∧ chars.getLast? = some '}' then
    parseHyphenated (chars.drop 1).dropLast
  else if chars.length = 45 ∧ chars.take 9 = "urn:uuid:".toList then parseHyphenated (chars.drop 9)
  else none

abbrev SessionId := Uuid

abbrev RequestId := Uuid

abbrev NodePeerId := String

abbrev NanoX := UInt64

inductive Role where
  | user
  | assistant
  | system
  deriving DecidableEq, Repr

structure Message where
  role : Role
  content : String
  timestamp : UInt64
  nodeId : Option NodePeerId
  tokenCount : UInt32
  deriving DecidableEq, Repr

structure ContextWindow where
  systemPrompt : Option String
  summary : Option String
  recentMessages : List Message
  totalTokens : UInt32
  deriving DecidableEq, Repr

structure ProofOfInference where
  requestId : RequestId
  sessionId : SessionId
  nodePeerId : NodePeerId
  clientAddress : String
  modelId : String
  inputTokens : UInt32
  outputTokens : UInt32
  latencyMs : UInt32
  pricePaidNanox : NanoX
  timestamp : UInt64
  inputHash : Vector UInt8 32
  outputHash : Vector UInt8 32
  settlementId : String
  escrowTxId : Option String
  nodePubkey : Vector UInt8 32
  signature : List UInt8
  deriving DecidableEq, Repr

theorem hyphen_notMem_encode (bytes : List UInt8) : '-' ∉ Hex.encode bytes := by
  intro member
  obtain ⟨value, bound, same⟩ := Hex.mem_encode member
  have distinct : ∀ value < 16, '-' ≠ Hex.digit value := by decide
  exact distinct value bound same

theorem filter_hyphen {digits part : List Char} (absent : '-' ∉ digits) (subset : part ⊆ digits) :
    part.filter (· ≠ '-') = part := by
  apply List.filter_eq_self.mpr
  intro char member
  have different : char ≠ '-' := by
    intro same
    exact absent (same ▸ subset member)
  simpa using different

theorem groups_append (digits : List Char) :
    digits.take 8 ++ ((digits.drop 8).take 4 ++ ((digits.drop 12).take 4 ++
      ((digits.drop 16).take 4 ++ digits.drop 20))) = digits := by
  have third : digits.drop 20 = (digits.drop 16).drop 4 := by rw [List.drop_drop]
  have second : digits.drop 16 = (digits.drop 12).drop 4 := by rw [List.drop_drop]
  have first : digits.drop 12 = (digits.drop 8).drop 4 := by rw [List.drop_drop]
  rw [third, List.take_append_drop, second, List.take_append_drop, first, List.take_append_drop,
    List.take_append_drop]

theorem Uuid.digits_toText (id : Uuid) :
    id.toText.toList.filter (· ≠ '-') = Hex.encode id.bytes.toList := by
  have absent := hyphen_notMem_encode id.bytes.toList
  have taken := fun start count => filter_hyphen absent
    (List.Subset.trans (List.take_subset count _) (List.drop_subset start _))
  have head := filter_hyphen absent (List.take_subset 8 _)
  have last := filter_hyphen absent (List.drop_subset 20 _)
  simp only [Uuid.toText, String.toList_ofList, List.filter_append, List.filter_cons, ne_eq,
    not_true, decide_false, Bool.false_eq_true, if_false, List.append_assoc] at taken head last ⊢
  rw [head, taken, taken, taken, last, groups_append]

theorem Uuid.toText_injective : Function.Injective Uuid.toText := by
  intro first second same
  have digits : Hex.encode first.bytes.toList = Hex.encode second.bytes.toList := by
    rw [← first.digits_toText, ← second.digits_toText, same]
  have bytes := Vector.toList_inj.mp (Hex.encode_injective digits)
  exact congrArg Uuid.mk bytes

theorem Uuid.ofDigits_encode (id : Uuid) : ofDigits (Hex.encode id.bytes.toList) = some id := by
  have same : (⟨id.bytes.toList.toArray, id.bytes.length_toList⟩ : Vector UInt8 16) = id.bytes := by
    apply Vector.toList_inj.mp
    simp [Vector.toList]
  simp only [ofDigits, Hex.decode_encode, Option.bind_eq_bind, Option.bind_some, Vector.length_toList,
    dite_true, same]

theorem Uuid.parseHyphenated_groups {first second third fourth fifth : List Char}
    (one : first.length = 8) (two : second.length = 4) (three : third.length = 4)
    (four : fourth.length = 4) :
    parseHyphenated (first ++ '-' :: (second ++ '-' :: (third ++ '-' :: (fourth ++ '-' :: fifth)))) =
      ofDigits (first ++ (second ++ (third ++ (fourth ++ fifth)))) := by
  have hyphens : ([8, 13, 18, 23].all fun position =>
      (first ++ '-' :: (second ++ '-' :: (third ++ '-' :: (fourth ++ '-' :: fifth))))[position]? =
        some '-') = true := by
    simp [List.getElem?_append, one, two, three, four]
  rw [parseHyphenated, if_pos hyphens]
  simp (disch := omega) [List.drop_append, List.drop_eq_nil_of_le, one, two, three, four]

theorem Uuid.parseStr_toText (id : Uuid) : Uuid.parseStr id.toText = some id := by
  have digits : (Hex.encode id.bytes.toList).length = 32 := by
    rw [Hex.length_encode, Vector.length_toList]
  have groups := @parseHyphenated_groups ((Hex.encode id.bytes.toList).take 8)
    (((Hex.encode id.bytes.toList).drop 8).take 4) (((Hex.encode id.bytes.toList).drop 12).take 4)
    (((Hex.encode id.bytes.toList).drop 16).take 4) ((Hex.encode id.bytes.toList).drop 20)
    (by simp [digits]) (by simp [digits]) (by simp [digits]) (by simp [digits])
  rw [groups_append, ofDigits_encode] at groups
  have length : id.toText.toList.length = 36 := by
    simp [toText, digits]
  have text : id.toText.toList = _ := String.toList_ofList
  rw [parseStr, if_neg (by omega), if_pos length, text, List.append_assoc]
  simpa using groups

end Pinaivu
