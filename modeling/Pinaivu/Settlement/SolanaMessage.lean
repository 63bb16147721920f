import Mathlib.Algebra.Order.Ring.Nat
import Mathlib.Data.List.Dedup
import Mathlib.Data.List.Nodup
import Pinaivu.Lib.Ranked
import Pinaivu.Settlement.SolanaCore

/-!
What a validator reads in the transactions of `buildTransaction`: every account
once, with all its privileges, in the order of the header, and every index at the
account that the instruction names.
-/

namespace Pinaivu.Solana

open ByteReader

def uses (payer : Key) (instructions : List Ix) : List IxAccount :=
  ⟨payer, true, true⟩ ::
    instructions.flatMap fun ix => ⟨ix.programId, false, false⟩ :: ix.accounts

def usedKeys (payer : Key) (instructions : List Ix) : List Key :=
  (uses payer instructions).map IxAccount.pubkey

def Writes (payer : Key) (instructions : List Ix) (key : Key) : Prop :=
  ∃ use ∈ uses payer instructions, use.pubkey = key ∧ use.isWritable = true

def Signs (payer : Key) (instructions : List Ix) (key : Key) : Prop :=
  ∃ use ∈ uses payer instructions, use.pubkey = key ∧ use.isSigner = true

theorem collectAccounts_eq (payer : Key) (instructions : List Ix) :
    collectAccounts payer instructions = (uses payer instructions).foldl ensureAccount [] := by
  rw [uses, List.foldl_cons, List.foldl_flatMap]
  rfl

structure Merges (uses entries : List IxAccount) : Prop where
  distinct : (entries.map IxAccount.pubkey).Nodup
  used : ∀ key, key ∈ entries.map IxAccount.pubkey ↔ key ∈ uses.map IxAccount.pubkey
  writable : ∀ entry ∈ entries, entry.isWritable = true ↔
    ∃ use ∈ uses, use.pubkey = entry.pubkey ∧ use.isWritable = true
  signer : ∀ entry ∈ entries, entry.isSigner = true ↔
    ∃ use ∈ uses, use.pubkey = entry.pubkey ∧ use.isSigner = true

def IxAccount.raise (existing account : IxAccount) : IxAccount :=
  ⟨existing.pubkey, existing.isWritable || account.isWritable,
    existing.isSigner || account.isSigner⟩

theorem keys_ensureAccount (entries : List IxAccount) (account : IxAccount) :
    (ensureAccount entries account).map IxAccount.pubkey =
      if account.pubkey ∈ entries.map IxAccount.pubkey then entries.map IxAccount.pubkey
      else entries.map IxAccount.pubkey ++ [account.pubkey] := by
  induction entries with
  | nil => rfl
  | cons existing rest ih =>
      by_cases same : existing.pubkey = account.pubkey
      · simp [ensureAccount, same]
      · have other : account.pubkey ≠ existing.pubkey := Ne.symm same
        simp only [ensureAccount, same, if_false, List.map_cons, ih, List.mem_cons, other, false_or]
        split
        · rfl
        · rfl

theorem mem_ensureAccount {entries : List IxAccount} {account entry : IxAccount}
    (distinct : (entries.map IxAccount.pubkey).Nodup)
    (member : entry ∈ ensureAccount entries account) :
    (entry ∈ entries ∧ entry.pubkey ≠ account.pubkey) ∨
      (∃ existing ∈ entries, existing.pubkey = account.pubkey ∧ entry = existing.raise account) ∨
      (entry = account ∧ account.pubkey ∉ entries.map IxAccount.pubkey) := by
  induction entries with
  | nil => exact Or.inr (Or.inr ⟨List.mem_singleton.mp member, List.not_mem_nil⟩)
  | cons existing rest ih =>
      obtain ⟨fresh, others⟩ := List.nodup_cons.mp distinct
      by_cases same : existing.pubkey = account.pubkey
      · rw [ensureAccount, if_pos same] at member
        rcases List.mem_cons.mp member with rfl | later
        · exact Or.inr (Or.inl ⟨existing, List.mem_cons_self .., same, rfl⟩)
        · have different : entry.pubkey ≠ account.pubkey := by
            intro equal
            apply fresh
            rw [same, ← equal]
            exact List.mem_map_of_mem later
          exact Or.inl ⟨List.mem_cons_of_mem _ later, different⟩
      · rw [ensureAccount, if_neg same] at member
        rcases List.mem_cons.mp member with rfl | later
        · exact Or.inl ⟨List.mem_cons_self .., same⟩
        · rcases ih others later with ⟨old, different⟩ | ⟨old, inside, key, raised⟩ | ⟨new, absent⟩
          · exact Or.inl ⟨List.mem_cons_of_mem _ old, different⟩
          · exact Or.inr (Or.inl ⟨old, List.mem_cons_of_mem _ inside, key, raised⟩)
          · refine Or.inr (Or.inr ⟨new, ?_⟩)
            rw [List.map_cons, List.mem_cons, not_or]
            exact ⟨Ne.symm same, absent⟩

theorem privilege_ensureAccount {uses entries : List IxAccount} {account entry : IxAccount}
    {privilege : IxAccount → Bool}
    (raised : ∀ existing account : IxAccount,
      privilege (existing.raise account) = (privilege existing || privilege account))
    (distinct : (entries.map IxAccount.pubkey).Nodup)
    (used : ∀ key, key ∈ entries.map IxAccount.pubkey ↔ key ∈ uses.map IxAccount.pubkey)
    (granted : ∀ entry ∈ entries, privilege entry = true ↔
      ∃ use ∈ uses, use.pubkey = entry.pubkey ∧ privilege use = true)
    (member : entry ∈ ensureAccount entries account) :
    privilege entry = true ↔
      ∃ use ∈ uses ++ [account], use.pubkey = entry.pubkey ∧ privilege use = true := by
  have extended : (∃ use ∈ uses ++ [account], use.pubkey = entry.pubkey ∧ privilege use = true) ↔
      (∃ use ∈ uses, use.pubkey = entry.pubkey ∧ privilege use = true) ∨
        (account.pubkey = entry.pubkey ∧ privilege account = true) := by
    simp [or_and_right, exists_or]
  rw [extended]
  rcases mem_ensureAccount distinct member with ⟨old, different⟩ | ⟨old, inside, key, rfl⟩ |
    ⟨rfl, absent⟩
  · rw [granted entry old, or_iff_left]
    exact fun both => different both.1.symm
  · have key' : account.pubkey = (old.raise account).pubkey := key.symm
    rw [raised, Bool.or_eq_true, granted old inside, ← key']
    simp [key]
  · have unused : ¬∃ use ∈ uses, use.pubkey = entry.pubkey ∧ privilege use = true := by
      rintro ⟨use, inside, key, -⟩
      rw [used] at absent
      exact absent (key ▸ List.mem_map_of_mem inside)
    rw [or_iff_right unused, and_iff_right rfl]

theorem Merges.ensureAccount {uses entries : List IxAccount} (merges : Merges uses entries)
    (account : IxAccount) : Merges (uses ++ [account]) (ensureAccount entries account) where
  distinct := by
    rw [keys_ensureAccount]
    split
    · exact merges.distinct
    · rename_i absent
      exact merges.distinct.append (List.nodup_singleton _)
        (List.disjoint_singleton.mpr absent)
  used := by
    intro key
    rw [keys_ensureAccount, List.map_append, List.mem_append, ← merges.used]
    split
    · rename_i present
      refine ⟨Or.inl, ?_⟩
      rintro (old | new)
      · exact old
      · rw [List.mem_singleton.mp new]
        exact present
    · rw [List.mem_append]
      rfl
  writable := fun _ member => privilege_ensureAccount (fun _ _ => rfl) merges.distinct merges.used
    merges.writable member
  signer := fun _ member => privilege_ensureAccount (fun _ _ => rfl) merges.distinct merges.used
    merges.signer member

theorem Merges.foldl (rest : List IxAccount) {uses entries : List IxAccount}
    (merges : Merges uses entries) : Merges (uses ++ rest) (rest.foldl Solana.ensureAccount entries) := by
  induction rest generalizing uses entries with
  | nil => rwa [List.append_nil]
  | cons account rest ih =>
      have later := ih (merges.ensureAccount account)
      rwa [List.append_assoc, List.singleton_append] at later

theorem merges_collectAccounts (payer : Key) (instructions : List Ix) :
    Merges (uses payer instructions) (collectAccounts payer instructions) := by
  have none : Merges [] [] := ⟨List.nodup_nil, fun _ => Iff.rfl, by simp, by simp⟩
  rw [collectAccounts_eq]
  exact none.foldl (uses payer instructions)

theorem Merges.perm {uses entries sorted : List IxAccount} (merges : Merges uses entries)
    (order : sorted.Perm entries) : Merges uses sorted where
  distinct := (order.map _).nodup_iff.mpr merges.distinct
  used := fun key => (order.map _).mem_iff.trans (merges.used key)
  writable := fun entry member => merges.writable entry (order.mem_iff.mp member)
  signer := fun entry member => merges.signer entry (order.mem_iff.mp member)

/-- Writable signers, readonly signers, writable non-signers, readonly non-signers. -/
def rank (account : IxAccount) : Nat :=
  2 * (!account.isSigner).toNat + (!account.isWritable).toNat

theorem keyLe_sortKey (first second : IxAccount) :
    keyLe (sortKey first) (sortKey second) = decide (rank first ≤ rank second) := by
  rcases first with ⟨_, firstWritable, firstSigner⟩
  rcases second with ⟨_, secondWritable, secondSigner⟩
  cases firstWritable <;> cases firstSigner <;> cases secondWritable <;> cases secondSigner <;> rfl

theorem sorted_sortAccounts (map : List IxAccount) :
    (sortAccounts map).Pairwise (rank · ≤ rank ·) := by
  have transitive : ∀ first second third : IxAccount, decide (rank first ≤ rank second) = true →
      decide (rank second ≤ rank third) = true → decide (rank first ≤ rank third) = true := by
    intro first second third
    simp only [decide_eq_true_eq]
    omega
  have total : ∀ first second : IxAccount,
      (decide (rank first ≤ rank second) || decide (rank second ≤ rank first)) = true := by
    intro first second
    simp only [Bool.or_eq_true, decide_eq_true_eq]
    omega
  have ordered := List.pairwise_mergeSort transitive total map
  simp only [decide_eq_true_eq] at ordered
  simpa only [sortAccounts, keyLe_sortKey] using ordered

structure Listed (payer : Key) (instructions : List Ix) (entries : List IxAccount) : Prop where
  merges : Merges (uses payer instructions) entries
  sorted : entries.Pairwise (rank · ≤ rank ·)

theorem listed_sortAccounts (payer : Key) (instructions : List Ix) :
    Listed payer instructions (sortAccounts (collectAccounts payer instructions)) where
  merges := (merges_collectAccounts payer instructions).perm (List.mergeSort_perm _ _)
  sorted := sorted_sortAccounts _

def OnlySigner (payer : Key) (instructions : List Ix) : Prop :=
  ∀ ix ∈ instructions, ∀ account ∈ ix.accounts, account.isSigner = true → account.pubkey = payer

instance (payer : Key) (instructions : List Ix) : Decidable (OnlySigner payer instructions) :=
  inferInstanceAs (Decidable (∀ ix ∈ instructions, ∀ account ∈ ix.accounts, _ → _))

theorem signs_iff {payer : Key} {instructions : List Ix} (only : OnlySigner payer instructions)
    (key : Key) : Signs payer instructions key ↔ key = payer := by
  constructor
  · rintro ⟨use, member, rfl, signer⟩
    rcases List.mem_cons.mp member with rfl | later
    · rfl
    · obtain ⟨ix, inside, account⟩ := List.mem_flatMap.mp later
      rcases List.mem_cons.mp account with rfl | listed
      · cases signer
      · exact only ix inside use listed signer
  · rintro rfl
    exact ⟨⟨key, true, true⟩, List.mem_cons_self .., rfl, rfl⟩

theorem rank_lt_four (account : IxAccount) : rank account < 4 := by
  have signer := Bool.toNat_le (!account.isSigner)
  have writable := Bool.toNat_le (!account.isWritable)
  unfold rank
  omega

theorem rank_lt_two (account : IxAccount) : rank account < 2 ↔ account.isSigner = true := by
  rcases account with ⟨_, writable, signer⟩
  cases writable <;> cases signer <;> simp [rank]

theorem rank_even (account : IxAccount) : rank account % 2 = 0 ↔ account.isWritable = true := by
  rcases account with ⟨_, writable, signer⟩
  cases writable <;> cases signer <;> simp [rank]

section

variable {payer : Key} {instructions : List Ix} {entries : List IxAccount}

theorem Listed.signers (listed : Listed payer instructions entries)
    (only : OnlySigner payer instructions) : (Ranked.below rank 2 entries).length = 1 := by
  have keys : ∀ key ∈ (Ranked.below rank 2 entries).map IxAccount.pubkey, key = payer := by
    intro key member
    obtain ⟨entry, inside, rfl⟩ := List.mem_map.mp member
    obtain ⟨present, low⟩ := List.mem_filter.mp inside
    rw [decide_eq_true_eq, rank_lt_two, listed.merges.signer entry present] at low
    exact (signs_iff only entry.pubkey).mp low
  have distinct : ((Ranked.below rank 2 entries).map IxAccount.pubkey).Nodup :=
    listed.merges.distinct.sublist (List.filter_sublist.map _)
  rw [List.eq_replicate_of_mem keys, List.nodup_replicate, List.length_map] at distinct
  have present : payer ∈ entries.map IxAccount.pubkey :=
    (listed.merges.used payer).mpr (List.mem_cons_self ..)
  obtain ⟨entry, inside, key⟩ := List.mem_map.mp present
  have signs : entry.isSigner = true := by
    rw [listed.merges.signer entry inside]
    exact (signs_iff only entry.pubkey).mpr key
  have member : entry ∈ Ranked.below rank 2 entries :=
    List.mem_filter.mpr ⟨inside, decide_eq_true ((rank_lt_two entry).mpr signs)⟩
  have positive := List.length_pos_of_mem member
  omega

structure Fits (payer : Key) (instructions : List Ix) : Prop where
  keyCount : (usedKeys payer instructions).dedup.length ≤ 256
  instructionCount : instructions.length ≤ 65535
  accountCounts : ∀ ix ∈ instructions, ix.accounts.length ≤ 65535
  dataLengths : ∀ ix ∈ instructions, ix.data.length ≤ 65535

theorem Listed.length_le (listed : Listed payer instructions entries)
    (fits : Fits payer instructions) : entries.length ≤ 256 := by
  have same : (entries.map IxAccount.pubkey).Perm (usedKeys payer instructions).dedup := by
    rw [List.perm_ext_iff_of_nodup listed.merges.distinct (List.nodup_dedup _)]
    intro key
    rw [List.mem_dedup, listed.merges.used]
    rfl
  have length := same.length_eq
  rw [List.length_map] at length
  rw [length]
  exact fits.keyCount

theorem Listed.below_two (listed : Listed payer instructions entries) :
    (Ranked.below rank 2 entries).length =
      (Ranked.below rank 1 entries).length + (Ranked.group rank 1 entries).length := by
  rw [Ranked.below_succ listed.sorted 1, List.length_append]

theorem below_four (entries : List IxAccount) : Ranked.below rank 4 entries = entries := by
  apply List.filter_eq_self.mpr
  intro account _
  exact decide_eq_true (rank_lt_four account)

theorem Listed.length_eq (listed : Listed payer instructions entries) :
    entries.length =
      (Ranked.below rank 3 entries).length + (Ranked.group rank 3 entries).length := by
  rw [← List.length_append, ← Ranked.below_succ listed.sorted 3, below_four]

theorem countP_eq_length {counted : IxAccount → Bool} {part : IxAccount → Prop} [DecidablePred part]
    (same : ∀ account, counted account = true ↔ part account) (entries : List IxAccount) :
    entries.countP counted = (entries.filter fun account => part account).length := by
  rw [List.countP_eq_length_filter]
  congr 1
  apply List.filter_congr
  intro account _
  rw [Bool.eq_iff_iff, same, decide_eq_true_eq]

theorem countP_signer (entries : List IxAccount) :
    (entries.countP fun account => account.isSigner) = (Ranked.below rank 2 entries).length :=
  countP_eq_length (fun account => (rank_lt_two account).symm) entries

theorem countP_readonlySigned (entries : List IxAccount) :
    (entries.countP fun account => account.isSigner && !account.isWritable) =
      (Ranked.group rank 1 entries).length := by
  apply countP_eq_length
  intro account
  simp only [Bool.and_eq_true, Bool.not_eq_true', ← Bool.not_eq_true, ← rank_lt_two, ← rank_even]
  omega

theorem countP_readonlyUnsigned (entries : List IxAccount) :
    (entries.countP fun account => !account.isSigner && !account.isWritable) =
      (Ranked.group rank 3 entries).length := by
  apply countP_eq_length
  intro account
  have bound := rank_lt_four account
  simp only [Bool.and_eq_true, Bool.not_eq_true', ← Bool.not_eq_true, ← rank_lt_two, ← rank_even]
  omega

/-- The counts in the header are exact: none of them is cut to eight bits. -/
structure HeaderCounts (header : Header) (entries : List IxAccount) : Prop where
  signers : header.numRequiredSignatures.toNat = (Ranked.below rank 2 entries).length
  readonlySigned : header.numReadonlySigned.toNat = (Ranked.group rank 1 entries).length
  readonlyUnsigned : header.numReadonlyUnsigned.toNat = (Ranked.group rank 3 entries).length

theorem Listed.headerCounts (listed : Listed payer instructions entries)
    (only : OnlySigner payer instructions) (fits : Fits payer instructions) :
    HeaderCounts (header entries) entries := by
  have one := listed.signers only
  have bound := listed.length_le fits
  have two := listed.below_two
  have three := listed.length_eq
  have more : (Ranked.below rank 3 entries).length =
      (Ranked.below rank 2 entries).length + (Ranked.group rank 2 entries).length := by
    rw [Ranked.below_succ listed.sorted 2, List.length_append]
  constructor
  · rw [header, countP_signer, UInt8.toNat_ofNat', Nat.mod_eq_of_lt (by omega)]
  · rw [header, countP_readonlySigned, UInt8.toNat_ofNat', Nat.mod_eq_of_lt (by omega)]
  · rw [header, countP_readonlyUnsigned, UInt8.toNat_ofNat', Nat.mod_eq_of_lt (by omega)]

end

theorem toNat_u16 {count : Nat} (small : count ≤ 65535) : (UInt16.ofNat count).toNat = count := by
  rw [UInt16.toNat_ofNat', Nat.mod_eq_of_lt (by omega)]

theorem toNat_continued (n : UInt16) :
    ((n &&& 0x7f) ||| 0x80).toUInt8.toNat = n.toNat % 0x80 + 0x80 := by
  have marked : ∀ bits < 0x80, bits ||| 0x80 = bits + 0x80 := by decide
  have masked : n.toNat &&& 0x7f = n.toNat % 0x80 := Nat.and_two_pow_sub_one_eq_mod n.toNat 7
  have bits := Nat.mod_lt n.toNat (show 0 < 0x80 by decide)
  rw [UInt16.toNat_toUInt8, UInt16.toNat_or, UInt16.toNat_and]
  simp only [UInt16.reduceToNat]
  rw [masked, marked _ bits]
  omega

theorem toNat_shiftRight (n count : UInt16) (small : count.toNat < 16) :
    (n >>> count).toNat = n.toNat / 2 ^ count.toNat := by
  rw [UInt16.toNat_shiftRight, Nat.mod_eq_of_lt small]
  exact Nat.shiftRight_eq_div_pow n.toNat count.toNat

theorem ne_zero_of_toNat {value : UInt8} (positive : 0 < value.toNat) : value ≠ 0 := by
  rintro rfl
  exact absurd positive (by decide)

theorem reads_compactU16 {count : Nat} (small : count ≤ 65535) :
    Reads readLength (compactU16 count) count := by
  have number := toNat_u16 small
  have seven := toNat_shiftRight (UInt16.ofNat count) 7 (by decide)
  have fourteen := toNat_shiftRight (UInt16.ofNat count) 14 (by decide)
  rw [number] at seven fourteen
  change (UInt16.ofNat count >>> 7).toNat = count / 0x80 at seven
  change (UInt16.ofNat count >>> 14).toNat = count / 0x4000 at fourteen
  have ofNat_lt (bound : UInt16) : UInt16.ofNat count < bound ↔ count < bound.toNat := by
    rw [UInt16.lt_iff_toNat_lt, number]
  intro rest
  unfold compactU16
  by_cases short : count < 0x80
  · have below : UInt16.ofNat count < 0x80 := (ofNat_lt 0x80).mpr short
    have byte : (UInt16.ofNat count).toUInt8.toNat = count := by
      rw [UInt16.toNat_toUInt8, number]
      omega
    simp only [below, if_true, List.cons_append, List.nil_append, readLength, byte, short]
  · have above : ¬UInt16.ofNat count < 0x80 := mt (ofNat_lt 0x80).mp short
    have first := toNat_continued (UInt16.ofNat count)
    rw [number] at first
    have continued : ¬count % 0x80 + 0x80 < 0x80 := by omega
    by_cases medium : count < 0x4000
    · have below : UInt16.ofNat count < 0x4000 := (ofNat_lt 0x4000).mpr medium
      have second : (UInt16.ofNat count >>> 7).toUInt8.toNat = count / 0x80 := by
        rw [UInt16.toNat_toUInt8, seven]
        omega
      have last : count / 0x80 < 0x80 := by omega
      have nonzero : (UInt16.ofNat count >>> 7).toUInt8 ≠ 0 := ne_zero_of_toNat (by omega)
      have value : count % 0x80 + 0x80 - 0x80 + 0x80 * (count / 0x80) = count := by omega
      simp only [above, below, if_false, if_true, List.cons_append, List.nil_append, readLength,
        first, second, continued, last, nonzero, value]
    · have beyond : ¬UInt16.ofNat count < 0x4000 := mt (ofNat_lt 0x4000).mp medium
      have second := toNat_continued (UInt16.ofNat count >>> 7)
      rw [seven] at second
      have third : (UInt16.ofNat count >>> 14).toUInt8.toNat = count / 0x4000 := by
        rw [UInt16.toNat_toUInt8, fourteen]
        omega
      have further : ¬count / 0x80 % 0x80 + 0x80 < 0x80 := by omega
      have nonzero : (UInt16.ofNat count >>> 14).toUInt8 ≠ 0 := ne_zero_of_toNat (by omega)
      have last : ¬3 < count / 0x4000 := by omega
      have value : count % 0x80 + 0x80 - 0x80 + 0x80 * (count / 0x80 % 0x80 + 0x80 - 0x80) +
          0x4000 * (count / 0x4000) = count := by omega
      simp only [above, beyond, if_false, List.cons_append, List.nil_append, readLength, first,
        second, third, continued, further, nonzero, last, or_self, value]

theorem reads_array {Value : Type} {reader : Reader Value} {encode : Value → List UInt8}
    {values : List Value} (small : values.length ≤ 65535)
    (each : ∀ value ∈ values, Reads reader (encode value) value) :
    Reads (readArray reader) (compactU16 values.length ++ values.flatMap encode) values :=
  (reads_compactU16 small).bind (Reads.times values each)

theorem reads_bytes_array {values : List UInt8} (small : values.length ≤ 65535) :
    Reads (readArray byte) (compactU16 values.length ++ values) values := by
  have reads := reads_array small fun value _ => reads_byte value
  rwa [List.flatMap_singleton'] at reads

theorem reads_data {data : List UInt8} (small : data.length ≤ 65535) :
    Reads readData (compactU16 data.length ++ data) data :=
  (reads_compactU16 small).bind (reads_bytes data)

def encodeCompiled (compiled : CompiledInstruction) : List UInt8 :=
  [compiled.programIndex] ++ compactU16 compiled.accounts.length ++ compiled.accounts ++
    compactU16 compiled.data.length ++ compiled.data

theorem reads_instruction {compiled : CompiledInstruction}
    (accounts : compiled.accounts.length ≤ 65535) (data : compiled.data.length ≤ 65535) :
    Reads readInstruction (encodeCompiled compiled) compiled := by
  have text : encodeCompiled compiled = [compiled.programIndex] ++
      ((compactU16 compiled.accounts.length ++ compiled.accounts) ++
        (compactU16 compiled.data.length ++ compiled.data)) := by
    simp [encodeCompiled]
  rw [text]
  exact (reads_byte compiled.programIndex).bind ((reads_bytes_array accounts).bind
    ((reads_data data).map _))

theorem reads_header (header : Header) :
    Reads readHeader
      [header.numRequiredSignatures, header.numReadonlySigned, header.numReadonlyUnsigned] header :=
  (reads_byte header.numRequiredSignatures).bind
    ((reads_byte header.numReadonlySigned).bind ((reads_byte header.numReadonlyUnsigned).map
      fun readonlyUnsigned =>
        (⟨header.numRequiredSignatures, header.numReadonlySigned, readonlyUnsigned⟩ : Header)))

def encodeWhole (message : Message) : List UInt8 :=
  [message.header.numRequiredSignatures, message.header.numReadonlySigned,
      message.header.numReadonlyUnsigned] ++
    compactU16 message.keys.length ++ message.keys.flatMap Vector.toList ++
    message.recentBlockhash.toList ++ compactU16 message.instructions.length ++
    message.instructions.flatMap encodeCompiled

theorem reads_message {message : Message} (keys : message.keys.length ≤ 65535)
    (instructions : message.instructions.length ≤ 65535)
    (each : ∀ compiled ∈ message.instructions,
      compiled.accounts.length ≤ 65535 ∧ compiled.data.length ≤ 65535) :
    Reads readMessage (encodeWhole message) message := by
  have keysRead := reads_array keys fun (key : Key) _ => reads_block key
  have instructionsRead := reads_array instructions fun compiled member =>
    reads_instruction (each compiled member).1 (each compiled member).2
  have text : encodeWhole message =
      [message.header.numRequiredSignatures, message.header.numReadonlySigned,
          message.header.numReadonlyUnsigned] ++
        ((compactU16 message.keys.length ++ message.keys.flatMap Vector.toList) ++
          (message.recentBlockhash.toList ++ (compactU16 message.instructions.length ++
            message.instructions.flatMap encodeCompiled))) := by
    simp [encodeWhole]
  rw [text]
  exact (reads_header message.header).bind (keysRead.bind
    ((reads_block message.recentBlockhash).bind (instructionsRead.map _)))

def keyIndex (entries : List IxAccount) (key : Key) : Nat :=
  entries.findIdx fun account => account.pubkey == key

def compile (entries : List IxAccount) (ix : Ix) : CompiledInstruction where
  programIndex := UInt8.ofNat (keyIndex entries ix.programId)
  accounts := ix.accounts.map fun account => UInt8.ofNat (keyIndex entries account.pubkey)
  data := ix.data

theorem mapM_some {First Second : Type} {values : List First} {find : First → Option Second}
    {result : First → Second} (found : ∀ value ∈ values, find value = some (result value)) :
    values.mapM find = some (values.map result) := by
  induction values with
  | nil => rfl
  | cons first rest ih =>
      have head := found first (List.mem_cons_self ..)
      have tail := ih fun value member => found value (List.mem_cons_of_mem _ member)
      rw [List.mapM_cons, head, tail]
      rfl

theorem keyIndex_getElem? {entries : List IxAccount} {key : Key}
    (present : key ∈ entries.map IxAccount.pubkey) :
    keyIndex entries key < entries.length ∧
      (entries.map IxAccount.pubkey)[keyIndex entries key]? = some key := by
  obtain ⟨account, member, same⟩ := List.mem_map.mp present
  have inside : keyIndex entries key < entries.length :=
    List.findIdx_lt_length_of_exists ⟨account, member, by simpa using same⟩
  have found : entries[keyIndex entries key].pubkey = key := by
    exact beq_iff_eq.mp (@List.findIdx_getElem IxAccount _ entries inside)
  refine ⟨inside, ?_⟩
  rw [List.getElem?_map, List.getElem?_eq_getElem inside, Option.map_some, found]

theorem idxOf_eq {entries : List IxAccount} {key : Key}
    (present : key ∈ entries.map IxAccount.pubkey) :
    idxOf entries key = some (UInt8.ofNat (keyIndex entries key)) := by
  obtain ⟨inside, -⟩ := keyIndex_getElem? present
  rw [idxOf, List.findIdx?_eq_some_iff_findIdx_eq.mpr ⟨inside, rfl⟩, Option.map_some]

def messageOf (entries : List IxAccount) (instructions : List Ix)
    (recentBlockhash : Vector UInt8 32) : Message where
  header := header entries
  keys := entries.map IxAccount.pubkey
  recentBlockhash := recentBlockhash
  instructions := instructions.map (compile entries)

theorem encodeInstruction_eq {entries : List IxAccount} {ix : Ix}
    (program : ix.programId ∈ entries.map IxAccount.pubkey)
    (accounts : ∀ account ∈ ix.accounts, account.pubkey ∈ entries.map IxAccount.pubkey) :
    encodeInstruction entries ix = some (encodeCompiled (compile entries ix)) := by
  have indexes := mapM_some fun account member => idxOf_eq (accounts account member)
  rw [encodeInstruction, idxOf_eq program, indexes]
  simp [encodeCompiled, compile]

section

variable {payer : Key} {instructions : List Ix} {entries : List IxAccount}

theorem Listed.program_mem (listed : Listed payer instructions entries) {ix : Ix}
    (member : ix ∈ instructions) : ix.programId ∈ entries.map IxAccount.pubkey := by
  rw [listed.merges.used, uses, List.map_cons, List.mem_cons, List.map_flatMap]
  exact Or.inr (List.mem_flatMap.mpr ⟨ix, member, List.mem_cons_self ..⟩)

theorem Listed.account_mem (listed : Listed payer instructions entries) {ix : Ix}
    (member : ix ∈ instructions) {account : IxAccount} (inside : account ∈ ix.accounts) :
    account.pubkey ∈ entries.map IxAccount.pubkey := by
  rw [listed.merges.used, uses, List.map_cons, List.mem_cons, List.map_flatMap]
  refine Or.inr (List.mem_flatMap.mpr ⟨ix, member, ?_⟩)
  exact List.mem_cons_of_mem _ (List.mem_map_of_mem inside)

theorem Listed.encodeMessage_eq (listed : Listed payer instructions entries)
    (recentBlockhash : Vector UInt8 32) :
    encodeMessage entries instructions recentBlockhash =
      some (encodeWhole (messageOf entries instructions recentBlockhash)) := by
  have compiled := mapM_some fun ix member => encodeInstruction_eq (listed.program_mem member)
    fun _ inside => listed.account_mem member inside
  rw [encodeMessage, compiled]
  simp [encodeWhole, messageOf, List.flatMap_def, Function.comp_def]

theorem Listed.reads_message (listed : Listed payer instructions entries)
    (fits : Fits payer instructions) (recentBlockhash : Vector UInt8 32) :
    Reads readMessage (encodeWhole (messageOf entries instructions recentBlockhash))
      (messageOf entries instructions recentBlockhash) := by
  have bound := listed.length_le fits
  apply Solana.reads_message
  · rw [messageOf, List.length_map]
    omega
  · rw [messageOf, List.length_map]
    exact fits.instructionCount
  · intro compiled member
    obtain ⟨ix, inside, rfl⟩ := List.mem_map.mp member
    rw [compile, List.length_map]
    exact ⟨fits.accountCounts ix inside, fits.dataLengths ix inside⟩

structure Points (keys : List Key) (compiled : CompiledInstruction) (ix : Ix) : Prop where
  program : keys[compiled.programIndex.toNat]? = some ix.programId
  accounts : compiled.accounts.map (fun index => keys[index.toNat]?) =
    ix.accounts.map fun account => some account.pubkey
  data : compiled.data = ix.data

theorem Listed.points (listed : Listed payer instructions entries)
    (fits : Fits payer instructions) {ix : Ix} (member : ix ∈ instructions) :
    Points (entries.map IxAccount.pubkey) (compile entries ix) ix := by
  have bound := listed.length_le fits
  have index : ∀ key ∈ entries.map IxAccount.pubkey,
      (entries.map IxAccount.pubkey)[(UInt8.ofNat (keyIndex entries key)).toNat]? = some key := by
    intro key present
    obtain ⟨inside, found⟩ := keyIndex_getElem? present
    rw [UInt8.toNat_ofNat', Nat.mod_eq_of_lt (by omega), found]
  refine ⟨index _ (listed.program_mem member), ?_, rfl⟩
  rw [compile, List.map_map]
  apply List.map_congr_left
  intro account inside
  exact index _ (listed.account_mem member inside)

structure Carries (payer : Key) (instructions : List Ix) (transaction : Transaction) : Prop where
  distinct : transaction.message.keys.Nodup
  used : ∀ key, key ∈ transaction.message.keys ↔ key ∈ usedKeys payer instructions
  signer : ∀ index key, transaction.message.keys[index]? = some key →
    (transaction.message.IsSigner index ↔ Signs payer instructions key)
  writable : ∀ index key, transaction.message.keys[index]? = some key →
    (transaction.message.IsWritable index ↔ Writes payer instructions key)
  payerFirst : transaction.message.keys[0]? = some payer
  groups : ∃ writableSigners readonlySigners writableOthers readonlyOthers : List Key,
    transaction.message.keys =
        writableSigners ++ readonlySigners ++ writableOthers ++ readonlyOthers ∧
      (∀ key ∈ writableSigners, Signs payer instructions key ∧ Writes payer instructions key) ∧
      (∀ key ∈ readonlySigners, Signs payer instructions key ∧ ¬Writes payer instructions key) ∧
      (∀ key ∈ writableOthers, ¬Signs payer instructions key ∧ Writes payer instructions key) ∧
      (∀ key ∈ readonlyOthers, ¬Signs payer instructions key ∧ ¬Writes payer instructions key) ∧
      transaction.message.header.numRequiredSignatures.toNat =
        writableSigners.length + readonlySigners.length ∧
      transaction.message.header.numReadonlySigned.toNat = readonlySigners.length ∧
      transaction.message.header.numReadonlyUnsigned.toNat = readonlyOthers.length
  instructions : List.Forall₂ (Points transaction.message.keys) transaction.message.instructions
    instructions
  signatures : transaction.signatures.length =
    transaction.message.header.numRequiredSignatures.toNat

theorem Listed.signer_iff (listed : Listed payer instructions entries) {index : Nat} {key : Key}
    (found : (entries.map IxAccount.pubkey)[index]? = some key) :
    index < (Ranked.below rank 2 entries).length ↔ Signs payer instructions key := by
  rw [List.getElem?_map, Option.map_eq_some_iff] at found
  obtain ⟨entry, present, rfl⟩ := found
  rw [← Ranked.rank_lt_iff listed.sorted 2 present, rank_lt_two,
    listed.merges.signer entry (List.mem_of_getElem? present)]
  rfl

theorem writable_iff_rank (account : IxAccount) :
    account.isWritable = true ↔ rank account < 1 ∨ ¬rank account < 2 ∧ rank account < 3 := by
  have bound := rank_lt_four account
  rw [← rank_even]
  omega

theorem Listed.writable_iff (listed : Listed payer instructions entries) {index : Nat} {key : Key}
    (found : (entries.map IxAccount.pubkey)[index]? = some key) :
    (index < (Ranked.below rank 1 entries).length ∨
      ¬index < (Ranked.below rank 2 entries).length ∧
        index < (Ranked.below rank 3 entries).length) ↔ Writes payer instructions key := by
  rw [List.getElem?_map, Option.map_eq_some_iff] at found
  obtain ⟨entry, present, rfl⟩ := found
  rw [← Ranked.rank_lt_iff listed.sorted 1 present, ← Ranked.rank_lt_iff listed.sorted 2 present,
    ← Ranked.rank_lt_iff listed.sorted 3 present, ← writable_iff_rank,
    listed.merges.writable entry (List.mem_of_getElem? present)]
  rfl

theorem Listed.group_privileges (listed : Listed payer instructions entries) (level : Nat) {key : Key}
    (member : key ∈ (Ranked.group rank level entries).map IxAccount.pubkey) :
    (Signs payer instructions key ↔ level < 2) ∧
      (Writes payer instructions key ↔ level % 2 = 0) := by
  obtain ⟨entry, inside, rfl⟩ := List.mem_map.mp member
  obtain ⟨present, equal⟩ := List.mem_filter.mp inside
  have signs := rank_lt_two entry
  have writes := rank_even entry
  rw [of_decide_eq_true equal] at signs writes
  exact ⟨(signs.trans (listed.merges.signer entry present)).symm,
    (writes.trans (listed.merges.writable entry present)).symm⟩

theorem Listed.below_one (listed : Listed payer instructions entries) :
    Ranked.below rank 1 entries = Ranked.group rank 0 entries := by
  have none : Ranked.below rank 0 entries = [] := by simp [Ranked.below]
  rw [Ranked.below_succ listed.sorted 0, none, List.nil_append]

theorem Listed.split (listed : Listed payer instructions entries) :
    entries = Ranked.group rank 0 entries ++ Ranked.group rank 1 entries ++
      Ranked.group rank 2 entries ++ Ranked.group rank 3 entries := by
  rw [← listed.below_one, ← Ranked.below_succ listed.sorted 1, ← Ranked.below_succ listed.sorted 2,
    ← Ranked.below_succ listed.sorted 3, below_four]

theorem Listed.payer_first (listed : Listed payer instructions entries) (only : OnlySigner payer instructions) :
    (entries.map IxAccount.pubkey)[0]? = some payer := by
  have one := listed.signers only
  have shorter := List.length_filter_le (fun account => rank account < 2) entries
  have first : 0 < (Ranked.below rank 2 entries).length := by omega
  have inside : 0 < (entries.map IxAccount.pubkey).length := by
    rw [Ranked.below] at one
    rw [List.length_map]
    omega
  have found := List.getElem?_eq_getElem inside
  have signs := (listed.signer_iff found).mp first
  rw [(signs_iff only _).mp signs] at found
  exact found

theorem Listed.carries (listed : Listed payer instructions entries)
    (only : OnlySigner payer instructions) (fits : Fits payer instructions)
    (recentBlockhash : Vector UInt8 32) (signature : Vector UInt8 64) :
    Carries payer instructions ⟨[signature], messageOf entries instructions recentBlockhash⟩ := by
  obtain ⟨signers, readonlySigned, readonlyUnsigned⟩ := listed.headerCounts only fits
  have one := listed.signers only
  have two := listed.below_two
  have all := listed.length_eq
  have first := congrArg List.length listed.below_one
  constructor
  case distinct => exact listed.merges.distinct
  case used => exact listed.merges.used
  case signer =>
    intro index key found
    rw [← listed.signer_iff found]
    simp only [Message.IsSigner, messageOf, signers]
  case writable =>
    intro index key found
    rw [← listed.writable_iff found]
    simp only [Message.IsWritable, messageOf, signers, readonlySigned, readonlyUnsigned,
      List.length_map]
    omega
  case payerFirst => exact listed.payer_first only
  case groups =>
    refine ⟨(Ranked.group rank 0 entries).map IxAccount.pubkey,
      (Ranked.group rank 1 entries).map IxAccount.pubkey,
      (Ranked.group rank 2 entries).map IxAccount.pubkey,
      (Ranked.group rank 3 entries).map IxAccount.pubkey, ?_, ?_, ?_, ?_, ?_, ?_, ?_, ?_⟩
    · have keys := congrArg (List.map IxAccount.pubkey) listed.split
      rw [List.map_append, List.map_append, List.map_append] at keys
      exact keys
    · intro key member
      simpa using listed.group_privileges 0 member
    · intro key member
      simpa using listed.group_privileges 1 member
    · intro key member
      simpa using listed.group_privileges 2 member
    · intro key member
      simpa using listed.group_privileges 3 member
    · simp only [messageOf, signers, List.length_map]
      omega
    · simp only [messageOf, readonlySigned, List.length_map]
    · simp only [messageOf, readonlyUnsigned, List.length_map]
  case instructions =>
    rw [messageOf, List.forall₂_map_left_iff, List.forall₂_same]
    exact fun ix member => listed.points fits member
  case signatures =>
    simp only [messageOf, signers, one, List.length_singleton]

end

/-- Decoding what `buildTransaction` builds gives every used key once with the union
of its privileges, in the order that the header counts, the payer first, and every
index points at the account it was made from. -/
theorem buildTransaction_decodes (instructions : List Ix) (payer : Key)
    (sign : List UInt8 → Vector UInt8 64) (recentBlockhash : Vector UInt8 32)
    (only : OnlySigner payer instructions) (fits : Fits payer instructions) :
    ∃ raw transaction, buildTransaction instructions payer sign recentBlockhash = some raw ∧
      readAll readTransaction raw = some transaction ∧
      transaction.message.recentBlockhash = recentBlockhash ∧
      Carries payer instructions transaction := by
  have listed := listed_sortAccounts payer instructions
  let message := messageOf (sortAccounts (collectAccounts payer instructions)) instructions
    recentBlockhash
  let signature := sign (encodeWhole message)
  have built : buildTransaction instructions payer sign recentBlockhash =
      some (compactU16 1 ++ signature.toList ++ encodeWhole message) := by
    rw [buildTransaction, listed.encodeMessage_eq recentBlockhash]
    rfl
  have signatures := reads_array (show [signature].length ≤ 65535 by simp)
    fun (value : Vector UInt8 64) _ => reads_block value
  have reads : Reads readTransaction (compactU16 1 ++ signature.toList ++ encodeWhole message)
      ⟨[signature], message⟩ := by
    have whole : Reads readTransaction
        (compactU16 1 ++ [signature].flatMap Vector.toList ++ encodeWhole message)
        ⟨[signature], message⟩ :=
      signatures.bind ((listed.reads_message fits recentBlockhash).map _)
    simpa using whole
  exact ⟨_, _, built, readAll_eq reads, rfl,
    listed.carries only fits recentBlockhash signature⟩

def testKey (byte : UInt8) : Key := Vector.replicate 32 byte

def sharedInstructions : List Ix :=
  [⟨testKey 9, [⟨testKey 5, true, false⟩, ⟨testKey 6, false, false⟩, ⟨testKey 42, true, true⟩,
      ⟨testKey 0, false, false⟩], [1, 2, 3]⟩,
    ⟨testKey 9, [⟨testKey 6, true, false⟩, ⟨testKey 42, false, true⟩], []⟩]

theorem buildTransaction_decodes_shared :
    ∃ raw transaction, buildTransaction sharedInstructions (testKey 42)
        (fun _ => Vector.replicate 64 7) (testKey 1) = some raw ∧
      readAll readTransaction raw = some transaction ∧
      transaction.message.recentBlockhash = testKey 1 ∧
      Carries (testKey 42) sharedInstructions transaction :=
  buildTransaction_decodes sharedInstructions (testKey 42) (fun _ => Vector.replicate 64 7)
    (testKey 1) (by decide) ⟨by decide, by decide, by decide, by decide⟩

end Pinaivu.Solana
