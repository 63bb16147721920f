import Mathlib.Data.List.Basic
import Mathlib.Data.List.Nodup

/-!
Maps kept as lists of rows, each row carrying its own key: lookup, insertion of a
new key and change of one row.
-/

namespace KeyedList

variable {Key Row : Type} [DecidableEq Key] (key : Row → Key)

def find (wanted : Key) (rows : List Row) : Option Row := rows.find? fun row => key row = wanted

def insertNew (row : Row) (rows : List Row) : List Row :=
  if key row ∈ rows.map key then rows else rows ++ [row]

def change (wanted : Key) (update : Row → Row) (rows : List Row) : List Row :=
  rows.map fun row => if key row = wanted then update row else row

/-- The row in the place of the first one with its key, or at the end. -/
def upsert (row : Row) : List Row → List Row
  | [] => [row]
  | head :: rest => if key head = key row then row :: rest else head :: upsert row rest

variable {key}

theorem find_none_iff {wanted : Key} {rows : List Row} :
    find key wanted rows = none ↔ wanted ∉ rows.map key := by
  simp [find]

theorem mem_of_find {wanted : Key} {rows : List Row} {row : Row}
    (found : find key wanted rows = some row) : row ∈ rows ∧ key row = wanted := by
  constructor
  · exact List.mem_of_find?_eq_some found
  · simpa using List.find?_some found

theorem find_of_mem {rows : List Row} (unique : (rows.map key).Nodup) {row : Row}
    (member : row ∈ rows) : find key (key row) rows = some row := by
  induction rows with
  | nil => simp at member
  | cons head rest ih =>
      obtain ⟨fresh, unique⟩ := List.nodup_cons.mp unique
      rcases List.mem_cons.mp member with rfl | member
      · simp [find]
      · have different : key head ≠ key row := by
          intro same
          exact fresh (same ▸ List.mem_map_of_mem member)
        have later := ih unique member
        simpa [find, different] using later

theorem insertNew_nodup (row : Row) {rows : List Row} (unique : (rows.map key).Nodup) :
    ((insertNew key row rows).map key).Nodup := by
  unfold insertNew
  split
  · exact unique
  · rename_i fresh
    rw [List.map_append, List.map_singleton, List.nodup_append]
    refine ⟨unique, by simp, ?_⟩
    intro first inside second single
    rw [List.mem_singleton.mp single]
    rintro rfl
    exact fresh inside

theorem find_insertNew_other {row : Row} {wanted : Key} {rows : List Row}
    (different : key row ≠ wanted) :
    find key wanted (insertNew key row rows) = find key wanted rows := by
  unfold insertNew
  split
  · rfl
  · simp [find, different]

theorem find_insertNew_self {row : Row} {rows : List Row} (fresh : key row ∉ rows.map key) :
    find key (key row) (insertNew key row rows) = some row := by
  have none := find_none_iff.mpr fresh
  simp only [find] at none
  simp [find, insertNew, fresh, List.find?_append, none]

theorem find_insertNew_of_some {row found : Row} {wanted : Key} {rows : List Row}
    (before : find key wanted rows = some found) :
    find key wanted (insertNew key row rows) = some found := by
  unfold insertNew
  split
  · exact before
  · simp only [find] at before ⊢
    rw [List.find?_append, before, Option.some_or]

theorem mem_insertNew {row other : Row} {rows : List Row} (member : other ∈ insertNew key row rows) :
    other ∈ rows ∨ other = row := by
  unfold insertNew at member
  split at member
  · exact .inl member
  · simpa using member

theorem mem_insertNew_of_mem {other : Row} {rows : List Row} (member : other ∈ rows) (row : Row) :
    other ∈ insertNew key row rows := by
  unfold insertNew
  split
  · exact member
  · exact List.mem_append_left _ member

theorem mem_map_key_insertNew {row : Row} {rows : List Row} {wanted : Key} :
    wanted ∈ (insertNew key row rows).map key ↔ wanted ∈ rows.map key ∨ wanted = key row := by
  unfold insertNew
  split
  · rename_i known
    constructor
    · exact .inl
    · rintro (old | rfl)
      · exact old
      · exact known
  · simp

omit [DecidableEq Key] in
theorem retain_nodup (keep : Row → Bool) {rows : List Row} (unique : (rows.map key).Nodup) :
    ((rows.filter keep).map key).Nodup := by
  exact unique.sublist (List.filter_sublist.map key)

def firsts (key : Row → Key) (start rows : List Row) : List Row :=
  rows.foldl (fun kept row => insertNew key row kept) start

theorem firsts_nodup {start : List Row} (unique : (start.map key).Nodup) (rows : List Row) :
    ((firsts key start rows).map key).Nodup := by
  induction rows generalizing start with
  | nil => exact unique
  | cons row rest ih => exact ih (insertNew_nodup row unique)

theorem mem_firsts {start rows : List Row} {row : Row} (kept : row ∈ firsts key start rows) :
    row ∈ start ∨ row ∈ rows := by
  induction rows generalizing start with
  | nil => exact .inl kept
  | cons head rest ih =>
      rcases ih kept with before | later
      · rcases mem_insertNew before with old | rfl
        · exact .inl old
        · exact .inr (List.mem_cons_self ..)
      · exact .inr (List.mem_cons_of_mem _ later)

theorem mem_firsts_start {start : List Row} {row : Row} (member : row ∈ start) (rows : List Row) :
    row ∈ firsts key start rows := by
  induction rows generalizing start with
  | nil => exact member
  | cons head rest ih =>
      exact ih (mem_insertNew_of_mem member head)

theorem mem_map_key_firsts {start rows : List Row} {wanted : Key} :
    wanted ∈ (firsts key start rows).map key ↔ wanted ∈ start.map key ∨ wanted ∈ rows.map key := by
  induction rows generalizing start with
  | nil => simp [firsts]
  | cons head rest ih =>
      rw [firsts, List.foldl_cons, ← firsts, ih, mem_map_key_insertNew, List.map_cons, List.mem_cons,
        or_assoc]

theorem length_firsts_perm {first second : List Row} (same : first.Perm second) :
    (firsts key [] first).length = (firsts key [] second).length := by
  have keys : ((firsts key [] first).map key).Perm ((firsts key [] second).map key) := by
    rw [List.perm_ext_iff_of_nodup (firsts_nodup (by simp) first) (firsts_nodup (by simp) second)]
    intro wanted
    rw [mem_map_key_firsts, mem_map_key_firsts, (same.map key).mem_iff]
  simpa using keys.length_eq

theorem mem_map_key_good {good : Row → Bool} {rows : List Row}
    (agree : ∀ first ∈ rows, ∀ second ∈ rows, key first = key second → good first = good second)
    {wanted : Key} :
    wanted ∈ ((firsts key [] rows).filter good).map key ↔ wanted ∈ (rows.filter good).map key := by
  have inside : ∀ row ∈ firsts key [] rows, row ∈ rows := by
    intro row kept
    rcases mem_firsts kept with absent | member
    · exact absurd absent List.not_mem_nil
    · exact member
  constructor
  · intro member
    obtain ⟨row, kept, rfl⟩ := List.mem_map.mp member
    obtain ⟨kept, passes⟩ := List.mem_filter.mp kept
    exact List.mem_map_of_mem (List.mem_filter.mpr ⟨inside row kept, passes⟩)
  · intro member
    obtain ⟨row, present, rfl⟩ := List.mem_map.mp member
    obtain ⟨present, passes⟩ := List.mem_filter.mp present
    have listed : key row ∈ (firsts key [] rows).map key :=
      mem_map_key_firsts.mpr (.inr (List.mem_map_of_mem present))
    obtain ⟨kept, first, same⟩ := List.mem_map.mp listed
    rw [← same]
    refine List.mem_map_of_mem (List.mem_filter.mpr ⟨first, ?_⟩)
    rw [agree kept (inside kept first) row present same, passes]

theorem countP_firsts_perm {good : Row → Bool} {first second : List Row} (same : first.Perm second)
    (agree : ∀ row ∈ first, ∀ other ∈ first, key row = key other → good row = good other) :
    (firsts key [] first).countP good = (firsts key [] second).countP good := by
  have agreeSecond : ∀ row ∈ second, ∀ other ∈ second, key row = key other → good row = good other :=
    fun row member other present => agree row (same.mem_iff.mpr member) other (same.mem_iff.mpr present)
  have distinct : ∀ rows : List Row, (((firsts key [] rows).filter good).map key).Nodup :=
    fun rows => retain_nodup good (firsts_nodup (by simp) rows)
  have keys : (((firsts key [] first).filter good).map key).Perm
      (((firsts key [] second).filter good).map key) := by
    rw [List.perm_ext_iff_of_nodup (distinct first) (distinct second)]
    intro wanted
    rw [mem_map_key_good agree, mem_map_key_good agreeSecond, ((same.filter good).map key).mem_iff]
  simpa [List.countP_eq_length_filter] using keys.length_eq

theorem mem_map_key_upsert {row : Row} {rows : List Row} {wanted : Key} :
    wanted ∈ (upsert key row rows).map key ↔ wanted = key row ∨ wanted ∈ rows.map key := by
  induction rows with
  | nil => simp [upsert]
  | cons head rest ih =>
      by_cases same : key head = key row
      · simp [upsert, same]
      · rw [upsert, if_neg same, List.map_cons, List.mem_cons, ih, List.map_cons, List.mem_cons, or_left_comm]

theorem upsert_nodup (row : Row) {rows : List Row} (unique : (rows.map key).Nodup) :
    ((upsert key row rows).map key).Nodup := by
  induction rows with
  | nil => simp [upsert]
  | cons head rest ih =>
      obtain ⟨fresh, unique⟩ := List.nodup_cons.mp unique
      by_cases same : key head = key row
      · rw [upsert, if_pos same, List.map_cons, ← same]
        exact List.nodup_cons.mpr ⟨fresh, unique⟩
      · rw [upsert, if_neg same, List.map_cons]
        refine List.nodup_cons.mpr ⟨?_, ih unique⟩
        rw [mem_map_key_upsert]
        rintro (hit | member)
        · exact same hit
        · exact fresh member

theorem mem_upsert_self (row : Row) (rows : List Row) : row ∈ upsert key row rows := by
  induction rows with
  | nil => simp [upsert]
  | cons head rest ih =>
      by_cases same : key head = key row
      · simp [upsert, same]
      · simp [upsert, same, ih]

theorem mem_upsert_other {row other : Row} {rows : List Row} (different : key other ≠ key row) :
    other ∈ upsert key row rows ↔ other ∈ rows := by
  have apart : other ≠ row := by
    rintro rfl
    exact different rfl
  induction rows with
  | nil => simp [upsert, apart]
  | cons head rest ih =>
      by_cases same : key head = key row
      · have notHead : other ≠ head := by
          rintro rfl
          exact different same
        simp [upsert, same, apart, notHead]
      · simp [upsert, same, ih]

theorem mem_upsert {row other : Row} {rows : List Row} (unique : (rows.map key).Nodup) :
    other ∈ upsert key row rows ↔ other = row ∨ (other ∈ rows ∧ key other ≠ key row) := by
  by_cases same : key other = key row
  · simp only [same, ne_eq, not_true_eq_false, and_false, or_false]
    constructor
    · intro member
      have found := find_of_mem (upsert_nodup row unique) member
      rw [same, find_of_mem (upsert_nodup row unique) (mem_upsert_self row rows)] at found
      exact (Option.some.inj found).symm
    · rintro rfl
      exact mem_upsert_self other rows
  · have apart : other ≠ row := by
      rintro rfl
      exact same rfl
    simp [mem_upsert_other same, same, apart]

theorem find_upsert_self (row : Row) (rows : List Row) :
    find key (key row) (upsert key row rows) = some row := by
  induction rows with
  | nil => simp [upsert, find]
  | cons head rest ih =>
      by_cases same : key head = key row
      · simp [upsert, find, same]
      · rw [upsert, if_neg same, find, List.find?_cons_of_neg (by simpa using same)]
        exact ih

theorem find_upsert_other {row : Row} {wanted : Key} (different : wanted ≠ key row) (rows : List Row) :
    find key wanted (upsert key row rows) = find key wanted rows := by
  have missed : ¬key row = wanted := fun same => different same.symm
  induction rows with
  | nil => simp [upsert, find, missed]
  | cons head rest ih =>
      by_cases same : key head = key row
      · simp [upsert, find, same, missed]
      · rw [upsert, if_neg same]
        unfold find at ih ⊢
        rw [List.find?_cons, List.find?_cons, ih]

theorem foldl_upsert {rows later : List Row} (unique : ((rows ++ later).map key).Nodup) :
    later.foldl (fun rows row => upsert key row rows) rows = rows ++ later := by
  induction later generalizing rows with
  | nil => simp
  | cons row later ih =>
      have added : upsert key row rows = rows ++ [row] := by
        have absent : ∀ other ∈ rows, key other ≠ key row := by
          intro other member same
          rw [List.map_append, List.nodup_append] at unique
          exact unique.2.2 _ (List.mem_map_of_mem member) _ (by simp) same
        clear unique
        induction rows with
        | nil => rfl
        | cons head rest inner =>
            rw [List.forall_mem_cons] at absent
            rw [upsert, if_neg absent.1, inner absent.2, List.cons_append]
      rw [List.foldl_cons, added, ih (by simpa using unique), List.append_assoc, List.singleton_append]

theorem find_perm {first second : List Row} (same : first.Perm second) (unique : (second.map key).Nodup)
    (wanted : Key) : find key wanted first = find key wanted second := by
  have firstUnique : (first.map key).Nodup := (same.map key).nodup_iff.mpr unique
  cases found : find key wanted second with
  | none =>
      rw [find_none_iff] at found ⊢
      rwa [(same.map key).mem_iff]
  | some row =>
      obtain ⟨member, rfl⟩ := mem_of_find found
      exact find_of_mem firstUnique (same.mem_iff.mpr member)

theorem find_retain (keep : Row → Bool) {rows : List Row} (unique : (rows.map key).Nodup) (wanted : Key) :
    find key wanted (rows.filter keep) = (find key wanted rows).filter keep := by
  induction rows with
  | nil => rfl
  | cons row rest ih =>
      obtain ⟨fresh, unique⟩ := List.nodup_cons.mp unique
      have later := ih unique
      unfold find at later ⊢
      by_cases same : key row = wanted
      · have absent : rest.find? (fun row => key row = wanted) = none := by
          exact find_none_iff.mpr (same ▸ fresh)
        rw [absent] at later
        cases kept : keep row
        · simpa [kept, same, Option.filter] using later
        · simp [kept, same, Option.filter]
      · cases kept : keep row <;> simp [kept, same, later]

section

variable {wanted : Key} {update : Row → Row}

theorem map_key_change (keeps : ∀ row, key (update row) = key row) (rows : List Row) :
    (change key wanted update rows).map key = rows.map key := by
  rw [change, List.map_map]
  apply List.map_congr_left
  intro row _
  by_cases same : key row = wanted
  · simp [same, keeps]
  · simp [same]

theorem find_change_self (keeps : ∀ row, key (update row) = key row) (rows : List Row) :
    find key wanted (change key wanted update rows) = (find key wanted rows).map update := by
  induction rows with
  | nil => rfl
  | cons row rest ih =>
      by_cases same : key row = wanted
      · simp [find, change, same, keeps]
      · simp only [find, change] at ih
        simp [find, change, same, ih]

theorem find_change_other (keeps : ∀ row, key (update row) = key row) {other : Key}
    (different : other ≠ wanted) (rows : List Row) :
    find key other (change key wanted update rows) = find key other rows := by
  induction rows with
  | nil => rfl
  | cons row rest ih =>
      simp only [find, change] at ih
      by_cases same : key row = wanted
      · have missed : ¬wanted = other := fun h => different h.symm
        simp [find, change, same, keeps, missed, ih]
      · by_cases hit : key row = other
        · subst hit
          simp [find, change, same]
        · simp [find, change, same, hit, ih]

end

section

/-! Rows kept in another form under the same keys. -/

variable {Other : Type} {otherKey : Other → Key} {form : Row → Other}

omit [DecidableEq Key] in
theorem map_key_form (keeps : ∀ row, otherKey (form row) = key row) (rows : List Row) :
    (rows.map form).map otherKey = rows.map key := by
  rw [List.map_map]
  exact List.map_congr_left fun row _ => keeps row

theorem find_form (keeps : ∀ row, otherKey (form row) = key row) (wanted : Key) (rows : List Row) :
    find otherKey wanted (rows.map form) = (find key wanted rows).map form := by
  rw [find, find, List.find?_map]
  congr 2
  funext row
  simp [keeps]

theorem insertNew_form (keeps : ∀ row, otherKey (form row) = key row) (row : Row) (rows : List Row) :
    insertNew otherKey (form row) (rows.map form) = (insertNew key row rows).map form := by
  unfold insertNew
  rw [map_key_form keeps, keeps]
  split
  · rfl
  · rw [List.map_append, List.map_singleton]

theorem change_form (keeps : ∀ row, otherKey (form row) = key row) {wanted : Key} {update : Row → Row}
    {otherUpdate : Other → Other} (agree : ∀ row, otherUpdate (form row) = form (update row)) (rows : List Row) :
    change otherKey wanted otherUpdate (rows.map form) = (change key wanted update rows).map form := by
  rw [change, change, List.map_map, List.map_map]
  apply List.map_congr_left
  intro row _
  by_cases same : key row = wanted
  · simp [keeps, same, agree]
  · simp [keeps, same]

end

end KeyedList
