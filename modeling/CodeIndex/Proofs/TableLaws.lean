import CodeIndex.Proofs.StableOrder
import CodeIndex.Table
import Mathlib.Data.List.Nodup
import Mathlib.Tactic.Common

/-! A table is known by the value of each key and by the order of its keys. What an operation does
to a table is said here once, by what it does to the value of each key. -/
namespace CodeIndex.Table

variable {α β : Type}

/-- Where no key occurs twice, a value is looked up exactly if its entry is there. -/
theorem lookup_eq_some_iff {entries : List (String × α)} (hNodup : (entries.map Prod.fst).Nodup)
    {key : String} {value : α} :
    entries.lookup key = some value ↔ (key, value) ∈ entries := by
  induction entries with
  | nil => simp
  | cons entry rest ih =>
    obtain ⟨other, old⟩ := entry
    simp only [List.map_cons, List.nodup_cons] at hNodup
    by_cases hKey : key = other
    · subst hKey
      have hAbsent : (key, value) ∉ rest := fun hMem =>
        hNodup.1 (List.mem_map.mpr ⟨(key, value), hMem, rfl⟩)
      simp [hAbsent, eq_comm]
    · simp [List.lookup_cons, beq_eq_false_iff_ne.mpr hKey, ih hNodup.2, hKey]

theorem get?_eq_some_iff {table : Table α} {key : String} {value : α} :
    table.get? key = some value ↔ (key, value) ∈ table.entries :=
  lookup_eq_some_iff table.nodup

theorem nodup_keys (table : Table α) : table.keys.Nodup := table.nodup

/-- The keys are those that have a value. -/
theorem mem_keys_iff {table : Table α} {key : String} :
    key ∈ table.keys ↔ ∃ value, table.get? key = some value := by
  simp [keys, get?_eq_some_iff]

/-- Tables with the same entries in any order give every key the same value. -/
theorem get?_eq_of_perm {first second : Table α} (hPerm : first.entries.Perm second.entries)
    (key : String) : first.get? key = second.get? key := by
  apply Option.ext
  intro value
  rw [get?_eq_some_iff, get?_eq_some_iff, hPerm.mem_iff]

@[simp]
theorem get?_empty (key : String) : (∅ : Table α).get? key = none := rfl

/-- To set an entry changes the value of its key and no other. -/
theorem lookup_setEntry (key k : String) (value : α) (entries : List (String × α)) :
    (setEntry key value entries).lookup k =
      if k = key then some value else entries.lookup k := by
  induction entries with
  | nil =>
    by_cases hKey : k = key
    · simp [setEntry, hKey]
    · simp [setEntry, List.lookup_cons, beq_eq_false_iff_ne.mpr hKey, hKey]
  | cons entry rest ih =>
    obtain ⟨other, old⟩ := entry
    by_cases hOther : other = key
    · subst hOther
      by_cases hKey : k = other
      · simp [setEntry, hKey]
      · simp [setEntry, List.lookup_cons, beq_eq_false_iff_ne.mpr hKey, hKey]
    · by_cases hKey : k = other
      · subst hKey
        simp [setEntry, hOther]
      · simp [setEntry, List.lookup_cons, hOther, beq_eq_false_iff_ne.mpr hKey, ih]

/-- To insert a value changes that of its key and no other. -/
theorem get?_insert (table : Table α) (key k : String) (value : α) :
    (table.insert key value).get? k = if k = key then some value else table.get? k :=
  lookup_setEntry key k value table.entries

theorem get?_modify (table : Table α) (key k : String) (f : Option α → α) :
    (table.modify key f).get? k = if k = key then some (f (table.get? key)) else table.get? k :=
  get?_insert table key k (f (table.get? key))

/-- To erase a key takes its value away and no other. -/
theorem get?_erase (table : Table α) (key k : String) :
    (table.erase key).get? k = if k = key then none else table.get? k := by
  apply Option.ext
  intro value
  rw [get?_eq_some_iff]
  by_cases hKey : k = key
  · simp [erase, hKey]
  · simp [erase, hKey, get?_eq_some_iff]

/-- To map the values of a table does so key by key. -/
theorem get?_mapValues (f : String → α → β) (table : Table α) (key : String) :
    (table.mapValues f).get? key = (table.get? key).map (f key) := by
  apply Option.ext
  intro value
  simp only [get?_eq_some_iff, mapValues, List.mem_map, Prod.mk.injEq, Option.map_eq_some_iff]
  constructor
  · rintro ⟨⟨k, old⟩, hMem, rfl, rfl⟩
    exact ⟨old, hMem, rfl⟩
  · rintro ⟨old, hMem, rfl⟩
    exact ⟨(key, old), hMem, rfl, rfl⟩

/-- An entry with a new key goes to the end. -/
theorem setEntry_of_not_mem {key : String} {value : α} {entries : List (String × α)}
    (hNew : key ∉ entries.map Prod.fst) :
    setEntry key value entries = entries ++ [(key, value)] := by
  induction entries with
  | nil => rfl
  | cons entry rest ih =>
    obtain ⟨other, old⟩ := entry
    simp only [List.map_cons, List.mem_cons, not_or] at hNew
    simp [setEntry, Ne.symm hNew.1, ih hNew.2]

/-- Entries with keys that are new and different go to the end in turn. -/
theorem entries_foldl_insert (entries : List (String × α)) (table : Table α)
    (hNodup : ((table.entries ++ entries).map Prod.fst).Nodup) :
    (entries.foldl (fun table (key, value) => table.insert key value) table).entries =
      table.entries ++ entries := by
  induction entries generalizing table with
  | nil => simp
  | cons entry rest ih =>
    obtain ⟨key, value⟩ := entry
    have hNew : key ∉ table.entries.map Prod.fst := by
      simp only [List.map_append, List.map_cons, List.nodup_append] at hNodup
      exact fun hOld => hNodup.2.2 key hOld key (by simp) rfl
    have hInsert : (table.insert key value).entries = table.entries ++ [(key, value)] :=
      setEntry_of_not_mem hNew
    rw [List.foldl_cons, ih (table.insert key value) (by simpa [hInsert] using hNodup), hInsert,
      List.append_assoc]
    rfl

/-- A table is the table of its own entries. -/
theorem ofList_entries (table : Table α) : ofList table.entries = table := by
  ext1
  rw [ofList, entries_foldl_insert table.entries empty (by simpa [empty] using table.nodup)]
  rfl

theorem sorted_perm (table : Table α) : table.sorted.Perm table.entries :=
  List.mergeSort_perm _ _

/-- The table with its entries in ascending order of the keys. -/
def inOrder (table : Table α) : Table α :=
  ⟨table.sorted, (table.sorted_perm.map Prod.fst).nodup_iff.mpr table.nodup⟩

/-- The order of the keys does not matter to their values. -/
@[simp]
theorem get?_inOrder (table : Table α) (key : String) : table.inOrder.get? key = table.get? key :=
  get?_eq_of_perm table.sorted_perm key

/-! Entries are put into the order of their keys by one comparison. -/

theorem keyLe_trans (a b c : String × α) (hab : decide (a.1 ≤ b.1) = true)
    (hbc : decide (b.1 ≤ c.1) = true) : decide (a.1 ≤ c.1) = true := by
  rw [decide_eq_true_eq] at *
  exact String.le_trans hab hbc

theorem keyLe_total (a b : String × α) :
    (decide (a.1 ≤ b.1) || decide (b.1 ≤ a.1)) = true := by
  simpa using String.le_total a.1 b.1

/-- Entries with distinct keys are sorted alike in whatever order they come. -/
theorem mergeSort_eq_of_perm_entries {first second : List (String × α)} (hPerm : first.Perm second)
    (hNodup : (first.map Prod.fst).Nodup) :
    first.mergeSort (fun a b => decide (a.1 ≤ b.1)) =
      second.mergeSort fun a b => decide (a.1 ≤ b.1) := by
  refine mergeSort_eq_of_perm keyLe_trans keyLe_total hPerm ?_
  intro a ha b hb hab hba
  rw [decide_eq_true_eq] at hab hba
  exact List.inj_on_of_nodup_map hNodup ha hb (String.le_antisymm hab hba)

/-- The keys of a table in order ascend strictly, because none occurs twice. -/
theorem inOrder_keys_ascend (table : Table α) : table.inOrder.keys.Pairwise (· < ·) := by
  have hSorted : table.sorted.Pairwise fun a b => decide (a.1 ≤ b.1) = true :=
    List.pairwise_mergeSort keyLe_trans keyLe_total table.entries
  have hKeys : table.inOrder.keys.Pairwise (· ≤ ·) := by
    rw [keys, List.pairwise_map]
    exact hSorted.imp fun h => by simpa using h
  have hDistinct : table.inOrder.keys.Pairwise (· ≠ ·) := table.inOrder.nodup
  exact (hKeys.and hDistinct).imp fun ⟨hLe, hNe⟩ => Std.lt_of_le_of_ne hLe hNe

/-- Tables with the same values have the same entries, in some order. -/
theorem entries_perm_of_get?_eq {first second : Table α}
    (hSame : ∀ key, first.get? key = second.get? key) : first.entries.Perm second.entries := by
  rw [List.perm_ext_iff_of_nodup (.of_map _ first.nodup) (.of_map _ second.nodup)]
  rintro ⟨key, value⟩
  rw [← get?_eq_some_iff, ← get?_eq_some_iff, hSame]

/-- Tables that give every key the same value have the same entries in order. -/
theorem sorted_eq_of_get?_eq {first second : Table α}
    (hSame : ∀ key, first.get? key = second.get? key) : first.sorted = second.sorted :=
  mergeSort_eq_of_perm_entries (entries_perm_of_get?_eq hSame) first.nodup

/-- Tables with the same keys have them in some order each, since none occurs twice. -/
theorem keys_perm_of_mem_iff {first : Table α} {second : Table β}
    (hSame : ∀ key, key ∈ first.keys ↔ key ∈ second.keys) : first.keys.Perm second.keys :=
  (List.perm_ext_iff_of_nodup first.nodup second.nodup).mpr hSame

/-- Tables with the same keys have them in the same order once they are sorted, whatever the values
are. -/
theorem inOrder_keys_eq_of_mem_iff {first : Table α} {second : Table β}
    (hSame : ∀ key, key ∈ first.keys ↔ key ∈ second.keys) :
    first.inOrder.keys = second.inOrder.keys := by
  have hPerm : first.inOrder.keys.Perm second.inOrder.keys :=
    (first.sorted_perm.map _).trans
      ((keys_perm_of_mem_iff hSame).trans (second.sorted_perm.map _).symm)
  exact hPerm.eq_of_pairwise (fun a b _ _ hab hba => absurd hba (String.lt_asymm hab))
    first.inOrder_keys_ascend second.inOrder_keys_ascend

end CodeIndex.Table
