namespace CodeIndex

/-- A table from texts to values that remembers the order in which its keys were first added. No
key occurs twice. -/
structure Table (α : Type) where
  entries : List (String × α)
  nodup : (entries.map Prod.fst).Nodup

namespace Table

variable {α : Type}

/-- The entries of a list with the value of one key replaced, or with a new entry at the end. -/
def setEntry (key : String) (value : α) : List (String × α) → List (String × α)
  | [] => [(key, value)]
  | (other, old) :: rest =>
    if other = key then (other, value) :: rest else (other, old) :: setEntry key value rest

/-- To set an entry adds its key and no other. -/
theorem mem_keys_setEntry {key k : String} {value : α} {entries : List (String × α)} :
    k ∈ (setEntry key value entries).map Prod.fst ↔ k = key ∨ k ∈ entries.map Prod.fst := by
  induction entries with
  | nil => simp [setEntry]
  | cons entry rest ih =>
    obtain ⟨other, old⟩ := entry
    by_cases hKey : other = key
    · simp [setEntry, hKey]
    · simp only [setEntry, hKey, if_false, List.map_cons, List.mem_cons, ih]
      grind

/-- To set an entry makes no key occur twice. -/
theorem nodup_keys_setEntry (key : String) (value : α) {entries : List (String × α)}
    (hNodup : (entries.map Prod.fst).Nodup) :
    ((setEntry key value entries).map Prod.fst).Nodup := by
  induction entries with
  | nil => simp [setEntry]
  | cons entry rest ih =>
    obtain ⟨other, old⟩ := entry
    simp only [List.map_cons, List.nodup_cons] at hNodup
    by_cases hKey : other = key
    · simp only [setEntry, hKey, if_true, List.map_cons, List.nodup_cons]
      exact hKey ▸ hNodup
    · simp only [setEntry, hKey, if_false, List.map_cons, List.nodup_cons]
      refine ⟨?_, ih hNodup.2⟩
      rw [mem_keys_setEntry]
      grind

/-- The table without entries. -/
def empty : Table α := ⟨[], by simp⟩

instance : EmptyCollection (Table α) := ⟨empty⟩

instance : Inhabited (Table α) := ⟨empty⟩

/-- The keys in order. -/
def keys (table : Table α) : List String := table.entries.map Prod.fst

/-- The value of a key. -/
def get? (table : Table α) (key : String) : Option α := table.entries.lookup key

/-- Whether the key has a value. -/
def contains (table : Table α) (key : String) : Bool := (table.get? key).isSome

/-- Gives a key a value. A key that has one keeps its place, a new key goes to the end. -/
def insert (table : Table α) (key : String) (value : α) : Table α :=
  ⟨setEntry key value table.entries, nodup_keys_setEntry key value table.nodup⟩

/-- Removes a key and its value. -/
def erase (table : Table α) (key : String) : Table α :=
  ⟨table.entries.filter (·.1 ≠ key), by
    have hSub := (List.filter_sublist (p := fun e : String × α => decide (e.1 ≠ key))
      (l := table.entries)).map Prod.fst
    exact table.nodup.sublist hSub⟩

/-- Adds entries in turn, so that the last value of a key wins and its first place counts. -/
def ofList (entries : List (String × α)) : Table α :=
  entries.foldl (fun table (key, value) => table.insert key value) empty

/-- Applies a function to every value. -/
def mapValues {β : Type} (f : String → α → β) (table : Table α) : Table β :=
  ⟨table.entries.map fun (key, value) => (key, f key value), by
    have hKeys : (table.entries.map fun (key, value) => (key, f key value)).map Prod.fst =
        table.entries.map Prod.fst := by simp [Function.comp_def]
    rw [hKeys]
    exact table.nodup⟩

/-- Gives a key the value computed from its present value. -/
def modify (table : Table α) (key : String) (f : Option α → α) : Table α :=
  table.insert key (f (table.get? key))

/-- The entries in ascending order of their keys. -/
def sorted (table : Table α) : List (String × α) :=
  table.entries.mergeSort fun a b => decide (a.1 ≤ b.1)

@[ext]
theorem ext {a b : Table α} (h : a.entries = b.entries) : a = b := by
  cases a; cases b; cases h; rfl

@[simp]
theorem keys_empty : (empty : Table α).keys = [] := rfl

@[simp]
theorem mem_keys_insert {table : Table α} {key k : String} {value : α} :
    k ∈ (table.insert key value).keys ↔ k = key ∨ k ∈ table.keys :=
  mem_keys_setEntry

end Table

end CodeIndex
