import Mathlib.Data.List.Forall2
import Mathlib.Tactic.Common

/-! Steps that can fail, one after another or one for each item of a list. -/
namespace CodeIndex

variable {ε α β : Type}

/-- A step that succeeds hands its value on. -/
theorem ok_bind (value : α) (next : α → Except ε β) :
    (Except.ok value >>= next) = next value := rfl

/-- A step after another one succeeds if both do. -/
theorem bind_eq_ok_iff {first : Except ε α} {next : α → Except ε β} {result : β} :
    first >>= next = .ok result ↔ ∃ value, first = .ok value ∧ next value = .ok result := by
  cases first with
  | error failure => exact ⟨nofun, fun ⟨_, hFirst, _⟩ => nomatch hFirst⟩
  | ok value => exact ⟨fun hNext => ⟨value, rfl, hNext⟩, fun ⟨_, rfl, hNext⟩ => hNext⟩

/-- A traversal that succeeds has succeeded for each item. -/
theorem forall₂_of_mapM {f : α → Except ε β} {items : List α} {results : List β}
    (hResults : items.mapM f = .ok results) :
    List.Forall₂ (fun item result => f item = .ok result) items results := by
  induction items generalizing results with
  | nil =>
    obtain rfl := Except.ok.inj hResults
    exact .nil
  | cons item items ih =>
    rw [List.mapM_cons] at hResults
    obtain ⟨result, hItem, hResults⟩ := bind_eq_ok_iff.mp hResults
    obtain ⟨others, hItems, hResults⟩ := bind_eq_ok_iff.mp hResults
    obtain rfl := Except.ok.inj hResults
    exact .cons hItem (ih hItems)

/-- A traversal succeeds with the results of all items. -/
theorem mapM_of_forall₂ {f : α → Except ε β} {items : List α} {results : List β}
    (hResults : List.Forall₂ (fun item result => f item = .ok result) items results) :
    items.mapM f = .ok results := by
  induction hResults with
  | nil => rfl
  | cons hItem _ ih =>
    rw [List.mapM_cons, hItem, ih]
    rfl

theorem exists_mem_of_forall₂ {related : α → β → Prop} {items : List α} {results : List β}
    (hEach : List.Forall₂ related items results) {item : α} (hItem : item ∈ items) :
    ∃ result ∈ results, related item result := by
  induction hEach with
  | nil => cases hItem
  | @cons first result items results hFirst _ ih =>
    rcases List.mem_cons.mp hItem with rfl | hItem
    · exact ⟨result, List.mem_cons_self, hFirst⟩
    · obtain ⟨other, hOther, hRest⟩ := ih hItem
      exact ⟨other, List.mem_cons_of_mem _ hOther, hRest⟩

/-- Where a traversal succeeds, each item has a result among the results. -/
theorem exists_mem_of_mapM {f : α → Except ε β} {items : List α} {results : List β}
    (hResults : items.mapM f = .ok results) {item : α} (hItem : item ∈ items) :
    ∃ result ∈ results, f item = .ok result :=
  exists_mem_of_forall₂ (forall₂_of_mapM hResults) hItem

/-- Where a traversal succeeds, each of the results is that of an item. -/
theorem exists_of_mem_mapM {f : α → Except ε β} {items : List α} {results : List β}
    (hResults : items.mapM f = .ok results) {result : β} (hMem : result ∈ results) :
    ∃ item ∈ items, f item = .ok result :=
  exists_mem_of_forall₂ (forall₂_of_mapM hResults).flip hMem

/-- Two steps succeed if the first does, and the second whatever it is given. -/
theorem exists_bind_eq_ok {first : Except ε α} {next : α → Except ε β}
    (hFirst : ∃ value, first = .ok value) (hNext : ∀ value, ∃ result, next value = .ok result) :
    ∃ result, first >>= next = .ok result := by
  obtain ⟨value, rfl⟩ := hFirst
  exact hNext value

/-- A traversal succeeds if each of its steps does. -/
theorem exists_mapM_eq_ok {f : α → Except ε β} {items : List α}
    (hItems : ∀ item ∈ items, ∃ result, f item = .ok result) :
    ∃ results, items.mapM f = .ok results := by
  induction items with
  | nil => exact ⟨[], rfl⟩
  | cons item items ih =>
    obtain ⟨result, hResult⟩ := hItems item List.mem_cons_self
    obtain ⟨results, hResults⟩ :=
      ih fun other hOther => hItems other (List.mem_cons_of_mem _ hOther)
    refine ⟨result :: results, ?_⟩
    rw [List.mapM_cons, hResult, hResults]
    rfl

/-- A traversal that never fails is a plain map. -/
theorem mapM_eq_ok_map {f : α → Except ε β} {g : α → β} {items : List α}
    (hItems : ∀ item ∈ items, f item = .ok (g item)) : items.mapM f = .ok (items.map g) := by
  induction items with
  | nil => rfl
  | cons item items ih =>
    rw [List.mapM_cons, hItems item List.mem_cons_self,
      ih fun other hOther => hItems other (List.mem_cons_of_mem _ hOther)]
    rfl

/-- Items are read back from their forms if each of them is. -/
theorem mapM_read_map {form : α → β} {read : β → Except ε α} {items : List α}
    (hItems : ∀ item ∈ items, read (form item) = .ok item) :
    (items.map form).mapM read = .ok items := by
  have hRead : items.mapM (read ∘ form) = .ok (items.map id) := mapM_eq_ok_map hItems
  rw [List.mapM_map, hRead, List.map_id]

end CodeIndex
