import Mathlib.Data.List.Perm.Basic
import Mathlib.Tactic.Common

/-! Lists that differ only in how the items of different groups are interleaved. A stable sort whose
ties all fall inside one group puts two such lists into the same order. -/
namespace CodeIndex

variable {α β κ : Type} [DecidableEq κ] {key : α → κ} {first second : List α}

/-- The items of each key are the same in both lists, and in the same order. -/
def SameParts (key : α → κ) (first second : List α) : Prop :=
  ∀ k, first.filter (fun item => key item = k) = second.filter fun item => key item = k

namespace SameParts

theorem perm (hSame : SameParts key first second) : first.Perm second := by
  classical
  rw [List.perm_iff_count]
  intro item
  have hPart (items : List α) :
      items.count item = (items.filter fun other => key other = key item).count item := by
    rw [List.count_filter (by simp)]
  rw [hPart first, hPart second, hSame]

/-- What depends on the parts can be selected in any finer way. -/
theorem filter_eq (hSame : SameParts key first second) {p : α → Bool} {k : κ}
    (hKey : ∀ item, p item = true → key item = k) : first.filter p = second.filter p := by
  have hPart (items : List α) :
      items.filter p = (items.filter fun item => key item = k).filter p := by
    rw [List.filter_filter]
    refine List.filter_congr fun item _ => ?_
    by_cases hItem : p item = true
    · simp [hItem, hKey item hItem]
    · simp [hItem]
  rw [hPart first, hPart second, hSame]

theorem map (hSame : SameParts key first second) {f : α → β} {other : β → κ}
    (hKey : ∀ item, other (f item) = key item) :
    SameParts other (first.map f) (second.map f) := by
  intro k
  simp only [List.filter_map, Function.comp_def, hKey, hSame k]

theorem flatMap {γ : Type} {groups : List γ} {left right : γ → List α}
    (hSame : ∀ group ∈ groups, SameParts key (left group) (right group)) :
    SameParts key (groups.flatMap left) (groups.flatMap right) := by
  intro k
  rw [List.filter_flatMap, List.filter_flatMap]
  exact List.flatMap_congr fun group hGroup => hSame group hGroup k

end SameParts

/-! Sorting -/

section Sorting

variable {le : α → α → Bool}

/-- Whether an order leaves it open which of two items comes first. -/
def areTied (le : α → α → Bool) (a b : α) : Bool := le a b && le b a

theorem areTied_iff {a b : α} : areTied le a b = true ↔ le a b = true ∧ le b a = true := by
  simp [areTied]

variable (hTrans : ∀ a b c, le a b = true → le b c = true → le a c = true)
  (hTotal : ∀ a b, (le a b || le b a) = true)

include hTrans hTotal

/-- Sorting keeps the order of items that are all tied with each other. -/
theorem filter_mergeSort {p : α → Bool} (hTied : ∀ a b, p a = true → p b = true → le a b = true)
    (items : List α) : (items.mergeSort le).filter p = items.filter p := by
  have hSorted : (items.filter p).Pairwise fun a b => le a b = true := by
    apply List.pairwise_of_forall_mem_list
    intro a ha b hb
    exact hTied a b (List.of_mem_filter ha) (List.of_mem_filter hb)
  have hSublist : (items.filter p).Sublist (items.mergeSort le) :=
    List.sublist_mergeSort hTrans hTotal hSorted List.filter_sublist
  have hParts : (items.filter p).Sublist ((items.mergeSort le).filter p) := by
    simpa using hSublist.filter p
  exact (hParts.eq_of_length ((List.mergeSort_perm items le).filter _).length_eq.symm).symm

/-- Sorting keeps the order of the items of each key if those are tied. -/
theorem sameParts_mergeSort (hTied : ∀ a b, key a = key b → le a b = true) (items : List α) :
    SameParts key (items.mergeSort le) items := by
  intro k
  apply filter_mergeSort hTrans hTotal
  intro a b ha hb
  exact hTied a b ((of_decide_eq_true ha).trans (of_decide_eq_true hb).symm)

/-- Sorting keeps the order of tied items. -/
theorem filter_areTied_mergeSort (a : α) (items : List α) :
    (items.mergeSort le).filter (areTied le a) = items.filter (areTied le a) := by
  apply filter_mergeSort hTrans hTotal
  intro b c hb hc
  exact hTrans b a c (areTied_iff.mp hb).2 (areTied_iff.mp hc).1

omit hTrans in
/-- A list in order is known by its groups of tied items. -/
theorem eq_of_filter_areTied (hFirst : first.Pairwise fun a b => le a b = true)
    (hSecond : second.Pairwise fun a b => le a b = true)
    (hTies : ∀ a, first.filter (areTied le a) = second.filter (areTied le a)) :
    first = second := by
  have hRefl (a : α) : areTied le a a = true := by simpa [areTied] using hTotal a a
  induction first generalizing second with
  | nil =>
    refine (List.eq_nil_iff_forall_not_mem.mpr fun a hMem => ?_).symm
    have hPart := List.mem_filter.mpr ⟨hMem, hRefl a⟩
    simp [← hTies a] at hPart
  | cons a rest ih =>
    cases second with
    | nil => simpa [hRefl] using hTies a
    | cons b others =>
      have hLeast : le a b = true := by
        have hMem : b ∈ a :: rest :=
          List.mem_of_mem_filter (hTies b ▸ List.mem_filter.mpr ⟨List.mem_cons_self, hRefl b⟩)
        rcases List.mem_cons.mp hMem with rfl | hMem
        · exact (areTied_iff.mp (hRefl b)).1
        · exact List.rel_of_pairwise_cons hFirst hMem
      have hOther : le b a = true := by
        have hMem : a ∈ b :: others :=
          List.mem_of_mem_filter (hTies a ▸ List.mem_filter.mpr ⟨List.mem_cons_self, hRefl a⟩)
        rcases List.mem_cons.mp hMem with rfl | hMem
        · exact (areTied_iff.mp (hRefl a)).1
        · exact List.rel_of_pairwise_cons hSecond hMem
      -- The two heads are tied, so that both lead the same group.
      have hHeads := hTies a
      rw [List.filter_cons_of_pos (hRefl a),
        List.filter_cons_of_pos (areTied_iff.mpr ⟨hLeast, hOther⟩)] at hHeads
      obtain rfl := (List.cons.inj hHeads).1
      refine congrArg (a :: ·) (ih hFirst.of_cons hSecond.of_cons fun c => ?_)
      have hGroup := hTies c
      rw [List.filter_cons, List.filter_cons] at hGroup
      split_ifs at hGroup
      · exact (List.cons.inj hGroup).2
      · exact hGroup

/-- Lists with the same parts are sorted alike if ties fall inside a part. -/
theorem SameParts.mergeSort_eq (hSame : SameParts key first second)
    (hTied : ∀ a b, le a b = true → le b a = true → key a = key b) :
    first.mergeSort le = second.mergeSort le := by
  apply eq_of_filter_areTied hTotal (List.pairwise_mergeSort hTrans hTotal first)
    (List.pairwise_mergeSort hTrans hTotal second)
  intro a
  rw [filter_areTied_mergeSort hTrans hTotal, filter_areTied_mergeSort hTrans hTotal]
  apply hSame.filter_eq (k := key a)
  intro b hb
  obtain ⟨hab, hba⟩ := areTied_iff.mp hb
  exact hTied b a hba hab

/-- Where no two items are tied, the order in which they come does not matter. -/
theorem mergeSort_eq_of_perm (hPerm : first.Perm second)
    (hDistinct : ∀ a ∈ first, ∀ b ∈ first, le a b = true → le b a = true → a = b) :
    first.mergeSort le = second.mergeSort le := by
  have hSorted : (first.mergeSort le).Perm (second.mergeSort le) :=
    (List.mergeSort_perm first le).trans (hPerm.trans (List.mergeSort_perm second le).symm)
  refine hSorted.eq_of_pairwise ?_ (List.pairwise_mergeSort hTrans hTotal first)
    (List.pairwise_mergeSort hTrans hTotal second)
  intro a b ha hb
  exact hDistinct a (List.mem_mergeSort.mp ha) b (hPerm.mem_iff.mpr (List.mem_mergeSort.mp hb))

end Sorting

end CodeIndex
