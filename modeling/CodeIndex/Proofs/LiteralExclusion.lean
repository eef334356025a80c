import CodeIndex.Path.Exclusion
import CodeIndex.Path.Parts
import CodeIndex.Proofs.NormalPaths
import CodeIndex.Proofs.WildcardParts
import Mathlib.Data.List.Basic

/-! What a pattern without wildcards excludes: the path that it names, everything below that path,
and every path with a component of that name. -/
namespace CodeIndex

namespace Wildcard

/-- Slashes and dots bring no wildcards into a text. -/
theorem hasMagic_of_subset {text part : List Char} (hText : hasMagic text = false)
    (hPart : ∀ c ∈ part, c ∈ text ∨ c = '/' ∨ c = '.') : hasMagic part = false := by
  rw [hasMagic, List.any_eq_false] at hText ⊢
  intro c hMem
  rcases hPart c hMem with hOld | rfl | rfl
  · exact hText c hOld
  · decide
  · decide

/-- Followed by a slash and a star, a text without wildcards describes what starts with it and the
slash. -/
theorem isMatch_literal_below_iff {literal name : List Char} (hLiteral : hasMagic literal = false) :
    isMatch (literal ++ ['/', '*']) name = true ↔ literal ++ ['/'] <+: name := by
  have hParts : parts (literal ++ ['/', '*']) = (literal ++ ['/']).map .char ++ [.star] := by
    rw [parts_append_of_not_mem literal (by decide), parts_of_not_hasMagic hLiteral,
      List.map_append, List.append_assoc]
    rfl
  rw [isMatch, hParts, takesAll_append_iff]
  constructor
  · rintro ⟨before, after, rfl, hBefore, -⟩
    rw [takesAll_char_iff.mp hBefore]
    exact List.prefix_append ..
  · rintro ⟨after, rfl⟩
    exact ⟨literal ++ ['/'], after, rfl, takesAll_char_iff.mpr rfl, takesAll_star after⟩

end Wildcard

namespace Path

/-- What an exclude pattern is compared with: its normal form without slashes at the end. -/
def cleaned (pattern : String) : String :=
  String.ofList (trimEnd (· == '/') (normalize pattern).toList)

theorem mem_normalizeChars {path : List Char} {c : Char} (hMem : c ∈ normalizeChars path) :
    c ∈ path ∨ c = '/' ∨ c = '.' := by
  rcases normalizeChars_cases path with hDot | ⟨hDots, -⟩
  · rw [hDot, List.mem_singleton] at hMem
    exact .inr (.inr hMem)
  · rw [hDots] at hMem
    obtain ⟨old, hOld, rfl⟩ := List.mem_map.mp ((dropDots_suffix _).subset hMem)
    split_ifs
    · exact .inr (.inl rfl)
    · exact .inl hOld

theorem hasMagic_cleaned {pattern : String} (hLiteral : Wildcard.hasMagic pattern.toList = false) :
    Wildcard.hasMagic (cleaned pattern).toList = false := by
  refine Wildcard.hasMagic_of_subset hLiteral fun c hMem => mem_normalizeChars ?_
  obtain ⟨slashes, hPattern, -⟩ := trimEnd_spec (· == '/') (normalizeChars pattern.toList)
  rw [hPattern]
  exact List.mem_append_left _ (by simpa [cleaned, normalize] using hMem)

/-- A pattern is tried on the whole path, on what is below it, and on the components of the path. -/
theorem isExcluded_singleton_iff {path pattern : String} (hNe : pattern ≠ "") :
    isExcluded path [pattern] = true ↔
      Wildcard.isMatch (cleaned pattern).toList (normalize path).toList = true ∨
      Wildcard.isMatch ((cleaned pattern).toList ++ ['/', '*']) (normalize path).toList = true ∨
      ∃ component ∈ components (normalize path), component ≠ "" ∧
        Wildcard.isMatch (cleaned pattern).toList component.toList = true := by
  have hPattern : pattern.toList.isEmpty = false := by simpa using hNe
  simp only [isExcluded, List.any_cons, List.any_nil, Bool.or_false, excludedBy, hPattern,
    Bool.not_false, Bool.true_and, Bool.or_eq_true, List.any_eq_true, or_assoc, cleaned, components,
    normalize, String.toList_ofList, List.mem_filter, List.mem_map]
  simp [and_assoc]

/-- A pattern without wildcards excludes a path exactly if it is that path, leads to a directory
above it, or is a component of it. -/
theorem isExcluded_literal_iff {path pattern : String} (hNe : pattern ≠ "")
    (hLiteral : Wildcard.hasMagic pattern.toList = false) :
    isExcluded path [pattern] = true ↔
      normalize path = cleaned pattern ∨
      (cleaned pattern ++ "/").toList <+: (normalize path).toList ∨
      ∃ component ∈ components (normalize path), component ≠ "" ∧ component = cleaned pattern := by
  have hCleaned := hasMagic_cleaned hLiteral
  rw [isExcluded_singleton_iff hNe]
  simp only [Wildcard.isMatch_literal_iff hCleaned, Wildcard.isMatch_literal_below_iff hCleaned,
    String.toList_inj, String.toList_append]
  rfl

/-- A name excludes the directories and files of that name, not those whose names begin or end with
it. In a longer pattern a dot stands for itself. -/
theorem vendor_excludes :
    ("vendor" ≠ "" ∧ Wildcard.hasMagic "vendor".toList = false ∧
      isExcluded "vendored/x.go" ["vendor"] = false ∧
      isExcluded "myvendor/x.go" ["vendor"] = false ∧
      isExcluded "./lib//vendor/x.go" ["vendor"] = true) ∧
    "./lib\\v.1//" ≠ "" ∧ Wildcard.hasMagic "./lib\\v.1//".toList = false ∧
      isExcluded "lib/v.1/x.go" ["./lib\\v.1//"] = true ∧
      isExcluded "lib/vo1/x.go" ["./lib\\v.1//"] = false := by
  have hName : "vendor" ≠ "" ∧ Wildcard.hasMagic "vendor".toList = false := by decide
  have hPath : "./lib\\v.1//" ≠ "" ∧ Wildcard.hasMagic "./lib\\v.1//".toList = false := by decide
  refine ⟨⟨hName.1, hName.2, ?_, ?_, ?_⟩, hPath.1, hPath.2, ?_, ?_⟩
  · rw [← Bool.not_eq_true, isExcluded_literal_iff hName.1 hName.2]
    decide +kernel
  · rw [← Bool.not_eq_true, isExcluded_literal_iff hName.1 hName.2]
    decide +kernel
  · rw [isExcluded_literal_iff hName.1 hName.2]
    decide +kernel
  · rw [isExcluded_literal_iff hPath.1 hPath.2]
    decide +kernel
  · rw [← Bool.not_eq_true, isExcluded_literal_iff hPath.1 hPath.2]
    decide +kernel

end Path

end CodeIndex
