import CodeIndex.Path.Exclusion
import CodeIndex.Proofs.NormalPaths
import CodeIndex.Proofs.PhysicalLines
import CodeIndex.Proofs.WildcardParts
import Mathlib.Data.List.Basic

/-! What is excluded together with a path. A pattern that excludes a directory excludes everything
below it. -/
namespace CodeIndex.Path

variable {path pattern : List Char}

/-- More text behind a path that is not all dots leaves its start as it is. -/
theorem dropDots_append {text : List Char} (hText : dropDots text ≠ [])
    (hDot : dropDots text ≠ ['.']) (more : List Char) :
    dropDots (text ++ more) = dropDots text ++ more := by
  fun_induction dropDots text with
  | case1 rest ih => exact ih hText hDot
  | case2 text hDots =>
    apply dropDots.eq_2
    intro rest hRest
    rcases text with _ | ⟨c, _ | ⟨d, text⟩⟩
    · exact hText rfl
    · obtain ⟨rfl, -⟩ := List.cons.inj hRest
      exact hDot rfl
    · obtain ⟨rfl, hTail⟩ := List.cons.inj hRest
      obtain ⟨rfl, -⟩ := List.cons.inj hTail
      exact hDots text rfl

/-- More text makes the normal form of a path longer, unless the path is the present directory. -/
theorem normalizeChars_append (hPath : normalizeChars path ≠ ['.']) (more : List Char) :
    normalizeChars (path ++ more) =
      normalizeChars path ++ more.map fun c => if c = '\\' then '/' else c := by
  rcases normalizeChars_cases path with hDot | ⟨hDots, hNe⟩
  · exact absurd hDot hPath
  · rw [hDots] at hPath hNe
    have hLonger := dropDots_append hNe hPath (more.map fun c => if c = '\\' then '/' else c)
    rw [← List.map_append] at hLonger
    simp only [normalizeChars, hLonger]
    split
    · next hEmpty => exact absurd (List.append_eq_nil_iff.mp hEmpty).1 hNe
    · rfl

/-- A pattern that excludes a path excludes what is below it. -/
theorem excludedBy_below (hPath : normalizeChars path ≠ ['.'])
    (hExcluded : excludedBy path pattern = true) (rest : List Char) :
    excludedBy (path ++ '/' :: rest) pattern = true := by
  simp only [excludedBy, Bool.and_eq_true, Bool.or_eq_true] at hExcluded ⊢
  obtain ⟨hPattern, hMatch⟩ := hExcluded
  refine ⟨hPattern, ?_⟩
  rw [normalizeChars_append hPath, List.map_cons, if_neg (by decide)]
  rcases hMatch with (hWhole | hBelow) | hComponent
  · exact .inl (.inr (Wildcard.isMatch_below hWhole _))
  · exact .inl (.inr (Wildcard.isMatch_below_append hBelow _))
  · rw [splitAt_append, List.filter_append, List.any_append, hComponent, Bool.true_or]
    exact .inr rfl

/-- Whatever patterns exclude a path other than the present directory, they exclude everything below
it. -/
theorem isExcluded_below {path : String} {patterns : List String} (hPath : normalize path ≠ ".")
    (hExcluded : isExcluded path patterns = true) (rest : String) :
    isExcluded (path ++ "/" ++ rest) patterns = true := by
  have hChars : normalizeChars path.toList ≠ ['.'] := by
    intro hDot
    exact hPath (by rw [normalize, hDot])
  obtain ⟨pattern, hPattern, hMatch⟩ := List.any_eq_true.mp hExcluded
  refine List.any_eq_true.mpr ⟨pattern, hPattern, ?_⟩
  have hText : (path ++ "/" ++ rest).toList = path.toList ++ '/' :: rest.toList := by simp
  rw [hText]
  exact excludedBy_below hChars hMatch rest.toList

/-- A directory with an open bracket in its name, excluded by a pattern that leaves it open too. -/
theorem openBracket_excluded_below :
    normalize "./a\\[b" ≠ "." ∧ isExcluded "./a\\[b" ["", "x]", "./?/[!a]*", "*\\[b/"] = true ∧
      isExcluded "./a\\[b/]c/d.go" ["", "x]", "./?/[!a]*", "*\\[b/"] = true := by
  have hPath : normalize "./a\\[b" ≠ "." := by decide
  have hExcluded : isExcluded "./a\\[b" ["", "x]", "./?/[!a]*", "*\\[b/"] = true := by
    cbv
  exact ⟨hPath, hExcluded, isExcluded_below hPath hExcluded "]c/d.go"⟩

end CodeIndex.Path
