import CodeIndex.Path.Parts
import CodeIndex.Proofs.NormalPaths
import Mathlib.Data.List.Basic

/-! Where a normal path leads. Normalisation leaves out only components that do not count, but it
may leave out the one that keeps the slash behind it from being the root. -/
namespace CodeIndex.Path

/-- Whether a component counts: it is neither empty nor a reference to the present directory. -/
def isProper (component : List Char) : Bool := component ≠ [] && component ≠ ['.']

theorem properComponents_eq (path : String) :
    properComponents path = ((splitAt '/' path.toList).filter isProper).map String.ofList := by
  have hTest (component : List Char) :
      (String.ofList component ≠ "" && String.ofList component ≠ ".") = isProper component := by
    rw [← String.ofList_nil, show "." = String.ofList ['.'] from rfl, isProper]
    simp only [ne_eq, String.ofList_inj]
  rw [properComponents, components, List.filter_map]
  simp only [Function.comp_def, hTest]

/-- A reference to the present directory is a component that does not count. -/
theorem filter_splitAt_dropDots (path : List Char) :
    (splitAt '/' (dropDots path)).filter isProper = (splitAt '/' path).filter isProper := by
  fun_induction dropDots path with
  | case1 rest ih =>
    have hDot : splitAt '/' ('.' :: '/' :: rest) = ['.'] :: splitAt '/' rest := rfl
    rw [ih, hDot, List.filter_cons_of_neg (by decide)]
  | case2 path hPath => rfl

/-- The references to the present directory that stand at the start of a path are followed by one
more slash, as in `.//a`. The path is relative, but what is left of it without them is not. -/
def HidesRoot (path : String) : Prop :=
  ∃ count, (List.replicate (count + 1) ['.', '/']).flatten ++ ['/'] <+: path.toList

/-- A slash comes to the front exactly if it stands behind references to the present directory. -/
theorem head?_dropDots_iff (path : List Char) :
    (dropDots path).head? = some '/' ↔
      ∃ count, (List.replicate count ['.', '/']).flatten ++ ['/'] <+: path := by
  fun_induction dropDots path with
  | case1 rest ih =>
    rw [ih]
    constructor
    · rintro ⟨count, hRest⟩
      exact ⟨count + 1, by simpa [List.replicate_succ] using hRest⟩
    · rintro ⟨_ | count, hRest⟩
      · simp at hRest
      · exact ⟨count, by simpa [List.replicate_succ] using hRest⟩
  | case2 path hPath =>
    constructor
    · intro hHead
      obtain ⟨rest, rfl⟩ := List.head?_eq_some_iff.mp hHead
      exact ⟨0, rest, rfl⟩
    · rintro ⟨_ | count, after, hAfter⟩
      · rw [← hAfter]
        rfl
      · -- a reference to the present directory would have been left out
        rw [List.replicate_succ] at hAfter
        exact absurd hAfter.symm (hPath _)

theorem isAbsolute_iff (path : String) : isAbsolute path = true ↔ ['/'] <+: path.toList := by
  rw [isAbsolute, decide_eq_true_eq, List.head?_eq_some_iff]
  exact exists_congr fun _ => eq_comm

/-- The components that count stay the same. -/
theorem properComponents_normalize {path : String} (hPath : '\\' ∉ path.toList) :
    properComponents (normalize path) = properComponents path := by
  rw [properComponents_eq, properComponents_eq, normalize, String.toList_ofList,
    ← filter_splitAt_dropDots path.toList, normalizeChars_eq_dropDots hPath]
  split_ifs with hEmpty
  · rw [hEmpty]
    rfl
  · rfl

/-- A normal form is a path from the root if the path was, or if it hid a slash behind references to
the present directory. -/
theorem isAbsolute_normalize_iff {path : String} (hPath : '\\' ∉ path.toList) :
    isAbsolute (normalize path) = true ↔ isAbsolute path = true ∨ HidesRoot path := by
  have hHead : isAbsolute (normalize path) = true ↔ (dropDots path.toList).head? = some '/' := by
    rw [isAbsolute, decide_eq_true_eq, normalize, String.toList_ofList,
      normalizeChars_eq_dropDots hPath]
    split_ifs with hEmpty
    · simp [hEmpty]
    · rfl
  rw [hHead, head?_dropDots_iff, isAbsolute_iff, HidesRoot]
  constructor
  · rintro ⟨_ | count, hStart⟩
    · exact .inl hStart
    · exact .inr ⟨count, hStart⟩
  · rintro (hStart | ⟨count, hStart⟩)
    · exact ⟨0, hStart⟩
    · exact ⟨count + 1, hStart⟩

theorem HidesRoot.isAbsolute_eq_false {path : String} (hHides : HidesRoot path) :
    isAbsolute path = false := by
  obtain ⟨count, rest, hRest⟩ := hHides
  rw [isAbsolute, ← hRest, List.replicate_succ]
  rfl

/-- A normal path is normal for good. It has the components of the path that it was made from, as
far as they count, and it starts at the root if and only if that one does, unless one more slash
stands behind the references to the present directory: then the root takes their place. -/
theorem normalize_location (path : String) :
    normalize (normalize path) = normalize path ∧
    ('\\' ∉ path.toList →
      properComponents (normalize path) = properComponents path ∧
        (isAbsolute (normalize path) = isAbsolute path ↔ ¬HidesRoot path)) := by
  refine ⟨normalize_normalize path, fun hPath => ⟨properComponents_normalize hPath, ?_⟩⟩
  have hRoot := isAbsolute_normalize_iff hPath
  constructor
  · intro hSame hHides
    have hRelative := hHides.isAbsolute_eq_false
    rw [← hSame, hRoot.mpr (.inr hHides)] at hRelative
    cases hRelative
  · intro hHides
    rw [Bool.eq_iff_iff, hRoot, or_iff_left hHides]

/-- A path with references to the present directory at its start and inside, and one that hides the
root. -/
theorem repeatedDots_location :
    ('\\' ∉ "././a/./b".toList ∧ ¬HidesRoot "././a/./b" ∧
      properComponents (normalize "././a/./b") = ["a", "b"]) ∧
    '\\' ∉ "././/b".toList ∧ HidesRoot "././/b" ∧
      isAbsolute (normalize "././/b") ≠ isAbsolute "././/b" := by
  have hPath : '\\' ∉ "././a/./b".toList := by decide
  have hHiding : '\\' ∉ "././/b".toList := by decide
  have hHides : HidesRoot "././/b" := ⟨1, ['b'], rfl⟩
  obtain ⟨hComponents, hKept⟩ := (normalize_location _).2 hPath
  refine ⟨⟨hPath, hKept.mp (by decide), hComponents.trans (by decide)⟩, hHiding, hHides, ?_⟩
  intro hSame
  exact ((normalize_location _).2 hHiding).2.mp hSame hHides

/-- Two slashes behind the dot turn a relative path into one that starts at the root. -/
theorem doubledSlash_becomes_absolute :
    '\\' ∉ ".//x".toList ∧ isAbsolute ".//x" = false ∧ normalize ".//x" = "/x" ∧
      isAbsolute (normalize ".//x") = true := by
  decide

end CodeIndex.Path
