import CodeIndex.FileTree.Expansion
import Mathlib.Data.List.Basic
import Mathlib.Tactic.Common

/-! The paths that a pattern with wildcards describes. Each of its parts is a name in a directory, a
path below one, or a part of the pattern that holds no wildcard. -/
namespace CodeIndex

namespace Path

/-- A path is cut after its last slash. The slashes there go with neither side, unless there is
nothing before them. -/
theorem splitLast_spec (path : String) :
    ∃ directory slashes last : List Char, path.toList = directory ++ (slashes ++ last) ∧
      '/' ∉ last ∧ (∀ c ∈ slashes, c = '/') ∧ directory.getLast? ≠ some '/' ∧
      (directory ≠ [] → slashes ≠ []) ∧
      splitLast path =
        (String.ofList (if directory.isEmpty then slashes else directory), String.ofList last) := by
  have hPath := trimEnd_append_takeWhile (· ≠ '/') path.toList
  obtain ⟨last, hLast, hNot, hEnd⟩ := trimEnd_spec (· ≠ '/') path.toList
  have hSame : (path.toList.reverse.takeWhile (· ≠ '/')).reverse = last :=
    List.append_cancel_left (hPath.trans hLast)
  obtain ⟨slashes, hSlashes, hAll, hDirectory⟩ :=
    trimEnd_spec (· == '/') (trimEnd (· ≠ '/') path.toList)
  have hSplit : splitLast path = (String.ofList (if (trimEnd (· == '/')
      (trimEnd (· ≠ '/') path.toList)).isEmpty then trimEnd (· ≠ '/') path.toList
      else trimEnd (· == '/') (trimEnd (· ≠ '/') path.toList)), String.ofList last) := by
    have hTake : path.toList.take (path.toList.length - last.length) =
        trimEnd (· ≠ '/') path.toList := by
      nth_rewrite 1 2 [hLast]
      simp
    simp only [splitLast, hSame, hTake]
  generalize trimEnd (· ≠ '/') path.toList = head at hLast hSlashes hEnd hSplit hDirectory
  generalize trimEnd (· == '/') head = directory at hSlashes hDirectory hSplit
  subst hSlashes
  refine ⟨directory, slashes, last, by rw [hLast, List.append_assoc], ?_, ?_, ?_, ?_, ?_⟩
  · intro hMem
    simpa using hNot '/' hMem
  · intro c hMem
    simpa using hAll c hMem
  · intro hSlash
    simpa using hDirectory '/' hSlash
  · rintro hNe rfl
    obtain ⟨c, hLast⟩ := Option.isSome_iff_exists.mp (List.getLast?_isSome.mpr hNe)
    have hSlash : c = '/' := by simpa using hEnd c (by rwa [List.append_nil])
    simpa [hSlash] using hDirectory c hLast
  · rw [hSplit]
    cases directory <;> rfl

theorem splitLast_of_not_mem {path : String} (hSlash : '/' ∉ path.toList) :
    splitLast path = ("", path) := by
  obtain ⟨directory, slashes, last, hPath, -, hAll, -, hNe, hSplit⟩ := splitLast_spec path
  have hSlashes : slashes = [] := by
    rw [List.eq_nil_iff_forall_not_mem]
    intro c hMem
    refine hSlash ?_
    rw [hPath, ← hAll c hMem]
    simp [hMem]
  obtain rfl : directory = [] := by
    by_contra hDirectory
    exact hNe hDirectory hSlashes
  rw [hSplit, hSlashes]
  rw [hSlashes, List.nil_append, List.nil_append] at hPath
  rw [← hPath, String.ofList_toList]
  rfl

/-- Of a path with slashes at its end all of them go. -/
theorem splitLast_of_getLast? {path : String} (hSlash : path.toList.getLast? = some '/')
    (hTrimmed : trimEnd (· == '/') path.toList ≠ []) :
    splitLast path = (String.ofList (trimEnd (· == '/') path.toList), "") := by
  obtain ⟨rest, hRest⟩ := List.head?_eq_some_iff.mp ((List.head?_reverse ..).trans hSlash)
  have hLast : path.toList.reverse.takeWhile (· ≠ '/') = [] := by simp [hRest]
  simp only [splitLast, hLast, List.reverse_nil, List.length_nil, Nat.sub_zero, List.take_length,
    List.isEmpty_iff, if_neg hTrimmed, String.ofList_nil]

end Path

namespace FileTree

variable {tree : FileTree} {onlyDirectories : Bool} {depth : Nat}
  {part directory name pattern path : String}

/-- The names in a directory are names of entries. -/
theorem exists_of_mem_namesIn (hName : name ∈ tree.namesIn onlyDirectories directory) :
    ∃ entry ∈ tree.entries, name ∈ entry.1 := by
  have hPlace {place : List String} (hChild : name ∈ tree.children place) :
      ∃ entry ∈ tree.entries, name ∈ entry.1 := by
    rw [children, List.mem_mergeSort] at hChild
    obtain ⟨entry, hEntry, hLast⟩ := List.mem_filterMap.mp hChild
    refine ⟨entry, hEntry, ?_⟩
    cases hSome : entry.1.getLast? with
    | none => simp [hSome] at hLast
    | some last =>
      simp only [hSome, Option.ite_none_right_eq_some, Option.some.injEq] at hLast
      exact hLast.2 ▸ List.mem_of_getLast? hSome
  simp only [namesIn] at hName
  generalize (if directory.isEmpty = true then "." else directory) = path at hName
  split_ifs at hName
  · split at hName
    · exact hPlace (List.mem_of_mem_filter hName)
    · cases hName
  · cases hName

/-- How the last part of a pattern describes a name: as two stars, by the names in the directory, or
as it stands. -/
inductive DescribesIn (tree : FileTree) (onlyDirectories : Bool) (part directory name : String) :
    Prop
  | here (hPart : part = "**") (hName : name = "")
  | below (hPart : part = "**")
    (hName : name ∈ tree.pathsBelow onlyDirectories tree.depthLimit directory)
  | name (hPattern : isPattern part = true) (hPart : part ≠ "**")
    (hName : name ∈ tree.namesIn onlyDirectories directory)
    (hMatch : Wildcard.isMatch part.toList name.toList = true)
  | literal (hPlain : isPattern part = false) (hName : name = part)

/-- The names that a part of a pattern matches are described in one of these ways. -/
theorem describesIn_of_mem (hName : name ∈ tree.matchesIn onlyDirectories part directory) :
    DescribesIn tree onlyDirectories part directory name := by
  rw [matchesIn] at hName
  by_cases hPart : part = "**"
  · rw [if_pos hPart] at hName
    rcases List.mem_append.mp hName with hHere | hBelow
    · exact .here hPart (List.mem_singleton.mp (List.mem_ite_nil_right.mp hHere).2)
    · exact .below hPart hBelow
  · rw [if_neg hPart] at hName
    by_cases hPattern : isPattern part = true
    · rw [if_pos hPattern] at hName
      obtain ⟨hMem, hTest⟩ := List.mem_filter.mp hName
      exact .name hPattern hPart hMem (Bool.and_eq_true_iff.mp hTest).2
    · rw [if_neg hPattern] at hName
      refine .literal (by simpa using hPattern) ?_
      split at hName
      · exact List.mem_singleton.mp (List.mem_ite_nil_right.mp hName).2
      · exact List.mem_singleton.mp (List.mem_ite_nil_right.mp hName).2

/-- Whether a path is among what a pattern describes, or is the pattern itself if it holds no
wildcard. -/
def Yields (tree : FileTree) (depth : Nat) (onlyDirectories : Bool) (pattern path : String) :
    Prop :=
  isPattern pattern = false ∧ path = pattern ∨
    isPattern pattern = true ∧ path ∈ tree.matchesOf depth onlyDirectories pattern

/-- How a pattern describes a path: as it stands, by its last part in the working directory, or by
its last part in a directory that the rest of it describes. -/
inductive Describes (tree : FileTree) (depth : Nat) (onlyDirectories : Bool)
    (pattern path : String) : Prop
  | literal (hPlain : isPattern pattern = false) (hPath : path = pattern)
  | name (hDirectory : (Path.splitLast pattern).1 = "")
    (hName : DescribesIn tree onlyDirectories (Path.splitLast pattern).2 "" path)
  | inDirectory {found name : String} (hDirectory : (Path.splitLast pattern).1 ≠ "")
    (hFound : tree.Yields depth true (Path.splitLast pattern).1 found)
    (hName : DescribesIn tree onlyDirectories (Path.splitLast pattern).2 found name)
    (hPath : path = Path.join found name)

/-- The paths that a pattern matches are described in one of these ways. -/
theorem describes_of_mem (hPath : path ∈ tree.matchesOf (depth + 1) onlyDirectories pattern) :
    Describes tree depth onlyDirectories pattern path := by
  rw [matchesOf] at hPath
  by_cases hPattern : isPattern pattern = true
  · simp only [hPattern, Bool.not_true, Bool.false_eq_true, if_false] at hPath
    by_cases hDirectory : (Path.splitLast pattern).1.isEmpty = true
    · rw [if_pos hDirectory] at hPath
      exact .name (by simpa using hDirectory) (describesIn_of_mem hPath)
    · rw [if_neg hDirectory] at hPath
      obtain ⟨found, hFound, hPath⟩ := List.mem_flatMap.mp hPath
      obtain ⟨name, hName, rfl⟩ := List.mem_map.mp hPath
      refine .inDirectory (by simpa using hDirectory) ?_ (describesIn_of_mem hName) rfl
      split_ifs at hFound with hPart
      · exact .inr ⟨hPart, hFound⟩
      · exact .inl ⟨by simpa using hPart, List.mem_singleton.mp hFound⟩
  · simp only [hPattern, Bool.not_false, if_true] at hPath
    refine .literal (by simpa using hPattern) ?_
    split at hPath
    · exact List.mem_singleton.mp (List.mem_ite_nil_right.mp hPath).2
    · exact List.mem_singleton.mp (List.mem_ite_nil_right.mp hPath).2

/-- A pattern with slashes at its end describes what it describes without them, each with a slash at
its end. -/
theorem exists_of_mem_matchesOf_of_getLast? (hPattern : isPattern pattern = true)
    (hSlash : pattern.toList.getLast? = some '/')
    (hTrimmed : isPattern (String.ofList (trimEnd (· == '/') pattern.toList)) = true)
    (hPath : path ∈ tree.matchesOf (depth + 1) onlyDirectories pattern) :
    ∃ found, found ∈ tree.matchesOf depth true (String.ofList (trimEnd (· == '/') pattern.toList)) ∧
      path = Path.join found "" := by
  have hNe : trimEnd (· == '/') pattern.toList ≠ [] := by
    intro hEmpty
    rw [hEmpty] at hTrimmed
    cases hTrimmed
  have hCut := Path.splitLast_of_getLast? hSlash hNe
  cases describes_of_mem hPath with
  | literal hPlain _ => exact absurd hPattern (by simp [hPlain])
  | name hDirectory _ =>
    rw [hCut] at hDirectory
    exact absurd (by simpa using hDirectory) hNe
  | @inDirectory found name _ hFound hName hSame =>
    rw [hCut] at hFound hName
    dsimp only at hFound hName
    have hEmpty : name = "" := by
      cases hName with
      | here _ hName => exact hName
      | below hPart _ => exact absurd hPart (by decide)
      | name hPart _ _ _ => exact absurd hPart (by decide)
      | literal _ hName => exact hName
    rcases hFound with ⟨hPlain, -⟩ | ⟨-, hFound⟩
    · exact absurd hTrimmed (by simp [hPlain])
    · exact ⟨found, hFound, by rw [hSame, hEmpty]⟩

/-! Trees without wildcards in their names -/

/-- Whether no name in a tree holds a wildcard. -/
def HasPlainNames (tree : FileTree) : Prop :=
  ∀ entry ∈ tree.entries, ∀ name ∈ entry.1, isPattern name = false

/-- A text is a pattern if one of its parts is. -/
theorem isPattern_append (first second : String) :
    isPattern (first ++ second) = (isPattern first || isPattern second) := by
  simp [isPattern, Wildcard.hasMagic]

theorem isPattern_join {directory name : String} (hDirectory : isPattern directory = false)
    (hName : isPattern name = false) : isPattern (Path.join directory name) = false := by
  have hSlash : isPattern "/" = false := rfl
  rw [Path.join]
  split_ifs
  · exact hName
  · rw [isPattern_append, hDirectory, hName, Bool.or_false]
  · rw [isPattern_append, isPattern_append, hDirectory, hName, hSlash, Bool.or_false, Bool.or_false]

theorem isPattern_joinParts {directory name : String} (hDirectory : isPattern directory = false)
    (hName : isPattern name = false) : isPattern (joinParts directory name) = false := by
  rw [joinParts]
  split_ifs
  · exact hName
  · exact hDirectory
  · exact isPattern_join hDirectory hName

namespace HasPlainNames

/-- In a tree with plain names the names in a directory are plain. -/
theorem isPattern_of_mem_namesIn (hNames : tree.HasPlainNames) {onlyDirectories : Bool}
    {directory name : String} (hName : name ∈ tree.namesIn onlyDirectories directory) :
    isPattern name = false := by
  obtain ⟨entry, hEntry, hMem⟩ := exists_of_mem_namesIn hName
  exact hNames entry hEntry name hMem

theorem isPattern_of_mem_pathsBelow (hNames : tree.HasPlainNames) {onlyDirectories : Bool}
    {depth : Nat} {directory path : String}
    (hPath : path ∈ tree.pathsBelow onlyDirectories depth directory) : isPattern path = false := by
  induction depth generalizing directory path with
  | zero => cases hPath
  | succ depth ih =>
    rw [pathsBelow] at hPath
    obtain ⟨name, hName, hPath⟩ := List.mem_flatMap.mp hPath
    have hPlain := hNames.isPattern_of_mem_namesIn (List.mem_of_mem_filter hName)
    rcases List.mem_cons.mp hPath with rfl | hBelow
    · exact hPlain
    · obtain ⟨rest, hRest, rfl⟩ := List.mem_map.mp hBelow
      exact isPattern_joinParts hPlain (ih hRest)

/-- In such a tree the names that a pattern describes are plain, so that nothing is expanded twice.
-/
theorem isPattern_of_describesIn (hNames : tree.HasPlainNames)
    (hName : DescribesIn tree onlyDirectories part directory name) : isPattern name = false := by
  cases hName with
  | here _ hName =>
    rw [hName]
    rfl
  | below _ hName => exact hNames.isPattern_of_mem_pathsBelow hName
  | name _ _ hName _ => exact hNames.isPattern_of_mem_namesIn hName
  | literal hPlain hName => rwa [hName]

/-- What a pattern describes is not a pattern. -/
theorem isPattern_of_mem_matchesOf (hNames : tree.HasPlainNames)
    (hPath : path ∈ tree.matchesOf depth onlyDirectories pattern) : isPattern path = false := by
  induction depth generalizing onlyDirectories pattern path with
  | zero => cases hPath
  | succ depth ih =>
    cases describes_of_mem hPath with
    | literal hPlain hPath => rwa [hPath]
    | name _ hName => exact hNames.isPattern_of_describesIn hName
    | inDirectory _ hFound hName hPath =>
      rw [hPath]
      refine isPattern_join ?_ (hNames.isPattern_of_describesIn hName)
      rcases hFound with ⟨hPlain, rfl⟩ | ⟨-, hFound⟩
      · exact hPlain
      · exact ih hFound

end HasPlainNames

/-- What a pattern is expanded to is among what it describes. -/
theorem mem_matchesOf_of_mem_expandPattern (hPath : path ∈ tree.expandPattern pattern) :
    path ∈ tree.matchesOf (pattern.length + 1) false pattern := by
  simp only [expandPattern, sortNames, List.mem_mergeSort] at hPath
  split at hPath
  · next rest hFound =>
    rw [hFound]
    split_ifs at hPath
    · exact List.mem_cons_of_mem _ hPath
    · exact hFound ▸ hPath
  · exact hPath

end FileTree

end CodeIndex
