import CodeIndex.FileTree.Expansion
import CodeIndex.Proofs.Traversal

/-! Normal paths: those that normalisation leaves as they are. All files of a root path are listed
by their normal paths. -/
namespace CodeIndex

namespace Path

theorem dropDots_suffix (path : List Char) : dropDots path <:+ path := by
  fun_induction dropDots path with
  | case1 rest ih => exact ih.trans ⟨['.', '/'], rfl⟩
  | case2 path hPath => exact List.suffix_rfl

/-- All of them are taken off at once. -/
theorem dropDots_dropDots (path : List Char) : dropDots (dropDots path) = dropDots path := by
  fun_induction dropDots path with
  | case1 rest ih => exact ih
  | case2 path hPath => rw [dropDots.eq_2 path hPath]

/-- A path without backslashes changes at its start only. -/
theorem normalizeChars_eq_dropDots {path : List Char} (hPath : '\\' ∉ path) :
    normalizeChars path = if dropDots path = [] then ['.'] else dropDots path := by
  have hSame : path.map (fun c => if c = '\\' then '/' else c) = path :=
    (List.map_congr_left fun c hMem => if_neg (ne_of_mem_of_not_mem hMem hPath)).trans path.map_id'
  simp only [normalizeChars, hSame]
  split
  · next hEmpty => rw [if_pos hEmpty]
  · next hNe => rw [if_neg hNe]

/-- A path with neither backslashes nor references to the present directory at its start is
normal. -/
theorem normalizeChars_of_dropDots {path : List Char} (hNe : path ≠ [])
    (hSlashes : ∀ c ∈ path, c ≠ '\\') (hDots : dropDots path = path) :
    normalizeChars path = path := by
  rw [normalizeChars_eq_dropDots fun hMem => hSlashes _ hMem rfl, hDots, if_neg hNe]

/-- A normal path is the present directory, or what is left of a path with slashes for backslashes.
-/
theorem normalizeChars_cases (path : List Char) :
    normalizeChars path = ['.'] ∨
      normalizeChars path = dropDots (path.map fun c => if c = '\\' then '/' else c) ∧
        normalizeChars path ≠ [] := by
  simp only [normalizeChars]
  split
  · exact .inl rfl
  · next hNe => exact .inr ⟨rfl, hNe⟩

/-- A normal path is its own normal form. -/
theorem normalizeChars_normalizeChars (path : List Char) :
    normalizeChars (normalizeChars path) = normalizeChars path := by
  rcases normalizeChars_cases path with hDot | ⟨hDots, hNe⟩
  · rw [hDot]
    rfl
  · apply normalizeChars_of_dropDots hNe
    · intro c hMem
      rw [hDots] at hMem
      obtain ⟨old, -, rfl⟩ := List.mem_map.mp ((dropDots_suffix _).subset hMem)
      split_ifs with hOld
      · decide
      · exact hOld
    · rw [hDots, dropDots_dropDots]

theorem normalize_normalize (path : String) : normalize (normalize path) = normalize path := by
  simp [normalize, normalizeChars_normalizeChars]

theorem normalizeChars_of_normalize {path : String} (hNormal : normalize path = path) :
    normalizeChars path.toList = path.toList := by
  simpa [normalize] using congrArg String.toList hNormal

end Path

namespace FileTree

variable {tree : FileTree}

/-- The files below a directory are listed by their normal paths. -/
theorem normalize_of_mem_filesBelow {depth : Nat} {directory path : String}
    (hPath : path ∈ tree.filesBelow depth directory) : Path.normalize path = path := by
  induction depth generalizing directory with
  | zero => simp [filesBelow] at hPath
  | succ depth ih =>
    rw [filesBelow] at hPath
    rcases List.mem_append.mp hPath with hFile | hBelow
    · obtain ⟨file, -, rfl⟩ := List.mem_map.mp hFile
      exact Path.normalize_normalize file
    · obtain ⟨next, -, hNext⟩ := List.mem_flatMap.mp hBelow
      exact ih hNext

/-- All files of a root path are listed by their normal paths. -/
theorem normalize_of_mem_filesFrom {depth : Nat} {root path : String} {files : List String}
    (hFiles : tree.filesFrom depth root = .ok files) (hPath : path ∈ files) :
    Path.normalize path = path := by
  induction depth generalizing root files with
  | zero => simp [filesFrom] at hFiles
  | succ depth ih =>
    rw [filesFrom] at hFiles
    split_ifs at hFiles with hPattern hFile hDirectory
    · cases hLists : (tree.expandPattern root).mapM (tree.filesFrom depth) with
      | error failure => simp [hLists, bind, Except.bind] at hFiles
      | ok lists =>
        simp only [hLists, bind, Except.bind, pure, Except.pure, Except.ok.injEq] at hFiles
        subst hFiles
        obtain ⟨list, hList, hMem⟩ := List.mem_flatten.mp hPath
        obtain ⟨next, -, hNext⟩ := exists_of_mem_mapM hLists hList
        exact ih hNext hMem
    · obtain rfl := Except.ok.inj hFiles
      rw [List.mem_singleton.mp hPath]
      exact Path.normalize_normalize root
    · obtain rfl := Except.ok.inj hFiles
      exact normalize_of_mem_filesBelow hPath
    · obtain rfl := Except.ok.inj hFiles
      simp at hPath

end FileTree

end CodeIndex
