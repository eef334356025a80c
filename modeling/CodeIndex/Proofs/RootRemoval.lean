import CodeIndex.Proofs.ComponentPatterns
import CodeIndex.Proofs.LiteralExclusion
import CodeIndex.Proofs.RequestBatches

/-! What excluding patterns does to the files of the root paths that are given up. A pattern that is
itself a root path excludes all files that the root path lists, unless the root path lists files
that it does not describe as a single text. -/
namespace CodeIndex

namespace FileTree

variable {tree : FileTree} {root file : String}

/-- Whether a file is among those of a root path. -/
def Lists (tree : FileTree) (root file : String) : Prop :=
  ∃ files, tree.files root = .ok files ∧ file ∈ files

/-- A root path lists its own files if it is no pattern, and else those of what it describes. -/
theorem Lists.plain_or_expanded (hLists : tree.Lists root file) :
    isPattern root = false ∧ file ∈ tree.plainFiles root ∨
      isPattern root = true ∧ ∃ found ∈ tree.expandPattern root, tree.Lists found file := by
  obtain ⟨files, hFiles, hFile⟩ := hLists
  rw [FileTree.files, expansionLimit] at hFiles
  by_cases hPattern : isPattern root = true
  · obtain ⟨lists, hLists, rfl⟩ := (filesFrom_pattern_eq_ok_iff hPattern).mp hFiles
    obtain ⟨list, hList, hFile⟩ := List.mem_flatten.mp hFile
    obtain ⟨found, hFound, hSame⟩ := exists_of_mem_mapM hLists hList
    exact .inr ⟨hPattern, found, hFound, list, filesFrom_succ hSame, hFile⟩
  · have hPlain : isPattern root = false := by simpa using hPattern
    rw [filesFrom_plain hPlain] at hFiles
    obtain rfl := Except.ok.inj hFiles
    exact .inl ⟨hPlain, hFile⟩

/-- Whether a root path may list a file without a description of its path: the present directory, a
pattern that is not read by components, or one that lists the file by a path with a wildcard or a
backslash in it. -/
def IsLoose (tree : FileTree) (root file : String) : Prop :=
  root = "." ∨ isPattern root = true ∧
    (¬IsComponentwise (trimEnd (· == '/') root.toList) ∨
      ∃ found ∈ tree.expandPattern root, tree.Lists found file ∧
        (isPattern found = true ∨ '\\' ∈ found.toList))

/-- A root path covers the files that it lists, unless it is loose. -/
theorem HasFileNames.covers_of_lists (hNames : tree.HasFileNames)
    (hNormal : Path.normalize root = root) (hLists : tree.Lists root file)
    (hStrict : ¬tree.IsLoose root file) :
    Covers (trimEnd (· == '/') root.toList) file.toList := by
  rw [IsLoose, not_or] at hStrict
  obtain ⟨hDot, hPattern⟩ := hStrict
  obtain ⟨hStart, hBackslash⟩ : Path.HasNormalStart root.toList ∧ '\\' ∉ root.toList := by
    rw [← Path.normalizeChars_of_normalize hNormal]
    refine Path.hasNormalStart_normalizeChars fun hSame => hDot ?_
    rw [← hNormal, Path.normalize, hSame]
  rcases hLists.plain_or_expanded with ⟨hPlain, hFile⟩ | ⟨hMagic, found, hFound, hInner⟩
  · exact hNames.covers_of_mem_plainFiles hPlain hStart hBackslash hFile
  · simp only [hMagic, true_and, not_or, not_not] at hPattern
    obtain ⟨hComponentwise, hOthers⟩ := hPattern
    have hClear : isPattern found = false ∧ '\\' ∉ found.toList := by
      by_contra hUnclear
      refine hOthers ⟨found, hFound, hInner, ?_⟩
      rw [not_and_or, not_not, Bool.not_eq_false] at hUnclear
      exact hUnclear
    rcases hInner.plain_or_expanded with ⟨-, hFile⟩ | ⟨hAgain, -⟩
    · exact hNames.covers_of_mem_expandPattern hMagic hStart hComponentwise hFound hClear.2 hFile
    · exact absurd hAgain (by simp [hClear.1])

end FileTree

/-- A pattern excludes the files that it covers. -/
theorem Path.excludedBy_of_covers {file pattern : List Char} (hPattern : pattern ≠ [])
    (hFile : normalizeChars file = file)
    (hCovers : Covers (trimEnd (· == '/') (normalizeChars pattern)) file) :
    excludedBy file pattern = true := by
  simp only [excludedBy, hFile, Bool.and_eq_true, Bool.or_eq_true]
  exact ⟨by simpa using hPattern, .inl hCovers⟩

/-- The present directory as a pattern excludes only paths with a component that refers to it. -/
theorem Path.mem_components_of_isExcluded_dot {file : String}
    (hExcluded : isExcluded file ["."] = true) : "." ∈ components (normalize file) := by
  have hCleaned : (cleaned ".").toList = ['.'] := by decide
  have hLiteral : Wildcard.hasMagic ['.'] = false := by decide
  rw [isExcluded_singleton_iff (by decide), hCleaned, Wildcard.isMatch_literal_iff hLiteral,
    Wildcard.isMatch_literal_below_iff hLiteral] at hExcluded
  rcases hExcluded with hWhole | ⟨rest, hBelow⟩ | ⟨component, hComponent, -, hMatch⟩
  · rw [components, hWhole]
    decide
  · have hSplit : splitAt '/' (['.'] ++ '/' :: rest) = [['.']] ++ splitAt '/' rest :=
      splitAt_append '/' ['.'] rest
    rw [components, ← hBelow, List.append_assoc]
    exact hSplit ▸ List.mem_cons_self
  · rw [Wildcard.isMatch_literal_iff hLiteral] at hMatch
    obtain rfl : component = "." := String.toList_inj.mp hMatch
    exact hComponent

namespace Database

variable {database : Database} {tree : FileTree} {patterns : List String} {file root : String}

/-- A root path is given up exactly if it is the normal form of a new pattern. -/
theorem mem_paths_addExcludes :
    root ∈ (database.addExcludes patterns).1.catalog.paths ↔
      root ∈ database.catalog.paths ∧
        ∀ pattern ∈ database.newPatterns patterns, Path.normalize pattern ≠ root := by
  have hPaths := (Prod.mk.inj (database.settings_addExcludes patterns)).1
  rw [hPaths, List.mem_filter]
  simp

/-- A file that stays tracked keeps the root paths that list it, apart from loose ones. -/
theorem mem_paths_of_lists (hNames : tree.HasFileNames)
    (hTracked : file ∈ (database.addExcludes patterns).1.catalog.files.keys)
    (hRoot : root ∈ database.catalog.paths) (hLists : tree.Lists root file)
    (hStrict : ¬tree.IsLoose root file) :
    root ∈ (database.addExcludes patterns).1.catalog.paths := by
  refine mem_paths_addExcludes.mpr ⟨hRoot, ?_⟩
  rintro pattern hPattern rfl
  have hNe : pattern.toList ≠ [] := by
    have hTest := (List.mem_filter.mp hPattern).2
    simp only [Bool.and_eq_true, decide_eq_true_eq] at hTest
    simpa using hTest.1
  have hFile : Path.normalizeChars file.toList = file.toList := by
    obtain ⟨files, hFiles, hMem⟩ := hLists
    exact Path.normalizeChars_of_normalize (FileTree.normalize_of_mem_filesFrom hFiles hMem)
  have hCovers := hNames.covers_of_lists (Path.normalize_normalize pattern) hLists hStrict
  rw [Path.normalize, String.toList_ofList] at hCovers
  have hExcluded : Path.isExcluded file (database.newPatterns patterns) = true :=
    List.any_eq_true.mpr ⟨pattern, hPattern, Path.excludedBy_of_covers hNe hFile hCovers⟩
  rw [keys_addExcludes, List.mem_filter] at hTracked
  exact absurd hTracked.2 (by simp [hExcluded])

/-- A file that stays tracked when patterns are excluded is still listed by a root path, unless all
root paths that listed it are given up and are loose. -/
theorem listed_or_loose (hNames : tree.HasFileNames) (database : Database) (patterns : List String)
    (hTracked : file ∈ (database.addExcludes patterns).1.catalog.files.keys) :
    (∃ root ∈ (database.addExcludes patterns).1.catalog.paths, tree.Lists root file) ∨
      ∀ root ∈ database.catalog.paths, tree.Lists root file →
        root ∉ (database.addExcludes patterns).1.catalog.paths ∧ tree.IsLoose root file := by
  by_cases hListed :
      ∃ root ∈ (database.addExcludes patterns).1.catalog.paths, tree.Lists root file
  · exact .inl hListed
  · right
    intro root hRoot hLists
    have hGone : root ∉ (database.addExcludes patterns).1.catalog.paths :=
      fun hKept => hListed ⟨root, hKept, hLists⟩
    refine ⟨hGone, ?_⟩
    by_contra hStrict
    exact hGone (mem_paths_of_lists hNames hTracked hRoot hLists hStrict)

/-- The scan of one root path with nothing known before. -/
def rootScan (tree : FileTree) (root : String) : Database :=
  (addPaths [.go] tree {} [root]).database

theorem rootScan_eq (hRoot : Path.normalize root = root) :
    rootScan tree root = (addRoots [.go] tree { catalog := { paths := [root] } } [root]).1 := by
  simp [rootScan, addPaths, hRoot, List.eraseDups_cons]

theorem paths_rootScan (hRoot : Path.normalize root = root) :
    (rootScan tree root).catalog.paths = [root] := by
  rw [rootScan_eq hRoot]
  exact (Prod.mk.inj (settings_addRoots [root])).1

/-- The scan of a root path tracks the files that it lists and can read. -/
theorem mem_keys_rootScan (hRoot : Path.normalize root = root) (hLists : tree.Lists root file)
    (hScan : (Scene.scan? ⟨[.go], tree⟩ file).isSome = true) :
    file ∈ (rootScan tree root).catalog.files.keys := by
  obtain ⟨files, hFiles, hMem⟩ := hLists
  have hExpanded : file ∈ (expandRoots tree [root]).1 := by simpa [expandRoots, hFiles] using hMem
  obtain ⟨entry, hEntry⟩ := Option.isSome_iff_exists.mp hScan
  rw [mem_keys_iff_viewOf, rootScan_eq hRoot, viewOf_addRoots, if_pos ⟨hExpanded, rfl, rfl⟩, hEntry]
  rfl

/-- If a root path is excluded as a pattern that does not describe a file, the file stays. Unless
another root path lists it, none does any more. -/
theorem orphaned_of_not_isExcluded (hRoot : Path.normalize root = root) (hNe : root ≠ "")
    (hNew : root ∉ database.catalog.excludes) (hTracked : file ∈ database.catalog.files.keys)
    (hKept : Path.isExcluded file [root] = false)
    (hOnly : ∀ other ∈ database.catalog.paths, tree.Lists other file → other = root) :
    file ∈ (database.addExcludes [root]).1.catalog.files.keys ∧
      ∀ other ∈ (database.addExcludes [root]).1.catalog.paths, ¬tree.Lists other file := by
  have hPatterns : database.newPatterns [root] = [root] := by
    simp [newPatterns, hNew, hNe, List.eraseDups_cons]
  constructor
  · rw [keys_addExcludes, hPatterns, List.mem_filter]
    exact ⟨hTracked, by simp [hKept]⟩
  · intro other hOther hLists
    rw [mem_paths_addExcludes, hPatterns] at hOther
    have hSame := hOnly other hOther.1 hLists
    exact hOther.2 root (List.mem_singleton_self root) (hRoot.trans hSame.symm)

/-- If the present directory is given up as a root path, all files that only it lists stay without a
root path, apart from those with a component that refers to it. -/
theorem orphaned_by_dot (hNew : "." ∉ database.catalog.excludes)
    (hTracked : file ∈ database.catalog.files.keys)
    (hFile : "." ∉ Path.components (Path.normalize file))
    (hOnly : ∀ other ∈ database.catalog.paths, tree.Lists other file → other = ".") :
    file ∈ (database.addExcludes ["."]).1.catalog.files.keys ∧
      ∀ other ∈ (database.addExcludes ["."]).1.catalog.paths, ¬tree.Lists other file := by
  have hKept : Path.isExcluded file ["."] = false := by
    by_contra hExcluded
    exact hFile (Path.mem_components_of_isExcluded_dot (by simpa using hExcluded))
  exact orphaned_of_not_isExcluded (by decide) (by decide) hNew hTracked hKept hOnly

theorem singleFile_lists : (FileTree.singleFile "a.go").Lists "." "a.go" := by
  have hNames : (FileTree.singleFile "a.go").namesIn false "." = ["a.go"] :=
    FileTree.namesIn_singleFile "a.go"
  have hRoot : (FileTree.singleFile "a.go").isFile "." = false ∧
      (FileTree.singleFile "a.go").isDirectory "." = true := by decide
  have hPath : Path.join "." "a.go" = "./a.go" ∧ Path.normalize "./a.go" = "a.go" ∧
      (FileTree.singleFile "a.go").isFile "./a.go" = true := by decide
  have hFiles : "a.go" ∈ (FileTree.singleFile "a.go").plainFiles "." := by
    simp [FileTree.plainFiles, FileTree.filesBelow, hRoot, hNames, hPath]
  have hPlain : FileTree.isPattern "." = false := by decide
  exact ⟨_, FileTree.filesFrom_plain hPlain, hFiles⟩

/-- The file stays, and no root path does. -/
theorem singleFile_orphaned :
    "a.go" ∈ ((rootScan (FileTree.singleFile "a.go") ".").addExcludes ["."]).1.catalog.files.keys ∧
      ((rootScan (FileTree.singleFile "a.go") ".").addExcludes ["."]).1.catalog.paths = [] := by
  have hPaths : (rootScan (FileTree.singleFile "a.go") ".").catalog.paths = ["."] :=
    paths_rootScan (by decide)
  have hNone : (rootScan (FileTree.singleFile "a.go") ".").catalog.excludes = [] := by
    rw [rootScan_eq (by decide)]
    exact (Prod.mk.inj (settings_addRoots ["."])).2
  have hTracked := mem_keys_rootScan (by decide) singleFile_lists (by decide)
  have hOnly (other : String)
      (hOther : other ∈ (rootScan (FileTree.singleFile "a.go") ".").catalog.paths) :
      other = "." := by
    simpa [hPaths] using hOther
  obtain ⟨hStays, hOrphaned⟩ := orphaned_by_dot (by simp [hNone]) hTracked (by decide)
    fun other hOther _ => hOnly other hOther
  refine ⟨hStays, List.eq_nil_iff_forall_not_mem.mpr fun other hOther => ?_⟩
  obtain rfl := hOnly other (mem_paths_addExcludes.mp hOther).1
  exact hOrphaned "." hOther singleFile_lists

/-- The present directory is given up as a root path, but none of its files goes with it. -/
theorem dot_leaves_orphan :
    Reachable [⟨[.go], FileTree.singleFile "a.go"⟩] (rootScan (FileTree.singleFile "a.go") ".") ∧
      "." ∈ (rootScan (FileTree.singleFile "a.go") ".").catalog.paths ∧
      (FileTree.singleFile "a.go").Lists "." "a.go" ∧
      "a.go" ∈
        ((rootScan (FileTree.singleFile "a.go") ".").addExcludes ["."]).1.catalog.files.keys ∧
      ((rootScan (FileTree.singleFile "a.go") ".").addExcludes ["."]).1.catalog.paths = [] := by
  refine ⟨.addPaths ⟨[.go], FileTree.singleFile "a.go"⟩ ["."] .empty, ?_, singleFile_lists,
    singleFile_orphaned⟩
  rw [paths_rootScan (by decide)]
  exact List.mem_singleton_self _

/-- The file is orphaned because the present directory is loose. -/
theorem dot_isLoose :
    (FileTree.singleFile "a.go").HasFileNames ∧
      "a.go" ∈
        ((rootScan (FileTree.singleFile "a.go") ".").addExcludes ["."]).1.catalog.files.keys ∧
      (FileTree.singleFile "a.go").IsLoose "." "a.go" := by
  have hNames : (FileTree.singleFile "a.go").HasFileNames := by
    simp [FileTree.HasFileNames, FileTree.singleFile]
  obtain ⟨hTracked, hPaths⟩ := singleFile_orphaned
  refine ⟨hNames, hTracked, ?_⟩
  rcases listed_or_loose hNames (rootScan (FileTree.singleFile "a.go") ".") ["."] hTracked
    with ⟨root, hRoot, -⟩ | hLoose
  · rw [hPaths] at hRoot
    cases hRoot
  · refine (hLoose "." ?_ singleFile_lists).2
    rw [paths_rootScan (by decide)]
    exact List.mem_singleton_self _

end Database

end CodeIndex
