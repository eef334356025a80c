import CodeIndex.Proofs.DescribedPaths
import CodeIndex.Proofs.NormalPaths
import CodeIndex.Proofs.PhysicalLines
import CodeIndex.Proofs.StoredForm
import CodeIndex.Proofs.TreeGrowth
import Mathlib.Logic.Relation
import Mathlib.Order.WellFounded

/-! How a root path is expanded. What a pattern describes is expanded in turn, so that names with
wildcards in them are taken for patterns. The expansion ends exactly if there is no endless chain of
such names, and then it lists the files of all paths at the ends of chains. Where no name holds a
wildcard there are no chains, and nothing is lost. -/
namespace CodeIndex.FileTree

variable {tree : FileTree} {path : String} {depth : Nat} {files : List String}

/-- One step of an expansion: from a pattern to a path that it describes. -/
def Expands (tree : FileTree) (path next : String) : Prop :=
  isPattern path = true ∧ next ∈ tree.expandPattern path

/-- The files of a path that is not taken for a pattern. -/
def plainFiles (tree : FileTree) (path : String) : List String :=
  if tree.isFile path then [Path.normalize path]
  else if tree.isDirectory path then tree.filesBelow (tree.entries.length + 1) path
  else []

/-- A path that is no pattern is listed in one step. -/
theorem filesFrom_plain (hPlain : isPattern path = false) :
    tree.filesFrom (depth + 1) path = .ok (tree.plainFiles path) := by
  rw [filesFrom, plainFiles, hPlain]
  simp only [Bool.false_eq_true, if_false]
  split_ifs <;> rfl

/-- A pattern is listed by listing all that it matches. -/
theorem filesFrom_pattern_eq_ok_iff (hPattern : isPattern path = true) :
    tree.filesFrom (depth + 1) path = .ok files ↔
      ∃ lists, (tree.expandPattern path).mapM (tree.filesFrom depth) = .ok lists ∧
        files = lists.flatten := by
  rw [filesFrom, if_pos hPattern, bind_eq_ok_iff]
  simp only [pure, Except.pure, Except.ok.injEq, eq_comm]

/-- A result does not change if more steps are allowed. -/
theorem filesFrom_succ (hFiles : tree.filesFrom depth path = .ok files) :
    tree.filesFrom (depth + 1) path = .ok files := by
  induction depth generalizing path files with
  | zero => cases hFiles
  | succ depth ih =>
    by_cases hPattern : isPattern path = true
    · obtain ⟨lists, hLists, rfl⟩ := (filesFrom_pattern_eq_ok_iff hPattern).mp hFiles
      have hMore : (tree.expandPattern path).mapM (tree.filesFrom (depth + 1)) = .ok lists :=
        mapM_of_forall₂ ((forall₂_of_mapM hLists).imp fun _ _ => ih)
      exact (filesFrom_pattern_eq_ok_iff hPattern).mpr ⟨lists, hMore, rfl⟩
    · have hPlain : isPattern path = false := by simpa using hPattern
      rwa [filesFrom_plain hPlain] at hFiles ⊢

/-- More depth finds the same files. -/
theorem filesFrom_mono {more : Nat} (hFiles : tree.filesFrom depth path = .ok files)
    (hMore : depth ≤ more) : tree.filesFrom more path = .ok files := by
  induction hMore with
  | refl => exact hFiles
  | step _ ih => exact filesFrom_succ ih

/-! When an expansion ends -/

/-- Finitely many expansions that end do so within a common number of steps. -/
theorem exists_common_depth {paths : List String}
    (hPaths : ∀ path ∈ paths, ∃ depth files, tree.filesFrom depth path = .ok files) :
    ∃ depth, ∀ path ∈ paths, ∃ files, tree.filesFrom depth path = .ok files := by
  induction paths with
  | nil => exact ⟨0, nofun⟩
  | cons path paths ih =>
    obtain ⟨first, files, hFirst⟩ := hPaths path List.mem_cons_self
    obtain ⟨others, hOthers⟩ := ih fun other hOther => hPaths other (List.mem_cons_of_mem _ hOther)
    refine ⟨max first others, List.forall_mem_cons.mpr ⟨?_, fun other hOther => ?_⟩⟩
    · exact ⟨files, filesFrom_mono hFirst (Nat.le_max_left _ _)⟩
    · obtain ⟨files, hFiles⟩ := hOthers other hOther
      exact ⟨files, filesFrom_mono hFiles (Nat.le_max_right _ _)⟩

/-- An expansion ends exactly if the steps from its path on are well founded. -/
theorem exists_filesFrom_iff_acc :
    (∃ depth files, tree.filesFrom depth path = .ok files) ↔
      Acc (fun next path => tree.Expands path next) path := by
  constructor
  · rintro ⟨depth, files, hFiles⟩
    induction depth generalizing path files with
    | zero => cases hFiles
    | succ depth ih =>
      constructor
      rintro next ⟨hPattern, hNext⟩
      obtain ⟨lists, hLists, -⟩ := (filesFrom_pattern_eq_ok_iff hPattern).mp hFiles
      obtain ⟨list, -, hList⟩ := exists_mem_of_mapM hLists hNext
      exact ih list hList
  · intro hAcc
    induction hAcc with
    | intro path _ ih =>
      by_cases hPattern : isPattern path = true
      · obtain ⟨depth, hDepth⟩ :=
          exists_common_depth fun next hNext => ih next ⟨hPattern, hNext⟩
        obtain ⟨lists, hLists⟩ := exists_mapM_eq_ok hDepth
        exact ⟨depth + 1, lists.flatten,
          (filesFrom_pattern_eq_ok_iff hPattern).mpr ⟨lists, hLists, rfl⟩⟩
      · exact ⟨1, _, filesFrom_plain (by simpa using hPattern)⟩

/-! What an expansion lists -/

/-- An expansion that ends lists the files of all plain paths that its steps lead to. -/
theorem mem_filesFrom_iff (hFiles : tree.filesFrom depth path = .ok files) {file : String} :
    file ∈ files ↔ ∃ last, Relation.ReflTransGen tree.Expands path last ∧
      isPattern last = false ∧ file ∈ tree.plainFiles last := by
  induction depth generalizing path files with
  | zero => cases hFiles
  | succ depth ih =>
    by_cases hPattern : isPattern path = true
    · obtain ⟨lists, hLists, rfl⟩ := (filesFrom_pattern_eq_ok_iff hPattern).mp hFiles
      constructor
      · intro hFile
        obtain ⟨list, hList, hFile⟩ := List.mem_flatten.mp hFile
        obtain ⟨next, hNext, hSame⟩ := exists_of_mem_mapM hLists hList
        obtain ⟨last, hSteps, hLast⟩ := (ih hSame).mp hFile
        exact ⟨last, .head ⟨hPattern, hNext⟩ hSteps, hLast⟩
      · rintro ⟨last, hSteps, hPlain, hFile⟩
        rcases hSteps.cases_head with rfl | ⟨next, ⟨-, hNext⟩, hRest⟩
        · exact absurd hPattern (by simp [hPlain])
        · obtain ⟨list, hList, hSame⟩ := exists_mem_of_mapM hLists hNext
          exact List.mem_flatten_of_mem hList ((ih hSame).mpr ⟨last, hRest, hPlain, hFile⟩)
    · have hPlain : isPattern path = false := by simpa using hPattern
      rw [filesFrom_plain hPlain] at hFiles
      obtain rfl := Except.ok.inj hFiles
      constructor
      · intro hFile
        exact ⟨path, .refl, hPlain, hFile⟩
      · rintro ⟨last, hSteps, -, hFile⟩
        rcases hSteps.cases_head with rfl | ⟨next, ⟨hStep, -⟩, -⟩
        · exact hFile
        · exact absurd hStep hPattern

/-! Trees without wildcards in their names -/

theorem mem_entries_of_entryAt {place : List String} {entry : Entry}
    (hEntry : tree.entryAt place = some entry) (hPlace : place ≠ []) :
    (place, entry) ∈ tree.entries := by
  rw [entryAt, if_neg (by simpa using hPlace)] at hEntry
  obtain ⟨before, after, hEntries, -⟩ := List.lookup_eq_some_iff.mp hEntry
  simp [hEntries]

theorem exists_mem_splitAt {separator c : Char} {text : List Char} (hMem : c ∈ text)
    (hNe : c ≠ separator) : ∃ piece ∈ splitAt separator text, c ∈ piece := by
  induction text with
  | nil => cases hMem
  | cons d rest ih =>
    by_cases hSeparator : d = separator
    · rw [splitAt, if_pos hSeparator]
      rcases List.mem_cons.mp hMem with rfl | hMem
      · exact absurd hSeparator hNe
      · obtain ⟨piece, hPiece, hIn⟩ := ih hMem
        exact ⟨piece, List.mem_cons_of_mem _ hPiece, hIn⟩
    · obtain ⟨first, pieces, hRest⟩ := List.exists_cons_of_ne_nil (splitAt_ne_nil separator rest)
      rw [splitAt_cons_of_ne rest hSeparator hRest]
      rw [hRest] at ih
      rcases List.mem_cons.mp hMem with rfl | hMem
      · exact ⟨c :: first, List.mem_cons_self, List.mem_cons_self⟩
      · obtain ⟨piece, hPiece, hIn⟩ := ih hMem
        rcases List.mem_cons.mp hPiece with rfl | hPiece
        · exact ⟨d :: piece, List.mem_cons_self, List.mem_cons_of_mem _ hIn⟩
        · exact ⟨piece, List.mem_cons_of_mem _ hPiece, hIn⟩

theorem exists_locate_of_isFile (hFile : tree.isFile path = true) :
    ∃ place, tree.locate true path = .ok place ∧ (tree.entryAt place).isSome = true := by
  rw [isFile] at hFile
  split at hFile
  · next hStatus =>
    obtain ⟨place, hLocate, hEntry⟩ := bind_eq_ok_iff.mp hStatus
    refine ⟨place, hLocate, ?_⟩
    cases hSome : tree.entryAt place with
    | none => simp [hSome, throw, throwThe, MonadExceptOf.throw] at hEntry
    | some entry => rfl
  · cases hFile

namespace HasPlainNames

variable {followsLast : Bool} {start components place : List String}

/-- In a tree with plain names a name with a wildcard leads nowhere. -/
theorem isPattern_of_entryAt (hNames : tree.HasPlainNames) {component : String}
    (hEntry : (tree.entryAt (start ++ [component])).isSome = true) :
    isPattern component = false := by
  obtain ⟨entry, hEntry⟩ := Option.isSome_iff_exists.mp hEntry
  exact hNames _ (mem_entries_of_entryAt hEntry (by simp)) component (by simp)

/-- A way that ends at an entry goes by plain components only. -/
theorem isPattern_of_descend (hNames : tree.HasPlainNames)
    {follow : List String → List String → Except FileFault (List String)}
    (hFollow : ∀ start components place, follow start components = .ok place →
      (tree.entryAt place).isSome = true → ∀ component ∈ components, isPattern component = false)
    (hDescend : tree.descend followsLast follow start components = .ok place)
    (hEntry : (tree.entryAt place).isSome = true) :
    ∀ component ∈ components, isPattern component = false := by
  induction components generalizing start with
  | nil => nofun
  | cons component rest ih =>
    rw [List.forall_mem_cons]
    rcases component_of_descend hDescend with hStay | rfl | hName
    · rw [descend_stay hStay] at hDescend
      refine ⟨?_, ih hDescend⟩
      rcases hStay with rfl | rfl <;> rfl
    · rw [descend_back] at hDescend
      exact ⟨rfl, ih hDescend⟩
    · cases hName.continues hDescend with
      | down hDirectory hRest =>
        exact ⟨hNames.isPattern_of_entryAt (by rw [hDirectory]; rfl), ih hRest⟩
      | follow hLink _ hRest =>
        refine ⟨hNames.isPattern_of_entryAt (by rw [hLink]; rfl), fun other hOther => ?_⟩
        exact hFollow _ _ _ hRest hEntry other (List.mem_append_right _ hOther)
      | finish hEnd _ _ hPlace =>
        rw [hPlace] at hEntry
        exact ⟨hNames.isPattern_of_entryAt hEntry, by simp [hEnd]⟩

/-- In such a tree a path that leads somewhere is no pattern. The induction is on the links that may
be followed. -/
theorem isPattern_of_walk (hNames : tree.HasPlainNames) {links : Nat}
    (hWalk : tree.walk followsLast links start components = .ok place)
    (hEntry : (tree.entryAt place).isSome = true) :
    ∀ component ∈ components, isPattern component = false := by
  induction links generalizing start components place with
  | zero =>
    refine hNames.isPattern_of_descend ?_ hWalk hEntry
    intro _ _ _ hLoop
    cases hLoop
  | succ links ih =>
    exact hNames.isPattern_of_descend (fun _ _ _ hRest hPlace => ih hRest hPlace) hWalk hEntry

/-- A path that names a file is not taken for a pattern. -/
theorem isPattern_of_isFile (hNames : tree.HasPlainNames) (hFile : tree.isFile path = true) :
    isPattern path = false := by
  obtain ⟨place, hLocate, hEntry⟩ := exists_locate_of_isFile hFile
  have hComponents : ∀ component ∈ Path.components path, isPattern component = false := by
    rw [locate] at hLocate
    split at hLocate
    · cases hLocate
    · exact hNames.isPattern_of_walk hLocate hEntry
  rw [Bool.eq_false_iff]
  intro hPattern
  obtain ⟨c, hMem, hMagic⟩ := List.any_eq_true.mp hPattern
  have hSlash : c ≠ '/' := by
    rintro rfl
    cases hMagic
  obtain ⟨piece, hPiece, hIn⟩ := exists_mem_splitAt hMem hSlash
  have hPlain := hComponents (String.ofList piece) (List.mem_map_of_mem hPiece)
  rw [isPattern, String.toList_ofList] at hPlain
  exact absurd hMagic (by simpa using List.any_eq_false.mp hPlain c hIn)

end HasPlainNames

/-- Without wildcards in names, what a pattern describes is not expanded in turn. -/
theorem HasPlainNames.exists_files (hNames : tree.HasPlainNames) (path : String) :
    ∃ files, tree.files path = .ok files := by
  have hTwo : ∃ files, tree.filesFrom 2 path = .ok files := by
    by_cases hPattern : isPattern path = true
    · have hEach : ∀ found ∈ tree.expandPattern path, ∃ files,
          tree.filesFrom 1 found = .ok files := by
        intro found hFound
        have hMatch := mem_matchesOf_of_mem_expandPattern hFound
        exact ⟨_, filesFrom_plain (hNames.isPattern_of_mem_matchesOf hMatch)⟩
      obtain ⟨lists, hLists⟩ := exists_mapM_eq_ok hEach
      exact ⟨_, (filesFrom_pattern_eq_ok_iff hPattern).mpr ⟨lists, hLists, rfl⟩⟩
    · exact ⟨_, filesFrom_plain (by simpa using hPattern)⟩
  obtain ⟨files, hFiles⟩ := hTwo
  exact ⟨files, filesFrom_mono hFiles (by decide)⟩

theorem mem_plainFiles_of_isFile (hFile : tree.isFile path = true) :
    Path.normalize path ∈ tree.plainFiles path := by
  rw [plainFiles, if_pos hFile]
  exact List.mem_singleton_self _

/-- The expansion of a root path ends exactly if no endless chain of patterns, each described by the
one before, starts at it. If it ends, it lists the files of all paths that such chains lead to and
that are no patterns themselves. In a tree without wildcards in its names it always ends; a root
path that names a file lists this file, and a pattern lists every file that it describes. -/
theorem expansion_extent (tree : FileTree) (path : String) :
    ((∃ depth files, tree.filesFrom depth path = .ok files) ↔
      ¬∃ chain : Nat → String, chain 0 = path ∧ ∀ n, tree.Expands (chain n) (chain (n + 1))) ∧
    (∀ depth files, tree.filesFrom depth path = .ok files → ∀ file, file ∈ files ↔
      ∃ last, Relation.ReflTransGen tree.Expands path last ∧ isPattern last = false ∧
        file ∈ tree.plainFiles last) ∧
    (tree.HasPlainNames → ∃ files, tree.files path = .ok files ∧
      (tree.isFile path = true → Path.normalize path ∈ files) ∧
      (isPattern path = true → ∀ found ∈ tree.expandPattern path, tree.isFile found = true →
        Path.normalize found ∈ files)) := by
  refine ⟨?_, fun depth files hFiles file => mem_filesFrom_iff hFiles, fun hNames => ?_⟩
  · exact exists_filesFrom_iff_acc.trans
      (not_not.symm.trans (not_congr not_acc_iff_exists_descending_chain))
  · obtain ⟨files, hFiles⟩ := hNames.exists_files path
    refine ⟨files, hFiles, fun hFile => ?_, fun hPattern found hFound hFile => ?_⟩
    · exact (mem_filesFrom_iff hFiles).mpr
        ⟨path, .refl, hNames.isPattern_of_isFile hFile, mem_plainFiles_of_isFile hFile⟩
    · exact (mem_filesFrom_iff hFiles).mpr ⟨found, .single ⟨hPattern, hFound⟩,
        hNames.isPattern_of_isFile hFile, mem_plainFiles_of_isFile hFile⟩

/-- A tree with one file. -/
def singleFile (name : String) : FileTree := { entries := [([name], .file [] 1000)] }

theorem namesIn_singleFile (name : String) : (singleFile name).namesIn false "" = [name] := by
  have hDirectory : (singleFile name).isDirectory "." = true := by rfl
  have hPlace : (singleFile name).locate true "." = .ok [] := by rfl
  have hChildren : (singleFile name).children [] = [name] := by simp [children, singleFile]
  simp [namesIn, hDirectory, hPlace, hChildren]

/-- A pattern of one component matches the only file or nothing. -/
theorem expandPattern_singleFile {name pattern : String} (isMatch : Bool) (hName : name ≠ "")
    (hShown : isHidden name = false) (hPattern : isPattern pattern = true)
    (hSlash : '/' ∉ pattern.toList) (hStars : pattern ≠ "**")
    (hMatch : Wildcard.isMatch pattern.toList name.toList = isMatch) :
    (singleFile name).expandPattern pattern = if isMatch then [name] else [] := by
  have hFound : (singleFile name).matchesOf (pattern.length + 1) false pattern =
      if isMatch then [name] else [] := by
    simp [matchesOf, matchesIn, Path.splitLast_of_not_mem hSlash, hPattern, hStars,
      namesIn_singleFile, hShown, hMatch, List.filter_cons]
  rw [expandPattern, hFound]
  cases isMatch with
  | true =>
    simp only [if_true, sortNames]
    split
    · next hEmpty => exact absurd (List.cons.inj hEmpty).1 hName
    · exact List.mergeSort_singleton _
  | false => exact List.mergeSort_nil

/-- A name without wildcards is found by a pattern. -/
theorem plainName_listed :
    (singleFile "a.go").HasPlainNames ∧ isPattern "*.go" = true ∧
      ∃ files, (singleFile "a.go").files "*.go" = .ok files ∧ "a.go" ∈ files := by
  have hNames : (singleFile "a.go").HasPlainNames := by
    have hPlain : isPattern "a.go" = false := by decide
    simp [HasPlainNames, singleFile, hPlain]
  have hPattern : isPattern "*.go" = true := by decide
  have hFound : (singleFile "a.go").expandPattern "*.go" = ["a.go"] :=
    expandPattern_singleFile true (by decide) (by decide) hPattern (by decide) (by decide) (by cbv)
  obtain ⟨-, -, hPlain⟩ := expansion_extent (singleFile "a.go") "*.go"
  obtain ⟨files, hFiles, -, hListed⟩ := hPlain hNames
  have hMem : "a.go" ∈ (singleFile "a.go").expandPattern "*.go" := by
    rw [hFound]
    exact List.mem_singleton_self _
  exact ⟨hNames, hPattern, files, hFiles, hListed hPattern "a.go" hMem (by decide)⟩

/-- A name with a set in it that describes another name is lost, both as a root path and where a
pattern describes it. A name that is taken for a pattern of itself is expanded without end. -/
theorem wildcardName_not_listed :
    (singleFile "a[b].go").isFile "a[b].go" = true ∧
    (singleFile "a[b].go").files "a[b].go" = .ok [] ∧
    "a[b].go" ∈ (singleFile "a[b].go").expandPattern "*.go" ∧
    (singleFile "a[b].go").files "*.go" = .ok [] ∧
    (singleFile "[").isFile "[" = true ∧
    ∀ depth, (singleFile "[").filesFrom depth "[" = .error .endlessExpansion := by
  have hSet : (singleFile "a[b].go").expandPattern "a[b].go" = [] :=
    expandPattern_singleFile false (by decide) (by decide) (by decide) (by decide) (by decide)
      (by cbv)
  have hStar : (singleFile "a[b].go").expandPattern "*.go" = ["a[b].go"] :=
    expandPattern_singleFile true (by decide) (by decide) (by decide) (by decide) (by decide)
      (by cbv)
  have hOpen : (singleFile "[").expandPattern "[" = ["["] :=
    expandPattern_singleFile true (by decide) (by decide) (by decide) (by decide) (by decide)
      (by cbv)
  have hLost : (singleFile "a[b].go").filesFrom 1 "a[b].go" = .ok [] :=
    (filesFrom_pattern_eq_ok_iff (by decide)).mpr ⟨[], by rw [hSet]; rfl, rfl⟩
  refine ⟨by decide, filesFrom_mono hLost (by decide), by rw [hStar]; decide, ?_, by decide, ?_⟩
  · have hFiles : (singleFile "a[b].go").filesFrom 2 "*.go" = .ok [] := by
      refine (filesFrom_pattern_eq_ok_iff (by decide)).mpr ⟨[[]], ?_, rfl⟩
      rw [hStar]
      exact mapM_of_forall₂ (.cons hLost .nil)
    exact filesFrom_mono hFiles (by decide)
  · intro depth
    induction depth with
    | zero => rfl
    | succ depth ih =>
      rw [filesFrom, if_pos (by decide), hOpen, List.mapM_cons, ih]
      rfl

end CodeIndex.FileTree
