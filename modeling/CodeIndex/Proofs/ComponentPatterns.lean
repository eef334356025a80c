import CodeIndex.Proofs.ExclusionBelow
import CodeIndex.Proofs.RootExpansion
import Mathlib.Data.List.TakeWhile

/-! Patterns that mean the same as a whole and component by component. What such a pattern describes
in a file tree, directory by directory, it also describes as a single text, and so it excludes all
the files that it leads to. -/
namespace CodeIndex

namespace Path

/-- A path that starts like a normal one: it is neither empty nor the present directory, and does
not refer to the present directory at its start. -/
structure HasNormalStart (path : List Char) : Prop where
  ne_nil : path ≠ []
  ne_dot : path ≠ ['.']
  not_prefix : ¬['.', '/'] <+: path

namespace HasNormalStart

variable {path : List Char}

/-- A path that starts like a normal one still does when more follows. -/
theorem append (hStart : HasNormalStart path) (more : List Char) :
    HasNormalStart (path ++ more) := by
  obtain ⟨hNe, hDot, hPrefix⟩ := hStart
  rcases path with _ | ⟨c, _ | ⟨d, rest⟩⟩
  · exact absurd rfl hNe
  · have hOther : c ≠ '.' := fun hSame => hDot (by rw [hSame])
    exact ⟨by simp, by simp [hOther], by simp [Ne.symm hOther]⟩
  · refine ⟨by simp, by simp, fun hMore => hPrefix ?_⟩
    simpa [List.cons_prefix_cons] using hMore

/-- What stands before a slash in such a path starts like a normal path too. -/
theorem of_append_slash {more : List Char} (hStart : HasNormalStart (path ++ '/' :: more))
    (hNe : path ≠ []) : HasNormalStart path := by
  refine ⟨hNe, ?_, fun hPrefix => hStart.not_prefix (hPrefix.trans (List.prefix_append _ _))⟩
  rintro rfl
  exact hStart.not_prefix ⟨more, rfl⟩

theorem of_slash (rest : List Char) : HasNormalStart ('/' :: rest) :=
  ⟨by simp, by simp, by simp⟩

/-- More text behind such a path stays behind it in the normal form. -/
theorem normalizeChars_append (hStart : HasNormalStart path) (hPath : '\\' ∉ path)
    (more : List Char) :
    normalizeChars (path ++ more) = path ++ more.map fun c => if c = '\\' then '/' else c := by
  have hDots : dropDots path = path := by
    apply dropDots.eq_2
    rintro rest rfl
    exact hStart.not_prefix ⟨rest, rfl⟩
  have hNormal : normalizeChars path = path :=
    normalizeChars_of_dropDots hStart.ne_nil (fun c hMem => ne_of_mem_of_not_mem hMem hPath) hDots
  rw [Path.normalizeChars_append (by rw [hNormal]; exact hStart.ne_dot), hNormal]

end HasNormalStart

/-- All references to the present directory at the start are left out. -/
theorem not_prefix_dropDots (path : List Char) : ¬['.', '/'] <+: dropDots path := by
  fun_induction dropDots path with
  | case1 rest ih => exact ih
  | case2 path hPath =>
    rintro ⟨rest, rfl⟩
    exact hPath rest rfl

/-- Normal paths other than the present directory hold no backslash and start like normal ones. -/
theorem hasNormalStart_normalizeChars {path : List Char} (hDot : normalizeChars path ≠ ['.']) :
    HasNormalStart (normalizeChars path) ∧ '\\' ∉ normalizeChars path := by
  rcases normalizeChars_cases path with hSame | ⟨hDots, hNe⟩
  · exact absurd hSame hDot
  · refine ⟨⟨hNe, hDot, hDots ▸ not_prefix_dropDots _⟩, fun hMem => ?_⟩
    rw [hDots] at hMem
    obtain ⟨old, -, hOld⟩ := List.mem_map.mp ((dropDots_suffix _).subset hMem)
    split_ifs at hOld with hBackslash
    · cases hOld
    · exact hBackslash hOld

/-- Whether a path is the given one or goes on from it with another component. -/
def IsAtOrBelow (start path : List Char) : Prop :=
  ∃ more, path = start ++ more ∧
    (more = [] ∨ more.head? = some '/' ∨ start.getLast? = some '/')

/-- What is below something below a path is below the path. -/
theorem IsAtOrBelow.trans {first second third : List Char} (hFirst : IsAtOrBelow first second)
    (hSecond : IsAtOrBelow second third) : IsAtOrBelow first third := by
  obtain ⟨more, rfl, hMore⟩ := hFirst
  obtain ⟨rest, rfl, hRest⟩ := hSecond
  refine ⟨more ++ rest, List.append_assoc .., ?_⟩
  rcases hMore with rfl | hSlash | hSlash
  · simpa using hRest
  · cases more with
    | nil => cases hSlash
    | cons c more => exact .inr (.inl hSlash)
  · exact .inr (.inr hSlash)

end Path

namespace FileTree

variable {tree : FileTree} {onlyDirectories : Bool} {depth : Nat} {name path file : String}

/-- Whether all names in a tree are ones that files can have. -/
def HasFileNames (tree : FileTree) : Prop :=
  ∀ entry ∈ tree.entries, ∀ name ∈ entry.1, name ≠ "" ∧ name ≠ "." ∧ '/' ∉ name.toList

/-! The files of a path -/

theorem isAbsolute_of_not_mem (hSlash : '/' ∉ name.toList) : Path.isAbsolute name = false := by
  rw [Path.isAbsolute, decide_eq_false_iff_not]
  exact fun hHead => hSlash (List.mem_of_head? hHead)

/-- A name that is joined to a directory is below it. -/
theorem isAtOrBelow_join {directory : String} (hDirectory : directory ≠ "")
    (hName : Path.isAbsolute name = false) :
    Path.IsAtOrBelow directory.toList (Path.join directory name).toList := by
  rw [Path.join, hName]
  by_cases hSlash : directory.toList.getLast? = some '/'
  · exact ⟨name.toList, by simp [hSlash], .inr (.inr hSlash)⟩
  · exact ⟨'/' :: name.toList, by simp [hSlash, hDirectory], .inr (.inl rfl)⟩

namespace HasFileNames

variable (hNames : tree.HasFileNames)
include hNames

/-- The names in a directory are names that files can have. -/
theorem of_mem_namesIn {directory : String}
    (hName : name ∈ tree.namesIn onlyDirectories directory) :
    name ≠ "" ∧ name ≠ "." ∧ '/' ∉ name.toList := by
  obtain ⟨entry, hEntry, hMem⟩ := exists_of_mem_namesIn hName
  exact hNames entry hEntry name hMem

theorem hasNormalStart_of_mem_namesIn {directory : String}
    (hName : name ∈ tree.namesIn onlyDirectories directory) :
    Path.HasNormalStart name.toList := by
  obtain ⟨hNe, hDot, hSlash⟩ := hNames.of_mem_namesIn hName
  refine ⟨by simpa using hNe, fun hSame => hDot ?_, fun hPrefix => ?_⟩
  · rw [← String.ofList_toList (s := name), hSame]
  · exact hSlash (hPrefix.subset (by simp))

/-- All files found below a directory are normal forms of paths below it. The induction is on the
depth. -/
theorem isAtOrBelow_of_mem_filesBelow {directory : String} (hDirectory : directory ≠ "")
    (hFile : file ∈ tree.filesBelow depth directory) :
    ∃ path, Path.IsAtOrBelow directory.toList path ∧ file.toList = Path.normalizeChars path := by
  induction depth generalizing directory with
  | zero => cases hFile
  | succ depth ih =>
    have hPath {path : String}
        (hMem : path ∈ (tree.namesIn false directory).map (Path.join directory)) :
        Path.IsAtOrBelow directory.toList path.toList := by
      obtain ⟨name, hName, rfl⟩ := List.mem_map.mp hMem
      exact isAtOrBelow_join hDirectory (isAbsolute_of_not_mem (hNames.of_mem_namesIn hName).2.2)
    rw [filesBelow] at hFile
    rcases List.mem_append.mp hFile with hHere | hBelow
    · obtain ⟨path, hMem, rfl⟩ := List.mem_map.mp hHere
      exact ⟨path.toList, hPath (List.mem_of_mem_filter hMem), by simp [Path.normalize]⟩
    · obtain ⟨next, hNext, hFile⟩ := List.mem_flatMap.mp hBelow
      have hStep := hPath (List.mem_of_mem_filter hNext)
      have hNe : next ≠ "" := by
        rintro rfl
        obtain ⟨more, hSame, -⟩ := hStep
        exact hDirectory (by simpa using (List.append_eq_nil_iff.mp hSame.symm).1)
      obtain ⟨path, hLonger, hNormal⟩ := ih hNe hFile
      exact ⟨path, hStep.trans hLonger, hNormal⟩

/-- The files of a plain path are the normal forms of paths at it or below it. -/
theorem isAtOrBelow_of_mem_plainFiles (hFile : file ∈ tree.plainFiles path) :
    path ≠ "" ∧ ∃ longer, Path.IsAtOrBelow path.toList longer ∧
      file.toList = Path.normalizeChars longer := by
  have hNe : path ≠ "" := by
    rintro rfl
    have hNoFile : tree.isFile "" = false := rfl
    have hNoDirectory : tree.isDirectory "" = false := rfl
    simp [plainFiles, hNoFile, hNoDirectory] at hFile
  refine ⟨hNe, ?_⟩
  rw [plainFiles] at hFile
  split_ifs at hFile
  · obtain rfl := List.mem_singleton.mp hFile
    exact ⟨path.toList, ⟨[], by simp, .inl rfl⟩, by simp [Path.normalize]⟩
  · exact hNames.isAtOrBelow_of_mem_filesBelow hNe hFile
  · cases hFile

end HasFileNames

end FileTree

/-! Patterns that are read by components -/

/-- Whether a pattern means the same as a whole and by components: no set holds a slash, two stars
stand for more than a name only at its end, and there are no empty components inside it. -/
structure IsComponentwise (pattern : List Char) : Prop where
  sets : ∀ content ∈ Wildcard.sets pattern, '/' ∉ content
  stars : ['*', '*'] ∉ (splitAt '/' pattern).dropLast
  proper : [] ∉ (splitAt '/' pattern).dropWhile List.isEmpty

namespace IsComponentwise

variable {directory last : List Char}

/-- A pattern that is read by components describes a directory and a name in it if its parts do so
one by one. -/
theorem isMatch_append (hPattern : IsComponentwise (directory ++ '/' :: last))
    {start name : List Char} (hStart : Wildcard.isMatch directory start = true)
    (hName : Wildcard.isMatch last name = true) :
    Wildcard.isMatch (directory ++ '/' :: last) (start ++ '/' :: name) = true := by
  rw [Wildcard.isMatch] at hName ⊢
  rw [(Wildcard.read_slash hPattern.sets).1]
  refine Wildcard.takesAll_append_iff.mpr ⟨start, '/' :: name, rfl, hStart, ?_⟩
  simpa [Wildcard.takesAll, Wildcard.accepts] using hName

theorem splitAt_concat (hLast : '/' ∉ last) :
    splitAt '/' (directory ++ '/' :: last) = splitAt '/' directory ++ [last] := by
  rw [splitAt_append, splitAt_of_not_mem hLast]

/-- What stands before the last component is read by components too, and has no two stars. -/
theorem of_append_slash (hPattern : IsComponentwise (directory ++ '/' :: last))
    (hLast : '/' ∉ last) :
    IsComponentwise directory ∧ ['*', '*'] ∉ splitAt '/' directory := by
  have hStars := hPattern.stars
  rw [splitAt_concat hLast, List.dropLast_concat] at hStars
  refine ⟨⟨fun content hContent => ?_, fun hMem => ?_, fun hMem => ?_⟩, hStars⟩
  · apply hPattern.sets
    rw [(Wildcard.read_slash hPattern.sets).2]
    exact List.mem_append_left _ hContent
  · exact hStars ((List.dropLast_sublist _).subset hMem)
  · refine hPattern.proper ?_
    rw [splitAt_concat hLast, List.dropWhile_append]
    split_ifs with hEmpty
    · rw [List.isEmpty_iff.mp hEmpty] at hMem
      cases hMem
    · exact List.mem_append_left _ hMem

end IsComponentwise

/-- A pattern that is read by components, starts like a normal path and has no slash at its end. -/
structure IsClean (pattern : List Char) : Prop extends IsComponentwise pattern where
  start : Path.HasNormalStart pattern
  last : pattern.getLast? ≠ some '/'

/-- How a clean pattern is cut after its last slash: not at all, behind slashes at its start, or
behind another clean pattern. -/
inductive LastCut (pattern : String) : Prop
  | none (hSlash : '/' ∉ pattern.toList) (hCut : Path.splitLast pattern = ("", pattern))
  | root {slashes last : List Char} (hPattern : pattern.toList = slashes ++ '/' :: last)
    (hSlashes : ∀ c ∈ slashes, c = '/') (hLast : '/' ∉ last)
    (hCut : Path.splitLast pattern = (String.ofList (slashes ++ ['/']), String.ofList last))
  | directory {directory last : List Char} (hPattern : pattern.toList = directory ++ '/' :: last)
    (hDirectory : IsClean directory) (hStars : ['*', '*'] ∉ splitAt '/' directory)
    (hLast : '/' ∉ last)
    (hCut : Path.splitLast pattern = (String.ofList directory, String.ofList last))

namespace IsClean

theorem dropWhile_splitAt_ne_nil {c : Char} {text : List Char} (hMem : c ∈ text)
    (hSlash : c ≠ '/') :
    (splitAt '/' text).dropWhile List.isEmpty ≠ [] := by
  intro hEmpty
  obtain ⟨piece, hPiece, hIn⟩ := FileTree.exists_mem_splitAt hMem hSlash
  rw [List.isEmpty_iff.mp (List.dropWhile_eq_nil_iff.mp hEmpty piece hPiece)] at hIn
  cases hIn

/-- Behind a component there is one slash only. -/
theorem slashes_eq {directory slashes last : List Char}
    (hPattern : IsComponentwise (directory ++ (slashes ++ last)))
    (hDirectory : directory ≠ []) (hEnd : directory.getLast? ≠ some '/') (hNe : slashes ≠ [])
    (hSlashes : ∀ c ∈ slashes, c = '/') : slashes = ['/'] := by
  rcases slashes with _ | ⟨c, _ | ⟨d, slashes⟩⟩
  · exact absurd rfl hNe
  · rw [hSlashes c (by simp)]
  · obtain rfl : c = '/' := hSlashes c (by simp)
    obtain rfl : d = '/' := hSlashes d (by simp)
    obtain ⟨e, hLast⟩ := Option.isSome_iff_exists.mp (List.getLast?_isSome.mpr hDirectory)
    have hOther : e ≠ '/' := fun hSame => hEnd (hSame ▸ hLast)
    have hSome := dropWhile_splitAt_ne_nil (List.mem_of_getLast? hLast) hOther
    have hProper := hPattern.proper
    rw [List.cons_append, List.cons_append, splitAt_append, List.dropWhile_append,
      if_neg (by simpa using hSome)] at hProper
    exact absurd (by simp [splitAt]) hProper

theorem lastCut {pattern : String} (hPattern : IsClean pattern.toList) : LastCut pattern := by
  obtain ⟨directory, slashes, last, hText, hLast, hSlashes, hEnd, hNe, hCut⟩ :=
    Path.splitLast_spec pattern
  by_cases hDirectory : directory = []
  · subst hDirectory
    rcases List.eq_nil_or_concat slashes with rfl | ⟨others, c, rfl⟩
    · rw [List.nil_append, List.nil_append] at hText
      have hSlash : '/' ∉ pattern.toList := hText ▸ hLast
      exact .none hSlash (Path.splitLast_of_not_mem hSlash)
    · obtain rfl : c = '/' := hSlashes c (by simp)
      rw [List.concat_eq_append] at hCut
      have hRoot : pattern.toList = others ++ '/' :: last := by simpa using hText
      exact .root hRoot (fun c hMem => hSlashes c (by simp [hMem])) hLast hCut
  · rw [hText] at hPattern
    obtain rfl := slashes_eq hPattern.toIsComponentwise hDirectory hEnd (hNe hDirectory) hSlashes
    obtain ⟨hComponentwise, hStars⟩ := hPattern.toIsComponentwise.of_append_slash hLast
    have hStart := hPattern.start.of_append_slash hDirectory
    refine .directory (by simpa using hText) ⟨hComponentwise, hStart, hEnd⟩ hStars hLast ?_
    rw [hCut]
    cases directory with
    | nil => exact absurd rfl hDirectory
    | cons c directory => rfl

theorem splitLast_snd_of_fst {pattern : String} (hPattern : IsClean pattern.toList)
    (hDirectory : (Path.splitLast pattern).1 = "") : (Path.splitLast pattern).2 = pattern := by
  cases hPattern.lastCut with
  | none _ hCut => rw [hCut]
  | root _ _ _ hCut => simp [hCut] at hDirectory
  | directory _ hClean _ _ hCut =>
    rw [hCut] at hDirectory
    exact absurd (by simpa using hDirectory) hClean.start.ne_nil

/-- What stands behind its last slash is the last component of a clean pattern, which is never
empty. -/
theorem getLast?_splitAt {pattern : String} (hPattern : IsClean pattern.toList) :
    (Path.splitLast pattern).2 ≠ "" ∧
      (splitAt '/' pattern.toList).getLast? = some (Path.splitLast pattern).2.toList := by
  have hBehind {before last : List Char} (hText : pattern.toList = before ++ '/' :: last)
      (hLast : '/' ∉ last) : last ≠ [] ∧ (splitAt '/' pattern.toList).getLast? = some last := by
    refine ⟨?_, by simp [hText, IsComponentwise.splitAt_concat hLast]⟩
    rintro rfl
    exact hPattern.last (by simp [hText])
  cases hPattern.lastCut with
  | none hSlash hCut =>
    rw [hCut, splitAt_of_not_mem hSlash]
    exact ⟨by simpa using hPattern.start.ne_nil, rfl⟩
  | root hText _ hLast hCut => simpa [hCut] using hBehind hText hLast
  | directory hText _ _ hLast hCut => simpa [hCut] using hBehind hText hLast

/-- Two stars can only be the last component of a clean pattern. -/
theorem splitLast_snd_eq_stars {pattern : String} (hPattern : IsClean pattern.toList)
    (hStars : ['*', '*'] ∈ splitAt '/' pattern.toList) : (Path.splitLast pattern).2 = "**" := by
  obtain ⟨-, hLast⟩ := hPattern.getLast?_splitAt
  rw [← List.dropLast_append_getLast? _ hLast, List.mem_append, List.mem_singleton] at hStars
  rcases hStars with hBefore | hSame
  · exact absurd hBefore hPattern.stars
  · rw [← String.ofList_toList (s := (Path.splitLast pattern).2), ← hSame]

end IsClean

/-! What such patterns describe -/

/-- Whether a pattern describes a path as a whole, or describes something that the path is below. -/
def Covers (pattern path : List Char) : Prop :=
  Wildcard.isMatch pattern path = true ∨ Wildcard.isMatch (pattern ++ ['/', '*']) path = true

/-- A pattern covers what is at or below a path that it describes. -/
theorem covers_append {pattern path more : List Char}
    (hMatch : Wildcard.isMatch pattern path = true) (hMore : more = [] ∨ more.head? = some '/') :
    Covers pattern (path ++ more) := by
  rcases hMore with rfl | hSlash
  · exact .inl (by rwa [List.append_nil])
  · obtain ⟨rest, rfl⟩ := List.head?_eq_some_iff.mp hSlash
    exact .inr (Wildcard.isMatch_below hMatch rest)

/-- What a clean pattern without two stars says of a path that it describes by components: the
pattern describes the path as a whole too, and the path can be gone on from. -/
structure Fits (pattern path : List Char) : Prop where
  isMatch : Wildcard.isMatch pattern path = true
  start : Path.HasNormalStart path
  last : path.getLast? ≠ some '/'

theorem IsClean.fits_self {pattern : List Char} (hPattern : IsClean pattern)
    (hPlain : Wildcard.hasMagic pattern = false) : Fits pattern pattern :=
  ⟨Wildcard.isMatch_self hPlain, hPattern.start, hPattern.last⟩

/-- A pattern covers the normal form of all that is at or below a path that it fits. The path may
not hold backslashes, since those become slashes in the normal form. -/
theorem Fits.covers {pattern path longer : List Char} (hFits : Fits pattern path)
    (hBackslash : '\\' ∉ path) (hLonger : Path.IsAtOrBelow path longer) :
    Covers pattern (Path.normalizeChars longer) := by
  obtain ⟨more, rfl, hMore⟩ := hLonger
  rw [hFits.start.normalizeChars_append hBackslash]
  apply covers_append hFits.isMatch
  rcases hMore with rfl | hSlash | hSlash
  · exact .inl rfl
  · exact .inr (by simp [hSlash])
  · exact absurd hSlash hFits.last

namespace FileTree

variable {tree : FileTree} {depth : Nat} {onlyDirectories : Bool}
  {part directory pattern found name path : String}

namespace HasFileNames

variable (hNames : tree.HasFileNames)
include hNames

theorem isAbsolute_of_mem_pathsBelow
    (hPath : path ∈ tree.pathsBelow onlyDirectories depth directory) :
    Path.isAbsolute path = false := by
  induction depth generalizing directory path with
  | zero => cases hPath
  | succ depth ih =>
    rw [pathsBelow] at hPath
    obtain ⟨name, hName, hPath⟩ := List.mem_flatMap.mp hPath
    obtain ⟨hNe, -, hSlash⟩ := hNames.of_mem_namesIn (List.mem_of_mem_filter hName)
    have hRelative := isAbsolute_of_not_mem hSlash
    rcases List.mem_cons.mp hPath with rfl | hBelow
    · exact hRelative
    · obtain ⟨rest, hRest, rfl⟩ := List.mem_map.mp hBelow
      obtain ⟨more, hJoin, -⟩ := isAtOrBelow_join hNe (ih hRest)
      rw [joinParts]
      split_ifs
      · exact ih hRest
      · exact hRelative
      · rw [Path.isAbsolute, hJoin, List.head?_append_of_ne_nil _ (by simpa using hNe)]
        exact hRelative

theorem isAbsolute_of_describesIn (hPart : '/' ∉ part.toList)
    (hName : DescribesIn tree onlyDirectories part directory name) :
    Path.isAbsolute name = false := by
  cases hName with
  | here _ hName =>
    rw [hName]
    rfl
  | below _ hName => exact hNames.isAbsolute_of_mem_pathsBelow hName
  | name _ _ hName _ => exact isAbsolute_of_not_mem (hNames.of_mem_namesIn hName).2.2
  | literal _ hName => exact hName ▸ isAbsolute_of_not_mem hPart

/-- A component other than two stars describes single names. -/
theorem isMatch_of_describesIn (hPart : '/' ∉ part.toList) (hNe : part ≠ "") (hStars : part ≠ "**")
    (hName : DescribesIn tree onlyDirectories part directory name) :
    Wildcard.isMatch part.toList name.toList = true ∧ name ≠ "" ∧ '/' ∉ name.toList := by
  cases hName with
  | here hPart _ => exact absurd hPart hStars
  | below hPart _ => exact absurd hPart hStars
  | name _ _ hName hMatch =>
    obtain ⟨hSome, -, hSlash⟩ := hNames.of_mem_namesIn hName
    exact ⟨hMatch, hSome, hSlash⟩
  | literal hPlain hName =>
    rw [hName]
    exact ⟨Wildcard.isMatch_self hPlain, hNe, hPart⟩

end HasFileNames

theorem hasMagic_slashes {slashes : List Char} (hSlashes : ∀ c ∈ slashes, c = '/') :
    Wildcard.hasMagic slashes = false := by
  rw [Wildcard.hasMagic, List.any_eq_false]
  intro c hMem
  rw [hSlashes c hMem]
  decide

/-- A path that a clean pattern describes in a directory is that directory, described by what stands
before the last slash of the pattern, and a name behind a slash. -/
theorem exists_start (hPattern : IsClean pattern.toList)
    (hDirectory : (Path.splitLast pattern).1 ≠ "")
    (hFound : tree.Yields depth true (Path.splitLast pattern).1 found)
    (hFits : ∀ directory : String, IsClean directory.toList →
      ['*', '*'] ∉ splitAt '/' directory.toList → tree.Yields depth true directory found →
      Fits directory.toList found.toList)
    (hName : Path.isAbsolute name = false) :
    ∃ head start, pattern.toList = head ++ '/' :: (Path.splitLast pattern).2.toList ∧
      (Path.join found name).toList = start ++ '/' :: name.toList ∧
      Wildcard.isMatch head start = true ∧ Path.HasNormalStart (start ++ ['/']) := by
  cases hPattern.lastCut with
  | none _ hCut =>
    rw [hCut] at hDirectory
    exact absurd rfl hDirectory
  | @root slashes last hText hSlashes hLast hCut =>
    rw [hCut] at hFound ⊢
    refine ⟨slashes, slashes, by rw [hText, String.toList_ofList], ?_,
      Wildcard.isMatch_self (hasMagic_slashes hSlashes), ?_⟩
    · rcases hFound with ⟨-, rfl⟩ | ⟨hPattern, -⟩
      · simp [Path.join, hName]
      · have hAll : ∀ c ∈ slashes ++ ['/'], c = '/' :=
          List.forall_mem_append.mpr ⟨hSlashes, by simp⟩
        rw [isPattern, String.toList_ofList, hasMagic_slashes hAll] at hPattern
        cases hPattern
    · cases slashes with
      | nil => exact .of_slash _
      | cons c slashes =>
        obtain rfl : c = '/' := hSlashes c List.mem_cons_self
        exact .of_slash _
  | @directory directory last hText hClean hStars hLast hCut =>
    rw [hCut] at hFound ⊢
    have hStart : Fits directory found.toList := by
      simpa using hFits (String.ofList directory) (by simpa using hClean) (by simpa using hStars)
        hFound
    refine ⟨directory, found.toList, by rw [hText, String.toList_ofList], ?_, hStart.isMatch,
      hStart.start.append _⟩
    have hNe : found ≠ "" := by simpa using hStart.start.ne_nil
    simp [Path.join, hName, hNe, hStart.last]

/-- Without the slashes at its end a normal pattern is clean if it is read by components. -/
theorem isClean_trimEnd (hMagic : isPattern pattern = true)
    (hStart : Path.HasNormalStart pattern.toList)
    (hPattern : IsComponentwise (trimEnd (· == '/') pattern.toList)) :
    IsClean (trimEnd (· == '/') pattern.toList) ∧
      isPattern (String.ofList (trimEnd (· == '/') pattern.toList)) = true := by
  obtain ⟨slashes, hText, hSlashes, hLast⟩ := trimEnd_spec (· == '/') pattern.toList
  generalize trimEnd (· == '/') pattern.toList = trimmed at hText hLast hPattern ⊢
  have hTrimmed : Wildcard.hasMagic trimmed = true := by
    rw [isPattern, hText, Wildcard.hasMagic, List.any_append] at hMagic
    have hNone := hasMagic_slashes fun c hMem => beq_iff_eq.mp (hSlashes c hMem)
    rw [Wildcard.hasMagic] at hNone
    rwa [hNone, Bool.or_false] at hMagic
  refine ⟨⟨hPattern, ?_, fun hSlash => absurd (hLast '/' hSlash) (by decide)⟩,
    by rwa [isPattern, String.toList_ofList]⟩
  rw [hText] at hStart
  cases slashes with
  | nil => rwa [List.append_nil] at hStart
  | cons c slashes =>
    obtain rfl : c = '/' := beq_iff_eq.mp (hSlashes c List.mem_cons_self)
    refine hStart.of_append_slash ?_
    rintro rfl
    cases hTrimmed

namespace HasFileNames

variable (hNames : tree.HasFileNames)
include hNames

/-- A clean pattern of one component fits the names that it describes. -/
theorem fits_of_describesIn (hPattern : IsClean pattern.toList) (hStars : pattern ≠ "**")
    (hName : DescribesIn tree onlyDirectories pattern directory name) :
    Fits pattern.toList name.toList := by
  cases hName with
  | here hPart _ => exact absurd hPart hStars
  | below hPart _ => exact absurd hPart hStars
  | name _ _ hName hMatch =>
    have hNoSlash := (hNames.of_mem_namesIn hName).2.2
    exact ⟨hMatch, hNames.hasNormalStart_of_mem_namesIn hName,
      fun hLast => hNoSlash (List.mem_of_getLast? hLast)⟩
  | literal hPlain hSame =>
    rw [hSame]
    exact hPattern.fits_self hPlain

/-- What a clean pattern without two stars describes by components, it describes as a whole. -/
theorem fits_of_yields (hPattern : IsClean pattern.toList)
    (hStars : ['*', '*'] ∉ splitAt '/' pattern.toList)
    (hPath : tree.Yields depth onlyDirectories pattern path) :
    Fits pattern.toList path.toList := by
  -- The step goes from a pattern to what stands before its last slash.
  induction depth generalizing onlyDirectories pattern path with
  | zero =>
    rcases hPath with ⟨hPlain, rfl⟩ | ⟨-, hPath⟩
    · exact hPattern.fits_self hPlain
    · cases hPath
  | succ depth ih =>
    rcases hPath with ⟨hPlain, rfl⟩ | ⟨-, hPath⟩
    · exact hPattern.fits_self hPlain
    obtain ⟨hSome, hLast⟩ := hPattern.getLast?_splitAt
    have hPart := List.mem_of_getLast? hLast
    have hSlash := not_mem_of_mem_splitAt hPart
    have hPartStars : (Path.splitLast pattern).2 ≠ "**" := by
      intro hSame
      rw [hSame] at hPart
      exact hStars hPart
    cases describes_of_mem hPath with
    | literal hPlain hSame =>
      subst hSame
      exact hPattern.fits_self hPlain
    | name hDirectory hName =>
      rw [hPattern.splitLast_snd_of_fst hDirectory] at hName hPartStars
      exact hNames.fits_of_describesIn hPattern hPartStars hName
    | @inDirectory found name hDirectory hFound hName hSame =>
      obtain ⟨hMatch, hNe, hNoSlash⟩ := hNames.isMatch_of_describesIn hSlash hSome hPartStars hName
      obtain ⟨head, start, hText, hJoin, hHead, hStart⟩ := exists_start hPattern hDirectory hFound
        (fun _ hClean hStars hFound => ih hClean hStars hFound) (isAbsolute_of_not_mem hNoSlash)
      rw [hSame, hJoin]
      refine ⟨?_, ?_, ?_⟩
      · have hComponentwise := hPattern.toIsComponentwise
        rw [hText] at hComponentwise ⊢
        exact hComponentwise.isMatch_append hHead hMatch
      · simpa using hStart.append name.toList
      · intro hLast
        refine hNoSlash (List.mem_of_getLast? ?_)
        rwa [List.append_cons, List.getLast?_append_of_ne_nil _ (by simpa using hNe)] at hLast

/-- With two stars at its end, a clean pattern describes all that goes on from what it describes. -/
theorem isMatch_of_stars (hPattern : IsClean pattern.toList) (hMagic : isPattern pattern = true)
    (hPart : (Path.splitLast pattern).2 = "**")
    (hPath : path ∈ tree.matchesOf (depth + 1) onlyDirectories pattern)
    (hBackslash : '\\' ∉ path.toList) (more : List Char) :
    Wildcard.isMatch pattern.toList (Path.normalizeChars (path.toList ++ more)) = true := by
  cases describes_of_mem hPath with
  | literal hPlain _ => exact absurd hMagic (by simp [hPlain])
  | name hDirectory _ =>
    rw [← hPattern.splitLast_snd_of_fst hDirectory, hPart]
    exact Wildcard.isMatch_stars _
  | @inDirectory found name hDirectory hFound hName hSame =>
    have hRelative := hNames.isAbsolute_of_describesIn (by rw [hPart]; decide) hName
    obtain ⟨head, start, hText, hJoin, hHead, hStart⟩ := exists_start hPattern hDirectory hFound
      (fun _ hClean hStars hFound => hNames.fits_of_yields hClean hStars hFound) hRelative
    have hComponentwise := hPattern.toIsComponentwise
    rw [hPart] at hText
    rw [hSame, hJoin, List.append_cons] at hBackslash ⊢
    rw [List.append_assoc,
      hStart.normalizeChars_append fun hMem => hBackslash (List.mem_append_left _ hMem),
      ← List.append_cons]
    rw [hText] at hComponentwise ⊢
    exact hComponentwise.isMatch_append hHead (Wildcard.isMatch_stars _)

/-- A clean pattern covers all that is at or below a path that it describes by components. -/
theorem covers_of_mem_matchesOf (hPattern : IsClean pattern.toList)
    (hMagic : isPattern pattern = true)
    (hPath : path ∈ tree.matchesOf depth onlyDirectories pattern) (hBackslash : '\\' ∉ path.toList)
    {longer : List Char} (hLonger : Path.IsAtOrBelow path.toList longer) :
    Covers pattern.toList (Path.normalizeChars longer) := by
  by_cases hStars : ['*', '*'] ∈ splitAt '/' pattern.toList
  · obtain ⟨more, rfl, -⟩ := hLonger
    have hPart := hPattern.splitLast_snd_eq_stars hStars
    cases depth with
    | zero => cases hPath
    | succ depth => exact .inl (hNames.isMatch_of_stars hPattern hMagic hPart hPath hBackslash more)
  · have hFits := hNames.fits_of_yields hPattern hStars (.inr ⟨hMagic, hPath⟩)
    exact hFits.covers hBackslash hLonger

/-! Root paths, which may have slashes at their ends -/

/-- A plain path covers its own files. -/
theorem covers_of_mem_plainFiles {root : String} (hPlain : isPattern root = false)
    (hStart : Path.HasNormalStart root.toList) (hBackslash : '\\' ∉ root.toList)
    (hFile : file ∈ tree.plainFiles root) :
    Covers (trimEnd (· == '/') root.toList) file.toList := by
  obtain ⟨-, _, ⟨more, rfl, hMore⟩, hNormal⟩ := hNames.isAtOrBelow_of_mem_plainFiles hFile
  rw [hNormal, hStart.normalizeChars_append hBackslash]
  obtain ⟨slashes, hRoot, hSlashes, hLast⟩ := trimEnd_spec (· == '/') root.toList
  generalize trimEnd (· == '/') root.toList = trimmed at hRoot hLast
  have hTrimmed : Wildcard.hasMagic trimmed = false := by
    rw [isPattern, hRoot, Wildcard.hasMagic, List.any_append, Bool.or_eq_false_iff] at hPlain
    exact hPlain.1
  rw [hRoot, List.append_assoc]
  apply covers_append (Wildcard.isMatch_self hTrimmed)
  cases slashes with
  | nil =>
    rcases hMore with rfl | hSlash | hSlash
    · exact .inl rfl
    · exact .inr (by simp [hSlash])
    · rw [hRoot, List.append_nil] at hSlash
      exact absurd (hLast '/' hSlash) (by decide)
  | cons c slashes => exact .inr (by simpa using hSlashes c List.mem_cons_self)

/-- A pattern that is read by components covers the files of what it describes. -/
theorem covers_of_mem_expandPattern {root : String} (hMagic : isPattern root = true)
    (hStart : Path.HasNormalStart root.toList)
    (hPattern : IsComponentwise (trimEnd (· == '/') root.toList))
    (hFound : found ∈ tree.expandPattern root) (hBackslash : '\\' ∉ found.toList)
    (hFile : file ∈ tree.plainFiles found) :
    Covers (trimEnd (· == '/') root.toList) file.toList := by
  obtain ⟨hNe, longer, hLonger, hNormal⟩ := hNames.isAtOrBelow_of_mem_plainFiles hFile
  have hMatch := mem_matchesOf_of_mem_expandPattern hFound
  rw [hNormal]
  obtain ⟨hClean, hTrimmed⟩ := isClean_trimEnd hMagic hStart hPattern
  by_cases hSlash : root.toList.getLast? = some '/'
  · obtain ⟨inner, hInner, rfl⟩ :=
      exists_of_mem_matchesOf_of_getLast? hMagic hSlash hTrimmed hMatch
    have hSome : inner ≠ "" := by
      rintro rfl
      exact hNe rfl
    have hJoin := isAtOrBelow_join hSome (rfl : Path.isAbsolute "" = false)
    have hPlain : '\\' ∉ inner.toList := by
      obtain ⟨more, hMore, -⟩ := hJoin
      exact fun hMem => hBackslash (hMore ▸ List.mem_append_left _ hMem)
    have hCovers := hNames.covers_of_mem_matchesOf (by rwa [String.toList_ofList]) hTrimmed hInner
      hPlain (hJoin.trans hLonger)
    rwa [String.toList_ofList] at hCovers
  · have hSame : trimEnd (· == '/') root.toList = root.toList :=
      trimEnd_of_getLast? fun c hLast => beq_false_of_ne fun hOther => hSlash (hOther ▸ hLast)
    rw [hSame] at hClean ⊢
    exact hNames.covers_of_mem_matchesOf hClean hMagic hMatch hBackslash hLonger

end HasFileNames

end FileTree

end CodeIndex
