import CodeIndex.FileTree

/-! What the operations on a file tree leave alone. Most of them only let a tree grow: links and
directories stay, and so do files other than those that are written. A path that names a place goes
on naming it in a tree that has grown. -/
namespace CodeIndex

/-- Whether an entry is a file. -/
def Entry.isFile : Entry → Bool
  | .file _ _ _ => true
  | _ => false

namespace FileTree

/-- The file at a place, if there is one. -/
def fileAt (tree : FileTree) (place : List String) : Option Entry :=
  (tree.entryAt place).filter Entry.isFile

theorem ne_nil_of_entryAt_eq_none {tree : FileTree} {place : List String}
    (hNone : tree.entryAt place = none) : place ≠ [] := by
  rintro rfl
  cases hNone

theorem entryAt_erase_self {tree : FileTree} {place : List String} (hPlace : place ≠ []) :
    (tree.erase place).entryAt place = none := by
  have hOthers : ∀ entry ∈ (tree.erase place).entries, (place == entry.1) = false := by
    intro entry hEntry
    have hOther : entry.1 ≠ place := by simpa using (List.mem_filter.mp hEntry).2
    exact beq_eq_false_iff_ne.mpr hOther.symm
  rw [entryAt, if_neg (by simpa using hPlace)]
  simpa [List.lookup_eq_none_iff] using hOthers

/-- A tree that has grown into another: some empty places have become directories, and files have
been written at some places that held no directory or link. -/
structure GrowsInto (written : List String → Prop) (tree after : FileTree) : Prop where
  workingDirectory : after.workingDirectory = tree.workingDirectory
  entryAt : ∀ place, after.entryAt place = tree.entryAt place ∨
    tree.entryAt place = none ∧ after.entryAt place = some .directory ∨
    written place ∧ (∀ entry, tree.entryAt place = some entry → entry.isFile = true) ∧
      ∃ entry, after.entryAt place = some entry ∧ entry.isFile = true

namespace GrowsInto

variable {written other : List String → Prop} {tree middle after : FileTree} {place : List String}

theorem refl : GrowsInto written tree tree := ⟨rfl, fun _ => .inl rfl⟩

theorem mono (hGrows : GrowsInto written tree after)
    (hWritten : ∀ place, written place → other place) : GrowsInto other tree after :=
  ⟨hGrows.workingDirectory, fun place =>
    (hGrows.entryAt place).imp_right (.imp_right (.imp_left (hWritten place)))⟩

/-- Growth goes on: what was made first is not taken back by what is made later. -/
theorem trans (hFirst : GrowsInto written tree middle) (hSecond : GrowsInto written middle after) :
    GrowsInto written tree after := by
  refine ⟨hSecond.workingDirectory.trans hFirst.workingDirectory, fun place => ?_⟩
  rcases hSecond.entryAt place with hSame | ⟨hNone, hDirectory⟩ | ⟨hWritten, hOld, hNew⟩
  · rw [hSame]
    exact hFirst.entryAt place
  · rcases hFirst.entryAt place with hSame | ⟨-, hMade⟩ | ⟨-, -, entry, hEntry, -⟩
    · exact .inr (.inl ⟨hSame ▸ hNone, hDirectory⟩)
    · simp [hMade] at hNone
    · simp [hEntry] at hNone
  · rcases hFirst.entryAt place with hSame | ⟨hNone, -⟩ | ⟨-, hOlder, -⟩
    · exact .inr (.inr ⟨hWritten, hSame ▸ hOld, hNew⟩)
    · exact .inr (.inr ⟨hWritten, by simp [hNone], hNew⟩)
    · exact .inr (.inr ⟨hWritten, hOlder, hNew⟩)

/-- Directories stay. -/
theorem directory (hGrows : GrowsInto written tree after)
    (hDirectory : tree.entryAt place = some .directory) :
    after.entryAt place = some .directory := by
  rcases hGrows.entryAt place with hSame | ⟨hNone, -⟩ | ⟨-, hOld, -⟩
  · rw [hSame, hDirectory]
  · simp [hDirectory] at hNone
  · cases hOld _ hDirectory

/-- Links stay, and there are no others. -/
theorem link_iff (hGrows : GrowsInto written tree after) {target : String} :
    after.entryAt place = some (.link target) ↔ tree.entryAt place = some (.link target) := by
  rcases hGrows.entryAt place with hSame | ⟨hNone, hDirectory⟩ | ⟨-, hOld, entry, hNew, hFile⟩
  · rw [hSame]
  · simp [hNone, hDirectory]
  · constructor
    · intro hLink
      rw [hNew, Option.some.injEq] at hLink
      cases hLink ▸ hFile
    · intro hLink
      cases hOld _ hLink

/-- Files at other places than the written ones stay, and no new ones appear there. -/
theorem fileAt_eq (hGrows : GrowsInto written tree after) (hPlace : ¬written place) :
    after.fileAt place = tree.fileAt place := by
  rcases hGrows.entryAt place with hSame | ⟨hNone, hDirectory⟩ | ⟨hWritten, -⟩
  · rw [fileAt, hSame, fileAt]
  · rw [fileAt, hDirectory, fileAt, hNone]
    rfl
  · exact absurd hWritten hPlace

end GrowsInto

/-! Paths in trees that grow -/

section Paths

variable {written : List String → Prop} {tree first second after : FileTree} {followsLast : Bool}
  {path component : String} {start components rest place : List String}

/-- A component that names something in a directory. -/
def IsName (component : String) : Prop :=
  component ≠ "" ∧ component ≠ "." ∧ component ≠ ".." ∧ component.utf8ByteSize ≤ nameLimit

section Steps

variable {follow : List String → List String → Except FileFault (List String)}

theorem descend_stay (hComponent : component = "" ∨ component = ".") :
    tree.descend followsLast follow start (component :: rest) =
      tree.descend followsLast follow start rest := by
  rw [descend, if_pos (by simpa using hComponent)]

/-- Two dots lead one directory up, and the root is its own parent. -/
theorem descend_back :
    tree.descend followsLast follow start (".." :: rest) =
      tree.descend followsLast follow start.dropLast rest := by
  rw [descend, if_neg (by decide), if_pos rfl]

/-- Where a name leads depends on what is at its place: into a directory, to what a link says, or no
further. -/
theorem IsName.descend_eq (hName : IsName component) :
    tree.descend followsLast follow start (component :: rest) =
      match tree.entryAt (start ++ [component]) with
      | none => if rest.isEmpty then .ok (start ++ [component]) else .error .notFound
      | some .directory => tree.descend followsLast follow (start ++ [component]) rest
      | some (.file _ _ _) =>
        if rest.isEmpty then .ok (start ++ [component]) else .error .notDirectory
      | some (.link target) =>
        if rest.isEmpty && !followsLast then .ok (start ++ [component])
        else follow (if Path.isAbsolute target then [] else start)
          (Path.components target ++ rest) := by
  obtain ⟨hEmpty, hDot, hBack, hSize⟩ := hName
  have hStay : ¬(decide (component = "") || decide (component = ".")) = true := by
    simp [hEmpty, hDot]
  exact (if_neg hStay).trans ((if_neg hBack).trans (if_neg (Nat.not_lt.mpr hSize)))

/-- Where a way leads somewhere, each of its components is one of these three. -/
theorem component_of_descend
    (hDescend : tree.descend followsLast follow start (component :: rest) = .ok place) :
    (component = "" ∨ component = ".") ∨ component = ".." ∨ IsName component := by
  by_cases hStay : component = "" ∨ component = "."
  · exact .inl hStay
  by_cases hBack : component = ".."
  · exact .inr (.inl hBack)
  by_cases hSize : nameLimit < component.utf8ByteSize
  · rw [descend, if_neg (by simpa using hStay), if_neg hBack, if_pos hSize] at hDescend
    cases hDescend
  · exact .inr (.inr ⟨(hStay <| .inl ·), (hStay <| .inr ·), hBack, Nat.not_lt.mp hSize⟩)

/-- How a way goes on by a name in a directory: down into another directory, after a link, or not
at all. -/
inductive Continues (tree : FileTree) (followsLast : Bool)
    (follow : List String → List String → Except FileFault (List String))
    (start : List String) (component : String) (rest place : List String) : Prop where
  | down (hEntry : tree.entryAt (start ++ [component]) = some .directory)
      (hRest : tree.descend followsLast follow (start ++ [component]) rest = .ok place)
  | follow {target : String} (hEntry : tree.entryAt (start ++ [component]) = some (.link target))
      (hLast : rest ≠ [] ∨ followsLast = true)
      (hRest : follow (if Path.isAbsolute target then [] else start)
        (Path.components target ++ rest) = .ok place)
  | finish (hRest : rest = []) (hDirectory : tree.entryAt (start ++ [component]) ≠ some .directory)
      (hLink : followsLast = true → ∀ target,
        tree.entryAt (start ++ [component]) ≠ some (.link target))
      (hPlace : place = start ++ [component])

theorem IsName.continues (hName : IsName component)
    (hDescend : tree.descend followsLast follow start (component :: rest) = .ok place) :
    Continues tree followsLast follow start component rest place := by
  rw [hName.descend_eq] at hDescend
  split at hDescend
  · next hEntry =>
    split at hDescend
    · next hRest =>
      exact .finish (by simpa using hRest) (by simp [hEntry]) (by simp [hEntry])
        (Except.ok.inj hDescend).symm
    · cases hDescend
  · next hEntry => exact .down hEntry hDescend
  · next hEntry =>
    split at hDescend
    · next hRest =>
      exact .finish (by simpa using hRest) (by simp [hEntry]) (by simp [hEntry])
        (Except.ok.inj hDescend).symm
    · cases hDescend
  · next target hEntry =>
    split at hDescend
    · next hLast =>
      simp only [Bool.and_eq_true, List.isEmpty_iff, Bool.not_eq_true'] at hLast
      exact .finish hLast.1 (by simp [hEntry]) (by simp [hLast.2]) (Except.ok.inj hDescend).symm
    · next hLast =>
      refine .follow hEntry ?_ hDescend
      by_cases hRest : rest = []
      · exact .inr (by simpa [hRest] using hLast)
      · exact .inl hRest

theorem IsName.descend_of_continues (hName : IsName component)
    (hContinues : Continues tree followsLast follow start component rest place) :
    tree.descend followsLast follow start (component :: rest) = .ok place := by
  rw [hName.descend_eq]
  cases hContinues with
  | down hEntry hRest => rw [hEntry, hRest]
  | follow hEntry hLast hRest =>
    have hGoesOn : (rest.isEmpty && !followsLast) = false := by
      rcases hLast with hLast | hLast
      · simp [hLast]
      · simp [hLast]
    simp only [hEntry, hGoesOn, hRest, Bool.false_eq_true, if_false]
  | finish hRest hDirectory hLink hPlace =>
    rw [hRest, hPlace]
    split
    · rfl
    · next hEntry => exact absurd hEntry hDirectory
    · rfl
    · next target hEntry =>
      cases followsLast with
      | true => exact absurd hEntry (hLink rfl target)
      | false => rfl

end Steps

/-- A way through a tree is one through a tree that it has grown into, if links are followed
alike. -/
theorem descend_of_growsInto (hGrows : GrowsInto written tree after)
    {follow followAfter : List String → List String → Except FileFault (List String)}
    (hFollow : ∀ start components place, follow start components = .ok place →
      followAfter start components = .ok place)
    (hDescend : tree.descend followsLast follow start components = .ok place) :
    after.descend followsLast followAfter start components = .ok place := by
  induction components generalizing start with
  | nil => exact hDescend
  | cons component rest ih =>
    rcases component_of_descend hDescend with hStay | rfl | hName
    · rw [descend_stay hStay] at hDescend ⊢
      exact ih hDescend
    · rw [descend_back] at hDescend ⊢
      exact ih hDescend
    · apply hName.descend_of_continues
      cases hName.continues hDescend with
      | down hEntry hRest => exact .down (hGrows.directory hEntry) (ih hRest)
      | follow hEntry hLast hRest =>
        exact .follow (hGrows.link_iff.mpr hEntry) hLast (hFollow _ _ _ hRest)
      | finish hRest hDirectory hLink hPlace =>
        -- The last place may have become a directory, and then it is entered.
        by_cases hMade : after.entryAt (start ++ [component]) = some .directory
        · exact .down hMade (by rw [hRest, hPlace, descend])
        · exact .finish hRest hMade
            (fun hFollows target hEntry => hLink hFollows target (hGrows.link_iff.mp hEntry)) hPlace

/-- The same with links. The induction is on how many of them may be followed. -/
theorem walk_of_growsInto (hGrows : GrowsInto written tree after) {links : Nat}
    (hWalk : tree.walk followsLast links start components = .ok place) :
    after.walk followsLast links start components = .ok place := by
  induction links generalizing start components place with
  | zero =>
    refine descend_of_growsInto hGrows ?_ hWalk
    intro _ _ _ hLoop
    cases hLoop
  | succ links ih => exact descend_of_growsInto hGrows (fun _ _ _ => ih) hWalk

/-- A path that names a place names it in whatever the tree grows into. -/
theorem locate_of_growsInto (hGrows : GrowsInto written tree after)
    (hLocate : tree.locate followsLast path = .ok place) :
    after.locate followsLast path = .ok place := by
  rw [locate] at hLocate ⊢
  split at hLocate
  · cases hLocate
  · next hPath =>
    rw [if_neg hPath, hGrows.workingDirectory]
    exact walk_of_growsInto hGrows hLocate

/-- Ways by the same components end at the same place if there are the same links. -/
theorem place_eq_of_descend {firstPlace secondPlace : List String}
    (hLinks : ∀ place target, first.entryAt place = some (.link target) ↔
      second.entryAt place = some (.link target))
    {followFirst followSecond : List String → List String → Except FileFault (List String)}
    (hFollow : ∀ start components firstPlace secondPlace,
      followFirst start components = .ok firstPlace →
      followSecond start components = .ok secondPlace → firstPlace = secondPlace)
    (hFirst : first.descend followsLast followFirst start components = .ok firstPlace)
    (hSecond : second.descend followsLast followSecond start components = .ok secondPlace) :
    firstPlace = secondPlace := by
  induction components generalizing start with
  | nil => exact Except.ok.inj (hFirst.symm.trans hSecond)
  | cons component rest ih =>
    rcases component_of_descend hFirst with hStay | rfl | hName
    · rw [descend_stay hStay] at hFirst hSecond
      exact ih hFirst hSecond
    · rw [descend_back] at hFirst hSecond
      exact ih hFirst hSecond
    · cases hName.continues hFirst with
      | down hEntry hRest =>
        cases hName.continues hSecond with
        | down _ hOther => exact ih hRest hOther
        | follow hOther => simp [(hLinks _ _).mpr hOther] at hEntry
        | finish hEnd _ _ hPlace =>
          rw [hEnd, descend] at hRest
          rw [hPlace, Except.ok.inj hRest]
      | follow hEntry hLast hRest =>
        cases hName.continues hSecond with
        | down hOther => simp [(hLinks _ _).mp hEntry] at hOther
        | follow hOther _ hOtherRest =>
          obtain rfl : _ = _ := by simpa [(hLinks _ _).mp hEntry] using hOther
          exact hFollow _ _ _ _ hRest hOtherRest
        | finish hEnd _ hLink _ =>
          rcases hLast with hLast | hFollows
          · exact absurd hEnd hLast
          · exact absurd ((hLinks _ _).mp hEntry) (hLink hFollows _)
      | finish hEnd _ hLink hPlace =>
        cases hName.continues hSecond with
        | down _ hOther =>
          rw [hEnd, descend] at hOther
          rw [hPlace, Except.ok.inj hOther]
        | follow hOther hLast _ =>
          rcases hLast with hLast | hFollows
          · exact absurd hEnd hLast
          · exact absurd ((hLinks _ _).mpr hOther) (hLink hFollows _)
        | finish _ _ _ hOther => rw [hPlace, hOther]

theorem place_eq_of_walk {firstPlace secondPlace : List String}
    (hLinks : ∀ place target, first.entryAt place = some (.link target) ↔
      second.entryAt place = some (.link target)) {links : Nat}
    (hFirst : first.walk followsLast links start components = .ok firstPlace)
    (hSecond : second.walk followsLast links start components = .ok secondPlace) :
    firstPlace = secondPlace := by
  induction links generalizing start components firstPlace secondPlace with
  | zero =>
    refine place_eq_of_descend hLinks ?_ hFirst hSecond
    intro _ _ _ _ hLoop
    cases hLoop
  | succ links ih => exact place_eq_of_descend hLinks (fun _ _ _ _ => ih) hFirst hSecond

/-- A path leads to a place if it names it once all that is missing on its way has been made. -/
def LeadsTo (tree : FileTree) (followsLast : Bool) (path : String) (place : List String) : Prop :=
  ∃ made, GrowsInto (fun _ => True) tree made ∧ made.locate followsLast path = .ok place

/-- Where a path leads in a tree that has grown it led before. -/
theorem LeadsTo.of_growsInto (hLeads : after.LeadsTo followsLast path place)
    (hGrows : GrowsInto written tree after) : tree.LeadsTo followsLast path place := by
  obtain ⟨made, hMade, hPlace⟩ := hLeads
  exact ⟨made, (hGrows.mono fun _ _ => trivial).trans hMade, hPlace⟩

/-- A path leads to one place only. -/
theorem LeadsTo.place_eq {firstPlace secondPlace : List String}
    (hFirst : tree.LeadsTo followsLast path firstPlace)
    (hSecond : tree.LeadsTo followsLast path secondPlace) : firstPlace = secondPlace := by
  obtain ⟨first, hGrowsFirst, hFirst⟩ := hFirst
  obtain ⟨second, hGrowsSecond, hSecond⟩ := hSecond
  have hLinks (place target) : first.entryAt place = some (.link target) ↔
      second.entryAt place = some (.link target) :=
    hGrowsFirst.link_iff.trans hGrowsSecond.link_iff.symm
  rw [locate, hGrowsFirst.workingDirectory] at hFirst
  rw [locate, hGrowsSecond.workingDirectory] at hSecond
  split at hFirst
  · cases hFirst
  · next hPath =>
    rw [if_neg hPath] at hSecond
    exact place_eq_of_walk hLinks hFirst hSecond

end Paths

/-! The operations -/

section Operations

variable {tree after : FileTree} {path : String} {content : List UInt8}

/-- A tree grows by a directory at an empty place. -/
theorem growsInto_insert_directory {place : List String} {written : List String → Prop}
    (hNone : tree.entryAt place = none) :
    GrowsInto written tree (tree.insert place .directory) := by
  refine ⟨rfl, fun other => ?_⟩
  by_cases hPlace : other = place
  · subst hPlace
    rw [entryAt_insert_self (ne_nil_of_entryAt_eq_none hNone)]
    exact .inr (.inl ⟨hNone, rfl⟩)
  · exact .inl (entryAt_insert_of_ne hPlace)

/-- A tree grows by a file at a place that was empty or held a file. -/
theorem growsInto_insert_file {place : List String} {written : List String → Prop} {entry : Entry}
    (hOld : ∀ old, tree.entryAt place = some old → old.isFile = true) (hFile : entry.isFile = true)
    (hWritten : written place) : GrowsInto written tree (tree.insert place entry) := by
  refine ⟨rfl, fun other => ?_⟩
  by_cases hPlace : other = place
  · subst hPlace
    have hRoot : other ≠ [] := by
      rintro rfl
      cases hOld .directory rfl
    exact .inr (.inr ⟨hWritten, hOld, entry, entryAt_insert_self hRoot, hFile⟩)
  · exact .inl (entryAt_insert_of_ne hPlace)

/-- What is written is a file, at a place that was empty or held one. -/
theorem exists_of_write (hWrite : tree.write path content = .ok after) :
    ∃ place entry, tree.locate true path = .ok place ∧
      (∀ old, tree.entryAt place = some old → old.isFile = true) ∧ entry.isFile = true ∧
      after = tree.insert place entry := by
  rw [write] at hWrite
  split at hWrite
  · cases hWrite
  · next place hPlace =>
    split at hWrite
    · cases hWrite
    · cases hWrite
    · next hEntry =>
      exact ⟨place, _, hPlace, by simp [hEntry, Entry.isFile], rfl, (Except.ok.inj hWrite).symm⟩
    · next hNone =>
      exact ⟨place, _, hPlace, by simp [hNone], rfl, (Except.ok.inj hWrite).symm⟩

/-- A tree grows by what is written, at the place that the path names if links are followed. -/
theorem growsInto_write (hWrite : tree.write path content = .ok after) :
    GrowsInto (fun place => tree.locate true path = .ok place) tree after := by
  obtain ⟨place, entry, hPlace, hOld, hFile, rfl⟩ := exists_of_write hWrite
  exact growsInto_insert_file hOld hFile hPlace

/-- No other place changes when a file is written. -/
theorem entryAt_of_write {place : List String} (hWrite : tree.write path content = .ok after)
    (hPlace : tree.locate true path ≠ .ok place) : after.entryAt place = tree.entryAt place := by
  obtain ⟨written, entry, hWritten, -, -, rfl⟩ := exists_of_write hWrite
  refine entryAt_insert_of_ne ?_
  rintro rfl
  exact hPlace hWritten

/-- What is made is at a place that was empty. -/
theorem exists_of_make {entry : Entry} (hMake : tree.make path entry = .ok after) :
    ∃ place, tree.locate false path = .ok place ∧ tree.entryAt place = none ∧
      after = tree.insert place entry := by
  rw [make] at hMake
  split at hMake
  · cases hMake
  · next place hPlace =>
    split at hMake
    · cases hMake
    · next hNone => exact ⟨place, hPlace, hNone, (Except.ok.inj hMake).symm⟩

theorem growsInto_makeDirectory (hMake : tree.makeDirectory path = .ok after) :
    GrowsInto (fun _ => False) tree after := by
  obtain ⟨place, -, hNone, rfl⟩ := exists_of_make hMake
  exact growsInto_insert_directory hNone

/-- Whether or not all the directories can be made, nothing but directories is. -/
theorem growsInto_makeDirectoriesWithin (tree : FileTree) (depth : Nat) (path : String) :
    GrowsInto (fun _ => False) tree (tree.makeDirectoriesWithin depth path).1 := by
  induction depth generalizing path with
  | zero =>
    rw [makeDirectoriesWithin]
    split
    · next hMake => exact growsInto_makeDirectory hMake
    · exact .refl
    · exact .refl
  | succ depth ih =>
    rw [makeDirectoriesWithin]
    split
    · next hMake => exact growsInto_makeDirectory hMake
    · dsimp only
      have hAround := ih (Path.parent path)
      split
      · next hParent => rwa [hParent] at hAround
      · next around hParent =>
        rw [hParent] at hAround
        split
        · next hMake => exact hAround.trans (growsInto_makeDirectory hMake)
        · exact hAround
        · exact hAround
    · exact .refl

theorem growsInto_makeDirectories (tree : FileTree) (path : String) :
    GrowsInto (fun _ => False) tree (tree.makeDirectories path).1 :=
  growsInto_makeDirectoriesWithin tree _ path

/-- A file that is moved leaves its place for another. Links at the end of either path are not
followed. -/
theorem exists_of_replace {source target : String}
    (hReplace : tree.replace source target = .ok after) :
    ∃ old new entry, tree.locate false source = .ok old ∧ tree.locate false target = .ok new ∧
      after = (tree.erase old).insert new entry := by
  rw [replace] at hReplace
  dsimp only at hReplace
  split at hReplace
  · cases hReplace
  · cases hReplace
  · next old new hOld hNew =>
    split at hReplace
    · cases hReplace
    · split at hReplace
      · cases hReplace
      · cases hReplace
      · next entry _ _ => exact ⟨old, new, entry, hOld, hNew, (Except.ok.inj hReplace).symm⟩

section MadeFile

variable {made : FileTree}

/-- A file that is made stands at the place that its path names from then on. -/
theorem exists_of_makeFile (hMake : tree.makeFile path content = .ok made) :
    ∃ place entry, tree.entryAt place = none ∧ made = tree.insert place entry ∧
      entry.isFile = true ∧ GrowsInto (fun _ => True) tree made ∧
      made.locate false path = .ok place := by
  obtain ⟨place, hPlace, hNone, rfl⟩ := exists_of_make hMake
  have hGrows : GrowsInto (fun _ => True) tree (tree.insert place (.file content tree.now)) :=
    growsInto_insert_file (by simp [hNone]) rfl trivial
  exact ⟨place, _, hNone, rfl, rfl, hGrows, locate_of_growsInto hGrows hPlace⟩

/-- What is put at an empty place and taken away again leaves no trace. -/
theorem entryAt_erase_insert {place : List String} {entry : Entry}
    (hNone : tree.entryAt place = none) (other : List String) :
    ((tree.insert place entry).erase place).entryAt other = tree.entryAt other := by
  by_cases hOther : other = place
  · rw [hOther, entryAt_erase_self (ne_nil_of_entryAt_eq_none hNone), hNone]
  · rw [entryAt_erase_of_ne hOther, entryAt_insert_of_ne hOther]

/-- A file that is made can be removed again, and then all is as before. -/
theorem removeFile_of_makeFile (hMake : tree.makeFile path content = .ok made) :
    ∃ cleared, made.removeFile path = .ok cleared ∧
      cleared.workingDirectory = tree.workingDirectory ∧
      ∀ place, cleared.entryAt place = tree.entryAt place := by
  obtain ⟨place, entry, hNone, rfl, hFile, -, hPlace⟩ := exists_of_makeFile hMake
  refine ⟨(tree.insert place entry).erase place, ?_, rfl, entryAt_erase_insert hNone⟩
  rw [removeFile, hPlace]
  cases entry with
  | file _ _ _ => simp only [entryAt_insert_self (ne_nil_of_entryAt_eq_none hNone)]
  | directory => cases hFile
  | link _ => cases hFile

/-- A file that is made and moved elsewhere leaves no trace at its first place. -/
theorem entryAt_of_replace_made {target : String} (hMake : tree.makeFile path content = .ok made)
    (hReplace : made.replace path target = .ok after) :
    ∃ place, tree.LeadsTo false target place ∧
      ∀ other, other ≠ place → after.entryAt other = tree.entryAt other := by
  obtain ⟨place, entry, hNone, rfl, -, hGrows, hPlace⟩ := exists_of_makeFile hMake
  obtain ⟨old, new, moved, hOld, hNew, rfl⟩ := exists_of_replace hReplace
  obtain rfl : place = old := Except.ok.inj (hPlace.symm.trans hOld)
  refine ⟨new, ⟨_, hGrows, hNew⟩, fun other hOther => ?_⟩
  rw [entryAt_insert_of_ne hOther, entryAt_erase_insert hNone]

end MadeFile

end Operations

end FileTree

end CodeIndex
