import CodeIndex.Proofs.Reachable

/-! An update that reads only stale files and new ones ends with the same records as reading every
file anew. What cannot be seen, a change of content that leaves the time of change as it was, is
ruled out by assumption. -/
namespace CodeIndex

namespace FileTree

variable {tree : FileTree} {path : String}

theorem isFile_of_read {content : List UInt8} (hRead : tree.read path = .ok content) :
    tree.isFile path = true := by
  rw [read] at hRead
  rw [isFile]
  split at hRead <;> simp_all

/-- A file has a time of modification. -/
theorem exists_modifiedSeconds (hFile : tree.isFile path = true) :
    ∃ modified, tree.modifiedSeconds path = .ok modified := by
  rw [isFile] at hFile
  rw [modifiedSeconds]
  split at hFile
  · next content modified isReadable hStatus => exact ⟨_, by rw [hStatus]⟩
  · cases hFile

/-- What a path names is an entry of the tree, unless it is the root. -/
theorem mem_entries_of_status {entry : Entry} (hStatus : tree.status path = .ok entry) :
    entry = .directory ∨ ∃ place, (place, entry) ∈ tree.entries := by
  rw [status] at hStatus
  cases hPlace : tree.locate true path with
  | error fault => simp [hPlace, bind, Except.bind] at hStatus
  | ok place =>
    rw [hPlace, ok_bind, entryAt] at hStatus
    by_cases hRoot : place.isEmpty = true
    · rw [if_pos hRoot] at hStatus
      exact .inl (Except.ok.inj hStatus).symm
    · rw [if_neg hRoot] at hStatus
      cases hLookup : tree.entries.lookup place with
      | none => simp [hLookup, throw, throwThe, MonadExceptOf.throw] at hStatus
      | some found =>
        rw [hLookup] at hStatus
        obtain rfl := Except.ok.inj hStatus
        obtain ⟨before, rest, hEntries, -⟩ := List.lookup_eq_some_iff.mp hLookup
        exact .inr ⟨place, by simp [hEntries]⟩

end FileTree

/-- Whether an entry can be read, unless it is no file. -/
def Entry.mayBeRead : Entry → Bool
  | .file _ _ isReadable => isReadable
  | _ => true

/-- All regular files of a scene can be read. -/
def Scene.IsReadable (scene : Scene) : Prop :=
  ∀ path, scene.tree.isFile path = true → ∃ content, scene.tree.read path = .ok content

namespace Scene

variable {scene : Scene} {path : String}

/-- A scene is readable if all its entries are. -/
theorem isReadable_of_entries (hEntries : ∀ entry ∈ scene.tree.entries, entry.2.mayBeRead = true) :
    scene.IsReadable := by
  intro path hFile
  rw [FileTree.isFile] at hFile
  split at hFile
  · next content modified isReadable hStatus =>
    rcases FileTree.mem_entries_of_status hStatus with hDirectory | ⟨place, hMem⟩
    · cases hDirectory
    · have hOpen : isReadable = true := hEntries _ hMem
      exact ⟨content, by rw [FileTree.read, hStatus, hOpen]⟩
  · cases hFile

/-- Where all files can be read, a scan brings something for all files that an extractor reads. -/
theorem IsReadable.isSome_scan?_iff (hReadable : scene.IsReadable) :
    (scene.scan? path).isSome = true ↔
      scene.tree.isFile path = true ∧ (Extractor.select? scene.extractors path).isSome = true := by
  rw [Option.isSome_iff_exists, Option.isSome_iff_exists]
  constructor
  · rintro ⟨⟨file, records⟩, hScan⟩
    obtain ⟨extractor, modified, content, hSelect, -, hRead, -, -⟩ := scan?_eq_some_iff.mp hScan
    exact ⟨FileTree.isFile_of_read hRead, extractor, hSelect⟩
  · rintro ⟨hFile, extractor, hSelect⟩
    obtain ⟨content, hRead⟩ := hReadable path hFile
    obtain ⟨modified, hModified⟩ := FileTree.exists_modifiedSeconds hFile
    exact ⟨_, scan?_eq_some_iff.mpr
      ⟨extractor, modified, content, hSelect, hModified, hRead, rfl, rfl⟩⟩

/-- The view of a file that was just read for the first time. -/
def freshView (scene : Scene) (path : String) : FileView :=
  FileView.absent.add (scene.scan? path)

theorem isSome_freshView_file : (scene.freshView path).file.isSome = (scene.scan? path).isSome := by
  rw [freshView]
  cases scene.scan? path <;> rfl

end Scene

/-- Two views that agree on whether the file is tracked and on its records. The time of the last
change may differ. -/
def FileView.SameContent (first second : FileView) : Prop :=
  first.file.isSome = second.file.isSome ∧ first.records = second.records

namespace Database

variable {past : List Scene} {scene : Scene} {database : Database}

/-- No change of a tracked file is hidden: where the extractor is the one that read the file before,
in a version that is not newer, and the time of change is not later, the records are those of the
content as it is now. -/
def NoHiddenChange (scene : Scene) (database : Database) : Prop :=
  ∀ path file extractor modified content, database.catalog.files.get? path = some file →
    Extractor.select? scene.extractors path = some extractor →
    extractor.name = file.extractor → extractor.version ≤ file.extractorVersion →
    scene.tree.modifiedSeconds path = .ok modified → modified ≤ file.lastUpdated →
    scene.tree.read path = .ok content →
    ∀ table, (database.recordsIn table).filter (fun record => record.file = path) =
      (batch extractor path content).filter fun record => record.table = table

/-- A tracked file that is not stale has an extractor of the recorded name, in a version that is not
newer, and did not change since. -/
theorem isStale_eq_false_iff (file : TrackedFile) {modified : Int}
    (hModified : scene.tree.modifiedSeconds file.path = .ok modified) :
    isStale scene.extractors scene.tree file = false ↔
      ∃ extractor, Extractor.select? scene.extractors file.path = some extractor ∧
        extractor.name = file.extractor ∧ extractor.version ≤ file.extractorVersion ∧
        modified ≤ file.lastUpdated := by
  rw [isStale]
  cases Extractor.select? scene.extractors file.path with
  | none => simp
  | some extractor => simp [hModified, and_assoc]

/-- A tracked file that was brought in line has the content of one that was just read. -/
theorem refresh_sameContent (hReadable : scene.IsReadable)
    (hHidden : NoHiddenChange scene database) {path : String}
    (hPath : path ∈ database.catalog.files.keys) :
    ((database.viewOf path).refresh scene path).SameContent (scene.freshView path) := by
  obtain ⟨file, hFile⟩ := Table.mem_keys_iff.mp hPath
  have hTracked : (database.viewOf path).file = some file := hFile
  rw [FileView.refresh]
  split_ifs with hGone hStale
  · have hNone : scene.scan? path = none := by
      rw [← Option.not_isSome_iff_eq_none, hReadable.isSome_scan?_iff, hGone]
      simp
    rw [Scene.freshView, hNone]
    exact ⟨rfl, rfl⟩
  · exact ⟨rfl, rfl⟩
  · have hIsFile : scene.tree.isFile path = true := by simpa using hGone
    obtain ⟨content, hRead⟩ := hReadable path hIsFile
    obtain ⟨modified, hModified⟩ := FileTree.exists_modifiedSeconds hIsFile
    rw [hTracked, Option.any_some, Bool.not_eq_true] at hStale
    obtain ⟨extractor, hSelect, hName, hVersion, hTime⟩ :=
      (isStale_eq_false_iff { file with path := path } hModified).mp hStale
    have hScan : scene.scan? path =
        some (⟨path, modified, extractor.name, extractor.version⟩, batch extractor path content) :=
      Scene.scan?_eq_some_iff.mpr
        ⟨extractor, modified, content, hSelect, hModified, hRead, rfl, rfl⟩
    rw [Scene.freshView, hScan]
    refine ⟨by rw [hTracked]; rfl, ?_⟩
    funext table
    exact hHidden path file extractor modified content hFile hSelect hName hVersion hModified hTime
      hRead table

/-- After an update, the files that were tracked and the listed ones that are not excluded have the
content of files that were just read, and nothing is known about any other. -/
theorem update_sameContent (hSound : IsSound past database) (hReadable : scene.IsReadable)
    (hHidden : NoHiddenChange scene database) (path : String) :
    ((update scene.extractors scene.tree database).database.viewOf path).SameContent
      (if path ∈ database.catalog.files.keys ∨
          (path ∈ (expandRoots scene.tree database.catalog.paths).1 ∧
            Path.isExcluded path database.catalog.excludes = false)
        then scene.freshView path else .absent) := by
  rw [viewOf_update]
  by_cases hTracked : path ∈ database.catalog.files.keys
  · have hSame := refresh_sameContent hReadable hHidden hTracked
    rw [if_pos (Or.inl hTracked : path ∈ database.catalog.files.keys ∨ _), refreshedView,
      if_pos hTracked]
    split_ifs with hNew
    · -- A file that was dropped cannot be read, so looking for it again brings nothing.
      have hNone : scene.scan? path = none := by
        rw [← Option.not_isSome_iff_eq_none, ← Scene.isSome_freshView_file, ← hSame.1, hNew.2.1]
        simp
      rw [hNone]
      exact hSame
    · exact hSame
  · have hAbsent : database.viewOf path = .absent := by
      apply hSound.viewOf_eq_absent
      rwa [mem_keys_iff_viewOf, Option.not_isSome_iff_eq_none] at hTracked
    rw [refreshedView, if_neg hTracked, hAbsent]
    by_cases hListed : path ∈ (expandRoots scene.tree database.catalog.paths).1 ∧
        Path.isExcluded path database.catalog.excludes = false
    · rw [if_pos ⟨hListed.1, rfl, hListed.2⟩, if_pos (.inr hListed)]
      exact ⟨rfl, rfl⟩
    · rw [if_neg fun hNew => hListed ⟨hNew.1, hNew.2.2⟩, if_neg (not_or.mpr ⟨hTracked, hListed⟩)]
      exact ⟨rfl, rfl⟩

/-- An update succeeds if each root path can be listed. -/
theorem exists_update_result
    (hExpand : ∀ root ∈ database.catalog.paths, ∃ files, scene.tree.files root = .ok files) :
    ∃ isChanged, (update scene.extractors scene.tree database).result = .ok isChanged := by
  have hSettings : (updateFiles scene.extractors scene.tree database
      database.catalog.files.keys).1.settings = database.settings := settings_updateFiles _
  have hRoots : (expandRoots scene.tree (updateFiles scene.extractors scene.tree database
      database.catalog.files.keys).1.catalog.paths).2 = none := by
    apply expandRoots_snd
    rwa [(Prod.mk.inj hSettings).1]
  exact ⟨_, by rw [update]; simp only [addRoots, hRoots]; rfl⟩

/-- The root paths and patterns of a database, without any files. -/
def blank (database : Database) : Database :=
  { catalog := { paths := database.catalog.paths, excludes := database.catalog.excludes } }

/-- The tracked files after an update: all files that an extractor reads and that were tracked
before, or are listed for a root path and not excluded. -/
theorem mem_keys_update_iff (hSound : IsSound past database) (hReadable : scene.IsReadable)
    (hExpand : ∀ root ∈ database.catalog.paths, ∃ files, scene.tree.files root = .ok files)
    (hHidden : NoHiddenChange scene database) {path : String} :
    path ∈ (update scene.extractors scene.tree database).database.catalog.files.keys ↔
      scene.tree.isFile path = true ∧ (Extractor.select? scene.extractors path).isSome = true ∧
        (path ∈ database.catalog.files.keys ∨
          (∃ root ∈ database.catalog.paths, ∃ files,
            scene.tree.files root = .ok files ∧ path ∈ files) ∧
          Path.isExcluded path database.catalog.excludes = false) := by
  rw [mem_keys_iff_viewOf, (update_sameContent hSound hReadable hHidden path).1,
    ← mem_expandRoots_iff hExpand, ← and_assoc, ← hReadable.isSome_scan?_iff,
    ← Scene.isSome_freshView_file]
  split_ifs with hKnown
  · simp [hKnown]
  · simp [hKnown, FileView.absent]

/-- The records of a tracked file after an update are those of its present content. -/
theorem exists_batch_of_mem_keys_update (hSound : IsSound past database)
    (hReadable : scene.IsReadable) (hHidden : NoHiddenChange scene database) {path : String}
    (hPath : path ∈ (update scene.extractors scene.tree database).database.catalog.files.keys) :
    ∃ extractor content, Extractor.select? scene.extractors path = some extractor ∧
      scene.tree.read path = .ok content ∧
      ∀ table, (((update scene.extractors scene.tree database).database.recordsIn table).filter
          fun record => record.file = path) =
        (batch extractor path content).filter fun record => record.table = table := by
  have hSame := update_sameContent hSound hReadable hHidden path
  rw [mem_keys_iff_viewOf, hSame.1] at hPath
  split_ifs at hPath hSame with hKnown
  · rw [Scene.isSome_freshView_file, Option.isSome_iff_exists] at hPath
    obtain ⟨⟨file, records⟩, hScan⟩ := hPath
    obtain ⟨extractor, modified, content, hSelect, -, hRead, -, rfl⟩ :=
      Scene.scan?_eq_some_iff.mp hScan
    refine ⟨extractor, content, hSelect, hRead, fun table => ?_⟩
    have hRecords := congrFun hSame.2 table
    rw [Scene.freshView, hScan] at hRecords
    exact hRecords
  · cases hPath

theorem IsSound.blank (hSound : IsSound past database) : IsSound past database.blank :=
  ⟨fun _ => .inl rfl, nofun, nofun, hSound.paths_nodup, hSound.excludes_nodup⟩

theorem noHiddenChange_blank : NoHiddenChange scene database.blank := by
  intro path file extractor modified content hFile
  cases hFile

/-- Where all files can be read, all root paths can be expanded and no change is hidden, an update
succeeds and ends with the records of the present contents of exactly those files that an extractor
reads and that were tracked before, or are listed for a root path and not excluded. All that reading
every listed file anew would give is among them. -/
theorem update_eq_rebuild (hReach : Reachable past database) (hReadable : scene.IsReadable)
    (hExpand : ∀ root ∈ database.catalog.paths, ∃ files, scene.tree.files root = .ok files)
    (hHidden : NoHiddenChange scene database) :
    ∃ after reported isChanged,
      update scene.extractors scene.tree database = ⟨after, reported, .ok isChanged⟩ ∧
      (∀ path, path ∈ after.catalog.files.keys ↔
        scene.tree.isFile path = true ∧ (Extractor.select? scene.extractors path).isSome = true ∧
          (path ∈ database.catalog.files.keys ∨
            (∃ root ∈ database.catalog.paths, ∃ files,
              scene.tree.files root = .ok files ∧ path ∈ files) ∧
            Path.isExcluded path database.catalog.excludes = false)) ∧
      (∀ path ∈ after.catalog.files.keys, ∃ extractor content,
        Extractor.select? scene.extractors path = some extractor ∧
        scene.tree.read path = .ok content ∧
        ∀ table, ((after.recordsIn table).filter fun record => record.file = path) =
          (batch extractor path content).filter fun record => record.table = table) ∧
      (∀ table, ∀ record ∈ after.recordsIn table,
        record.table = table ∧ record.file ∈ after.catalog.files.keys) ∧
      ∀ path ∈ (update scene.extractors scene.tree database.blank).database.catalog.files.keys,
        path ∈ after.catalog.files.keys ∧
        ∀ table, ((after.recordsIn table).filter fun record => record.file = path) =
          (((update scene.extractors scene.tree database.blank).database.recordsIn table).filter
            fun record => record.file = path) := by
  have hSound := hReach.isSound
  obtain ⟨isChanged, hResult⟩ := exists_update_result hExpand
  refine ⟨(update scene.extractors scene.tree database).database,
    (update scene.extractors scene.tree database).reported, isChanged, by rw [← hResult],
    fun path => mem_keys_update_iff hSound hReadable hExpand hHidden,
    fun path hPath => exists_batch_of_mem_keys_update hSound hReadable hHidden hPath, ?_, ?_⟩
  · intro table record hRecord
    have hAfter : IsSound (scene :: past) (update scene.extractors scene.tree database).database :=
      (Reachable.update scene hReach).isSound
    obtain ⟨hTable, hFile, -⟩ := hAfter.exists_batch hRecord
    exact ⟨hTable, hFile⟩
  · intro path hPath
    obtain ⟨extractor, content, hSelect, hRead, hRebuilt⟩ :=
      exists_batch_of_mem_keys_update hSound.blank hReadable noHiddenChange_blank hPath
    rw [mem_keys_update_iff hSound.blank hReadable hExpand noHiddenChange_blank] at hPath
    obtain ⟨hFile, hSelected, hNone | hListed⟩ := hPath
    · cases hNone
    · have hAfter :
          path ∈ (update scene.extractors scene.tree database).database.catalog.files.keys :=
        (mem_keys_update_iff hSound hReadable hExpand hHidden).mpr
          ⟨hFile, hSelected, .inr hListed⟩
      obtain ⟨other, present, hOther, hPresent, hRecords⟩ :=
        exists_batch_of_mem_keys_update hSound hReadable hHidden hAfter
      obtain rfl : other = extractor := Option.some.inj (hOther.symm.trans hSelect)
      obtain rfl : present = content := Except.ok.inj (hPresent.symm.trans hRead)
      exact ⟨hAfter, fun table => (hRecords table).trans (hRebuilt table).symm⟩

/-- A file that was changed since the first scan has the records of its new content after an update.
-/
theorem firstScan_update_eq_rebuild :
    Reachable [earlyScene] firstScan ∧ lateScene.IsReadable ∧
    (∀ root ∈ firstScan.catalog.paths, ∃ files, lateScene.tree.files root = .ok files) ∧
    NoHiddenChange lateScene firstScan ∧
    ∃ after reported isChanged,
      update lateScene.extractors lateScene.tree firstScan = ⟨after, reported, .ok isChanged⟩ ∧
      "a.go" ∈ after.catalog.files.keys ∧
      ∃ extractor content, Extractor.select? lateScene.extractors "a.go" = some extractor ∧
        lateScene.tree.read "a.go" = .ok content ∧
        ∀ table, ((after.recordsIn table).filter fun record => record.file = "a.go") =
          (batch extractor "a.go" content).filter fun record => record.table = table := by
  have hReach : Reachable [earlyScene] firstScan := .addPaths earlyScene ["./a.go"] .empty
  have hReadable : lateScene.IsReadable := Scene.isReadable_of_entries (by decide)
  have hPaths : firstScan.catalog.paths = ["a.go"] := by decide
  have hExpand : ∀ root ∈ firstScan.catalog.paths, ∃ files,
      lateScene.tree.files root = .ok files := by
    rw [hPaths]
    intro root hRoot
    rw [List.mem_singleton.mp hRoot]
    exact ⟨["a.go"], rfl⟩
  have hHidden : NoHiddenChange lateScene firstScan := by
    intro path file extractor modified content hFile _ _ _ hModified hTime
    have hKeys : firstScan.catalog.files.keys = ["a.go"] := by decide
    have hPath : path ∈ firstScan.catalog.files.keys := Table.mem_keys_iff.mpr ⟨file, hFile⟩
    rw [hKeys] at hPath
    obtain rfl := List.mem_singleton.mp hPath
    obtain rfl : modified = 2 := (Except.ok.inj hModified).symm
    obtain rfl : file = ⟨"a.go", 1, "go", 1⟩ := (Option.some.inj hFile).symm
    exact absurd hTime (by decide)
  obtain ⟨after, reported, isChanged, hUpdate, hKeys, hRecords, -, -⟩ :=
    update_eq_rebuild hReach hReadable hExpand hHidden
  have hTracked : "a.go" ∈ after.catalog.files.keys :=
    (hKeys "a.go").mpr ⟨by decide, by decide, .inl (by decide)⟩
  exact ⟨hReach, hReadable, hExpand, hHidden, after, reported, isChanged, hUpdate, hTracked,
    hRecords "a.go" hTracked⟩

end Database

end CodeIndex
