import CodeIndex.Database.Upkeep
import CodeIndex.Proofs.TableLaws

/-! What a database knows about one file: its entry in the catalog and its records in each table.
Every operation is described by what it does to the view of each file, so that later arguments need
not look into the tables. -/
namespace CodeIndex

/-- The extractors and the files that an operation works with. -/
structure Scene where
  extractors : List Extractor
  tree : FileTree

/-- What is known about one file. -/
@[ext]
structure FileView where
  file : Option TrackedFile
  records : (table : String) → List Record

namespace FileView

/-- The view of a file that nothing is known about. -/
def absent : FileView := ⟨none, fun _ => []⟩

/-- The view after a file was read with some result. New records follow those that are there. -/
def add (view : FileView) : Option (TrackedFile × List Record) → FileView
  | none => view
  | some (file, records) =>
    ⟨some file, fun table =>
      view.records table ++ records.filter fun record => record.table = table⟩

end FileView

/-- What reading a file brings, if an extractor reads it and it can be read. -/
def Scene.scan? (scene : Scene) (path : String) : Option (TrackedFile × List Record) := do
  let extractor ← Extractor.select? scene.extractors path
  let modified ← (scene.tree.modifiedSeconds path).toOption
  let content ← (scene.tree.read path).toOption
  return (⟨path, modified, extractor.name, extractor.version⟩,
    Database.batch extractor path content)

theorem toOption_eq_some_iff {ε α : Type} {x : Except ε α} {a : α} :
    x.toOption = some a ↔ x = .ok a := by
  cases x <;> simp [Except.toOption]

/-- A scan succeeds with an extractor for the path, a time of change and a content. -/
theorem Scene.scan?_eq_some_iff {scene : Scene} {path : String} {file : TrackedFile}
    {records : List Record} :
    scene.scan? path = some (file, records) ↔ ∃ extractor modified content,
      Extractor.select? scene.extractors path = some extractor ∧
      scene.tree.modifiedSeconds path = .ok modified ∧ scene.tree.read path = .ok content ∧
      file = ⟨path, modified, extractor.name, extractor.version⟩ ∧
      records = Database.batch extractor path content := by
  simp only [scan?, Option.bind_eq_bind, Option.bind_eq_some_iff, toOption_eq_some_iff,
    Option.pure_def, Option.some.injEq, Prod.mk.injEq]
  constructor
  · rintro ⟨extractor, hSelect, modified, hModified, content, hRead, rfl, rfl⟩
    exact ⟨extractor, modified, content, hSelect, hModified, hRead, rfl, rfl⟩
  · rintro ⟨extractor, modified, content, hSelect, hModified, hRead, rfl, rfl⟩
    exact ⟨extractor, hSelect, modified, hModified, content, hRead, rfl, rfl⟩

/-- The view of a file after it was brought in line: it is gone if there is no such file any more,
read anew if it is tracked and stale, and as before otherwise. -/
def FileView.refresh (scene : Scene) (path : String) (view : FileView) : FileView :=
  if scene.tree.isFile path = false then .absent
  else if view.file.any (fun file =>
      Database.isStale scene.extractors scene.tree { file with path := path }) then
    FileView.absent.add (scene.scan? path)
  else view

namespace Database

variable {extractors : List Extractor} {tree : FileTree} {database : Database}

/-- A record that an extractor builds belongs to the file that was read, and it has a name. Its
source line is a text, and its scope is not empty. -/
theorem mem_batch {extractor : Extractor} {path : String} {content : List UInt8} {record : Record}
    (hRecord : record ∈ batch extractor path content) :
    record.file = path ∧ record.name ≠ [] ∧
      (∀ value ∈ record.line, ∃ text, value = .text text) ∧ record.scope ≠ some [] := by
  obtain ⟨fact, -, hFact⟩ := List.mem_filterMap.mp hRecord
  rw [Fact.record?] at hFact
  split_ifs at hFact with hName
  obtain rfl := Option.some.inj hFact
  refine ⟨rfl, by simpa using hName, ?_, ?_⟩
  · rintro value hValue
    obtain ⟨line, -, rfl⟩ := Option.map_eq_some_iff.mp hValue
    exact ⟨_, rfl⟩
  · simp [Option.filter_eq_some_iff]

/-- The records of a table, in their order. A table that is not there has none. -/
def recordsIn (database : Database) (table : String) : List Record :=
  (database.tables.get? table).getD []

/-- The view of one file. -/
def viewOf (database : Database) (path : String) : FileView :=
  ⟨database.catalog.files.get? path, fun table =>
    (database.recordsIn table).filter fun record => record.file = path⟩

/-- A file is tracked exactly if its view says so. -/
theorem mem_keys_iff_viewOf {database : Database} {path : String} :
    path ∈ database.catalog.files.keys ↔ (database.viewOf path).file.isSome = true := by
  rw [Table.mem_keys_iff, Option.isSome_iff_exists]
  rfl

/-- New records go behind those of their table, in their order. -/
theorem recordsIn_foldl_addRecord (records : List Record) (tables : Table (List Record))
    (table : String) :
    ((records.foldl addRecord tables).get? table).getD [] =
      (tables.get? table).getD [] ++ records.filter fun record => record.table = table := by
  induction records generalizing tables with
  | nil => simp
  | cons record records ih =>
    rw [List.foldl_cons, ih, addRecord, Table.get?_modify]
    by_cases hTable : record.table = table
    · simp [hTable]
    · simp [hTable, Ne.symm hTable]

/-- To note down a file that was read changes what is known about that file and no other. -/
theorem viewOf_commit {file : TrackedFile} {records : List Record}
    (hFile : ∀ record ∈ records, record.file = file.path) (path : String) :
    (database.commit file records).viewOf path =
      if path = file.path then (database.viewOf path).add (some (file, records))
      else database.viewOf path := by
  have hRecords (table : String) :
      (records.filter fun record => record.table = table).filter
          (fun record => record.file = path) =
        if path = file.path then records.filter fun record => record.table = table else [] := by
    split_ifs with hPath
    · rw [List.filter_eq_self]
      intro record hRecord
      simpa [hPath] using hFile record (List.mem_of_mem_filter hRecord)
    · rw [List.filter_eq_nil_iff]
      intro record hRecord
      simpa [hFile record (List.mem_of_mem_filter hRecord)] using Ne.symm hPath
  apply FileView.ext
  · simp only [viewOf, commit, Table.get?_insert]
    split_ifs <;> rfl
  · funext table
    simp only [viewOf, recordsIn, commit, recordsIn_foldl_addRecord, List.filter_append, hRecords]
    split_ifs
    · rfl
    · simp

/-- With a file its records go, and those of other files keep their order. -/
theorem recordsIn_removeFile (path table : String) :
    (database.removeFile path).recordsIn table =
      (database.recordsIn table).filter fun record => record.file ≠ path := by
  rw [recordsIn, removeFile, Table.get?_mapValues, recordsIn]
  cases database.tables.get? table <;> rfl

/-- Nothing is known about a file that was removed, and all is as before about the others. -/
theorem viewOf_removeFile (removed path : String) :
    (database.removeFile removed).viewOf path =
      if path = removed then .absent else database.viewOf path := by
  have hFile : (database.removeFile removed).catalog.files.get? path =
      if path = removed then none else database.catalog.files.get? path := Table.get?_erase _ _ _
  simp only [viewOf, recordsIn_removeFile, List.filter_filter, hFile]
  split_ifs with hPath
  · simp [FileView.absent, hPath]
  · congr 1
    funext table
    apply List.filter_congr
    intro record _
    by_cases hFile : record.file = path <;> simp [hFile, hPath]

/-- Adding a file is committing what a scan of it brings. -/
theorem addFile?_eq_map_scan? (path : String) :
    database.addFile? extractors tree path =
      (Scene.scan? ⟨extractors, tree⟩ path).map fun (file, records) =>
        database.commit file records := by
  simp only [addFile?, Scene.scan?]
  cases Extractor.select? extractors path with
  | none => rfl
  | some extractor =>
    cases (tree.modifiedSeconds path).toOption with
    | none => rfl
    | some modified => cases (tree.read path).toOption <;> rfl

/-- To read a file adds what was read to what is known about that file, if it can be read. -/
theorem viewOf_addFile? (path q : String) :
    ((database.addFile? extractors tree path).getD database).viewOf q =
      if q = path then (database.viewOf q).add (Scene.scan? ⟨extractors, tree⟩ q)
      else database.viewOf q := by
  rw [addFile?_eq_map_scan?]
  cases hScan : Scene.scan? ⟨extractors, tree⟩ path with
  | none =>
    split_ifs with hPath
    · rw [hPath, hScan]
      rfl
    · rfl
  | some entry =>
    obtain ⟨file, records⟩ := entry
    obtain ⟨extractor, modified, content, -, -, -, rfl, rfl⟩ := Scene.scan?_eq_some_iff.mp hScan
    rw [Option.map_some, Option.getD_some,
      viewOf_commit fun record hRecord => (mem_batch hRecord).1]
    split_ifs with hPath
    · rw [hPath, hScan]
    · rfl

/-- Files are read one after the other, and those that cannot be read are passed over. -/
theorem addFiles_cons (path : String) (rest : List String) :
    (addFiles extractors tree database (path :: rest)).1 =
      (addFiles extractors tree ((database.addFile? extractors tree path).getD database)
        rest).1 := by
  rw [addFiles]
  cases database.addFile? extractors tree path <;> rfl

/-- To read files reads each of them, whatever the others are. The induction is on the files, no two
of which are the same. -/
theorem viewOf_addFiles {paths : List String} (hNodup : paths.Nodup) (q : String) :
    (addFiles extractors tree database paths).1.viewOf q =
      if q ∈ paths then (database.viewOf q).add (Scene.scan? ⟨extractors, tree⟩ q)
      else database.viewOf q := by
  induction paths generalizing database with
  | nil => rfl
  | cons path rest ih =>
    obtain ⟨hNew, hRest⟩ := List.nodup_cons.mp hNodup
    rw [addFiles_cons, ih hRest, viewOf_addFile?]
    by_cases hPath : q = path
    · simp [hPath, hNew]
    · simp [hPath]

/-- There is no failure if each root path can be listed. -/
theorem expandRoots_snd {roots : List String}
    (hExpand : ∀ root ∈ roots, ∃ files, tree.files root = .ok files) :
    (expandRoots tree roots).2 = none := by
  induction roots with
  | nil => rfl
  | cons root roots ih =>
    obtain ⟨files, hFiles⟩ := hExpand root List.mem_cons_self
    rw [expandRoots, hFiles]
    exact ih fun root hRoot => hExpand root (List.mem_cons_of_mem _ hRoot)

/-- Where no root path fails, all files of all root paths are listed. -/
theorem mem_expandRoots_iff {roots : List String}
    (hExpand : ∀ root ∈ roots, ∃ files, tree.files root = .ok files) {path : String} :
    path ∈ (expandRoots tree roots).1 ↔
      ∃ root ∈ roots, ∃ files, tree.files root = .ok files ∧ path ∈ files := by
  induction roots with
  | nil => simp [expandRoots]
  | cons root roots ih =>
    obtain ⟨files, hFiles⟩ := hExpand root List.mem_cons_self
    simp only [expandRoots, hFiles, List.mem_append, List.mem_cons, exists_eq_or_imp,
      Except.ok.injEq, exists_eq_left']
    rw [ih fun root hRoot => hExpand root (List.mem_cons_of_mem _ hRoot)]

/-- The files of root paths are each listed by one of them. -/
theorem exists_root_of_mem_expandRoots {roots : List String} {path : String}
    (hPath : path ∈ (expandRoots tree roots).1) :
    ∃ root ∈ roots, ∃ files, tree.files root = .ok files ∧ path ∈ files := by
  induction roots with
  | nil => simp [expandRoots] at hPath
  | cons root roots ih =>
    rw [expandRoots] at hPath
    cases hFiles : tree.files root with
    | error failure => simp [hFiles] at hPath
    | ok files =>
      rw [hFiles] at hPath
      rcases List.mem_append.mp hPath with hPath | hPath
      · exact ⟨root, List.mem_cons_self, files, hFiles, hPath⟩
      · obtain ⟨other, hOther, hRest⟩ := ih hPath
        exact ⟨other, List.mem_cons_of_mem _ hOther, hRest⟩

theorem nodup_eraseDups (paths : List String) : paths.eraseDups.Nodup := by
  cases paths with
  | nil => simp
  | cons path rest =>
    rw [List.eraseDups_cons, List.nodup_cons]
    exact ⟨by simp, nodup_eraseDups _⟩
termination_by paths.length
decreasing_by exact Nat.lt_succ_of_le (List.length_filter_le _ _)

/-- New root paths bring the listed files that are neither tracked nor excluded. -/
theorem viewOf_addRoots (roots : List String) (q : String) :
    (addRoots extractors tree database roots).1.viewOf q =
      if q ∈ (expandRoots tree roots).1 ∧ (database.viewOf q).file = none ∧
          Path.isExcluded q database.catalog.excludes = false
      then (database.viewOf q).add (Scene.scan? ⟨extractors, tree⟩ q)
      else database.viewOf q := by
  have hNodup : (untracked extractors database (expandRoots tree roots).1).Nodup :=
    (nodup_eraseDups _).filter _
  have hViews : (addRoots extractors tree database roots).1 =
    (addFiles extractors tree database
      (untracked extractors database (expandRoots tree roots).1)).1 := rfl
  rw [hViews, viewOf_addFiles hNodup]
  -- A file that no extractor reads is not new, but a scan of it brings nothing either.
  cases hSelect : Extractor.select? extractors q with
  | none =>
    have hScan : Scene.scan? ⟨extractors, tree⟩ q = none := by simp [Scene.scan?, hSelect]
    simp [hScan, FileView.add]
  | some extractor =>
    have hNew : q ∈ untracked extractors database (expandRoots tree roots).1 ↔
        q ∈ (expandRoots tree roots).1 ∧ (database.viewOf q).file = none ∧
          Path.isExcluded q database.catalog.excludes = false := by
      simp [untracked, hSelect, viewOf, Table.contains]
    by_cases hPath : q ∈ untracked extractors database (expandRoots tree roots).1
    · rw [if_pos hPath, if_pos (hNew.mp hPath)]
    · rw [if_neg hPath, if_neg (mt hNew.mpr hPath)]

/-- A file is brought in line in one of three ways: it is removed, or read anew, or left as it is.
-/
theorem updateFile_fst (path : String) :
    (updateFile extractors tree database path).1 =
      if tree.isFile path = false then database.removeFile path
      else if (database.catalog.files.get? path).any (fun file =>
          isStale extractors tree { file with path := path }) then
        ((database.removeFile path).addFile? extractors tree path).getD (database.removeFile path)
      else database := by
  rw [updateFile]
  generalize (database.catalog.files.get? path).any _ = stale
  cases tree.isFile path with
  | false => rfl
  | true =>
    cases stale with
    | false => rfl
    | true =>
      simp only [Bool.not_true, Bool.false_eq_true, Bool.true_eq_false, if_false, if_true]
      cases (database.removeFile path).addFile? extractors tree path <;> rfl

/-- To bring a file in line changes what is known about that file and no other. -/
theorem viewOf_updateFile (path q : String) :
    (updateFile extractors tree database path).1.viewOf q =
      if q = path then (database.viewOf q).refresh ⟨extractors, tree⟩ q
      else database.viewOf q := by
  rw [updateFile_fst]
  by_cases hPath : q = path
  · subst hPath
    have hTracked : (database.viewOf q).file = database.catalog.files.get? q := rfl
    rw [if_pos rfl, FileView.refresh, hTracked]
    split_ifs
    · rw [viewOf_removeFile, if_pos rfl]
    · rw [viewOf_addFile?, if_pos rfl, viewOf_removeFile, if_pos rfl]
    · rfl
  · rw [if_neg hPath]
    split_ifs
    · rw [viewOf_removeFile, if_neg hPath]
    · rw [viewOf_addFile?, if_neg hPath, viewOf_removeFile, if_neg hPath]
    · rfl

/-- To bring files in line does so for each of them, whatever the others are. -/
theorem viewOf_updateFiles {paths : List String} (hNodup : paths.Nodup) (q : String) :
    (updateFiles extractors tree database paths).1.viewOf q =
      if q ∈ paths then (database.viewOf q).refresh ⟨extractors, tree⟩ q
      else database.viewOf q := by
  induction paths generalizing database with
  | nil => rfl
  | cons path rest ih =>
    obtain ⟨hNew, hRest⟩ := List.nodup_cons.mp hNodup
    rw [updateFiles, ih hRest, viewOf_updateFile]
    by_cases hPath : q = path
    · simp [hPath, hNew]
    · simp [hPath]

/-- The root paths and the exclude patterns, which change only on request. -/
def settings (database : Database) : List String × List String :=
  (database.catalog.paths, database.catalog.excludes)

theorem settings_addFile? (path : String) :
    ((database.addFile? extractors tree path).getD database).settings = database.settings := by
  rw [addFile?_eq_map_scan?]
  cases Scene.scan? ⟨extractors, tree⟩ path <;> rfl

theorem settings_addFiles (paths : List String) :
    (addFiles extractors tree database paths).1.settings = database.settings := by
  induction paths generalizing database with
  | nil => rfl
  | cons path rest ih => rw [addFiles_cons, ih, settings_addFile?]

theorem settings_addRoots (roots : List String) :
    (addRoots extractors tree database roots).1.settings = database.settings :=
  settings_addFiles _

theorem settings_updateFile (path : String) :
    (updateFile extractors tree database path).1.settings = database.settings := by
  rw [updateFile_fst]
  split_ifs
  · rfl
  · exact settings_addFile? path
  · rfl

theorem settings_updateFiles (paths : List String) :
    (updateFiles extractors tree database paths).1.settings = database.settings := by
  induction paths generalizing database with
  | nil => rfl
  | cons path rest ih => rw [updateFiles, ih, settings_updateFile]

/-- The view of a file between the two halves of an update, when the tracked files are in line and
no new ones were looked for. -/
def refreshedView (scene : Scene) (database : Database) (path : String) : FileView :=
  if path ∈ database.catalog.files.keys then (database.viewOf path).refresh scene path
  else database.viewOf path

theorem viewOf_updateFiles_keys (q : String) :
    (updateFiles extractors tree database database.catalog.files.keys).1.viewOf q =
      database.refreshedView ⟨extractors, tree⟩ q :=
  viewOf_updateFiles database.catalog.files.nodup q

/-- An update brings the tracked files in line, and then adds the listed files that are not tracked
at that point. -/
theorem viewOf_update (q : String) :
    (update extractors tree database).database.viewOf q =
      if q ∈ (expandRoots tree database.catalog.paths).1 ∧
          (database.refreshedView ⟨extractors, tree⟩ q).file = none ∧
          Path.isExcluded q database.catalog.excludes = false
      then (database.refreshedView ⟨extractors, tree⟩ q).add (Scene.scan? ⟨extractors, tree⟩ q)
      else database.refreshedView ⟨extractors, tree⟩ q := by
  have hSettings : (updateFiles extractors tree database database.catalog.files.keys).1.settings =
      database.settings := settings_updateFiles _
  obtain ⟨hPaths, hExcludes⟩ := Prod.mk.inj hSettings
  have hUpdate : (update extractors tree database).database =
      (addRoots extractors tree (updateFiles extractors tree database
        database.catalog.files.keys).1 database.catalog.paths).1 := by
    rw [← hPaths]
    rfl
  rw [hUpdate, viewOf_addRoots, viewOf_updateFiles_keys, hExcludes]

/-- Of several files that are removed, each is gone and no other is. -/
theorem viewOf_foldl_removeFile (removed : List String) (q : String) :
    (removed.foldl removeFile database).viewOf q =
      if q ∈ removed then .absent else database.viewOf q := by
  induction removed generalizing database with
  | nil => rfl
  | cons path rest ih =>
    rw [List.foldl_cons, ih, viewOf_removeFile]
    by_cases hRest : q ∈ rest <;> simp [hRest]

theorem settings_foldl_removeFile (removed : List String) :
    (removed.foldl removeFile database).settings = database.settings := by
  induction removed generalizing database with
  | nil => rfl
  | cons path rest ih => rw [List.foldl_cons, ih]; rfl

/-- The patterns that are new to a database. Empty ones do not count, and none is taken twice. -/
def newPatterns (database : Database) (patterns : List String) : List String :=
  patterns.eraseDups.filter fun pattern =>
    pattern ≠ "" && !database.catalog.excludes.contains pattern

/-- The database with more patterns and its files as they were. Root paths that are a new pattern
are given up. -/
def withPatterns (database : Database) (added : List String) : Database :=
  { database with catalog := { database.catalog with
    excludes := database.catalog.excludes ++ added
    paths := database.catalog.paths.filter fun path => !(added.map Path.normalize).contains path } }

/-- Patterns are noted down first, and then the files that they exclude are removed. It does not
matter whether there were any new ones. -/
theorem addExcludes_fst (patterns : List String) :
    (database.addExcludes patterns).1 =
      (database.catalog.files.keys.filter fun path =>
          Path.isExcluded path (database.newPatterns patterns)).foldl removeFile
        (database.withPatterns (database.newPatterns patterns)) := by
  by_cases hEmpty : (database.newPatterns patterns).isEmpty = true
  · have hSame : database.addExcludes patterns = (database, 0) := if_pos hEmpty
    simp [hSame, List.isEmpty_iff.mp hEmpty, Path.isExcluded, withPatterns]
  · exact congrArg Prod.fst (if_neg hEmpty)

/-- More patterns take away the tracked files that a new one describes. -/
theorem viewOf_addExcludes (patterns : List String) (q : String) :
    (database.addExcludes patterns).1.viewOf q =
      if q ∈ database.catalog.files.keys ∧ Path.isExcluded q (database.newPatterns patterns) = true
      then .absent else database.viewOf q := by
  rw [addExcludes_fst, viewOf_foldl_removeFile]
  simp only [List.mem_filter]
  rfl

/-- The new patterns stand after the known ones, and root paths that are one of them are given
up. -/
theorem settings_addExcludes (patterns : List String) :
    (database.addExcludes patterns).1.settings =
      (database.catalog.paths.filter fun path =>
          !((database.newPatterns patterns).map Path.normalize).contains path,
        database.catalog.excludes ++ database.newPatterns patterns) := by
  rw [addExcludes_fst, settings_foldl_removeFile]
  rfl

end Database

end CodeIndex
