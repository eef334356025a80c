import CodeIndex.Database.Storage
import CodeIndex.Proofs.FileView
import CodeIndex.Proofs.NormalPaths
import CodeIndex.Proofs.SnapshotRoundTrip

/-! The databases that come about from an empty one by its own operations, with any change of the
files and of the extractors between them. In each of them the records of a file are what one
extractor built from one content of the file. -/
namespace CodeIndex.Database

variable {past : List Scene} {scene : Scene} {database : Database}

/-- The databases that a run can lead to. Each operation that looks at files does so in a scene of
its own, and the scenes met so far are kept. A snapshot that is loaded was saved by another run. -/
inductive Reachable : (past : List Scene) → Database → Prop
  | empty : Reachable [] {}
  | addPaths {past : List Scene} {database : Database} (scene : Scene) (paths : List String) :
    Reachable past database →
      Reachable (scene :: past) (addPaths scene.extractors scene.tree database paths).database
  | addExcludes {past : List Scene} {database : Database} (patterns : List String) :
    Reachable past database → Reachable past (database.addExcludes patterns).1
  | update {past : List Scene} {database : Database} (scene : Scene) :
    Reachable past database →
      Reachable (scene :: past) (update scene.extractors scene.tree database).database
  | load {past other : List Scene} {database saved : Database} (scene : Scene) (path : String)
    {packed bytes : List UInt8} :
    Reachable past database → Reachable other saved →
    Snapshot.encode saved.catalog saved.tables = .ok bytes →
    scene.tree.read path = .ok packed → Gzip.unpack packed = .ok bytes →
      Reachable (other ++ past) (load scene.extractors scene.tree database path).database

/-- What one step can make of the view of a file: leave it, drop it, or replace it by what a scan
brings. Only files with a normal path that is not excluded are scanned. -/
inductive ViewStep (past : List Scene) (excludes : List String) (path : String)
    (before after : FileView) : Prop
  | kept (hSame : after = before)
  | dropped (hAbsent : after = .absent)
  | scanned {scene : Scene} {entry : TrackedFile × List Record} (hScene : scene ∈ past)
    (hNormal : Path.normalize path = path) (hAdmitted : Path.isExcluded path excludes = false)
    (hScan : scene.scan? path = some entry) (hView : after = FileView.absent.add (some entry))

/-- The invariant of all runs. A file is either unknown or known by a scan in one of the scenes met
so far; its path is normal and not excluded. -/
structure IsSound (past : List Scene) (database : Database) : Prop where
  views : ∀ path, database.viewOf path = .absent ∨ ∃ scene ∈ past, ∃ entry,
    scene.scan? path = some entry ∧ database.viewOf path = FileView.absent.add (some entry)
  normal : ∀ path ∈ database.catalog.files.keys, Path.normalize path = path
  admitted : ∀ path ∈ database.catalog.files.keys,
    Path.isExcluded path database.catalog.excludes = false
  paths_nodup : database.catalog.paths.Nodup
  excludes_nodup : database.catalog.excludes.Nodup

namespace IsSound

/-- A longer past makes a database no less sound. -/
theorem mono {other : List Scene} (hSound : IsSound past database) (hPast : past ⊆ other) :
    IsSound other database := by
  refine { hSound with views := fun path => ?_ }
  rcases hSound.views path with hAbsent | ⟨scene, hScene, hScan⟩
  · exact .inl hAbsent
  · exact .inr ⟨scene, hPast hScene, hScan⟩

/-- A file that is not tracked has no records either. -/
theorem viewOf_eq_absent (hSound : IsSound past database) {path : String}
    (hFile : (database.viewOf path).file = none) : database.viewOf path = .absent := by
  rcases hSound.views path with hAbsent | ⟨scene, -, ⟨file, records⟩, -, hView⟩
  · exact hAbsent
  · rw [hView] at hFile
    cases hFile

/-- Steps on the views keep the invariant as long as the root paths and the patterns stay. -/
theorem step {after : Database} (hSound : IsSound past database)
    (hSettings : after.settings = database.settings)
    (hStep : ∀ path, ViewStep past database.catalog.excludes path (database.viewOf path)
      (after.viewOf path)) : IsSound past after := by
  obtain ⟨hPaths, hExcludes⟩ := Prod.mk.inj hSettings
  have hTracked : ∀ path ∈ after.catalog.files.keys, Path.normalize path = path ∧
      Path.isExcluded path database.catalog.excludes = false := by
    intro path hPath
    have hView := hStep path
    rw [mem_keys_iff_viewOf] at hPath
    cases hView with
    | kept hSame =>
      rw [hSame, ← mem_keys_iff_viewOf] at hPath
      exact ⟨hSound.normal path hPath, hSound.admitted path hPath⟩
    | dropped hAbsent => simp [hAbsent, FileView.absent] at hPath
    | scanned _ hNormal hAdmitted => exact ⟨hNormal, hAdmitted⟩
  refine ⟨fun path => ?_, fun path hPath => (hTracked path hPath).1, ?_, ?_, ?_⟩
  · cases hStep path with
    | kept hSame => rw [hSame]; exact hSound.views path
    | dropped hAbsent => exact .inl hAbsent
    | scanned hScene _ _ hScan hView => exact .inr ⟨_, hScene, _, hScan, hView⟩
  · rw [hExcludes]
    exact fun path hPath => (hTracked path hPath).2
  · rw [hPaths]
    exact hSound.paths_nodup
  · rw [hExcludes]
    exact hSound.excludes_nodup

/-- To read the files of root paths keeps a database sound. -/
theorem addRoots (hSound : IsSound past database) (hScene : scene ∈ past) (roots : List String) :
    IsSound past (addRoots scene.extractors scene.tree database roots).1 := by
  apply hSound.step (settings_addRoots roots)
  intro path
  rw [viewOf_addRoots]
  split_ifs with hNew
  · obtain ⟨hListed, hFile, hAdmitted⟩ := hNew
    obtain ⟨root, -, files, hFiles, hMem⟩ := exists_root_of_mem_expandRoots hListed
    rw [hSound.viewOf_eq_absent hFile]
    cases hScan : scene.scan? path with
    | none => exact .kept rfl
    | some entry =>
      exact .scanned hScene (FileTree.normalize_of_mem_filesFrom hFiles hMem) hAdmitted hScan rfl
  · exact .kept rfl

/-- To bring the files in line keeps a database sound. A file that is read again loses the records
of the older scan first. -/
theorem updateFiles (hSound : IsSound past database) (hScene : scene ∈ past) :
    IsSound past
      (updateFiles scene.extractors scene.tree database database.catalog.files.keys).1 := by
  apply hSound.step (settings_updateFiles _)
  intro path
  rw [viewOf_updateFiles_keys, refreshedView]
  split_ifs with hPath
  · rw [FileView.refresh]
    split_ifs
    · exact .dropped rfl
    · cases hScan : scene.scan? path with
      | none => exact .dropped rfl
      | some entry =>
        exact .scanned hScene (hSound.normal path hPath) (hSound.admitted path hPath) hScan rfl
    · exact .kept rfl
  · exact .kept rfl

theorem update (hSound : IsSound past database) (hScene : scene ∈ past) :
    IsSound past (update scene.extractors scene.tree database).database :=
  (hSound.updateFiles hScene).addRoots hScene _

theorem addPaths (hSound : IsSound past database) (hScene : scene ∈ past) (paths : List String) :
    IsSound past (addPaths scene.extractors scene.tree database paths).database := by
  let roots := (paths.map Path.normalize).eraseDups
  let known := database.catalog.paths
  -- Only the root paths change before the files are looked for.
  have hTracked : IsSound past { database with catalog := { database.catalog with
      paths := known ++ roots.filter fun root => !known.contains root } } := by
    refine { hSound with paths_nodup := ?_ }
    refine List.nodup_append.mpr ⟨hSound.paths_nodup, (nodup_eraseDups _).filter _, ?_⟩
    rintro root hKnown other hOther rfl
    simp [known, hKnown] at hOther
  exact hTracked.addRoots hScene roots

theorem addExcludes (hSound : IsSound past database) (patterns : List String) :
    IsSound past (database.addExcludes patterns).1 := by
  obtain ⟨hPaths, hExcludes⟩ := Prod.mk.inj (database.settings_addExcludes patterns)
  have hTracked : ∀ path ∈ (database.addExcludes patterns).1.catalog.files.keys,
      path ∈ database.catalog.files.keys ∧
        Path.isExcluded path (database.newPatterns patterns) = false := by
    intro path hPath
    rw [mem_keys_iff_viewOf, viewOf_addExcludes] at hPath
    split_ifs at hPath with hExcluded
    · simp [FileView.absent] at hPath
    · rw [← mem_keys_iff_viewOf] at hPath
      exact ⟨hPath, by simpa [hPath] using hExcluded⟩
  refine ⟨fun path => ?_, fun path hPath => hSound.normal path (hTracked path hPath).1, ?_, ?_, ?_⟩
  · rw [viewOf_addExcludes]
    split_ifs
    · exact .inl rfl
    · exact hSound.views path
  · intro path hPath
    obtain ⟨hBefore, hNew⟩ := hTracked path hPath
    rw [hExcludes, Path.isExcluded, List.any_append]
    exact Bool.or_eq_false_iff.mpr ⟨hSound.admitted path hBefore, hNew⟩
  · rw [hPaths]
    exact hSound.paths_nodup.filter _
  · rw [hExcludes]
    refine List.nodup_append.mpr ⟨hSound.excludes_nodup, (nodup_eraseDups _).filter _, ?_⟩
    rintro pattern hKnown other hOther rfl
    simp [newPatterns, hKnown] at hOther

/-- A record in a table names that table, and it was built by an extractor from a content of its
file, which is tracked. -/
theorem exists_batch (hSound : IsSound past database) {table : String} {record : Record}
    (hRecord : record ∈ database.recordsIn table) :
    record.table = table ∧ record.file ∈ database.catalog.files.keys ∧
      ∃ extractor content, record ∈ batch extractor record.file content := by
  have hMem : record ∈ (database.viewOf record.file).records table :=
    List.mem_filter.mpr ⟨hRecord, by simp⟩
  rcases hSound.views record.file with hAbsent | ⟨scene, -, ⟨file, records⟩, hScan, hView⟩
  · simp [hAbsent, FileView.absent] at hMem
  · obtain ⟨extractor, modified, content, -, -, -, rfl, rfl⟩ := Scene.scan?_eq_some_iff.mp hScan
    rw [hView] at hMem
    obtain ⟨hBatch, hTable⟩ := List.mem_filter.mp hMem
    refine ⟨by simpa using hTable, ?_, extractor, content, hBatch⟩
    rw [mem_keys_iff_viewOf, hView]
    rfl

/-- A tracked file was scanned in one of the scenes met so far, and its records are from there. -/
theorem exists_scan (hSound : IsSound past database) {path : String} {file : TrackedFile}
    (hFile : database.catalog.files.get? path = some file) :
    ∃ scene ∈ past, ∃ extractor modified content,
      Extractor.select? scene.extractors path = some extractor ∧
      scene.tree.modifiedSeconds path = .ok modified ∧ scene.tree.read path = .ok content ∧
      file = ⟨path, modified, extractor.name, extractor.version⟩ ∧
      ∀ table, (database.viewOf path).records table =
        (batch extractor path content).filter fun record => record.table = table := by
  have hTracked : (database.viewOf path).file = some file := hFile
  rcases hSound.views path with hAbsent | ⟨scene, hScene, ⟨other, records⟩, hScan, hView⟩
  · simp [hAbsent, FileView.absent] at hTracked
  · obtain ⟨extractor, modified, content, hSelect, hModified, hRead, hOther, rfl⟩ :=
      Scene.scan?_eq_some_iff.mp hScan
    rw [hView] at hTracked
    obtain rfl := Option.some.inj hTracked
    exact ⟨scene, hScene, extractor, modified, content, hSelect, hModified, hRead, hOther,
      fun table => by rw [hView]; rfl⟩

/-- The path of a tracked file is its key. -/
theorem filesNamed (hSound : IsSound past database) : database.catalog.FilesNamed := by
  rintro ⟨path, file⟩ hEntry
  obtain ⟨scene, -, extractor, modified, content, -, -, -, rfl, -⟩ :=
    hSound.exists_scan (Table.get?_eq_some_iff.mpr hEntry)
  rfl

theorem tablesStorable (hSound : IsSound past database) :
    Snapshot.TablesStorable .unbounded database.tables := by
  rintro ⟨table, records⟩ hEntry record hRecord
  have hTable : record ∈ database.recordsIn table := by
    rw [recordsIn, Table.get?_eq_some_iff.mpr hEntry]
    exact hRecord
  obtain ⟨hName, -, extractor, content, hBatch⟩ := hSound.exists_batch hTable
  obtain ⟨-, -, hLine, hScope⟩ := mem_batch hBatch
  exact ⟨hName, fun _ _ => rfl, fun value hValue => JsonValue.isText_iff.mpr (hLine value hValue),
    hScope⟩

/-- A snapshot of a sound database is loaded as a sound one, with the past of the database that was
saved. -/
theorem load {other : List Scene} {saved : Database} {path : String} {packed bytes : List UInt8}
    (hSaved : IsSound other saved)
    (hEncode : Snapshot.encode saved.catalog saved.tables = .ok bytes)
    (hRead : scene.tree.read path = .ok packed) (hUnpack : Gzip.unpack packed = .ok bytes) :
    IsSound other (load scene.extractors scene.tree database path).database := by
  have hDecode := Snapshot.decode_of_encode hSaved.filesNamed hSaved.tablesStorable hEncode
  have hLoad : (Database.load scene.extractors scene.tree database path).database =
      ⟨{ saved.catalog with files := saved.catalog.files.inOrder }, saved.tables⟩ := by
    rw [Database.load, hRead, ok_bind, hUnpack, ok_bind, hDecode]
    rfl
  rw [hLoad]
  refine hSaved.step rfl fun q => .kept ?_
  simp [viewOf, recordsIn]

end IsSound

/-- Every database that can be reached is sound, by induction on how it was reached. -/
theorem Reachable.isSound (hReach : Reachable past database) : IsSound past database := by
  induction hReach with
  | empty => exact ⟨fun _ => .inl rfl, nofun, nofun, .nil, .nil⟩
  | addPaths scene paths _ ih =>
    exact (ih.mono (List.subset_cons_self _ _)).addPaths List.mem_cons_self paths
  | addExcludes patterns _ ih => exact ih.addExcludes patterns
  | update scene _ ih => exact (ih.mono (List.subset_cons_self _ _)).update List.mem_cons_self
  | load scene path _ _ hEncode hRead hUnpack _ ihSaved =>
    exact (ihSaved.load hEncode hRead hUnpack).mono (List.subset_append_left _ _)

/-- In every database that a run can lead to, a record is in its own table, has a name and belongs
to a tracked file. The records of a tracked file are, table by table, all that one extractor built
from one content of the file, and both were met on the way. Tracked files have normal paths that
are not excluded, and neither root paths nor patterns occur twice. -/
theorem Reachable.records_from_one_scan (hReach : Reachable past database) :
    (∀ table records, database.tables.get? table = some records → ∀ record ∈ records,
      record.table = table ∧ record.name ≠ [] ∧ record.file ∈ database.catalog.files.keys) ∧
    (∀ path file, database.catalog.files.get? path = some file →
      ∃ scene ∈ past, ∃ extractor content,
        Extractor.select? scene.extractors path = some extractor ∧
        scene.tree.read path = .ok content ∧
        extractor.name = file.extractor ∧ extractor.version = file.extractorVersion ∧
        ∀ table, ((database.tables.get? table).getD []).filter (fun record => record.file = path) =
          (batch extractor path content).filter fun record => record.table = table) ∧
    (∀ path file, database.catalog.files.get? path = some file →
      file.path = path ∧ Path.normalize path = path ∧
        Path.isExcluded path database.catalog.excludes = false) ∧
    database.catalog.paths.Nodup ∧ database.catalog.excludes.Nodup := by
  have hSound := hReach.isSound
  refine ⟨?_, ?_, ?_, hSound.paths_nodup, hSound.excludes_nodup⟩
  · intro table records hTable record hRecord
    have hMem : record ∈ database.recordsIn table := by
      rw [recordsIn, hTable]
      exact hRecord
    obtain ⟨hName, hFile, extractor, content, hBatch⟩ := hSound.exists_batch hMem
    exact ⟨hName, (mem_batch hBatch).2.1, hFile⟩
  · intro path file hFile
    obtain ⟨scene, hScene, extractor, modified, content, hSelect, -, hRead, rfl, hRecords⟩ :=
      hSound.exists_scan hFile
    exact ⟨scene, hScene, extractor, content, hSelect, hRead, rfl, rfl, hRecords⟩
  · intro path file hFile
    have hPath : path ∈ database.catalog.files.keys := Table.mem_keys_iff.mpr ⟨file, hFile⟩
    exact ⟨hSound.filesNamed _ (Table.get?_eq_some_iff.mp hFile), hSound.normal path hPath,
      hSound.admitted path hPath⟩

/-- A file with a function. -/
def earlyScene : Scene :=
  ⟨[.go], { entries := [(["a.go"], .file (Utf8.encode "func f() \x7b\n") 1000)] }⟩

/-- The same file a second later, with a type in place of the function. -/
def lateScene : Scene :=
  ⟨[.python, .go], { entries := [(["a.go"], .file (Utf8.encode "type T int\n") 2000)] }⟩

/-- The database of the early scene. -/
def firstScan : Database :=
  (addPaths earlyScene.extractors earlyScene.tree {} ["./a.go"]).database

/-- The database of the early scene, brought in line with the late one. -/
def rescanned : Database := (update lateScene.extractors lateScene.tree firstScan).database

/-- A file that was read in two scenes has the records of the later one only. -/
theorem rescanned_records :
    Reachable [lateScene, earlyScene] rescanned ∧
    rescanned.catalog.files.get? "a.go" = some ⟨"a.go", 2, "go", 1⟩ ∧
    (rescanned.recordsIn "defs").map Record.name = [["T"]] ∧
    ∃ scene ∈ [lateScene, earlyScene], ∃ extractor content,
      Extractor.select? scene.extractors "a.go" = some extractor ∧
      scene.tree.read "a.go" = .ok content ∧ extractor.name = "go" ∧ extractor.version = 1 ∧
      ∀ table, ((rescanned.tables.get? table).getD []).filter (fun record => record.file = "a.go") =
        (batch extractor "a.go" content).filter fun record => record.table = table := by
  have hReach : Reachable [lateScene, earlyScene] rescanned :=
    .update lateScene (.addPaths earlyScene ["./a.go"] .empty)
  have hFile : rescanned.catalog.files.get? "a.go" = some ⟨"a.go", 2, "go", 1⟩ := by decide
  exact ⟨hReach, hFile, by decide, hReach.records_from_one_scan.2.1 "a.go" _ hFile⟩

end CodeIndex.Database
