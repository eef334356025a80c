import CodeIndex.Proofs.UpdateRebuild

/-! What the operations of a database return and which tables they make, said by the views of its
files. Nothing here depends on the order in which tracked files are listed. -/
namespace CodeIndex

/-- Whether reading a file brings a record of a table. -/
def Scene.Brings (scene : Scene) (path table : String) : Prop :=
  ∃ entry, scene.scan? path = some entry ∧ ∃ record ∈ entry.2, record.table = table

/-- What can be scanned is a file. -/
theorem Scene.Brings.isFile {scene : Scene} {path table : String}
    (hBrings : scene.Brings path table) : scene.tree.isFile path = true := by
  obtain ⟨⟨file, records⟩, hScan, -⟩ := hBrings
  obtain ⟨extractor, modified, content, -, -, hRead, -, -⟩ := scan?_eq_some_iff.mp hScan
  exact FileTree.isFile_of_read hRead

/-- Whether an update changes anything about a tracked file: it is gone, or stale. -/
def FileView.isOutdated (scene : Scene) (path : String) (view : FileView) : Bool :=
  !scene.tree.isFile path || view.file.any fun file =>
    Database.isStale scene.extractors scene.tree { file with path := path }

namespace Database

variable {scene : Scene} {database : Database} {path table : String}

/-! Adding files -/

theorem mem_keys_foldl_addRecord (records : List Record) (tables : Table (List Record)) :
    table ∈ (records.foldl addRecord tables).keys ↔
      table ∈ tables.keys ∨ ∃ record ∈ records, record.table = table := by
  induction records generalizing tables with
  | nil => simp
  | cons record records ih =>
    rw [List.foldl_cons, ih, addRecord, Table.modify, Table.mem_keys_insert,
      List.exists_mem_cons_iff, or_assoc, or_left_comm, eq_comm]

/-- To read a file adds the tables of its records. -/
theorem mem_tables_addFile? :
    table ∈ ((database.addFile? scene.extractors scene.tree path).getD database).tables.keys ↔
      table ∈ database.tables.keys ∨ scene.Brings path table := by
  rw [addFile?_eq_map_scan?, Scene.Brings]
  cases hScan : scene.scan? path with
  | none => simp
  | some entry =>
    simp only [Option.map_some, Option.getD_some, commit, mem_keys_foldl_addRecord,
      Option.some.injEq, exists_eq_left']

/-- To read files adds the tables of their records. -/
theorem mem_tables_addFiles (paths : List String) :
    table ∈ (addFiles scene.extractors scene.tree database paths).1.tables.keys ↔
      table ∈ database.tables.keys ∨ ∃ path ∈ paths, scene.Brings path table := by
  induction paths generalizing database with
  | nil => simp [addFiles]
  | cons path rest ih =>
    rw [addFiles_cons, ih, mem_tables_addFile?]
    simp only [List.mem_cons, exists_eq_or_imp, or_assoc]

/-- The files that are added are those that a scan brings something for. -/
theorem addFiles_snd (paths : List String) :
    (addFiles scene.extractors scene.tree database paths).2 =
      paths.filter fun path => (scene.scan? path).isSome := by
  induction paths generalizing database with
  | nil => rfl
  | cons path rest ih =>
    rw [addFiles, addFile?_eq_map_scan?]
    cases hScan : Scene.scan? ⟨scene.extractors, scene.tree⟩ path with
    | none => simpa [hScan] using ih
    | some entry => simpa [hScan] using ih

/-! Bringing files in line -/

/-- To remove a file takes no table away, even if it becomes empty. -/
theorem tables_keys_removeFile : (database.removeFile path).tables.keys = database.tables.keys := by
  simp [removeFile, Table.keys, Table.mapValues, Function.comp_def]

theorem mem_tables_updateFile :
    table ∈ (updateFile scene.extractors scene.tree database path).1.tables.keys ↔
      table ∈ database.tables.keys ∨
        (database.viewOf path).isOutdated scene path = true ∧ scene.Brings path table := by
  rw [updateFile_fst, FileView.isOutdated]
  change _ ↔ _ ∨ (_ || (database.catalog.files.get? path).any _) = true ∧ _
  split_ifs with hGone hStale
  · have hNothing : ¬scene.Brings path table := fun hBrings => by simp [hBrings.isFile] at hGone
    simp [tables_keys_removeFile, hNothing]
  · rw [mem_tables_addFile?, tables_keys_removeFile]
    simp [hStale]
  · simp [hStale, hGone]

/-- Whether anything changed is whether the file was outdated. -/
theorem updateFile_changed :
    (updateFile scene.extractors scene.tree database path).2.2 =
      (database.viewOf path).isOutdated scene path := by
  have hTracked : (database.viewOf path).file = database.catalog.files.get? path := rfl
  rw [updateFile, FileView.isOutdated, hTracked]
  generalize (database.catalog.files.get? path).any _ = stale
  cases scene.tree.isFile path with
  | false => rfl
  | true =>
    cases stale with
    | false => rfl
    | true =>
      simp only [Bool.not_true, Bool.false_eq_true, if_false]
      cases (database.removeFile path).addFile? scene.extractors scene.tree path <;> rfl

/-- Other files are known as before after one was brought in line. -/
theorem exists_updateFile_iff {rest : List String} (hNew : path ∉ rest)
    (p : String → FileView → Prop) :
    (∃ other ∈ rest,
        p other ((updateFile scene.extractors scene.tree database path).1.viewOf other)) ↔
      ∃ other ∈ rest, p other (database.viewOf other) := by
  refine exists_congr fun other => and_congr_right fun hMem => ?_
  rw [viewOf_updateFile, if_neg (ne_of_mem_of_not_mem hMem hNew)]

/-- To bring files in line adds the tables of those that are read anew. -/
theorem mem_tables_updateFiles {paths : List String} (hNodup : paths.Nodup) :
    table ∈ (updateFiles scene.extractors scene.tree database paths).1.tables.keys ↔
      table ∈ database.tables.keys ∨ ∃ path ∈ paths,
        (database.viewOf path).isOutdated scene path = true ∧ scene.Brings path table := by
  induction paths generalizing database with
  | nil => simp [updateFiles]
  | cons path rest ih =>
    obtain ⟨hNew, hRest⟩ := List.nodup_cons.mp hNodup
    rw [updateFiles, ih hRest, exists_updateFile_iff hNew fun other view =>
      view.isOutdated scene other = true ∧ scene.Brings other table, mem_tables_updateFile,
      or_assoc, List.exists_mem_cons_iff]

/-- Something changed if one of the files was outdated. -/
theorem updateFiles_changed {paths : List String} (hNodup : paths.Nodup) :
    (updateFiles scene.extractors scene.tree database paths).2.2 = true ↔
      ∃ path ∈ paths, (database.viewOf path).isOutdated scene path = true := by
  induction paths generalizing database with
  | nil => simp [updateFiles]
  | cons path rest ih =>
    obtain ⟨hNew, hRest⟩ := List.nodup_cons.mp hNodup
    rw [updateFiles, Bool.or_eq_true, ih hRest, exists_updateFile_iff hNew fun other view =>
      view.isOutdated scene other = true, updateFile_changed, List.exists_mem_cons_iff]

/-! More patterns -/

theorem tables_keys_foldl_removeFile (removed : List String) :
    (removed.foldl removeFile database).tables.keys = database.tables.keys := by
  induction removed generalizing database with
  | nil => rfl
  | cons path rest ih => rw [List.foldl_cons, ih, tables_keys_removeFile]

theorem tables_keys_addExcludes (patterns : List String) :
    (database.addExcludes patterns).1.tables.keys = database.tables.keys := by
  rw [addExcludes_fst, tables_keys_foldl_removeFile]
  rfl

/-- As many files are removed as a new pattern describes. -/
theorem addExcludes_snd (patterns : List String) :
    (database.addExcludes patterns).2 = (database.catalog.files.keys.filter fun path =>
      Path.isExcluded path (database.newPatterns patterns)).length := by
  by_cases hEmpty : (database.newPatterns patterns).isEmpty = true
  · have hSame : database.addExcludes patterns = (database, 0) := if_pos hEmpty
    simp [hSame, List.isEmpty_iff.mp hEmpty, Path.isExcluded]
  · exact congrArg Prod.snd (if_neg hEmpty)

end Database

end CodeIndex
