import CodeIndex.Proofs.ScanHistory
import CodeIndex.Proofs.UpkeepResults

/-! That a database was saved and loaded again cannot be noticed. Loading puts the tracked files
into another order, so later updates read them in another order and the tables come to differ. What
stays the same is what is known about each file, and all operations are determined by that. -/
namespace CodeIndex.Database

/-- An operation on a database. Those that look at files do so in a scene of their own, so that the
files and the extractors may change from one operation to the next. -/
inductive Operation where
  | addPaths (scene : Scene) (paths : List String)
  | addExcludes (patterns : List String)
  | update (scene : Scene)
  | files
  | tableNames
  | summary
  | records (table : String)
  | query (table key : String)
  | dumpTable (table : String)
  | dumpAll
  | tags
  | crossReference (directory : String)

namespace Operation

/-- What an operation returns. -/
abbrev Result : Operation → Type
  | .addPaths _ _ => Except Failure Nat
  | .addExcludes _ => Nat
  | .update _ => Except Failure Bool
  | .files => List String
  | .tableNames => List String
  | .summary => List (String × Nat)
  | .records _ => Except Failure (List Record)
  | .query _ _ => Except Failure (List Record)
  | .dumpTable _ => Except Failure (List String)
  | .dumpAll => Except Failure (List String)
  | .tags => Except Failure String
  | .crossReference _ => Except Failure String

/-- Two results that count as the same. Only the records of a table and those that fit a key may
come in another order, the latter as long as their scores do not. -/
def SameResult : (operation : Operation) → (first second : operation.Result) → Prop
  | .records _, first, second => SameList first second
  | .query _ key, first, second => SameRanking key first second
  | _, first, second => first = second

end Operation

/-- The database after an operation, and what the operation returns. -/
def perform (database : Database) : (operation : Operation) → Database × operation.Result
  | .addPaths scene paths =>
    let change := addPaths scene.extractors scene.tree database paths
    (change.database, change.result)
  | .addExcludes patterns => database.addExcludes patterns
  | .update scene =>
    let change := update scene.extractors scene.tree database
    (change.database, change.result)
  | .files => (database, database.files)
  | .tableNames => (database, database.tableNames)
  | .summary => (database, database.summary)
  | .records table => (database, database.records table)
  | .query table key => (database, database.query table key)
  | .dumpTable table => (database, database.dumpTable table)
  | .dumpAll => (database, database.dumpAll)
  | .tags => (database, database.tagsText)
  | .crossReference directory => (database, database.crossReferenceText directory)

/-- The database after some operations. -/
def after (database : Database) (operations : List Operation) : Database :=
  operations.foldl (fun database operation => (database.perform operation).1) database

/-- Whatever is done to a database that can be reached leads to one. -/
theorem Reachable.perform {past : List Scene} {database : Database}
    (hReach : Reachable past database) (operation : Operation) :
    ∃ more, Reachable more (database.perform operation).1 := by
  cases operation with
  | addPaths scene paths => exact ⟨_, hReach.addPaths scene paths⟩
  | addExcludes patterns => exact ⟨_, hReach.addExcludes patterns⟩
  | update scene => exact ⟨_, hReach.update scene⟩
  | _ => exact ⟨past, hReach⟩

/-- All records of a sound database have names. -/
theorem IsSound.isNamed {past : List Scene} {database : Database} (hSound : IsSound past database) :
    database.IsNamed := by
  intro table record hRecord
  obtain ⟨-, -, extractor, content, hBatch⟩ := hSound.exists_batch hRecord
  exact (mem_batch hBatch).2.1

/-- Two databases that know the same: the same root paths and patterns, the same about each file,
and the same tables. Neither the order of the files nor how their records are interleaved counts. -/
structure Agree (first second : Database) : Prop where
  settings : first.settings = second.settings
  views : ∀ path, first.viewOf path = second.viewOf path
  tables : ∀ table, table ∈ first.tables.keys ↔ table ∈ second.tables.keys

namespace Agree

variable {first second : Database}

theorem paths (hAgree : Agree first second) : first.catalog.paths = second.catalog.paths :=
  congrArg Prod.fst hAgree.settings

theorem excludes (hAgree : Agree first second) :
    first.catalog.excludes = second.catalog.excludes :=
  congrArg Prod.snd hAgree.settings

/-- Databases that agree have the same records of each file. -/
theorem sameRecords (hAgree : Agree first second) : SameRecords first second :=
  ⟨hAgree.tables, fun table path => congrArg (fun view => view.records table) (hAgree.views path)⟩

theorem files_eq (hAgree : Agree first second) : first.files = second.files := by
  have hFiles := Table.sorted_eq_of_get?_eq fun path => congrArg FileView.file (hAgree.views path)
  exact congrArg (List.map Prod.fst) hFiles

theorem mem_keys_iff (hAgree : Agree first second) (path : String) :
    path ∈ first.catalog.files.keys ↔ path ∈ second.catalog.files.keys := by
  rw [mem_keys_iff_viewOf, mem_keys_iff_viewOf, hAgree.views]

/-! What each operation does to two databases that agree -/

theorem untracked_eq (hAgree : Agree first second) (extractors : List Extractor)
    (files : List String) :
    untracked extractors first files = untracked extractors second files := by
  rw [untracked, untracked]
  refine List.filter_congr fun path _ => ?_
  have hFile : first.catalog.files.get? path = second.catalog.files.get? path :=
    congrArg FileView.file (hAgree.views path)
  rw [Table.contains, Table.contains, hFile, hAgree.excludes]

/-- Databases that agree do so after the files of root paths were read, and as many were new. -/
protected theorem addRoots (hAgree : Agree first second) (scene : Scene) (roots : List String) :
    Agree (addRoots scene.extractors scene.tree first roots).1
        (addRoots scene.extractors scene.tree second roots).1 ∧
      (addRoots scene.extractors scene.tree first roots).2 =
        (addRoots scene.extractors scene.tree second roots).2 := by
  refine ⟨⟨?_, fun path => ?_, fun table => ?_⟩, ?_⟩
  · rw [settings_addRoots, settings_addRoots, hAgree.settings]
  · rw [viewOf_addRoots, viewOf_addRoots, hAgree.views, hAgree.excludes]
  · have hTables {database : Database} :
        table ∈ (addRoots scene.extractors scene.tree database roots).1.tables.keys ↔
          table ∈ database.tables.keys ∨
            ∃ path ∈ untracked scene.extractors database (expandRoots scene.tree roots).1,
              scene.Brings path table := mem_tables_addFiles _
    rw [hTables, hTables, hAgree.tables, hAgree.untracked_eq]
  · have hAdded {database : Database} :
        (addRoots scene.extractors scene.tree database roots).2 =
          ((untracked scene.extractors database (expandRoots scene.tree roots).1).filter
            fun path => (scene.scan? path).isSome, (expandRoots scene.tree roots).2) :=
      congrArg (·, _) (addFiles_snd _)
    rw [hAdded, hAdded, hAgree.untracked_eq]

/-- The same for the root paths of the databases, which are the same too. -/
theorem addKnownRoots (hAgree : Agree first second) (scene : Scene) :
    Agree (addRoots scene.extractors scene.tree first first.catalog.paths).1
        (addRoots scene.extractors scene.tree second second.catalog.paths).1 ∧
      (addRoots scene.extractors scene.tree first first.catalog.paths).2 =
        (addRoots scene.extractors scene.tree second second.catalog.paths).2 := by
  rw [hAgree.paths]
  exact hAgree.addRoots scene second.catalog.paths

/-- The root paths do not matter for what is known about the files. -/
theorem withPaths (hAgree : Agree first second) (paths : List String) :
    Agree { first with catalog := { first.catalog with paths := paths } }
      { second with catalog := { second.catalog with paths := paths } } :=
  ⟨congrArg (paths, ·) hAgree.excludes, hAgree.views, hAgree.tables⟩

protected theorem addPaths (hAgree : Agree first second) (scene : Scene) (paths : List String) :
    Agree (addPaths scene.extractors scene.tree first paths).database
        (addPaths scene.extractors scene.tree second paths).database ∧
      (addPaths scene.extractors scene.tree first paths).result =
        (addPaths scene.extractors scene.tree second paths).result := by
  let roots := (paths.map Path.normalize).eraseDups
  let known := first.catalog.paths
  have hPaths := hAgree.withPaths (known ++ roots.filter fun root => !known.contains root)
  obtain ⟨hRoots, hAdded⟩ := hPaths.addRoots scene roots
  rw [addPaths, addPaths, ← hAgree.paths]
  exact ⟨hRoots, congrArg (fun added => resultOf added.1.length added.2) hAdded⟩

/-- Databases that agree do so after their files were brought in line, although each does so in its
own order. -/
protected theorem updateFiles (hAgree : Agree first second) (scene : Scene) :
    Agree (updateFiles scene.extractors scene.tree first first.catalog.files.keys).1
        (updateFiles scene.extractors scene.tree second second.catalog.files.keys).1 ∧
      (updateFiles scene.extractors scene.tree first first.catalog.files.keys).2.2 =
        (updateFiles scene.extractors scene.tree second second.catalog.files.keys).2.2 := by
  refine ⟨⟨?_, fun path => ?_, fun table => ?_⟩, ?_⟩
  · rw [settings_updateFiles, settings_updateFiles, hAgree.settings]
  · rw [viewOf_updateFiles_keys, viewOf_updateFiles_keys, refreshedView, refreshedView,
      hAgree.views, if_congr (hAgree.mem_keys_iff path) rfl rfl]
  · rw [mem_tables_updateFiles first.catalog.files.nodup_keys,
      mem_tables_updateFiles second.catalog.files.nodup_keys, hAgree.tables]
    simp only [hAgree.mem_keys_iff, hAgree.views]
  · rw [Bool.eq_iff_iff, updateFiles_changed first.catalog.files.nodup_keys,
      updateFiles_changed second.catalog.files.nodup_keys]
    simp only [hAgree.mem_keys_iff, hAgree.views]

/-- Databases that agree do so after an update. -/
protected theorem update (hAgree : Agree first second) (scene : Scene) :
    Agree (update scene.extractors scene.tree first).database
        (update scene.extractors scene.tree second).database ∧
      (update scene.extractors scene.tree first).result =
        (update scene.extractors scene.tree second).result := by
  obtain ⟨hFiles, hChanged⟩ := hAgree.updateFiles scene
  obtain ⟨hRoots, hAdded⟩ := hFiles.addKnownRoots scene
  refine ⟨hRoots, ?_⟩
  rw [update, update]
  exact congrArg₂ (fun isChanged added => resultOf (isChanged || !added.1.isEmpty) added.2)
    hChanged hAdded

/-- Databases that agree do so after patterns were excluded, and as many files went. -/
protected theorem addExcludes (hAgree : Agree first second) (patterns : List String) :
    Agree (first.addExcludes patterns).1 (second.addExcludes patterns).1 ∧
      (first.addExcludes patterns).2 = (second.addExcludes patterns).2 := by
  have hPatterns : first.newPatterns patterns = second.newPatterns patterns := by
    rw [newPatterns, newPatterns, hAgree.excludes]
  refine ⟨⟨?_, fun path => ?_, fun table => ?_⟩, ?_⟩
  · rw [settings_addExcludes, settings_addExcludes, hPatterns, hAgree.paths, hAgree.excludes]
  · rw [viewOf_addExcludes, viewOf_addExcludes, hAgree.views, hPatterns,
      if_congr (and_congr_left' (hAgree.mem_keys_iff path)) rfl rfl]
  · rw [tables_keys_addExcludes, tables_keys_addExcludes, hAgree.tables]
  · rw [addExcludes_snd, addExcludes_snd, hPatterns]
    exact ((Table.keys_perm_of_mem_iff hAgree.mem_keys_iff).filter _).length_eq

/-- An operation returns the same for databases that agree, and they still agree after it. -/
theorem perform (hAgree : Agree first second) (hNamed : first.IsNamed) (operation : Operation) :
    Agree (first.perform operation).1 (second.perform operation).1 ∧
      operation.SameResult (first.perform operation).2 (second.perform operation).2 := by
  cases operation with
  | addPaths scene paths => exact hAgree.addPaths scene paths
  | addExcludes patterns => exact hAgree.addExcludes patterns
  | update scene => exact hAgree.update scene
  | files => exact ⟨hAgree, hAgree.files_eq⟩
  | tableNames => exact ⟨hAgree, hAgree.sameRecords.tableNames_eq⟩
  | summary => exact ⟨hAgree, hAgree.sameRecords.summary_eq⟩
  | records table => exact ⟨hAgree, hAgree.sameRecords.records_sameList table⟩
  | query table key => exact ⟨hAgree, hAgree.sameRecords.query_sameRanking hNamed table key⟩
  | dumpTable table => exact ⟨hAgree, hAgree.sameRecords.dumpTable_eq hNamed table⟩
  | dumpAll => exact ⟨hAgree, hAgree.sameRecords.dumpAll_eq hNamed⟩
  | tags => exact ⟨hAgree, hAgree.sameRecords.tagsText_eq hNamed⟩
  | crossReference directory =>
    exact ⟨hAgree, hAgree.sameRecords.crossReferenceText_eq hAgree.paths directory⟩

/-- Databases that agree still do after any operations. -/
theorem after {past : List Scene} (hAgree : Agree first second) (hReach : Reachable past first)
    (operations : List Operation) :
    (∃ more, Reachable more (first.after operations)) ∧
      Agree (first.after operations) (second.after operations) := by
  induction operations generalizing past first second with
  | nil => exact ⟨⟨past, hReach⟩, hAgree⟩
  | cons operation rest ih =>
    obtain ⟨more, hMore⟩ := hReach.perform operation
    exact ih (hAgree.perform hReach.isSound.isNamed operation).1 hMore

end Agree

variable {past : List Scene} {database : Database}

/-- The database with its files in ascending order. -/
def inOrder (database : Database) : Database :=
  { database with catalog := { database.catalog with files := database.catalog.files.inOrder } }

/-- The order of the files makes no difference to what a database knows. -/
theorem agree_inOrder : Agree database database.inOrder := by
  refine ⟨rfl, fun path => ?_, fun table => Iff.rfl⟩
  simp [viewOf, recordsIn, inOrder]

/-- A database that was encoded can be decoded, and no operations tell the decoded one from it: any
operation after any others returns the same for both. -/
theorem decoded_indistinguishable (hReach : Reachable past database) {bytes : List UInt8}
    (hEncode : Snapshot.encode database.catalog database.tables = .ok bytes) :
    ∃ decoded : Database,
      Snapshot.decode bytes = .ok (.current decoded.catalog decoded.tables) ∧
      ∀ (operations : List Operation) (operation : Operation),
        operation.SameResult ((database.after operations).perform operation).2
          ((decoded.after operations).perform operation).2 := by
  have hSound := hReach.isSound
  have hDecode := Snapshot.decode_of_encode hSound.filesNamed hSound.tablesStorable hEncode
  refine ⟨database.inOrder, hDecode, fun operations operation => ?_⟩
  obtain ⟨⟨more, hMore⟩, hAgree⟩ := agree_inOrder.after hReach operations
  exact (hAgree.perform hMore.isSound.isNamed operation).2

/-- Two files with a function each. -/
def pairScene : Scene :=
  ⟨[.go], { entries := [(["a.go"], .file (Utf8.encode "func f() \x7b\n") 1000),
    (["b.go"], .file (Utf8.encode "func g() \x7b\n") 1000)] }⟩

/-- The same files a second later, with types whose names differ only in their case. -/
def changedPair : Scene :=
  ⟨[.go], { entries := [(["a.go"], .file (Utf8.encode "type F int\n") 2000),
    (["b.go"], .file (Utf8.encode "type f int\n") 2000)] }⟩

/-- The database of the two files, which are tracked in descending order. -/
def pairScan : Database :=
  (addPaths pairScene.extractors pairScene.tree {} ["b.go", "a.go"]).database

/-- A database with files in the order in which they were read cannot be told from its snapshot,
which has them sorted. -/
theorem pairScan_indistinguishable :
    Reachable [pairScene] pairScan ∧ pairScan.catalog.files.keys = ["b.go", "a.go"] ∧
    ∃ bytes, Snapshot.encode pairScan.catalog pairScan.tables = .ok bytes ∧
    ∃ decoded : Database,
      Snapshot.decode bytes = .ok (.current decoded.catalog decoded.tables) ∧
      (pairScan.after [.update changedPair]).dumpTable "defs" =
        (decoded.after [.update changedPair]).dumpTable "defs" ∧
      SameRanking "f" ((pairScan.after [.update changedPair]).query "defs" "f")
        ((decoded.after [.update changedPair]).query "defs" "f") := by
  have hReach : Reachable [pairScene] pairScan := .addPaths pairScene ["b.go", "a.go"] .empty
  obtain ⟨bytes, hEncode⟩ : ∃ bytes, Snapshot.encode pairScan.catalog pairScan.tables = .ok bytes :=
    Snapshot.encode_succeeds (by decide) (by decide)
  obtain ⟨decoded, hDecode, hSame⟩ := decoded_indistinguishable hReach hEncode
  exact ⟨hReach, by decide, bytes, hEncode, decoded, hDecode,
    hSame [.update changedPair] (.dumpTable "defs"),
    hSame [.update changedPair] (.query "defs" "f")⟩

-- The order in which files are read again shows in the table itself, so that it has to cancel out.
example :
    ((updateFiles changedPair.extractors changedPair.tree pairScan
      ["b.go", "a.go"]).1.recordsIn "defs").map Record.name = [["f"], ["F"]] ∧
    ((updateFiles changedPair.extractors changedPair.tree pairScan
      ["a.go", "b.go"]).1.recordsIn "defs").map Record.name = [["F"], ["f"]] := by
  decide

end CodeIndex.Database
