import CodeIndex.Proofs.RequestBatches

/-! Whether patterns are excluded before or after root paths are added makes no difference to the
tracked files and their records. The two orders are run side by side, and each visit keeps the one
database what is left of the other. -/
namespace CodeIndex.Database

variable {past : List Scene} {scene : Scene} {patterns : List String} {first second : Database}

/-- The first database is what is left of the second one without the files that patterns describe,
and it excludes these patterns too. -/
structure IsTrimmed (patterns : List String) (first second : Database) : Prop where
  excludes : first.catalog.excludes = second.catalog.excludes ++ patterns
  files : first.catalog.files = second.catalog.files.keepKeys fun path =>
    !Path.isExcluded path patterns
  records : ∀ table, first.recordsIn table = (second.recordsIn table).filter fun record =>
    !Path.isExcluded record.file patterns

theorem recordsIn_withoutFiles {database : Database} (isGone : String → Bool) (table : String) :
    (database.withoutFiles isGone).recordsIn table =
      (database.recordsIn table).filter fun record => !isGone record.file := by
  rw [recordsIn, withoutFiles, Table.get?_mapValues, recordsIn]
  cases database.tables.get? table <;> rfl

theorem recordsIn_commit {database : Database} (file : TrackedFile) (records : List Record)
    (table : String) :
    (database.commit file records).recordsIn table =
      database.recordsIn table ++ records.filter fun record => record.table = table :=
  recordsIn_foldl_addRecord records database.tables table

/-- A sound database has records of tracked files only, so that all records of the files that are
described go. -/
theorem IsSound.isTrimmed {database : Database} (hSound : IsSound past database)
    (patterns : List String) :
    IsTrimmed (database.newPatterns patterns) (database.addExcludes patterns).1 database := by
  refine ⟨(Prod.mk.inj (database.settings_addExcludes patterns)).2, ?_, fun table => ?_⟩
  · rw [addExcludes_eq_withoutFiles]
    ext1
    apply List.filter_congr
    intro entry hEntry
    have hPath : entry.1 ∈ database.catalog.files.keys := List.mem_map_of_mem hEntry
    simp [isPurged, hPath]
  · rw [addExcludes_eq_withoutFiles, recordsIn_withoutFiles]
    apply List.filter_congr
    intro record hRecord
    simp [isPurged, (hSound.exists_batch hRecord).2.1]

namespace IsTrimmed

/-- A file that is not excluded is tracked in both databases or in neither. -/
theorem mem_keys_iff (hTrimmed : IsTrimmed patterns first second) {path : String}
    (hKept : Path.isExcluded path patterns = false) :
    path ∈ first.catalog.files.keys ↔ path ∈ second.catalog.files.keys := by
  rw [hTrimmed.files, Table.keys_keepKeys]
  simp [hKept]

/-- The records of a file go or stay together. -/
theorem filter_records {records : List Record} {path : String}
    (hRecords : ∀ record ∈ records, record.file = path) (table : String) :
    ((records.filter fun record => record.table = table).filter fun record =>
        !Path.isExcluded record.file patterns) =
      if Path.isExcluded path patterns = true then []
      else records.filter fun record => record.table = table := by
  have hFile : ∀ record ∈ records.filter fun record => record.table = table,
      record.file = path := fun record hRecord => hRecords record (List.mem_of_mem_filter hRecord)
  split_ifs with hExcluded
  · rw [List.filter_eq_nil_iff]
    intro record hRecord
    simp [hFile record hRecord, hExcluded]
  · rw [List.filter_eq_self]
    intro record hRecord
    simpa [hFile record hRecord] using hExcluded

/-- A file that the patterns describe may be added to the second database alone. -/
theorem commit_excluded (hTrimmed : IsTrimmed patterns first second) {file : TrackedFile}
    {records : List Record} (hNew : file.path ∉ second.catalog.files.keys)
    (hRecords : ∀ record ∈ records, record.file = file.path)
    (hExcluded : Path.isExcluded file.path patterns = true) :
    IsTrimmed patterns first (second.commit file records) := by
  refine ⟨hTrimmed.excludes, ?_, fun table => ?_⟩
  · rw [hTrimmed.files]
    ext1
    simp [Table.keepKeys, entries_commit records hNew, hExcluded]
  · rw [recordsIn_commit, List.filter_append, filter_records hRecords, if_pos hExcluded,
      List.append_nil, hTrimmed.records]

/-- A file that the patterns do not describe is added to both. -/
theorem commit_kept (hTrimmed : IsTrimmed patterns first second) {file : TrackedFile}
    {records : List Record} (hNew : file.path ∉ second.catalog.files.keys)
    (hRecords : ∀ record ∈ records, record.file = file.path)
    (hKept : Path.isExcluded file.path patterns = false) :
    IsTrimmed patterns (first.commit file records) (second.commit file records) := by
  have hStillNew : file.path ∉ first.catalog.files.keys := mt (hTrimmed.mem_keys_iff hKept).mp hNew
  refine ⟨hTrimmed.excludes, ?_, fun table => ?_⟩
  · ext1
    rw [entries_commit records hStillNew, hTrimmed.files]
    simp [Table.keepKeys, entries_commit records hNew, hKept]
  · rw [recordsIn_commit, recordsIn_commit, List.filter_append, filter_records hRecords, hKept,
      hTrimmed.records]
    rfl

/-- A visit on both sides keeps the first database what is left of the second. -/
protected theorem visit (hTrimmed : IsTrimmed patterns first second) (path : String) :
    IsTrimmed patterns (visit scene first path) (visit scene second path) := by
  have hExcludes : Path.isExcluded path first.catalog.excludes =
      (Path.isExcluded path second.catalog.excludes || Path.isExcluded path patterns) := by
    rw [hTrimmed.excludes, isExcluded_append]
  rcases visit_cases scene second path with
    ⟨hSettled, hSame⟩ | ⟨hTracked, hAdmitted, entry, hScan, rfl, hCommit⟩
  · have hFirst : IsSettled scene first path := by
      cases hPatterns : Path.isExcluded path patterns with
      | true => exact .inr (.inl (by rw [hExcludes, hPatterns, Bool.or_true]))
      | false =>
        rwa [IsSettled, hTrimmed.mem_keys_iff hPatterns, hExcludes, hPatterns, Bool.or_false]
    rw [hSame, hFirst.visit_eq]
    exact hTrimmed
  · have hRecords : ∀ record ∈ entry.2, record.file = entry.1.path := by
      obtain ⟨extractor, modified, content, -, -, -, -, hBatch⟩ := Scene.scan?_eq_some_iff.mp hScan
      intro record hRecord
      rw [hBatch] at hRecord
      exact (mem_batch hRecord).1
    rw [hCommit]
    cases hPatterns : Path.isExcluded entry.1.path patterns with
    | true =>
      have hFirst : IsSettled scene first entry.1.path :=
        .inr (.inl (by rw [hExcludes, hPatterns, Bool.or_true]))
      rw [hFirst.visit_eq]
      exact hTrimmed.commit_excluded hTracked hRecords hPatterns
    | false =>
      rw [visit_of_scan? (mt (hTrimmed.mem_keys_iff hPatterns).mp hTracked)
        (by rwa [hExcludes, hPatterns, Bool.or_false]) hScan]
      exact hTrimmed.commit_kept hTracked hRecords hPatterns

/-- Databases that differ by excluded files only do so after any visits. The induction is on the
visits. -/
theorem foldl_visit (hTrimmed : IsTrimmed patterns first second) (paths : List String) :
    IsTrimmed patterns (paths.foldl (Database.visit scene) first)
      (paths.foldl (Database.visit scene) second) := by
  induction paths generalizing first second with
  | nil => exact hTrimmed
  | cons path rest ih => exact ih (hTrimmed.visit path)

/-- Adding root paths on both sides does so too. -/
protected theorem addPaths (hTrimmed : IsTrimmed patterns first second) (paths : List String) :
    IsTrimmed patterns (addPaths scene.extractors scene.tree first paths).database
      (addPaths scene.extractors scene.tree second paths).database := by
  rw [addPaths_eq, addPaths_eq]
  dsimp only
  rw [addRoots_fst, addRoots_fst]
  have hRoots : IsTrimmed patterns (first.withRoots (paths.map Path.normalize))
      (second.withRoots (paths.map Path.normalize)) := { hTrimmed with }
  exact hRoots.foldl_visit _

end IsTrimmed

/-- To add root paths leaves the patterns alone. -/
theorem excludes_addPaths {database : Database} (paths : List String) :
    (addPaths scene.extractors scene.tree database paths).database.catalog.excludes =
      database.catalog.excludes :=
  congrArg Prod.snd (@settings_addRoots scene.extractors scene.tree
    (database.withRoots (paths.map Path.normalize)) (paths.map Path.normalize).eraseDups)

/-- Root paths may be requested in two parts with the same database, reports and sum of added files,
and so may patterns. If the first part of the root paths fails, the whole does. Excluding patterns
before or after adding root paths ends with the same tracked files in the same order and with the
same records in every table, where a table that is not there counts as an empty one. -/
theorem requests_split_and_commute {database : Database}
    (hReach : Reachable past database) (scene : Scene)
    (paths morePaths patterns morePatterns : List String) :
    (∀ count, (addPaths scene.extractors scene.tree database paths).result = .ok count →
      addPaths scene.extractors scene.tree database (paths ++ morePaths) =
        (let found := addPaths scene.extractors scene.tree database paths
        let others := addPaths scene.extractors scene.tree found.database morePaths
        ⟨others.database, found.reported ++ others.reported, others.result.map (count + ·)⟩)) ∧
    (∀ failure, (addPaths scene.extractors scene.tree database paths).result = .error failure →
      (addPaths scene.extractors scene.tree database (paths ++ morePaths)).result =
        .error failure) ∧
    database.addExcludes (patterns ++ morePatterns) =
      (let found := database.addExcludes patterns
      let others := found.1.addExcludes morePatterns
      (others.1, found.2 + others.2)) ∧
    (addPaths scene.extractors scene.tree (database.addExcludes patterns).1
        paths).database.catalog.files =
      ((addPaths scene.extractors scene.tree database paths).database.addExcludes
        patterns).1.catalog.files ∧
    ∀ table, (addPaths scene.extractors scene.tree (database.addExcludes patterns).1
        paths).database.recordsIn table =
      ((addPaths scene.extractors scene.tree database paths).database.addExcludes
        patterns).1.recordsIn table := by
  -- Both orders leave what is left of the database with all the files.
  have hBefore : IsTrimmed (database.newPatterns patterns)
      (addPaths scene.extractors scene.tree (database.addExcludes patterns).1 paths).database
      (addPaths scene.extractors scene.tree database paths).database :=
    (hReach.isSound.isTrimmed patterns).addPaths paths
  have hAfter := (hReach.addPaths scene paths).isSound.isTrimmed patterns
  have hPatterns : (addPaths scene.extractors scene.tree database paths).database.newPatterns
      patterns = database.newPatterns patterns := by
    rw [newPatterns, newPatterns, excludes_addPaths]
  rw [hPatterns] at hAfter
  refine ⟨fun count hFirst => addPaths_append morePaths hFirst,
    fun failure hFirst => addPaths_append_of_failure morePaths hFirst,
    addExcludes_append patterns morePatterns, ?_, fun table => ?_⟩
  · rw [hBefore.files, hAfter.files]
  · rw [hBefore.records, hAfter.records]

/-- The file of the early scene and two more. -/
def grownScene : Scene :=
  ⟨[.go], { entries := [(["a.go"], .file (Utf8.encode "func f() \x7b\n") 1000),
    (["b.go"], .file (Utf8.encode "type B int\n") 1000),
    (["c.go"], .file (Utf8.encode "type C int\n") 1000)] }⟩

theorem grownScene_requests :
    Reachable [earlyScene] firstScan ∧
    (addPaths grownScene.extractors grownScene.tree firstScan ["b.go", "a.go"]).result = .ok 1 ∧
    addPaths grownScene.extractors grownScene.tree firstScan ["b.go", "a.go", "./b.go", "c.go"] =
      (let found := addPaths grownScene.extractors grownScene.tree firstScan ["b.go", "a.go"]
      let others := addPaths grownScene.extractors grownScene.tree found.database ["./b.go", "c.go"]
      ⟨others.database, found.reported ++ others.reported, others.result.map (1 + ·)⟩) ∧
    (firstScan.addExcludes ["b*", "", "b*", "a.go"]).2 =
      (firstScan.addExcludes ["b*", ""]).2 +
        ((firstScan.addExcludes ["b*", ""]).1.addExcludes ["b*", "a.go"]).2 ∧
    (addPaths grownScene.extractors grownScene.tree (firstScan.addExcludes ["b*", ""]).1
        ["b.go", "a.go"]).database.catalog.files =
      ((addPaths grownScene.extractors grownScene.tree firstScan
        ["b.go", "a.go"]).database.addExcludes ["b*", ""]).1.catalog.files := by
  have hReach : Reachable [earlyScene] firstScan := .addPaths earlyScene ["./a.go"] .empty
  have hResult : (addPaths grownScene.extractors grownScene.tree firstScan
      ["b.go", "a.go"]).result = .ok 1 := by rfl
  obtain ⟨hSplit, -, hExcludes, hFiles, -⟩ := requests_split_and_commute hReach grownScene
    ["b.go", "a.go"] ["./b.go", "c.go"] ["b*", ""] ["b*", "a.go"]
  exact ⟨hReach, hResult, hSplit 1 hResult, congrArg Prod.snd hExcludes, hFiles⟩

end CodeIndex.Database
