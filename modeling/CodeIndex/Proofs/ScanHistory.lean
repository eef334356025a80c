import CodeIndex.Proofs.FileView
import CodeIndex.Proofs.StableOrder
import CodeIndex.Proofs.StoredForm

/-! What is read from a database does not tell in which order its files were scanned. Two databases
may differ in how the records of different files are interleaved; every listing sorts or groups them
in such a way that only records of one file keep the order of the scan. -/
namespace CodeIndex

namespace Record

/-- The last segment of a name, or nothing if there is none. -/
def lastSegment (record : Record) : String := record.name.getLast?.getD ""

/-- A record with a name has a short name, the last segment. -/
theorem shortName_eq {record : Record} (hName : record.name ≠ []) :
    record.shortName = .ok record.lastSegment := by
  rw [shortName, lastSegment, List.getLast?_eq_some_getLast hName]
  rfl

namespace SortKey

/-- Keys are compared by name, then by file, then by line. -/
theorem le_iff {a b : SortKey} :
    a.le b = true ↔ a.name < b.name ∨ a.name = b.name ∧
      (a.file < b.file ∨ a.file = b.file ∧ a.lineNo ≤ b.lineNo) := by
  rw [le]
  split_ifs with hName hFile
  · simp [hName, hFile]
  · simp [hName, hFile]
  · simp [hName]

theorem le_trans (a b c : SortKey) (hab : a.le b = true) (hbc : b.le c = true) :
    a.le c = true := by
  rw [le_iff] at *
  rcases hab with hab | ⟨hab, hab' | ⟨hab', habLine⟩⟩ <;>
    rcases hbc with hbc | ⟨hbc, hbc' | ⟨hbc', hbcLine⟩⟩ <;>
    grind [String.lt_trans]

theorem le_total (a b : SortKey) : (a.le b || b.le a) = true := by
  rw [Bool.or_eq_true, le_iff, le_iff]
  rcases Std.lt_trichotomy a.name b.name with hName | hName | hName
  · simp [hName]
  · rcases Std.lt_trichotomy a.file b.file with hFile | hFile | hFile
    · simp [hName, hFile]
    · simpa [hName, hFile] using Int.le_total a.lineNo b.lineNo
    · simp [hName, hFile]
  · simp [hName]

/-- Keys that come before each other are the same, so that records are tied in an order only if they
have one key. -/
theorem le_antisymm {a b : SortKey} (hab : a.le b = true) (hba : b.le a = true) : a = b := by
  rw [le_iff] at hab hba
  cases a; cases b
  grind [String.lt_asymm]

end SortKey

/-- Records whose keys are known are sorted by them. -/
theorem sortByKey_eq {key : Record → Except Failure SortKey} {keyOf : Record → SortKey}
    {records : List Record} (hKeys : ∀ record ∈ records, key record = .ok (keyOf record)) :
    sortByKey key records =
      .ok (records.mergeSort fun a b => (keyOf a).le (keyOf b)) := by
  have hKeyed : (records.mapM fun record => do return (← key record, record)) =
      .ok (records.map fun record => (keyOf record, record)) :=
    mapM_eq_ok_map fun record hRecord => by
      rw [hKeys record hRecord]
      rfl
  have hSorted : (records.mergeSort fun a b => (keyOf a).le (keyOf b)).map
      (fun record => (keyOf record, record)) =
        (records.map fun record => (keyOf record, record)).mergeSort fun a b => a.1.le b.1 :=
    List.map_mergeSort fun _ _ _ _ => rfl
  have hRecords (items : List Record) :
      (items.map fun record => (keyOf record, record)).map Prod.snd = items := by
    rw [List.map_map]
    exact List.map_id _
  rw [sortByKey, hKeyed, ok_bind, ← hSorted, hRecords]
  rfl

/-- The order by short name, file and line does not tell how files were interleaved, however short
names are compared. -/
theorem sortByKey_eq_of_sameParts {key : Record → Except Failure SortKey}
    {change : String → String}
    (hKey : ∀ record, key record =
      do return ⟨change (← record.shortName), record.file, record.lineNo.getD 0⟩)
    {first second : List Record} (hSame : SameParts Record.file first second)
    (hNames : ∀ record ∈ first, record.name ≠ []) :
    sortByKey key first = sortByKey key second := by
  let keyOf (record : Record) : SortKey :=
    ⟨change record.lastSegment, record.file, record.lineNo.getD 0⟩
  have hKeys {records : List Record} (hNames : ∀ record ∈ records, record.name ≠ []) :
      ∀ record ∈ records, key record = .ok (keyOf record) := by
    intro record hRecord
    rw [hKey, shortName_eq (hNames record hRecord)]
    rfl
  have hMerged := hSame.mergeSort_eq
    (fun a b c => SortKey.le_trans (keyOf a) (keyOf b) (keyOf c))
    (fun a b => SortKey.le_total (keyOf a) (keyOf b))
    fun a b hab hba => congrArg SortKey.file (SortKey.le_antisymm hab hba)
  rw [sortByKey_eq (hKeys hNames),
    sortByKey_eq (hKeys fun record hRecord => hNames record (hSame.perm.mem_iff.mpr hRecord)),
    hMerged]

end Record

/-! The ranking of a query -/

namespace Search

variable {key : Key}

/-- A record with a name always has a score. -/
theorem exists_score (key : Key) {record : Record} (hName : record.name ≠ []) :
    ∃ n, score key record = .ok n := by
  rw [score, Record.shortName_eq hName]
  simp only [ok_bind]
  split_ifs <;> exact ⟨_, rfl⟩

/-- The score of a record, and zero if it has none. -/
def scoreOf (key : Key) (record : Record) : Nat := (score key record).toOption.getD 0

/-- A record with a name has a score. -/
theorem score_eq (key : Key) {record : Record} (hName : record.name ≠ []) :
    score key record = .ok (scoreOf key record) := by
  obtain ⟨n, hScore⟩ := exists_score key hName
  rw [scoreOf, hScore]
  rfl

/-- The entries that match, best first. -/
def matching (scored : List (Nat × Record)) : List (Nat × Record) :=
  (scored.filter fun entry => 0 < entry.1).mergeSort fun a b => b.1 ≤ a.1

/-- Whether a score comes near to the best one. -/
def isNear (top : Option Nat) (n : Nat) : Bool := top.any fun top => top < n + tolerance

/-- The matching entries that come near to the best score. -/
def best (scored : List (Nat × Record)) : List (Nat × Record) :=
  (matching scored).filter fun entry => isNear ((matching scored).map Prod.fst).head? entry.1

/-- The ranking of named records never fails: the records that match are sorted by score and cut off
below the best ones. -/
theorem rank_eq {records : List Record} (hNames : ∀ record ∈ records, record.name ≠ []) :
    rank key records =
      .ok ((best (records.map fun record => (scoreOf key record, record))).map Prod.snd) := by
  have hScored : (records.mapM fun record => do return (← score key record, record)) =
      .ok (records.map fun record => (scoreOf key record, record)) :=
    mapM_eq_ok_map fun record hRecord => by rw [score_eq key (hNames record hRecord)]; rfl
  rw [rank, hScored, ok_bind, best, matching]
  generalize List.mergeSort _ _ = found
  cases found <;> rfl

/-- The scores of the matching entries descend. -/
theorem matching_scores_descend (scored : List (Nat × Record)) :
    ((matching scored).map Prod.fst).Pairwise (· ≥ ·) := by
  rw [List.pairwise_map]
  have hSorted : (matching scored).Pairwise fun a b => decide (b.1 ≤ a.1) = true :=
    List.pairwise_mergeSort (fun a b c hab hbc => by simp only [decide_eq_true_eq] at *; omega)
      (fun a b => by simp only [Bool.or_eq_true, decide_eq_true_eq]; omega) _
  exact hSorted.imp fun h => by simpa using h

variable {first second : List (Nat × Record)}

theorem matching_perm (hPerm : first.Perm second) : (matching first).Perm (matching second) :=
  (List.mergeSort_perm _ _).trans ((hPerm.filter _).trans (List.mergeSort_perm _ _).symm)

/-- The scores of the matching entries in turn do not depend on the order of the entries, since they
are sorted. -/
theorem matching_scores_eq (hPerm : first.Perm second) :
    (matching first).map Prod.fst = (matching second).map Prod.fst :=
  ((matching_perm hPerm).map Prod.fst).eq_of_pairwise
    (fun _ _ _ _ hab hba => Nat.le_antisymm hba hab) (matching_scores_descend first)
    (matching_scores_descend second)

/-- The order in which records are scored can only exchange records of one score. -/
theorem best_perm (hPerm : first.Perm second) :
    (best first).Perm (best second) ∧
      (best first).map Prod.fst = (best second).map Prod.fst := by
  have hScores := matching_scores_eq hPerm
  rw [best, best, ← hScores]
  constructor
  · exact (matching_perm hPerm).filter _
  · have hFilter (p : Nat → Bool) (entries : List (Nat × Record)) :
        (entries.filter fun entry => p entry.1).map Prod.fst =
          (entries.map Prod.fst).filter p := by
      rw [List.filter_map]
      rfl
    rw [hFilter (isNear _), hFilter (isNear _), hScores]

/-- The scores of the records that a ranking keeps are those that it was made by. -/
theorem map_score_best {records : List Record} (hNames : ∀ record ∈ records, record.name ≠ []) :
    ((best (records.map fun record => (scoreOf key record, record))).map Prod.snd).map (score key) =
      ((best (records.map fun record => (scoreOf key record, record))).map Prod.fst).map .ok := by
  rw [List.map_map, List.map_map]
  apply List.map_congr_left
  intro entry hEntry
  have hScored : entry ∈ records.map fun record => (scoreOf key record, record) :=
    List.mem_of_mem_filter (List.mem_mergeSort.mp (List.mem_of_mem_filter hEntry))
  obtain ⟨record, hRecord, rfl⟩ := List.mem_map.mp hScored
  exact score_eq key (hNames record hRecord)

/-- Rankings of the same records differ at most in the places of records of one score. -/
theorem rank_of_perm {first second : List Record} (hPerm : first.Perm second)
    (hNames : ∀ record ∈ first, record.name ≠ []) :
    ∃ left right, rank key first = .ok left ∧ rank key second = .ok right ∧ left.Perm right ∧
      left.map (score key) = right.map (score key) := by
  have hOthers : ∀ record ∈ second, record.name ≠ [] :=
    fun record hRecord => hNames record (hPerm.mem_iff.mpr hRecord)
  obtain ⟨hBest, hScores⟩ := best_perm (hPerm.map fun record => (scoreOf key record, record))
  refine ⟨_, _, rank_eq hNames, rank_eq hOthers, hBest.map Prod.snd, ?_⟩
  rw [map_score_best hNames, map_score_best hOthers, hScores]

end Search

/-! The records of each line -/

namespace Database

/-- The lines of a file after one more of its records. -/
def addToLines (lines : Option (List (Int × List Record))) (record : Record) :
    Option (List (Int × List Record)) :=
  match record.lineNo with
  | some lineNo => some (addToLine lineNo record (lines.getD []))
  | none => lines

/-- The index of lines as a table. -/
def addToTable (index : Table (List (Int × List Record))) (record : Record) :
    Table (List (Int × List Record)) :=
  match record.lineNo with
  | some lineNo => index.modify record.file fun lines => addToLine lineNo record (lines.getD [])
  | none => index

/-- A record goes to the lines of its file, and those of other files stay. -/
theorem get?_addToTable (index : Table (List (Int × List Record))) (record : Record)
    (file : String) :
    (addToTable index record).get? file =
      if record.file = file then addToLines (index.get? file) record else index.get? file := by
  rw [addToTable, addToLines]
  cases record.lineNo with
  | none => simp
  | some lineNo =>
    simp only [Table.get?_modify, eq_comm]
    split_ifs with hFile
    · rw [hFile]
    · rfl

/-- The lines of a file are built from its own records only. -/
theorem get?_foldl_addToTable (records : List Record) (index : Table (List (Int × List Record)))
    (file : String) :
    (records.foldl addToTable index).get? file =
      (records.filter fun record => record.file = file).foldl addToLines (index.get? file) := by
  induction records generalizing index with
  | nil => rfl
  | cons record records ih =>
    rw [List.foldl_cons, ih, get?_addToTable, List.filter_cons]
    by_cases hFile : record.file = file
    · simp [hFile]
    · simp [hFile]

theorem addToIndex_eq_setEntry (lineNo : Int) (record : Record)
    (index : CrossReference.LineIndex) :
    addToIndex lineNo record index = Table.setEntry record.file
      (addToLine lineNo record ((index.lookup record.file).getD [])) index := by
  induction index with
  | nil => rfl
  | cons entry rest ih =>
    obtain ⟨file, lines⟩ := entry
    by_cases hFile : file = record.file
    · simp [addToIndex, Table.setEntry, hFile]
    · simp [addToIndex, Table.setEntry, hFile, List.lookup_cons,
        beq_eq_false_iff_ne.mpr (Ne.symm hFile), ih]

/-- So the index that is built of records is a table, with the records that have no line left out.
-/
theorem entries_foldl_addToTable (records : List Record)
    (index : Table (List (Int × List Record))) :
    (records.foldl addToTable index).entries = records.foldl (fun index record =>
      match record.lineNo with
      | some lineNo => addToIndex lineNo record index
      | none => index) index.entries := by
  induction records generalizing index with
  | nil => rfl
  | cons record records ih =>
    rw [List.foldl_cons, List.foldl_cons, ih, addToTable]
    cases record.lineNo with
    | none => rfl
    | some lineNo => simp only [addToIndex_eq_setEntry]; rfl

/-- The files of an index do not tell how the records of different files were interleaved. -/
theorem listedFiles_eq_of_sameParts {first second : List Record}
    (hSame : SameParts Record.file first second) :
    CrossReference.listedFiles (first.foldl addToTable ∅).entries =
      CrossReference.listedFiles (second.foldl addToTable ∅).entries := by
  have hLines (file : String) :
      (first.foldl addToTable ∅).get? file = (second.foldl addToTable ∅).get? file := by
    rw [get?_foldl_addToTable, get?_foldl_addToTable, hSame]
  refine Table.mergeSort_eq_of_perm_entries ((Table.entries_perm_of_get?_eq hLines).filter _) ?_
  exact (first.foldl addToTable ∅).nodup.sublist (List.filter_sublist.map Prod.fst)

/-! Databases -/

variable {first second database : Database}

/-- A table that is there holds its records. -/
theorem mem_tables_keys_iff {table : String} :
    table ∈ database.tables.keys ↔
      database.tables.get? table = some (database.recordsIn table) := by
  rw [Table.mem_keys_iff, recordsIn]
  constructor
  · rintro ⟨records, hRecords⟩
    rw [hRecords]
    rfl
  · intro hRecords
    exact ⟨_, hRecords⟩

/-- The records of a table are asked for in vain only if there is no such table. -/
theorem records_eq (table : String) :
    database.records table =
      if table ∈ database.tables.keys then .ok (database.recordsIn table)
      else .error (.noTable table) := by
  split_ifs with hTable
  · rw [records, mem_tables_keys_iff.mp hTable]
  · have hNone : database.tables.get? table = none := by
      rw [Option.eq_none_iff_forall_ne_some]
      exact fun records hRecords => hTable (Table.mem_keys_iff.mpr ⟨records, hRecords⟩)
    rw [records, hNone]

/-- The tables in order are the named ones, each with its records. -/
theorem tables_sorted_eq :
    database.tables.sorted =
      database.tableNames.map fun table => (table, database.recordsIn table) := by
  have hEntry : ∀ entry ∈ database.tables.sorted,
      (entry.1, database.recordsIn entry.1) = id entry := by
    rintro ⟨table, records⟩ hEntry
    have hRecords : database.tables.get? table = some records :=
      Table.get?_eq_some_iff.mpr (database.tables.sorted_perm.mem_iff.mp hEntry)
    simp [recordsIn, hRecords]
  rw [tableNames, List.map_map]
  exact ((List.map_congr_left hEntry).trans (List.map_id _)).symm

/-- All records by table, in ascending order of the tables. -/
def allRecords (database : Database) : List Record :=
  database.tableNames.flatMap database.recordsIn

theorem byLine_eq : database.byLine = (database.allRecords.foldl addToTable ∅).entries := by
  rw [entries_foldl_addToTable, byLine, tables_sorted_eq, List.flatMap_map]
  rfl

/-- All records have a name. -/
def IsNamed (database : Database) : Prop :=
  ∀ table, ∀ record ∈ database.recordsIn table, record.name ≠ []

/-- Two databases with the same tables, and with the same records of each file in each table. How
the records of different files are interleaved may differ. -/
structure SameRecords (first second : Database) : Prop where
  tables : ∀ table, table ∈ first.tables.keys ↔ table ∈ second.tables.keys
  parts : ∀ table, SameParts Record.file (first.recordsIn table) (second.recordsIn table)

/-- Two answers that are the same records in any order, or the same failure. -/
def SameList : (first second : Except Failure (List Record)) → Prop
  | .ok first, .ok second => first.Perm second
  | .error first, .error second => first = second
  | _, _ => False

/-- Two answers to a query that are the same records, where only records of one score may have
changed places, or the same failure. -/
def SameRanking (key : String) : (first second : Except Failure (List Record)) → Prop
  | .ok first, .ok second => first.Perm second ∧ ∃ parsed, Search.Key.ofText key = .ok parsed ∧
      first.map (Search.score parsed) = second.map (Search.score parsed)
  | .error first, .error second => first = second
  | _, _ => False

namespace SameRecords

theorem tableNames_eq (hSame : SameRecords first second) : first.tableNames = second.tableNames :=
  Table.inOrder_keys_eq_of_mem_iff hSame.tables

theorem summary_eq (hSame : SameRecords first second) : first.summary = second.summary := by
  rw [summary, summary, tables_sorted_eq, tables_sorted_eq, hSame.tableNames_eq, List.map_map,
    List.map_map]
  refine List.map_congr_left fun table _ => ?_
  exact congrArg (table, ·) (hSame.parts table).perm.length_eq

theorem records_sameList (hSame : SameRecords first second) (table : String) :
    SameList (first.records table) (second.records table) := by
  rw [records_eq, records_eq, if_congr (hSame.tables table) rfl rfl]
  split_ifs
  · exact (hSame.parts table).perm
  · rfl

/-- The listing of a table is the same, since records that are tied are of one file. -/
theorem dumpTable_eq (hSame : SameRecords first second) (hNamed : first.IsNamed)
    (table : String) : first.dumpTable table = second.dumpTable table := by
  have hSorted : Record.sortByKey Record.sortKey (first.recordsIn table) =
      Record.sortByKey Record.sortKey (second.recordsIn table) :=
    Record.sortByKey_eq_of_sameParts (fun _ => rfl) (hSame.parts table) (hNamed table)
  rw [dumpTable, dumpTable, records_eq, records_eq, if_congr (hSame.tables table) rfl rfl]
  split_ifs
  · rw [ok_bind, ok_bind, hSorted]
  · rfl

theorem dumpAll_eq (hSame : SameRecords first second) (hNamed : first.IsNamed) :
    first.dumpAll = second.dumpAll := by
  have hTables : first.dumpTable = second.dumpTable := funext (hSame.dumpTable_eq hNamed)
  rw [dumpAll, dumpAll, hTables, hSame.tableNames_eq]

/-- The tags are the same, although they are sorted by the short names. -/
theorem tagsText_eq (hSame : SameRecords first second) (hNamed : first.IsNamed) :
    first.tagsText = second.tagsText := by
  have hSorted : Record.sortByKey Tags.sortKey (first.recordsIn defsTable) =
      Record.sortByKey Tags.sortKey (second.recordsIn defsTable) := by
    have hKey (record : Record) : Tags.sortKey record =
        do return ⟨id (← record.shortName), record.file, record.lineNo.getD 0⟩ := rfl
    exact Record.sortByKey_eq_of_sameParts hKey (hSame.parts defsTable) (hNamed defsTable)
  exact congrArg (· >>= _) hSorted

/-- All records together are the same, and those of each file are in the same order. -/
theorem allRecords_sameParts (hSame : SameRecords first second) :
    SameParts Record.file first.allRecords second.allRecords := by
  rw [allRecords, allRecords, hSame.tableNames_eq]
  exact SameParts.flatMap fun table _ => hSame.parts table

/-- The cross reference is the same. It groups records by file, and the files are sorted. -/
theorem crossReferenceText_eq (hSame : SameRecords first second)
    (hPaths : first.catalog.paths = second.catalog.paths) (directory : String) :
    first.crossReferenceText directory = second.crossReferenceText directory := by
  have hFiles : CrossReference.listedFiles first.byLine =
      CrossReference.listedFiles second.byLine := by
    rw [byLine_eq, byLine_eq]
    exact listedFiles_eq_of_sameParts hSame.allRecords_sameParts
  rw [crossReferenceText, crossReferenceText, CrossReference.render, CrossReference.render, hFiles,
    hPaths]

/-- A query gives the same answer, up to records of one score. -/
theorem query_sameRanking (hSame : SameRecords first second) (hNamed : first.IsNamed)
    (table key : String) : SameRanking key (first.query table key) (second.query table key) := by
  rw [query, query, records_eq, records_eq, if_congr (hSame.tables table) rfl rfl]
  split_ifs
  · simp only [ok_bind, Search.rankText]
    cases hKey : Search.Key.ofText key with
    | error failure => rfl
    | ok parsed =>
      obtain ⟨left, right, hLeft, hRight, hPerm, hScores⟩ :=
        Search.rank_of_perm (hSame.parts table).perm (hNamed table)
      rw [ok_bind, ok_bind, hLeft, hRight]
      exact ⟨hPerm, parsed, hKey, hScores⟩
  · rfl

end SameRecords

/-- A query of named records is answered exactly when there is such a table and the key can be
read. -/
theorem query_answered_iff (hNamed : database.IsNamed) (table key : String) :
    (∃ found, database.query table key = .ok found) ↔
      table ∈ database.tables.keys ∧ ∃ parsed, Search.Key.ofText key = .ok parsed := by
  rw [query, records_eq]
  split_ifs with hTable
  · rw [ok_bind, Search.rankText]
    cases hKey : Search.Key.ofText key with
    | error failure =>
      constructor
      · rintro ⟨found, hFound⟩
        cases hFound
      · rintro ⟨-, parsed, hParsed⟩
        cases hParsed
    | ok parsed =>
      rw [ok_bind, Search.rank_eq (hNamed table)]
      exact ⟨fun _ => ⟨hTable, parsed, rfl⟩, fun _ => ⟨_, rfl⟩⟩
  · constructor
    · rintro ⟨found, hFound⟩
      cases hFound
    · rintro ⟨hKeys, -⟩
      exact absurd hKeys hTable

/-- All that is read from a database is the same for two databases with the same tables and the same
records of each file in each table, however the records of different files are interleaved. A query
may exchange records of one score; it gives the same records with the same scores one after the
other. -/
theorem outputs_independent_of_interleaving (hSame : SameRecords first second)
    (hNamed : first.IsNamed) :
    first.summary = second.summary ∧
    (∀ table, first.dumpTable table = second.dumpTable table) ∧
    first.dumpAll = second.dumpAll ∧
    first.tagsText = second.tagsText ∧
    (first.catalog.paths = second.catalog.paths →
      ∀ directory, first.crossReferenceText directory = second.crossReferenceText directory) ∧
    ∀ table key,
      ((∃ found, first.query table key = .ok found) ↔
        table ∈ first.tables.keys ∧ ∃ parsed, Search.Key.ofText key = .ok parsed) ∧
      SameRanking key (first.query table key) (second.query table key) :=
  ⟨hSame.summary_eq, hSame.dumpTable_eq hNamed, hSame.dumpAll_eq hNamed, hSame.tagsText_eq hNamed,
    hSame.crossReferenceText_eq, fun table key =>
      ⟨query_answered_iff hNamed table key, hSame.query_sameRanking hNamed table key⟩⟩

/-- A record of a function in the first line of a file. -/
def firstLineRecord (table name file : String) : Record :=
  ⟨table, [name], file, some 1, some (.text (name ++ "()")), some "func", none⟩

/-- The database of some records that were found one after the other. -/
def ofRecords (records : List Record) : Database := { tables := records.foldl addRecord ∅ }

/-- Two files, the first one read first. Two names differ only in the case of a letter. -/
def readForward : Database :=
  ofRecords [firstLineRecord "defs" "F" "a.go", firstLineRecord "defs" "g" "a.go",
    firstLineRecord "calls" "F" "a.go", firstLineRecord "defs" "f" "b.go"]

/-- The same files, the second one read first and the tables made in another order. -/
def readBackward : Database :=
  ofRecords [firstLineRecord "calls" "F" "a.go", firstLineRecord "defs" "f" "b.go",
    firstLineRecord "defs" "F" "a.go", firstLineRecord "defs" "g" "a.go"]

theorem readForward_sameRecords : SameRecords readForward readBackward := by
  refine ⟨fun table => ?_, fun table file => ?_⟩
  · have hForward : readForward.tables.keys = ["defs", "calls"] := by decide
    have hBackward : readBackward.tables.keys = ["calls", "defs"] := by decide
    simp [hForward, hBackward, or_comm]
  · simp only [readForward, readBackward, ofRecords, recordsIn, recordsIn_foldl_addRecord,
      firstLineRecord, Table.get?_empty, Option.getD_none, List.nil_append, List.filter_filter]
    by_cases hTable : table = "calls"
    · simp [hTable, List.filter_cons]
    · by_cases hFile : file = "a.go"
      · simp [Ne.symm hTable, hFile, List.filter_cons]
      · simp [Ne.symm hTable, Ne.symm hFile, List.filter_cons]

theorem readForward_isNamed : readForward.IsNamed := by
  intro table record hRecord
  simp only [readForward, ofRecords, recordsIn, recordsIn_foldl_addRecord, Table.get?_empty,
    Option.getD_none, List.nil_append] at hRecord
  have hMem := List.mem_of_mem_filter hRecord
  simp only [List.mem_cons, List.not_mem_nil, or_false] at hMem
  rcases hMem with rfl | rfl | rfl | rfl <;> exact List.cons_ne_nil _ _

/-- Two databases that hold their records in different orders are told apart by nothing that is read
from them. -/
theorem readForward_outputs :
    SameRecords readForward readBackward ∧ readForward.IsNamed ∧
    (readForward.recordsIn "defs").map Record.name = [["F"], ["g"], ["f"]] ∧
    (readBackward.recordsIn "defs").map Record.name = [["f"], ["F"], ["g"]] ∧
    readForward.dumpTable "defs" = readBackward.dumpTable "defs" ∧
    readForward.tagsText = readBackward.tagsText ∧
    readForward.crossReferenceText "/work" = readBackward.crossReferenceText "/work" ∧
    SameRanking "f" (readForward.query "defs" "f") (readBackward.query "defs" "f") := by
  obtain ⟨-, hDump, -, hTags, hCrossReference, hQuery⟩ :=
    outputs_independent_of_interleaving readForward_sameRecords readForward_isNamed
  exact ⟨readForward_sameRecords, readForward_isNamed, by decide, by decide, hDump "defs", hTags,
    hCrossReference rfl "/work", (hQuery "defs" "f").2⟩

end Database

end CodeIndex
