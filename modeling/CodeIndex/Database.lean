import CodeIndex.Catalog
import CodeIndex.Export.CrossReference
import CodeIndex.Export.Tags
import CodeIndex.Search.Ranking

namespace CodeIndex

/-- An index: the catalog of the files that it covers, and the records found in them by table. -/
structure Database where
  catalog : Catalog := {}
  tables : Table (List Record) := ∅

namespace Database

/-- The names of the tables in ascending order. -/
def tableNames (database : Database) : List String := database.tables.sorted.map Prod.fst

/-- The tracked files in ascending order. -/
def files (database : Database) : List String := database.catalog.files.sorted.map Prod.fst

/-- The records of a table. -/
def records (database : Database) (table : String) : Except Failure (List Record) :=
  match database.tables.get? table with
  | some records => .ok records
  | none => .error (.noTable table)

/-- The records of a table that fit a key best. -/
def query (database : Database) (table key : String) : Except Failure (List Record) := do
  Search.rankText key (← database.records table)

/-- The heading of a table and a line for each of its records in order. -/
def dumpTable (database : Database) (table : String) : Except Failure (List String) := do
  let ordered ← Record.sortByKey Record.sortKey (← database.records table)
  return ("== Table: " ++ table ++ " ==") :: (← ordered.mapM Record.describe)

/-- The headings and lines of all tables. -/
def dumpAll (database : Database) : Except Failure (List String) := do
  return (← database.tableNames.mapM database.dumpTable).flatten

/-- How many records each table holds. -/
def summary (database : Database) : List (String × Nat) :=
  database.tables.sorted.map fun (table, records) => (table, records.length)

/-- Adds a record to the records of its line. Lines and files stand in the order in which they were
first met. -/
def addToLine (lineNo : Int) (record : Record) :
    List (Int × List Record) → List (Int × List Record)
  | [] => [(lineNo, [record])]
  | (other, records) :: rest =>
    if other = lineNo then (other, records ++ [record]) :: rest
    else (other, records) :: addToLine lineNo record rest

/-- Adds a record with a line number to the records of its file. -/
def addToIndex (lineNo : Int) (record : Record) :
    CrossReference.LineIndex → CrossReference.LineIndex
  | [] => [(record.file, [(lineNo, [record])])]
  | (file, lines) :: rest =>
    if file = record.file then (file, addToLine lineNo record lines) :: rest
    else (file, lines) :: addToIndex lineNo record rest

/-- All records with a line number, by file and line. The tables are taken in ascending order. -/
def byLine (database : Database) : CrossReference.LineIndex :=
  (database.tables.sorted.flatMap Prod.snd).foldl (fun index record =>
    match record.lineNo with
    | some lineNo => addToIndex lineNo record index
    | none => index) []

/-- The tags of the definitions. -/
def tagsText (database : Database) : Except Failure String :=
  Tags.render ((database.tables.get? defsTable).getD [])

/-- The cross reference of all records, for a working directory. -/
def crossReferenceText (database : Database) (directory : String) : Except Failure String :=
  CrossReference.render database.byLine database.catalog.paths directory

end Database

end CodeIndex
