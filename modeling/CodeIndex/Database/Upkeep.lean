import CodeIndex.Database
import CodeIndex.Extract.Extractor
import CodeIndex.FileTree.Expansion
import CodeIndex.Path.Exclusion
import CodeIndex.Text.Utf8

/-! Keeping a database in line with the files. All records of a file are added and removed
together. -/
namespace CodeIndex

/-- What an operation did: the database after it, the files that were reported on the way, and its
result. The database may have changed also if the operation failed. -/
structure Change (α : Type) where
  database : Database
  reported : List String
  result : Except Failure α

namespace Database

/-- The text of a source file. -/
def sourceOf (content : List UInt8) : SourceText :=
  .ofText (unifyLineEnds (Utf8.decode content))

/-- All records that an extractor builds from the content of a file. -/
def batch (extractor : Extractor) (path : String) (content : List UInt8) : List Record :=
  let source := sourceOf content
  (extractor.facts path source).filterMap (Fact.record? path source)

/-- Adds a record at the end of its table. -/
def addRecord (tables : Table (List Record)) (record : Record) : Table (List Record) :=
  tables.modify record.table fun present => present.getD [] ++ [record]

/-- Adds a file with all its records. -/
def commit (database : Database) (file : TrackedFile) (records : List Record) : Database :=
  { catalog := { database.catalog with
      files := database.catalog.files.insert file.path file
      extractorVersions :=
        database.catalog.extractorVersions.insert file.extractor file.extractorVersion }
    tables := records.foldl addRecord database.tables }

/-- Reads a file and adds it with all its records. A file that no extractor reads, or that cannot be
read, is not added. -/
def addFile? (extractors : List Extractor) (tree : FileTree) (database : Database)
    (path : String) : Option Database := do
  let extractor ← Extractor.select? extractors path
  let modified ← (tree.modifiedSeconds path).toOption
  let content ← (tree.read path).toOption
  return database.commit ⟨path, modified, extractor.name, extractor.version⟩
    (batch extractor path content)

/-- Removes a file with all its records. Tables stay even if they are empty. -/
def removeFile (database : Database) (path : String) : Database :=
  { catalog := { database.catalog with files := database.catalog.files.erase path }
    tables := database.tables.mapValues fun _ records =>
      records.filter fun record => record.file ≠ path }

/-- Adds files in turn, and lists those that were added. -/
def addFiles (extractors : List Extractor) (tree : FileTree) :
    Database → List String → Database × List String
  | database, [] => (database, [])
  | database, path :: rest =>
    match database.addFile? extractors tree path with
    | some database =>
      let (database, added) := addFiles extractors tree database rest
      (database, path :: added)
    | none => addFiles extractors tree database rest

/-- The files of root paths up to the first one that cannot be expanded, and why it cannot. -/
def expandRoots (tree : FileTree) : List String → List String × Option Failure
  | [] => ([], none)
  | root :: rest =>
    match tree.files root with
    | .error failure => ([], some failure)
    | .ok files =>
      let (others, failure) := expandRoots tree rest
      (files ++ others, failure)

/-- The files that are new to a database: not tracked, not excluded, and read by an extractor. Each
is listed once. -/
def untracked (extractors : List Extractor) (database : Database) (files : List String) :
    List String :=
  files.eraseDups.filter fun path =>
    !database.catalog.files.contains path && !Path.isExcluded path database.catalog.excludes
      && (Extractor.select? extractors path).isSome

/-- Adds the new files of root paths. -/
def addRoots (extractors : List Extractor) (tree : FileTree) (database : Database)
    (roots : List String) : Database × List String × Option Failure :=
  let (files, failure) := expandRoots tree roots
  let (database, added) := addFiles extractors tree database (untracked extractors database files)
  (database, added, failure)

/-- The result of an operation that may have come to a root path that cannot be expanded. -/
def resultOf {α : Type} (value : α) : Option Failure → Except Failure α
  | none => .ok value
  | some failure => .error failure

/-- Tracks new root paths and adds the files below all the given ones. The result is how many files
were added. -/
def addPaths (extractors : List Extractor) (tree : FileTree) (database : Database)
    (paths : List String) : Change Nat :=
  let roots := (paths.map Path.normalize).eraseDups
  let known := database.catalog.paths
  let database := { database with catalog := { database.catalog with
    paths := known ++ roots.filter fun root => !known.contains root } }
  let (database, added, failure) := addRoots extractors tree database roots
  ⟨database, added, resultOf added.length failure⟩

/-- Excludes more patterns: files that they describe are removed, and root paths that are such a
pattern are given up. The result is how many files were removed. -/
def addExcludes (database : Database) (patterns : List String) : Database × Nat :=
  let known := database.catalog.excludes
  let added := patterns.eraseDups.filter fun pattern => pattern ≠ "" && !known.contains pattern
  if added.isEmpty then (database, 0)
  else
    let literal := added.map Path.normalize
    let excluded := database.catalog.files.keys.filter fun path => Path.isExcluded path added
    let database := { database with catalog := { database.catalog with
      excludes := known ++ added
      paths := database.catalog.paths.filter fun path => !literal.contains path } }
    (excluded.foldl removeFile database, excluded.length)

/-- Whether a tracked file has to be read again: another extractor reads it now, its extractor has a
newer version, or it was changed since. -/
def isStale (extractors : List Extractor) (tree : FileTree) (file : TrackedFile) : Bool :=
  match Extractor.select? extractors file.path with
  | none => true
  | some extractor =>
    extractor.name ≠ file.extractor || file.extractorVersion < extractor.version
      || match tree.modifiedSeconds file.path with
        | .ok modified => file.lastUpdated < modified
        | .error _ => false

/-- Brings one tracked file in line. Lists the file if it is reported, and says whether anything
changed. -/
def updateFile (extractors : List Extractor) (tree : FileTree) (database : Database)
    (path : String) : Database × List String × Bool :=
  if !tree.isFile path then (database.removeFile path, [path], true)
  else
    let isStale := (database.catalog.files.get? path).any fun file =>
      isStale extractors tree { file with path := path }
    if !isStale then (database, [path], false)
    else
      let removed := database.removeFile path
      match removed.addFile? extractors tree path with
      | some database => (database, [path], true)
      | none => (removed, [], true)

/-- Brings tracked files in line one after the other. -/
def updateFiles (extractors : List Extractor) (tree : FileTree) :
    Database → List String → Database × List String × Bool
  | database, [] => (database, [], false)
  | database, path :: rest =>
    let (database, first, isChanged) := updateFile extractors tree database path
    let (database, others, areChanged) := updateFiles extractors tree database rest
    (database, first ++ others, isChanged || areChanged)

/-- Brings the database in line with the files. The result is whether anything changed. -/
def update (extractors : List Extractor) (tree : FileTree) (database : Database) : Change Bool :=
  let (database, reported, isChanged) :=
    updateFiles extractors tree database database.catalog.files.keys
  let (database, added, failure) := addRoots extractors tree database database.catalog.paths
  ⟨database, reported ++ added, resultOf (isChanged || !added.isEmpty) failure⟩

end Database

end CodeIndex
