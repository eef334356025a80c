import CodeIndex.Database.Upkeep
import CodeIndex.Gzip.Container
import CodeIndex.Snapshot

/-! Databases as files: snapshots that are read back, and exports for other tools. -/
namespace CodeIndex.Database

/-- Takes the content of a snapshot. Of an older format only the root paths are known, and the
database is built anew from them. -/
def ofSnapshot (extractors : List Extractor) (tree : FileTree) : Snapshot → Change Unit
  | .current catalog tables => ⟨⟨catalog, tables⟩, [], .ok ()⟩
  | .legacy _ paths =>
    let change := addPaths extractors tree {} paths
    ⟨change.database, change.reported, change.result.map fun _ => ()⟩

/-- Replaces the database by the snapshot at a path. The database stays as it is if the snapshot
cannot be read. -/
def load (extractors : List Extractor) (tree : FileTree) (database : Database) (path : String) :
    Change Unit :=
  match tree.read path >>= Gzip.unpack >>= Snapshot.decode with
  | .error failure => ⟨database, [], .error failure⟩
  | .ok snapshot => ofSnapshot extractors tree snapshot

/-- A number as a text of eight digits. -/
def eightDigits (number : Nat) : String :=
  String.ofList (((Nat.toDigits 10 number).reverse ++ List.replicate 8 '0').take 8).reverse

/-- The path of a temporary file beside a file in a directory. -/
def temporaryPath (directory name : String) (number : Nat) : String :=
  Path.join directory ("." ++ name ++ "." ++ eightDigits number ++ ".tmp")

/-- The path of a temporary file that is not there yet, from a number on. -/
def freshPath (tree : FileTree) (directory name : String) : (fuel number : Nat) → String
  | 0, number => temporaryPath directory name number
  | fuel + 1, number =>
    let path := temporaryPath directory name number
    if tree.isPresent path then freshPath tree directory name fuel (number + 1) else path

/-- The path of a temporary file in the directory of another. -/
def temporaryFor (tree : FileTree) (target : String) : String :=
  freshPath tree (Path.absolute tree.workingDirectory (Path.parent target)) (Path.fileName target)
    (tree.entries.length + 1) 0

/-- A failure to move a finished file into place. -/
def unsaved (temporary : String) : Failure → Failure
  | .file _ fault => .unsaved temporary fault
  | failure => failure

/-- Makes a temporary file, and then moves it to its place. If that fails nothing is left of it. -/
def writeVia (tree : FileTree) (temporary target : String) (content : List UInt8) :
    FileTree × Except Failure Unit :=
  match tree.makeFile temporary content with
  | .error failure => (tree, .error (unsaved temporary failure))
  | .ok written =>
    match written.replace temporary target with
    | .ok moved => (moved, .ok ())
    | .error failure =>
      match written.removeFile temporary with
      | .ok cleared => (cleared, .error (unsaved temporary failure))
      | .error other => (written, .error other)

/-- Saves a database as a snapshot. The directories on the way are made. -/
def save (database : Database) (tree : FileTree) (path : String) :
    FileTree × Except Failure Unit :=
  match Snapshot.encode database.catalog database.tables with
  | .error failure => (tree, .error failure)
  | .ok content =>
    let target := Path.simplify path
    match tree.makeDirectories (Path.parent target) with
    | (tree, .error failure) => (tree, .error failure)
    | (tree, .ok ()) => writeVia tree (temporaryFor tree target) target (Gzip.pack content)

/-- Writes a text to a file. -/
def writeText (tree : FileTree) (path : String) (text : Except Failure String) :
    Except Failure FileTree := do
  tree.write (Path.simplify path) (Utf8.encode (← text))

/-- Writes the tags of the definitions to a file. -/
def exportTags (database : Database) (tree : FileTree) (path : String) :
    Except Failure FileTree :=
  writeText tree path database.tagsText

/-- Writes the cross reference to a file. -/
def exportCrossReference (database : Database) (tree : FileTree) (path : String) :
    Except Failure FileTree :=
  writeText tree path
    (database.crossReferenceText (Path.ofComponents true tree.workingDirectory))

end CodeIndex.Database
