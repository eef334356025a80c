import CodeIndex.Record
import CodeIndex.Table

namespace CodeIndex

/-- What is known about a tracked file: when it was last changed and which extractor read it. -/
structure TrackedFile where
  path : String
  lastUpdated : Int
  extractor : String
  extractorVersion : Int
  deriving DecidableEq, Repr

namespace TrackedFile

/-- The stored form. The path is the key of the entry and not part of it. -/
def toJson (file : TrackedFile) : JsonValue :=
  .object [("last_updated", .integer file.lastUpdated), ("extractor", .text file.extractor),
    ("extractor_version", .integer file.extractorVersion)]

/-- Reads the stored form of the file at a path. Missing parts count as zero or empty. -/
def ofJson (path : String) (value : JsonValue) : Except Failure TrackedFile := do
  let fields ← value.fields
  let lastUpdated ← ((JsonValue.field? "last_updated" fields).getD (.integer 0)).toInteger
  let extractor := ((JsonValue.field? "extractor" fields).getD (.text "")).display
  let version ← ((JsonValue.field? "extractor_version" fields).getD (.integer 0)).toInteger
  return ⟨path, lastUpdated, extractor, version⟩

end TrackedFile

/-- The version of the tool that new databases carry. -/
def toolVersion : String := "1.0.0"

/-- What a database knows besides its records: the root paths, the exclude patterns, the tracked
files and the versions of the extractors used. -/
structure Catalog where
  paths : List String := []
  excludes : List String := []
  files : Table TrackedFile := ∅
  extractorVersions : Table Int := ∅
  version : String := toolVersion

namespace Catalog

/-- The stored form, with the files in ascending order of their paths. -/
def toJson (catalog : Catalog) : JsonValue :=
  .object [
    ("paths", Record.segments catalog.paths),
    ("excludes", Record.segments catalog.excludes),
    ("files", .object (catalog.files.sorted.map fun (path, file) => (path, file.toJson))),
    ("extractors", .object (catalog.extractorVersions.entries.map fun (name, version) =>
      (name, .integer version))),
    ("version", .text catalog.version)]

/-- The value of a field, or an empty one if the field is absent or empty. -/
def filledField (name : String) (fields : List (String × JsonValue)) (empty : JsonValue) :
    JsonValue :=
  ((JsonValue.field? name fields).filter JsonValue.isFilled).getD empty

/-- Reads the stored form. Missing parts are empty, and values of other types are converted. -/
def ofJson (value : JsonValue) : Except Failure Catalog := do
  let fields ← value.fields
  let paths ← (filledField "paths" fields (.list [])).items
  let excludes ← (filledField "excludes" fields (.list [])).items
  let files ← (filledField "files" fields (.object [])).fields
  let files ← files.mapM fun (path, file) => do return (path, ← TrackedFile.ofJson path file)
  let versions ← (filledField "extractors" fields (.object [])).fields
  let versions ← versions.mapM fun (name, version) => do return (name, ← version.toInteger)
  let version := ((JsonValue.field? "version" fields).getD (.text toolVersion)).display
  return {
    paths := paths.map JsonValue.display
    excludes := excludes.map JsonValue.display
    files := Table.ofList files
    extractorVersions := Table.ofList versions
    version := version }

end Catalog

end CodeIndex
