import CodeIndex.Extract.GoScan
import CodeIndex.Extract.TreeWalk
import CodeIndex.Grammar.Statement

namespace CodeIndex

/-- A way to find facts in the source files of a language. The path alone decides whether it reads
a file, and what it finds there depends on the path and the text. -/
structure Extractor where
  name : String
  version : Int := 1
  handles : (path : String) → Bool
  facts : (path : String) → SourceText → List Fact

namespace Extractor

/-- Whether a path ends in one of the given endings. -/
def endsIn (endings : List String) (path : String) : Bool :=
  endings.any fun ending => ending.toList.isSuffixOf path.toList

/-- The tree of a Python source, if it follows the grammar. -/
def pythonTree? (source : SourceText) : Option Tree :=
  Grammar.moduleTree? (unifyLineEnds source.text)

/-- The facts of a Python source. One that does not follow the grammar has none. -/
def pythonFacts (source : SourceText) : List Fact :=
  ((pythonTree? source).map TreeWalk.facts).getD []

/-- The extractor for Go. -/
def go : Extractor := { name := "go", handles := endsIn [".go"], facts := fun _ => Go.facts }

/-- The extractor for Python. -/
def python : Extractor :=
  { name := "python", handles := endsIn [".py", ".pyi"], facts := fun _ => pythonFacts }

/-- The extractors at hand, without those to be skipped. -/
def available (skipped : List String) : List Extractor :=
  [go, python].filter fun extractor => !skipped.contains extractor.name

/-- The extractor for a path: the first one that reads it. -/
def select? (extractors : List Extractor) (path : String) : Option Extractor :=
  extractors.find? fun extractor => extractor.handles path

end Extractor

end CodeIndex
