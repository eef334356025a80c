import CodeIndex.Record
import CodeIndex.SourceText

namespace CodeIndex

/-- What an extractor finds out about a source file before it becomes a record. -/
structure Fact where
  table : String
  name : List String
  lineNo : Option Int := none
  kind : Option String := none
  scope : Option (List String) := none
  deriving DecidableEq, Repr

namespace Fact

/-- The record of a fact in a file, with the source line that the fact points to. A fact without a
name has no record. -/
def record? (file : String) (source : SourceText) (fact : Fact) : Option Record :=
  if fact.name.isEmpty then none
  else some {
    table := fact.table
    name := fact.name
    file := file
    lineNo := fact.lineNo
    line := (fact.lineNo.bind source.line?).map fun line => .text (String.ofList line)
    kind := fact.kind
    scope := fact.scope.filter fun scope => !scope.isEmpty }

end Fact

end CodeIndex
