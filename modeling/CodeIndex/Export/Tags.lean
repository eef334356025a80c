import CodeIndex.Catalog

/-! The tag file of an editor: one line for each definition, in ascending order, below four lines
that describe the file. -/
namespace CodeIndex.Tags

/-- The lines that describe the file. -/
def header : String :=
  "!_TAG_FILE_FORMAT\t2\t//\n"
    ++ "!_TAG_FILE_SORTED\t1\t/0=unsorted, 1=sorted, 2=foldcase/\n"
    ++ "!_TAG_PROGRAM_NAME\tsymscope\t//\n"
    ++ "!_TAG_PROGRAM_VERSION\t" ++ toolVersion ++ "\t//\n"

/-- The letter of a kind of definition. -/
def kindLetter : Option String → String
  | some "func" => "f"
  | some "class" => "c"
  | some "module" => "c"
  | some "package" => "p"
  | some "type" => "t"
  | _ => "v"

/-- The source line of a record as text. A record without one has an empty line. -/
def sourceLine (record : Record) : String :=
  match record.line with
  | none => ""
  | some line => line.display

/-- The line of a definition, without its end: the name, the file, a search for the source line and
the kind. -/
def line (record : Record) : Except Failure String := do
  let name ← record.shortName
  return name ++ "\t" ++ record.file ++ "\t/^" ++ sourceLine record ++ "$/;\"\tkind:"
    ++ kindLetter record.kind

/-- What definitions are ordered by: the short name, the file and the line number. -/
def sortKey (record : Record) : Except Failure Record.SortKey := do
  return ⟨← record.shortName, record.file, record.lineNo.getD 0⟩

/-- The whole file. -/
def render (definitions : List Record) : Except Failure String := do
  let ordered ← Record.sortByKey sortKey definitions
  let lines ← ordered.mapM line
  return header ++ String.join (lines.map (· ++ "\n"))

end CodeIndex.Tags
