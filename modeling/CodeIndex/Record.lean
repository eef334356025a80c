import CodeIndex.Failure
import CodeIndex.Json.Display
import CodeIndex.Number.IntegerText
import CodeIndex.Text.LetterCase
import CodeIndex.Text.Trim

namespace CodeIndex

/-- The table of definitions. -/
def defsTable : String := "defs"

/-- The table of calls. -/
def callsTable : String := "calls"

/-- The table of assignments. -/
def assignsTable : String := "assigns"

/-- The table of imports. -/
def importsTable : String := "imports"

/-- The table of block ends. -/
def endTable : String := "end"

namespace JsonValue

/-- The segments of a name: a list gives one segment for each item, any other value is a single
segment. -/
def toName : JsonValue → List String
  | .list items => items.map display
  | value => [value.display]

/-- The items of a list, the characters of a text or the field names of an object. -/
def items : JsonValue → Except Failure (List JsonValue)
  | .list items => .ok items
  | .text s => .ok (s.toList.map fun c => .text (String.singleton c))
  | .object fields => .ok (fields.map fun (name, _) => .text name)
  | _ => .error .notIterable

/-- The fields of an object. -/
def fields : JsonValue → Except Failure (List (String × JsonValue))
  | .object fields => .ok fields
  | _ => .error .notMapping

/-- The integer that a value denotes. A floating-point number loses its fraction, and a text is
read. -/
def toInteger : JsonValue → Except Failure Int
  | .integer n => .ok n
  | .bool b => .ok (if b then 1 else 0)
  | .real x =>
    match x.truncate? with
    | some n => .ok n
    | none => .error (if x = .undefined then .malformedInteger else .infiniteInteger)
  | .text s =>
    match IntegerText.read? s.toList with
    | some n => .ok n
    | none => .error .malformedInteger
  | _ => .error .notNumeric

end JsonValue

/-- One extracted fact about a source file. The source line is a text in all records that
extraction makes; a stored record may carry any value there. -/
structure Record where
  table : String
  name : List String
  file : String
  lineNo : Option Int
  line : Option JsonValue
  kind : Option String
  scope : Option (List String)
  deriving Repr, Inhabited

namespace Record

/-- The segments of the name joined by dots. -/
def qualifiedName (record : Record) : String := ".".intercalate record.name

/-- The last segment of the name. -/
def shortName (record : Record) : Except Failure String :=
  match record.name.getLast? with
  | some segment => .ok segment
  | none => .error .emptyName

/-- The file and, if there is one, the line number. -/
def location (record : Record) : String :=
  match record.lineNo with
  | none => record.file
  | some n => record.file ++ ":" ++ toString n

/-- One line that shows the name, the place and the source line. -/
def describe (record : Record) : Except Failure String :=
  let text := " ".intercalate record.name ++ " -- " ++ record.location
  match record.line with
  | none => .ok text
  | some (.text line) => .ok (text ++ " (" ++ String.ofList (trimBlanks line.toList) ++ ")")
  | some _ => .error .lineNotText

/-- A list of texts as a value. -/
def segments (name : List String) : JsonValue := .list (name.map .text)

/-- The stored form. Absent parts and an empty scope are left out. -/
def toJson (record : Record) : JsonValue :=
  .object <|
    [("file", .text record.file), ("name", segments record.name)]
    ++ (record.lineNo.map fun n => ("line_no", .integer n)).toList
    ++ (record.line.map fun line => ("line", line)).toList
    ++ (record.kind.map fun kind => ("kind", .text kind)).toList
    ++ (match record.scope with
        | some (segment :: rest) => [("scope", segments (segment :: rest))]
        | _ => [])

/-- The value of a field that is neither absent nor null. -/
def present? (name : String) (fields : List (String × JsonValue)) : Option JsonValue :=
  match JsonValue.field? name fields with
  | some .null => none
  | value => value

/-- Reads the stored form. Older forms are taken too: a name that is no list, the kind under the
name `type`, and values of other types, which are converted. -/
def ofJson (table : String) (value : JsonValue) : Except Failure Record := do
  let fields ← value.fields
  let some name := JsonValue.field? "name" fields | .error (.missingField "name")
  let some file := JsonValue.field? "file" fields | .error (.missingField "file")
  let lineNo ← match present? "line_no" fields with
    | none => pure none
    | some n => some <$> n.toInteger
  let kind := match JsonValue.field? "kind" fields with
    | none => present? "type" fields
    | some .null => none
    | kind => kind
  let scope := (JsonValue.field? "scope" fields).filter JsonValue.isFilled
  return {
    table := table
    name := name.toName
    file := file.display
    lineNo := lineNo
    line := present? "line" fields
    kind := kind.map JsonValue.display
    scope := scope.map JsonValue.toName }

/-- What records are listed by: the short name in lower case, the file and the line number. -/
structure SortKey where
  name : String
  file : String
  lineNo : Int
  deriving DecidableEq, Repr

/-- Lexicographic order of sort keys. -/
def SortKey.le (a b : SortKey) : Bool :=
  if a.name = b.name then
    if a.file = b.file then a.lineNo ≤ b.lineNo else a.file < b.file
  else a.name < b.name

/-- The sort key of a record. Records without a line number come first in their file. -/
def sortKey (record : Record) : Except Failure SortKey := do
  let short ← record.shortName
  return ⟨lowerText short, record.file, record.lineNo.getD 0⟩

/-- The records in ascending order of a key. Records of one key keep their order. -/
def sortByKey (key : Record → Except Failure SortKey) (records : List Record) :
    Except Failure (List Record) := do
  let keyed ← records.mapM fun record => do return (← key record, record)
  return (keyed.mergeSort fun a b => a.1.le b.1).map Prod.snd

end Record

end CodeIndex
