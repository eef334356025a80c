import CodeIndex.Extract.Fact
import CodeIndex.Extract.GoLine
import CodeIndex.Extract.GoText

/-! The index of a Go source file. The physical lines are read once, and two stacks are kept: the
enclosing names that are put before the names found, and the modes that decide what a line may
mean. -/
namespace CodeIndex.Go

/-- What surrounds a line. -/
inductive Mode where
  | comment
  | importGroup
  | structBody
  | interfaceBody
  | valueGroup
  | functionBody
  deriving DecidableEq, Repr

/-- An open mode, and whether a name was added to the scope when it was opened. -/
structure Frame where
  mode : Mode
  named : Bool
  deriving DecidableEq, Repr

/-- The enclosing names from the outermost on, and the open modes from the innermost on. -/
structure ScanState where
  scope : List String := []
  frames : List Frame := []
  deriving DecidableEq, Repr

namespace ScanState

/-- The innermost mode. -/
def mode? (state : ScanState) : Option Mode := state.frames.head?.map Frame.mode

/-- Opens a mode that adds no name to the scope. -/
def push (state : ScanState) (mode : Mode) : ScanState :=
  { state with frames := ⟨mode, false⟩ :: state.frames }

/-- Opens a mode that adds a name to the scope. -/
def pushNamed (state : ScanState) (mode : Mode) (name : String) : ScanState :=
  ⟨state.scope ++ [name], ⟨mode, true⟩ :: state.frames⟩

/-- Closes the innermost mode and takes back the name that it added. -/
def pop (state : ScanState) : ScanState :=
  match state.frames with
  | [] => state
  | frame :: frames => ⟨if frame.named then state.scope.dropLast else state.scope, frames⟩

end ScanState

/-- A name as text. -/
def nameText (name : List Char) : String := String.ofList name

/-- The functions that belong to the language and to no package. -/
def builtinFunctions : List String :=
  ["new", "make", "len", "cap", "append", "close", "copy", "delete", "panic", "recover", "print",
    "println", "int", "int8", "int16", "int32", "int64", "uint", "uint8", "uint16", "uint32",
    "uint64", "float32", "float64", "string", "byte", "rune"]

/-- The keywords that may stand before the left side of an assignment. -/
def controlKeywords : List String :=
  ["if", "for", "switch", "case", "select", "else", "var", "const"]

/-- The characters of a called name. -/
def isCallPart (c : Char) : Bool := isWord c || c == '.'

/-- The called names in the rest of a line, after the reversed run of name characters before it. A
name is called if a parenthesis follows its last word character. -/
def calledFrom : (run : List Char) → List Char → List (List Char)
  | _, [] => []
  | run, c :: rest =>
    if isCallPart c then calledFrom (c :: run) rest
    else if c = '(' ∧ run.head?.any isWord then run.reverse :: calledFrom [] rest
    else calledFrom [] rest

/-- The parts of a name between its dots. Empty parts are left out. -/
def segments (name : List Char) : List String :=
  ((splitAt '.' name).filter fun segment => !segment.isEmpty).map nameText

/-- The fact of a called name. A single segment belongs to the scope unless the function is built
in. -/
def callFact? (scope : List String) (lineNo : Int) (name : List Char) : Option Fact :=
  match segments name with
  | [] => none
  | [segment] =>
    if segment = "func" then none
    else if builtinFunctions.contains segment then
      some { table := callsTable, name := [segment], lineNo := lineNo }
    else some { table := callsTable, name := scope ++ [segment], lineNo := lineNo }
  | segments => some { table := callsTable, name := segments, lineNo := lineNo }

/-- The calls of a line. -/
def callFacts (scope : List String) (lineNo : Int) (line : List Char) : List Fact :=
  (calledFrom [] line).filterMap (callFact? scope lineNo)

/-- The names of a list. A word without a comma at its end is the last one. -/
def listedNames : List (List Char) → List String
  | [] => []
  | word :: rest =>
    let name := nameText (trimEnd (· == ',') word)
    let names := if name = "" || name = "_" then [] else [name]
    if word.getLast? = some ',' then names ++ listedNames rest else names

/-- The definitions in a list of names. A text that starts with no name is taken for the
continuation of a literal. -/
def definitionFacts (scope : List String) (lineNo : Int) (text : List Char) : List Fact :=
  if startsWithName text then
    (listedNames (wordsOf text)).map fun name =>
      { table := defsTable, name := scope ++ [name], lineNo := lineNo }
  else []

/-- The fact of an assigned word. A single segment belongs to the scope. -/
def assignmentFact? (scope : List String) (lineNo : Int) (word : List Char) : Option Fact :=
  if controlKeywords.contains (nameText word) then none
  else match segments (word.filter (· ≠ ',')) with
    | [] => none
    | first :: rest =>
      if first = "_" then none
      else if rest.isEmpty then
        some { table := assignsTable, name := scope ++ [first], lineNo := lineNo }
      else some { table := assignsTable, name := first :: rest, lineNo := lineNo }

/-- The assignments to the words of a left side. -/
def assignmentFacts (scope : List String) (lineNo : Int) (targets : List Char) : List Fact :=
  (wordsOf targets).filterMap (assignmentFact? scope lineNo)

/-- Whether more braces are opened than closed on a line. -/
def leavesOpen (line : List Char) : Bool := line.count '\x7d' < line.count '\x7b'

/-- The import of a path. Its parts are the segments of the name. -/
def importFact (lineNo : Int) (path : List Char) : Fact :=
  { table := importsTable, name := (splitAt '/' path).map nameText, lineNo := lineNo }

/-- A definition of some kind. -/
def kindFact (name : List String) (kind : String) (lineNo : Int) : Fact :=
  { table := defsTable, name := name, lineNo := lineNo, kind := kind }

/-- The function body that opens on a line. Calls are looked for behind the brace. -/
def enterFunction (state : ScanState) (lineNo : Int) (line : List Char) :
    ScanState × List Fact :=
  match line.dropWhile (· ≠ '\x7b') with
  | [] => (state, [])
  | _ :: body =>
    (if leavesOpen line then state.push .functionBody else state,
      callFacts state.scope lineNo body)

/-- The body of a type that opens on a line. If it is closed there too, nothing is entered. -/
def enterType (state : ScanState) (mode : Mode) (name : String) (lineNo : Int)
    (line : List Char) : ScanState × List Fact :=
  (if leavesOpen line then state.pushNamed mode name else state,
    [kindFact (state.scope ++ [name]) "class" lineNo])

/-- A line outside the bodies of types and the groups of declarations. -/
def scanPlain (state : ScanState) (lineNo : Int) (line : List Char) : ScanState × List Fact :=
  let scope := state.scope
  match LineShape.ofLine line with
  | .function name =>
    let (next, facts) := enterFunction state lineNo line
    (next, kindFact (scope ++ [nameText name]) "func" lineNo :: facts)
  | .method receiver name =>
    let (next, facts) := enterFunction state lineNo line
    (next, kindFact (scope ++ [nameText receiver, nameText name]) "func" lineNo :: facts)
  | .package name =>
    let scope := scope ++ [nameText name]
    ({ state with scope := scope }, [kindFact scope "package" lineNo])
  | .structType name => enterType state .structBody (nameText name) lineNo line
  | .interfaceType name => enterType state .interfaceBody (nameText name) lineNo line
  | .namedType name => (state, [kindFact (scope ++ [nameText name]) "type" lineNo])
  | .importPath path => (state, [importFact lineNo path])
  | .importGroup => (state.push .importGroup, [])
  | .valueGroup => (state.push .valueGroup, [])
  | .values text => (state, definitionFacts scope lineNo text ++ callFacts scope lineNo line)
  | .assignment targets =>
    (state, assignmentFacts scope lineNo targets ++ callFacts scope lineNo line)
  | .other => (state, callFacts scope lineNo line)

/-- The end of the body of a type. -/
def endType (state : ScanState) (lineNo : Int) : ScanState × List Fact :=
  (state.pop,
    [{ table := endTable, name := state.scope ++ ["\x7d"], lineNo := lineNo, kind := "class" }])

/-- A line in the body of a struct. -/
def scanStruct (state : ScanState) (lineNo : Int) (line : List Char) : ScanState × List Fact :=
  if isClosing '\x7d' line then endType state lineNo
  else match nestedStruct? line with
    | some name =>
      let next := state.pushNamed .structBody (nameText name)
      (next, [kindFact next.scope "class" lineNo])
    | none =>
      match fieldNames? line with
      | some names => (state, definitionFacts state.scope lineNo names)
      | none => (state, [])

/-- A line in the body of an interface. -/
def scanInterface (state : ScanState) (lineNo : Int) (line : List Char) : ScanState × List Fact :=
  if isClosing '\x7d' line then endType state lineNo
  else match interfaceMethod? line with
    | some name => (state, [kindFact (state.scope ++ [nameText name]) "func" lineNo])
    | none => (state, [])

/-- A line in a group of value declarations. -/
def scanValues (state : ScanState) (lineNo : Int) (line : List Char) : ScanState × List Fact :=
  if isClosing ')' line then (state.pop, [])
  else match namesBeforeValue? line with
    | some names =>
      (state, definitionFacts state.scope lineNo names ++ callFacts state.scope lineNo line)
    | none => (state, definitionFacts state.scope lineNo line)

/-- A line in a group of imports. -/
def scanImports (state : ScanState) (lineNo : Int) (line : List Char) : ScanState × List Fact :=
  if isClosing ')' line then (state.pop, [])
  else (state, ((groupedImport? line).map (importFact lineNo)).toList)

/-- A line in the body of a function. -/
def scanFunction (state : ScanState) (lineNo : Int) (line : List Char) : ScanState × List Fact :=
  if closesFunction line then
    (state.pop, [{ table := endTable, name := ["\x7d"], lineNo := lineNo, kind := "func" }])
  else scanPlain state lineNo line

/-- A line without comments, in the innermost mode. -/
def scanCode (state : ScanState) (lineNo : Int) (line : List Char) : ScanState × List Fact :=
  match state.mode? with
  | some .structBody => scanStruct state lineNo line
  | some .interfaceBody => scanInterface state lineNo line
  | some .valueGroup => scanValues state lineNo line
  | some .importGroup => scanImports state lineNo line
  | some .functionBody => scanFunction state lineNo line
  | some .comment | none => scanPlain state lineNo line

/-- A line outside comments. String literals are emptied except where imports are read. -/
def scanOutside (state : ScanState) (lineNo : Int) (line : List Char) : ScanState × List Fact :=
  let (code, opened) := dropBlockComments (dropLineComment line)
  let code := if state.mode? = some .importGroup || startsImport code then code
    else blankLiterals code
  let (next, facts) := scanCode state lineNo code
  (if opened then next.push .comment else next, facts)

/-- A physical line. Inside a block comment everything up to its end is passed over. -/
def scanLine (state : ScanState) (lineNo : Int) (line : List Char) : ScanState × List Fact :=
  if state.mode? = some .comment then
    match pairPosition? '*' '/' line with
    | none => (state, [])
    | some position => scanOutside state.pop lineNo (line.drop (position + 2))
  else scanOutside state lineNo line

/-- The facts of lines that are counted from a number on. -/
def scanLines : ScanState → (lineNo : Int) → List (List Char) → List Fact
  | _, _, [] => []
  | state, lineNo, line :: rest =>
    let (next, facts) := scanLine state lineNo line
    facts ++ scanLines next (lineNo + 1) rest

/-- The facts of a source file. -/
def facts (source : SourceText) : List Fact := scanLines {} 1 source.lines

end CodeIndex.Go
