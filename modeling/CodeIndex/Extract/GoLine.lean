import CodeIndex.Text.Digit
import CodeIndex.Text.Trim
import CodeIndex.Text.Word

/-! The shapes of lines of Go that matter for the index. A shape is recognized from left to right,
without looking at other lines. -/
namespace CodeIndex.Go

/-- The rest of a text after the given characters. -/
def after? : List Char → List Char → Option (List Char)
  | [], text => some text
  | c :: chars, d :: text => if c = d then after? chars text else none
  | _ :: _, [] => none

/-- The rest of a text after its blanks. -/
def skipBlanks (text : List Char) : List Char := text.dropWhile isBlank

/-- The rest of a text after at least one blank. -/
def blanks? : List Char → Option (List Char)
  | [] => none
  | c :: rest => if isBlank c then some (skipBlanks rest) else none

/-- A word at the start of a text, and the rest. -/
def word? (text : List Char) : Option (List Char × List Char) :=
  let word := text.takeWhile isWord
  if word.isEmpty then none else some (word, text.dropWhile isWord)

/-- The rest of a text after a keyword and blanks. -/
def keyword? (keyword : String) (text : List Char) : Option (List Char) :=
  (after? keyword.toList text).bind blanks?

/-- The rest of a text after type parameters in brackets, if it starts with them. -/
def skipBrackets (text : List Char) : List Char :=
  match text with
  | '[' :: rest =>
    match rest.dropWhile (· ≠ ']') with
    | _ :: rest => rest
    | [] => text
  | _ => text

/-- Whether parameters open after blanks. -/
def opensParameters (text : List Char) : Bool :=
  match skipBlanks text with
  | '[' :: _ | '(' :: _ => true
  | _ => false

/-- The name in a function declaration. -/
def functionName? (line : List Char) : Option (List Char) := do
  let rest ← keyword? "func" line
  let (name, rest) ← word? rest
  if opensParameters rest then some name else none

/-- The type of a receiver after its opening parenthesis, and the rest. A name and a star may stand
before the type. -/
def receiverType? (text : List Char) : Option (List Char × List Char) :=
  let afterStar (text : List Char) : Option (List Char × List Char) :=
    match text with
    | '*' :: rest => word? (skipBlanks rest)
    | _ => word? text
  match word? text with
  | none => afterStar text
  | some (name, rest) =>
    match blanks? rest with
    | none => some (name, rest)
    | some next => (afterStar next).or (some (name, rest))

/-- The receiver type and the name in a method declaration. -/
def methodName? (line : List Char) : Option (List Char × List Char) := do
  let rest ← keyword? "func" line
  let rest ← after? ['('] rest
  let (receiver, rest) ← receiverType? (skipBlanks rest)
  let rest ← after? [')'] (skipBlanks (skipBrackets rest))
  let (name, rest) ← word? (skipBlanks rest)
  if opensParameters rest then some (receiver, name) else none

/-- The name in a package clause. -/
def packageName? (line : List Char) : Option (List Char) := do
  return (← word? (← keyword? "package" line)).1

/-- The name in a type declaration, and the rest. -/
def typeName? (line : List Char) : Option (List Char × List Char) := do
  word? (← keyword? "type" line)

/-- The rest of a text after a keyword that opens a block. -/
def opensBlock? (keyword : String) (text : List Char) : Option (List Char) := do
  let rest ← blanks? text
  after? ['\x7b'] (skipBlanks (← after? keyword.toList rest))

/-- The name in the declaration of a type with a body. -/
def bodyTypeName? (keyword : String) (line : List Char) : Option (List Char) := do
  let (name, rest) ← typeName? line
  let _ ← opensBlock? keyword (skipBrackets rest)
  return name

/-- The text between a quote and the next one, which does not come directly after it. -/
def quoted? (afterQuote : List Char) : Option (List Char) :=
  match afterQuote with
  | [] => none
  | c :: rest =>
    if rest.contains '"' then some (c :: rest.takeWhile (· ≠ '"')) else none

/-- The path in an import declaration. An alias may stand before it. -/
def importPath? (line : List Char) : Option (List Char) := do
  let rest ← keyword? "import" line
  match rest with
  | '"' :: rest => quoted? rest
  | _ =>
    let isAliasPart (c : Char) := isWord c || c == '.'
    if (rest.takeWhile isAliasPart).isEmpty then none
    let rest ← blanks? (rest.dropWhile isAliasPart)
    quoted? (← after? ['"'] rest)

/-- Whether a group of imports is opened. -/
def opensImports (line : List Char) : Bool :=
  ((after? "import".toList line).bind fun rest => after? ['('] (skipBlanks rest)).isSome

/-- Whether the line begins with the keyword of imports. -/
def startsImport (line : List Char) : Bool :=
  match after? "import".toList (skipBlanks line) with
  | some (c :: _) => !isWord c
  | some [] => true
  | none => false

/-- The rest of a line after a keyword of value declarations. -/
def valueKeyword? (line : List Char) : Option (List Char) :=
  let line := skipBlanks line
  (after? "var".toList line).or (after? "const".toList line)

/-- Whether a group of value declarations is opened. -/
def opensValues (line : List Char) : Bool :=
  ((valueKeyword? line).bind fun rest => after? ['('] (skipBlanks rest)).isSome

/-- The text of a value declaration after its keyword. -/
def valueText? (line : List Char) : Option (List Char) := do
  let rest ← blanks? (← valueKeyword? line)
  let c ← rest.head?
  if isWord c then some rest else none

/-- The operators of assignments. -/
def assignmentOperators : List (List Char) :=
  [":=", "<<=", ">>=", "&^=", "-=", "+=", "*=", "/=", "%=", "&=", "|=", "^=", "="].map
    String.toList

/-- Whether the text starts with an operator of assignments. An equality sign after it makes it a
comparison. -/
def startsAssignment (text : List Char) : Bool :=
  assignmentOperators.any fun operator =>
    match after? operator text with
    | some rest => rest.head? != some '='
    | none => false

/-- The characters of the left side of an assignment. -/
def isTargetPart (c : Char) : Bool := isWord c || c == '.' || c == ',' || isBlank c

/-- The left side of an assignment. It does not end in a comma. -/
def assignmentTargets? (line : List Char) : Option (List Char) := do
  let line := skipBlanks line
  let targets := trimEnd isBlank (line.takeWhile isTargetPart)
  let last ← targets.getLast?
  if last ≠ ',' ∧ startsAssignment (line.dropWhile isTargetPart) then some targets else none

/-- What a line declares or does, outside the bodies of types and the groups of declarations. -/
inductive LineShape where
  | function (name : List Char)
  | method (receiver name : List Char)
  | package (name : List Char)
  | structType (name : List Char)
  | interfaceType (name : List Char)
  | namedType (name : List Char)
  | importPath (path : List Char)
  | importGroup
  | valueGroup
  | values (text : List Char)
  | assignment (targets : List Char)
  | other
  deriving DecidableEq, Repr

/-- The shape of a line. The first one that fits counts. -/
def LineShape.ofLine (line : List Char) : LineShape :=
  (((functionName? line).map .function).or <|
    ((methodName? line).map fun (receiver, name) => .method receiver name).or <|
    ((packageName? line).map .package).or <|
    ((bodyTypeName? "struct" line).map .structType).or <|
    ((bodyTypeName? "interface" line).map .interfaceType).or <|
    ((typeName? line).map fun (name, _) => .namedType name).or <|
    ((importPath? line).map .importPath).or <|
    (if opensImports line then some .importGroup else none).or <|
    (if opensValues line then some .valueGroup else none).or <|
    ((valueText? line).map .values).or <|
    ((assignmentTargets? line).map .assignment)).getD .other

/-- Whether the line holds a closing character and blanks only. -/
def isClosing (closing : Char) (line : List Char) : Bool :=
  match skipBlanks line with
  | c :: rest => c == closing && rest.all isBlank
  | [] => false

/-- Whether the line closes a function: a brace stands in its first column. -/
def closesFunction (line : List Char) : Bool := line.head? == some '\x7d'

/-- The name of a struct inside a struct, if the line opens one and ends there. -/
def nestedStruct? (line : List Char) : Option (List Char) := do
  let (name, rest) ← word? (skipBlanks line)
  let rest ← opensBlock? "struct" rest
  if rest.all isBlank then some name else none

/-- The part of a line before the last blank that a word follows. It is not empty. -/
def fieldNames? : List Char → Option (List Char)
  | c :: d :: rest =>
    match fieldNames? (d :: rest) with
    | some names => some (c :: names)
    | none =>
      match rest with
      | e :: _ => if isBlank d && isWord e then some [c] else none
      | [] => none
  | _ => none

/-- The name of a method in an interface. -/
def interfaceMethod? (line : List Char) : Option (List Char) := do
  let (name, rest) ← word? (skipBlanks line)
  let _ ← after? ['('] (skipBlanks rest)
  return name

/-- The part of a line before an equality sign and the blanks before it. The first character always
belongs to it. -/
def namesBeforeValue? : List Char → Option (List Char)
  | c :: rest =>
    if rest.contains '=' then some (c :: trimEnd isBlank (rest.takeWhile (· ≠ '='))) else none
  | [] => none

/-- The path in a line of a group of imports. -/
def groupedImport? (line : List Char) : Option (List Char) :=
  match line.dropWhile (· ≠ '"') with
  | _ :: rest => quoted? rest
  | [] => none

/-- Whether the first character that is not blank can start a name. -/
def startsWithName (text : List Char) : Bool :=
  match skipBlanks text with
  | c :: _ => isWord c && !isDecimal c
  | [] => false

end CodeIndex.Go
