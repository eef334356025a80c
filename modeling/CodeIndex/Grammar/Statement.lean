import CodeIndex.Grammar.CasePattern

/-! The statements of Python, up to whole modules. -/
namespace CodeIndex.Grammar

open Parse

/-- The statements of a block or of a line. -/
abbrev Statements := Parse (List Tree)

/-- The operators that combine an operation with an assignment. -/
def combinedAssignments : List String :=
  ["+=", "-=", "*=", "@=", "/=", "%=", "&=", "|=", "^=", "<<=", ">>=", "**=", "//="]

/-- The further targets and the value of an assignment, from its equality sign on. -/
def assignmentAfter (read : Reader) : (fuel : Nat) → Parse (List Tree × Tree)
  | 0 => failure
  | fuel + 1 => do
    expectOp "="
    let value ← yieldOrExpressions read
    if ← nextIsOp "=" then
      unless value.isStarTarget do failure
      let (targets, final) ← assignmentAfter read fuel
      return (value :: targets, final)
    else return ([], value)

/-- An expression as a statement, or an assignment. -/
def expressionStatement (read : Reader) : Parse Tree := do
  let line ← line
  let first ← starExpressions read
  match ← peek? with
  | some (.op ":") =>
    unless first.isSingleTarget do failure
    expectOp ":"
    let typeHint ← read .expression
    let value ← if ← acceptOp "=" then yieldOrExpressions read else pure Tree.absent
    return node "AnnAssign" line
      [("target", first), ("annotation", typeHint), ("value", value)]
  | some (.op "=") =>
    unless first.isStarTarget do failure
    let (targets, value) ← assignmentAfter read ((← remaining) + 1)
    return node "Assign" line [("targets", .list (first :: targets)), ("value", value)]
  | some (.op operator) =>
    if combinedAssignments.contains operator then
      unless first.isSingleTarget do failure
      let _ ← next
      return node "AugAssign" line [("target", first), ("value", ← yieldOrExpressions read)]
    else return node "Expr" line [("value", first)]
  | _ => return node "Expr" line [("value", first)]

/-- The name of a module, with its dots. -/
def moduleName : Parse String := do
  let first ← name
  let others ← many (nextIsOp ".") (do expectOp "."; name)
  return ".".intercalate (first :: others)

/-- An imported name, which may get another one. -/
def imported (rule : Parse String) : Parse Tree := do
  let line ← line
  let label ← rule
  let other ← if ← acceptKeyword "as" then Tree.text <$> name else pure Tree.absent
  return node "alias" line [("name", .text label), ("asname", other)]

/-- The dots before the name of a module. -/
def leadingDots : Parse Nat := do
  let dots ← many (do return (← nextIsOp ".") || (← nextIsOp "...")) next
  return dots.foldl (fun count kind => count + if kind = .op "..." then 3 else 1) 0

/-- The names that are imported from a module: all, a list, or a list in parentheses, which may end
in a comma. -/
def importedNames : Parse (List Tree) := do
  let line ← line
  if ← acceptOp "*" then
    return [node "alias" line [("name", .text "*"), ("asname", .absent)]]
  else if ← acceptOp "(" then
    let (names, _) ← separated (nextIsOp ")") (imported name)
    expectOp ")"
    return names
  else
    let (names, trailing) ← separated (pure false) (imported name)
    if trailing then failure
    return names

/-- An import statement after its keyword. -/
def importAfter (line : Nat) : Parse Tree := do
  let (names, _) ← separated (pure false) (imported moduleName)
  return node "Import" line [("names", .list names)]

/-- An import of names from a module, after its keyword. -/
def importFromAfter (line : Nat) : Parse Tree := do
  let level ← leadingDots
  let isBare ← nextIsKeyword "import"
  if isBare && level = 0 then failure
  let source ← if isBare then pure Tree.absent else Tree.text <$> moduleName
  expectKeyword "import"
  let names ← importedNames
  return node "ImportFrom" line
    [("module", source), ("names", .list names), ("level", .number level)]

/-- An expression that may be left out. -/
def orNothing (rule : Parse Tree) : Parse Tree := do
  if ← noExpression then return .absent else rule

/-- A raise statement after its keyword. -/
def raiseAfter (read : Reader) (line : Nat) : Parse Tree := do
  if ← noExpression then return node "Raise" line []
  let value ← read .expression
  let cause ← if ← acceptKeyword "from" then read .expression else pure Tree.absent
  return node "Raise" line [("exc", value), ("cause", cause)]

/-- A target of a delete statement. -/
def deletable (read : Reader) : Parse Tree := do
  let target ← read .primary
  if target.isDeletable then return target else failure

/-- A statement that fits on a line, of which several may stand on one. -/
def simpleStatement (read : Reader) : Parse Tree := do
  let line ← line
  match ← peek? with
  | some (.keyword word) =>
    match word with
    | "return" =>
      next *> return node "Return" line [("value", ← orNothing (starExpressions read))]
    | "import" => next *> importAfter line
    | "from" => next *> importFromAfter line
    | "raise" => next *> raiseAfter read line
    | "pass" => next *> return node "Pass" line []
    | "break" => next *> return node "Break" line []
    | "continue" => next *> return node "Continue" line []
    | "del" =>
      let _ ← next
      let (targets, _) ← separated noExpression (deletable read)
      return node "Delete" line [("targets", .list targets)]
    | "yield" =>
      let _ ← next
      return node "Expr" line [("value", ← yieldAfter read line)]
    | "assert" =>
      let _ ← next
      let test ← read .expression
      let message ← if ← acceptOp "," then read .expression else pure Tree.absent
      return node "Assert" line [("test", test), ("msg", message)]
    | "global" | "nonlocal" =>
      let _ ← next
      let _ ← separated (pure false) name
      return node (if word = "global" then "Global" else "Nonlocal") line []
    | _ => expressionStatement read
  | _ => expressionStatement read

/-- The simple statements of a line, with semicolons between them. -/
def simpleStatementsFrom (read : Reader) : (fuel : Nat) → Statements
  | 0 => failure
  | fuel + 1 => do
    let statement ← simpleStatement read
    if ← acceptOp ";" then
      if ← accept .newline then return [statement]
      return statement :: (← simpleStatementsFrom read fuel)
    else
      expect .newline
      return [statement]

/-- The simple statements of a line. -/
def simpleStatements (read : Reader) : Statements := do
  simpleStatementsFrom read ((← remaining) + 1)

/-- The block of a statement after its colon. -/
def bodyOf (block : Statements) : Statements := expectOp ":" *> block

/-- The block after `else`, if there is one. -/
def elseBlock (block : Statements) : Statements := do
  if ← acceptKeyword "else" then bodyOf block else return []

/-- An if statement after its keyword. Further conditions nest in the other branch. -/
def ifAfter (read : Reader) (block : Statements) (line : Nat) : Parse Tree := do
  let branch : Parse (Tree × List Tree) := do
    let condition ← namedExpression read
    return (condition, ← bodyOf block)
  let first ← branch
  let others ← many (nextIsKeyword "elif") (do expectKeyword "elif"; branch)
  let final ← elseBlock block
  let build (branch : Tree × List Tree) (otherwise : List Tree) : Tree :=
    node "If" line
      [("test", branch.1), ("body", .list branch.2), ("orelse", .list otherwise)]
  return build first (others.foldr (fun branch otherwise => [build branch otherwise]) final)

/-- A while statement after its keyword. -/
def whileAfter (read : Reader) (block : Statements) (line : Nat) : Parse Tree := do
  let condition ← namedExpression read
  let body ← bodyOf block
  return node "While" line
    [("test", condition), ("body", .list body), ("orelse", .list (← elseBlock block))]

/-- A for statement after its keyword. -/
def forAfter (read : Reader) (block : Statements) (line : Nat) : Parse Tree := do
  let target ← tupleOf (starTarget read)
  expectKeyword "in"
  let iterable ← starExpressions read
  let body ← bodyOf block
  return node "For" line [("target", target), ("iter", iterable), ("body", .list body),
    ("orelse", .list (← elseBlock block))]

/-- An item of a with statement, which may be given a name. -/
def withItem (read : Reader) : Parse Tree := do
  let line ← line
  let value ← read .expression
  let target ← if ← acceptKeyword "as" then starTarget read else pure Tree.absent
  return node "withitem" line [("context_expr", value), ("optional_vars", target)]

/-- The items of a with statement in parentheses, with the colon after them. -/
def parenthesizedItems (read : Reader) : Parse (List Tree) := do
  expectOp "("
  let (items, _) ← separated (nextIsOp ")") (withItem read)
  expectOp ")"
  expectOp ":"
  return items

/-- The items of a with statement, with the colon after them. -/
def plainItems (read : Reader) : Parse (List Tree) := do
  let (items, _) ← separated (pure false) (withItem read)
  expectOp ":"
  return items

/-- A with statement after its keyword. -/
def withAfter (read : Reader) (block : Statements) (line : Nat) : Parse Tree := do
  let items ← parenthesizedItems read <|> plainItems read
  return node "With" line [("items", .list items), ("body", .list (← block))]

/-- A handler of a try statement after its keyword. -/
def handlerAfter (read : Reader) (block : Statements) (isGroup : Bool) (line : Nat) :
    Parse Tree := do
  if isGroup then expectOp "*"
  else if ← nextIsOp ":" then
    return node "ExceptHandler" line [("type", .absent), ("body", .list (← bodyOf block))]
  let type ← read .expression
  if ← acceptKeyword "as" then let _ ← name
  return node "ExceptHandler" line [("type", type), ("body", .list (← bodyOf block))]

/-- A try statement after its keyword. Its handlers are all of one kind. -/
def tryAfter (read : Reader) (block : Statements) (line : Nat) : Parse Tree := do
  let body ← bodyOf block
  let isGroup ← match (← get).tokens with
    | _ :: second :: _ => pure (second.kind = .op "*" : Bool)
    | _ => pure false
  let handlers ← many (nextIsKeyword "except") (do
    let line ← Parse.line
    expectKeyword "except"
    handlerAfter read block isGroup line)
  let otherwise ← if handlers.isEmpty then pure [] else elseBlock block
  let hasFinal ← acceptKeyword "finally"
  let final ← if hasFinal then bodyOf block else pure []
  if handlers.isEmpty && !hasFinal then failure
  return node (if isGroup then "TryStar" else "Try") line
    [("body", .list body), ("handlers", .list handlers), ("orelse", .list otherwise),
      ("finalbody", .list final)]

/-- A function after its keyword. -/
def functionAfter (read : Reader) (block : Statements) (label : String) (line : Nat)
    (decorators : List Tree) : Parse Tree := do
  let title ← name
  expectOp "("
  let parameters ← parameters read true ")"
  expectOp ")"
  let result ← if ← acceptOp "->" then read .expression else pure Tree.absent
  let body ← bodyOf block
  return node label line [("name", .text title), ("args", parameters), ("body", .list body),
    ("decorator_list", .list decorators), ("returns", result)]

/-- A class after its keyword. Its last line is that of its last statement. -/
def classAfter (read : Reader) (block : Statements) (line : Nat) (decorators : List Tree) :
    Parse Tree := do
  let title ← name
  let found ← if ← acceptOp "(" then
      let found ← arguments read
      expectOp ")"
      pure found
    else pure {}
  let body ← bodyOf block
  let last ← lastLine
  return .node "ClassDef" [("name", .text title), ("bases", .list found.plain),
    ("keywords", .list found.named), ("body", .list body), ("decorator_list", .list decorators)]
    (some line) (some last)

/-- The subject of a match statement with the layout after it, up to its first case. -/
def matchSubject (read : Reader) : Parse Tree := do
  let line ← line
  expect (.name "match")
  let (items, trailing) ← separated noExpression (starNamedExpression read)
  let subject ← match items, trailing with
    | [item], false => if isStarred item then failure else pure item
    | items, _ => pure (tuple line items)
  expectOp ":"
  expect .newline
  expect .indent
  unless (← peek?) = some (.name "case") do failure
  return subject

/-- A case of a match statement. -/
def caseBlock (read : Reader) (block : Statements) : Parse Tree := do
  let line ← line
  expect (.name "case")
  let pattern ← casePatterns read
  let guard ← if ← acceptKeyword "if" then namedExpression read else pure Tree.absent
  return node "match_case" line
    [("pattern", pattern), ("guard", guard), ("body", .list (← bodyOf block))]

/-- A match statement after its subject. -/
def matchAfter (read : Reader) (block : Statements) (line : Nat) (subject : Tree) :
    Parse Tree := do
  let cases ← many (do return (← peek?) = some (.name "case")) (caseBlock read block)
  expect .dedent
  return node "Match" line [("subject", subject), ("cases", .list cases)]

/-- A statement that may be asynchronous, after that keyword. -/
def asyncAfter (read : Reader) (block : Statements) (line : Nat) : Parse Tree := do
  match ← next with
  | .keyword "def" => functionAfter read block "AsyncFunctionDef" line []
  | .keyword "with" => withAfter read block line
  | .keyword "for" => forAfter read block line
  | _ => failure

/-- A function or a class with the decorators before it. -/
def decorated (read : Reader) (block : Statements) : Parse Tree := do
  let decorators ← many (nextIsOp "@") (do
    expectOp "@"
    let decorator ← namedExpression read
    expect .newline
    return decorator)
  let line ← line
  match ← next with
  | .keyword "def" => functionAfter read block "FunctionDef" line decorators
  | .keyword "class" => classAfter read block line decorators
  | .keyword "async" =>
    expectKeyword "def"
    functionAfter read block "AsyncFunctionDef" line decorators
  | _ => failure

/-- A statement, or the simple statements of a line. -/
def statement (read : Reader) (block : Statements) : Statements := do
  let line ← line
  match ← peek? with
  | some (.op "@") => return [← decorated read block]
  | some (.keyword word) =>
    match word with
    | "def" => next *> return [← functionAfter read block "FunctionDef" line []]
    | "class" => next *> return [← classAfter read block line []]
    | "async" => next *> return [← asyncAfter read block line]
    | "if" => next *> return [← ifAfter read block line]
    | "with" => next *> return [← withAfter read block line]
    | "for" => next *> return [← forAfter read block line]
    | "try" => next *> return [← tryAfter read block line]
    | "while" => next *> return [← whileAfter read block line]
    | _ => simpleStatements read
  | some (.name "match") =>
    match ← (some <$> matchSubject read) <|> pure none with
    | some subject => return [← matchAfter read block line subject]
    | none => simpleStatements read
  | _ => simpleStatements read

/-- Statements up to the end of a block or of the source, which is left in place. -/
def statements (read : Reader) (block : Statements) : Statements := do
  let proceeds : Parse Bool := do
    return (← peek?) ≠ some .dedent && (← peek?) ≠ some .finish
  return (← many proceeds (statement read block)).flatten

/-- A block: indented statements on lines of their own, or simple statements on the same line.
Blocks nest up to the given depth. -/
def blockAt (read : Reader) : (depth : Nat) → Statements
  | 0 => failure
  | depth + 1 => do
    if ← accept .newline then
      expect .indent
      let body ← statements read (blockAt read depth)
      expect .dedent
      return body
    else simpleStatements read

/-- The tree of a module, if its source follows the grammar. -/
def moduleTree? (text : List Char) : Option Tree := do
  let tokens ← tokens? 1 text
  let read := readRule (8 * text.length + 64)
  let rule : Parse Tree := do
    let body ← statements read (blockAt read (tokens.length + 1))
    expect .finish
    return .node "Module" [("body", .list body)] none none
  let (tree, _) ← rule ⟨tokens, 1⟩
  return tree

end CodeIndex.Grammar
