import CodeIndex.Grammar.Lexer
import CodeIndex.Grammar.Parse
import CodeIndex.Grammar.StringContent

/-! The expressions of Python. The rules that call themselves, directly or through others, are
named by `Rule`; each function takes the reader of these rules as its first argument, and
`readRule` ties the knot with a bound on the depth. -/
namespace CodeIndex.Grammar

/-- The rules that expressions nest by. -/
inductive Rule where
  | expression
  /-- Binary operations of at least the given precedence. -/
  | operation (minimum : Nat)
  | factor
  /-- An atom with its attributes, calls and subscripts. -/
  | primary
  | inversion
  deriving DecidableEq, Repr

/-- A reader of the rules that expressions nest by. -/
abbrev Reader := Rule → Parse Tree

open Parse

/-- The operators that expressions start with. -/
def openingOperators : List String := ["(", "[", "\x7b", "-", "+", "~", "...", "*"]

/-- The keywords that expressions start with. -/
def openingKeywords : List String := ["None", "True", "False", "not", "lambda", "await"]

/-- Whether an expression, possibly a starred one, starts with the token. -/
def startsExpression : TokenKind → Bool
  | .name _ | .number _ | .string _ => true
  | .op text => openingOperators.contains text
  | .keyword text => openingKeywords.contains text
  | _ => false

/-- Whether no expression comes next. -/
def noExpression : Parse Bool := do return !(← peek?).any startsExpression

/-- A starred operand. -/
def starred (line : Nat) (value : Tree) : Tree := node "Starred" line [("value", value)]

/-- A tuple. -/
def tuple (line : Nat) (items : List Tree) : Tree := node "Tuple" line [("elts", .list items)]

/-- A plain name. -/
def nameNode (line : Nat) (text : String) : Tree := node "Name" line [("id", .text text)]

/-- A literal or a constant. -/
def constant (line : Nat) : Tree := node "Constant" line []

/-- Items with commas between them: a tuple if there is a comma, otherwise the item itself. -/
def tupleOf (rule : Parse Tree) : Parse Tree := do
  let line ← line
  let (items, trailing) ← separated noExpression rule
  match items, trailing with
  | [item], false => return item
  | items, _ => return tuple line items

/-- An expression, or a starred operand. -/
def starExpression (read : Reader) : Parse Tree := do
  let line ← line
  if ← acceptOp "*" then return starred line (← read (.operation 0)) else read .expression

/-- Expressions with commas between them, some of which may be starred. -/
def starExpressions (read : Reader) : Parse Tree := tupleOf (starExpression read)

/-- An expression, or a name that is given the value of one. -/
def namedExpression (read : Reader) : Parse Tree := do
  let line ← line
  if ← nextIsNameBefore ":=" then
    let target ← name
    expectOp ":="
    let value ← read .expression
    return node "NamedExpr" line [("target", nameNode line target), ("value", value)]
  else read .expression

/-- A named expression, or a starred operand. -/
def starNamedExpression (read : Reader) : Parse Tree := do
  let line ← line
  if ← acceptOp "*" then return starred line (← read (.operation 0)) else namedExpression read

/-- A yield expression after its keyword. -/
def yieldAfter (read : Reader) (line : Nat) : Parse Tree := do
  if ← acceptKeyword "from" then
    return node "YieldFrom" line [("value", ← read .expression)]
  else if ← noExpression then return node "Yield" line [("value", .absent)]
  else return node "Yield" line [("value", ← starExpressions read)]

/-- A yield expression, or expressions. -/
def yieldOrExpressions (read : Reader) : Parse Tree := do
  let line ← line
  if ← acceptKeyword "yield" then yieldAfter read line else starExpressions read

/-- Items with an operator word between them. -/
def joinedBy (keyword : String) (rule : Parse Tree) : Parse Tree := do
  let line ← line
  let first ← rule
  let others ← many (nextIsKeyword keyword) (do expectKeyword keyword; rule)
  if others.isEmpty then return first
  else return node "BoolOp" line [("values", .list (first :: others))]

/-- Conditions joined by `and`. -/
def conjunction (read : Reader) : Parse Tree := joinedBy "and" (read .inversion)

/-- Conditions joined by `or`. -/
def disjunction (read : Reader) : Parse Tree := joinedBy "or" (conjunction read)

/-- Takes a comparison operator if one comes next. -/
def acceptComparison : Parse Bool := do
  match ← peek? with
  | some (.op text) =>
    if ["==", "!=", "<=", "<", ">=", ">"].contains text then acceptOp text else return false
  | some (.keyword "in") => acceptKeyword "in"
  | some (.keyword "is") =>
    expectKeyword "is"
    let _ ← acceptKeyword "not"
    return true
  | some (.keyword "not") =>
    expectKeyword "not"
    expectKeyword "in"
    return true
  | _ => return false

/-- Comparisons of operations, one after the other. -/
def comparison (read : Reader) : Parse Tree := do
  let line ← line
  let left ← read (.operation 0)
  let others ← many acceptComparison (read (.operation 0))
  if others.isEmpty then return left
  else return node "Compare" line [("left", left), ("comparators", .list others)]

/-- A negation, or comparisons. -/
def inversion (read : Reader) : Parse Tree := do
  let line ← line
  if ← acceptKeyword "not" then
    return node "UnaryOp" line [("operand", ← read .inversion)]
  else comparison read

/-- The precedence of a binary operator. -/
def precedence? : TokenKind → Option Nat
  | .op "|" => some 0
  | .op "^" => some 1
  | .op "&" => some 2
  | .op "<<" | .op ">>" => some 3
  | .op "+" | .op "-" => some 4
  | .op "*" | .op "/" | .op "//" | .op "%" | .op "@" => some 5
  | _ => none

/-- Further operands of operations of at least the given precedence. -/
def operationAfter (read : Reader) (minimum line : Nat) : (fuel : Nat) → Tree → Parse Tree
  | 0, _ => failure
  | fuel + 1, left => do
    match (← peek?).bind precedence? with
    | some level =>
      if minimum ≤ level then
        let _ ← next
        let right ← read (.operation (level + 1))
        operationAfter read minimum line fuel
          (node "BinOp" line [("left", left), ("right", right)])
      else return left
    | none => return left

/-- Binary operations of at least the given precedence. -/
def operation (read : Reader) (minimum : Nat) : Parse Tree := do
  let line ← line
  let left ← read .factor
  operationAfter read minimum line ((← remaining) + 1) left

/-- A target of a loop or of a comprehension, which may be starred. -/
def starTarget (read : Reader) : Parse Tree := do
  let line ← line
  let isStarred ← acceptOp "*"
  let target ← read .primary
  unless target.isTarget do failure
  return if isStarred then starred line target else target

/-- Whether the loops of a comprehension come next. -/
def nextIsLoop : Parse Bool := do return (← nextIsKeyword "for") || (← nextIsKeyword "async")

/-- One loop of a comprehension with its conditions. -/
def comprehensionLoop (read : Reader) : Parse Tree := do
  let line ← line
  let _ ← acceptKeyword "async"
  expectKeyword "for"
  let target ← tupleOf (starTarget read)
  expectKeyword "in"
  let iterable ← disjunction read
  let conditions ← many (nextIsKeyword "if") (do expectKeyword "if"; disjunction read)
  return node "comprehension" line
    [("target", target), ("iter", iterable), ("ifs", .list conditions)]

/-- The loops of a comprehension. -/
def comprehensionLoops (read : Reader) : Parse Tree := do
  return .list (← many nextIsLoop (comprehensionLoop read))

/-- The order in which arguments may come: plain ones, then named ones, then dictionaries of named
ones. -/
inductive ArgumentPhase where
  | plain
  | named
  | dictionary
  deriving DecidableEq, Repr

/-- The arguments of a call or the bases of a class. -/
structure Arguments where
  plain : List Tree := []
  named : List Tree := []

/-- A named argument. -/
def keywordNode (line : Nat) (name value : Tree) : Tree :=
  node "keyword" line [("arg", name), ("value", value)]

/-- One argument in a phase, which is added to those before it. -/
def argument (read : Reader) (phase : ArgumentPhase) (before : Arguments) :
    Parse (ArgumentPhase × Arguments) := do
  let line ← line
  if ← acceptOp "**" then
    let value ← read .expression
    return (.dictionary, { before with named := before.named ++ [keywordNode line .absent value] })
  else if ← acceptOp "*" then
    if phase = .dictionary then failure
    let value ← read .expression
    return (phase, { before with plain := before.plain ++ [starred line value] })
  else if ← nextIsNameBefore "=" then
    let label ← name
    expectOp "="
    let value ← read .expression
    return (if phase = .plain then .named else phase,
      { before with named := before.named ++ [keywordNode line (.text label) value] })
  else
    unless phase = .plain do failure
    return (phase, { before with plain := before.plain ++ [← namedExpression read] })

/-- Arguments up to a closing parenthesis, which is left in place. A comma may follow the last
one. -/
def argumentsFrom (read : Reader) :
    (fuel : Nat) → ArgumentPhase → Arguments → Parse Arguments
  | 0, _, _ => failure
  | fuel + 1, phase, before => do
    if ← nextIsOp ")" then return before
    let (phase, arguments) ← argument read phase before
    if ← acceptOp "," then argumentsFrom read fuel phase arguments
    else if ← nextIsOp ")" then return arguments
    else failure

/-- Arguments up to a closing parenthesis, which is left in place. -/
def arguments (read : Reader) : Parse Arguments := do
  argumentsFrom read ((← remaining) + 1) .plain {}

/-- Whether a plain argument comes next. -/
def nextIsPlainArgument : Parse Bool := do
  return !(← nextIsOp "*") && !(← nextIsOp "**") && !(← nextIsOp ")") && !(← nextIsNameBefore "=")

/-- The arguments of a call after its opening parenthesis. A generator needs no parentheses of its
own if it is the only argument. -/
def callArguments (read : Reader) : Parse Arguments := do
  let line ← line
  if ← nextIsPlainArgument then
    let first ← namedExpression read
    if ← nextIsLoop then
      let loops ← comprehensionLoops read
      expectOp ")"
      return { plain := [node "GeneratorExp" line [("elt", first), ("generators", loops)]] }
    else if ← acceptOp "," then
      let found ← argumentsFrom read ((← remaining) + 1) .plain { plain := [first] }
      expectOp ")"
      return found
    else
      expectOp ")"
      return { plain := [first] }
  else
    let found ← arguments read
    expectOp ")"
    return found

/-- One part of a subscript: an index, a slice or a starred expression. -/
def subscriptPart (read : Reader) : Parse Tree := do
  let line ← line
  if ← acceptOp "*" then return starred line (← read .expression)
  let isNamed ← nextIsNameBefore ":="
  let lower ← if ← nextIsOp ":" then pure Tree.absent else namedExpression read
  if isNamed then return lower
  unless ← acceptOp ":" do return lower
  let bound : Parse Tree := do
    if ← noExpression then return .absent else read .expression
  let upper ← bound
  let step ← if ← acceptOp ":" then bound else pure Tree.absent
  return node "Slice" line [("lower", lower), ("upper", upper), ("step", step)]

/-- The content of a subscript up to its closing bracket. -/
def subscript (read : Reader) : Parse Tree := do
  let line ← line
  let (parts, trailing) ← separated (nextIsOp "]") (subscriptPart read)
  expectOp "]"
  match parts, trailing with
  | [part], false => return if part.label? = some "Starred" then tuple line [part] else part
  | parts, _ => return tuple line parts

/-- Attributes, calls and subscripts of an expression that began at a line. -/
def trailers (read : Reader) (line : Nat) :
    (fuel : Nat) → Tree → Parse Tree
  | 0, _ => failure
  | fuel + 1, base => do
    if ← acceptOp "." then
      let label ← name
      trailers read line fuel (node "Attribute" line [("value", base), ("attr", .text label)])
    else if ← acceptOp "(" then
      let found ← callArguments read
      trailers read line fuel (node "Call" line
        [("func", base), ("args", .list found.plain), ("keywords", .list found.named)])
    else if ← acceptOp "[" then
      let index ← subscript read
      trailers read line fuel
        (node "Subscript" line [("value", base), ("slice", index)])
    else return base

mutual

/-- The tree of a replacement field, whose expression is read from its text and its line. -/
def fieldTree (read : Nat → List Char → Option Tree) (line : Nat) :
    ReplacementField → Option Tree
  | .mk offset expression format => do
    let value ← read (line + offset) expression
    let parts ← fieldTrees read line format
    return node "FormattedValue" line
      [("value", value), ("format_spec", node "JoinedStr" line [("values", .list parts)])]

/-- The trees of replacement fields. -/
def fieldTrees (read : Nat → List Char → Option Tree) (line : Nat) :
    List ReplacementField → Option (List Tree)
  | [] => some []
  | field :: rest => do
    let tree ← fieldTree read line field
    return tree :: (← fieldTrees read line rest)

end

/-- The expression of a replacement field. It is read as if it stood in parentheses. -/
def embedded (read : Reader) (line : Nat) (text : List Char) : Option Tree := do
  let tokens ← tokens? line ('(' :: text ++ [')'])
  let (tree, _) ← starExpressions read ⟨tokens, line⟩
  return tree

/-- The trees in a string literal that begins at a line: none but those of replacement fields. -/
def literalTrees (read : Reader) (line : Nat) (literal : StringLiteral) : Option (List Tree) := do
  if literal.isFormatted then fieldTrees (embedded read) line (← literal.fields?)
  else if literal.isWellFormed then some []
  else none

/-- One string literal with its line. -/
def stringLiteral : Parse (Nat × StringLiteral) := do
  let line ← line
  match ← next with
  | .string literal => return (line, literal)
  | _ => failure

/-- Whether a string literal comes next. -/
def nextIsString : Parse Bool := do
  match ← peek? with
  | some (.string _) => return true
  | _ => return false

/-- String literals one after the other, which are joined. Bytes and text do not mix. -/
def strings (read : Reader) : Parse Tree := do
  let line ← line
  let literals ← many nextIsString stringLiteral
  let isBytes := literals.map fun (_, literal) => literal.isBytes
  unless isBytes.all id || !isBytes.any id do failure
  match literals.mapM fun (line, literal) => literalTrees read line literal with
  | some parts =>
    if literals.any fun (_, literal) => literal.isFormatted then
      return node "JoinedStr" line [("values", .list parts.flatten)]
    else return constant line
  | none => failure

/-- Whether a tree is a starred operand. -/
def isStarred (tree : Tree) : Bool := tree.label? = some "Starred"

/-- The rest of a sequence of named or starred expressions up to a closing character. -/
def elementsAfter (read : Reader) (closing : String) (first : Tree) : Parse (List Tree) := do
  let (others, _) ←
    commaLoop (nextIsOp closing) (starNamedExpression read) ((← remaining) + 1)
  expectOp closing
  return first :: others

/-- What parentheses hold after the opening one: a tuple, a generator, or a single expression. -/
def parenthesized (read : Reader) (line : Nat) : Parse Tree := do
  if ← acceptOp ")" then return tuple line []
  let start ← Parse.line
  if ← acceptKeyword "yield" then
    let value ← yieldAfter read start
    expectOp ")"
    return value
  let first ← starNamedExpression read
  if ← nextIsOp "," then return tuple line (← elementsAfter read ")" first)
  if isStarred first then failure
  if ← nextIsLoop then
    let loops ← comprehensionLoops read
    expectOp ")"
    return node "GeneratorExp" line [("elt", first), ("generators", loops)]
  expectOp ")"
  return first

/-- A list or a list comprehension after its opening bracket. -/
def bracketed (read : Reader) (line : Nat) : Parse Tree := do
  if ← acceptOp "]" then return node "List" line [("elts", .list [])]
  let first ← starNamedExpression read
  if ← nextIsLoop then
    if isStarred first then failure
    let loops ← comprehensionLoops read
    expectOp "]"
    return node "ListComp" line [("elt", first), ("generators", loops)]
  return node "List" line [("elts", .list (← elementsAfter read "]" first))]

/-- An entry of a dictionary. A dictionary that is unpacked has no key. -/
def dictionaryEntry (read : Reader) : Parse (Tree × Tree) := do
  if ← acceptOp "**" then return (.absent, ← read (.operation 0))
  let key ← read .expression
  expectOp ":"
  return (key, ← read .expression)

/-- The rest of a dictionary after its first entry. -/
def dictionaryAfter (read : Reader) (line : Nat) (first : Tree × Tree) : Parse Tree := do
  let (others, _) ←
    commaLoop (nextIsOp "\x7d") (dictionaryEntry read) ((← remaining) + 1)
  expectOp "\x7d"
  let entries := first :: others
  return node "Dict" line
    [("keys", .list (entries.map Prod.fst)), ("values", .list (entries.map Prod.snd))]

/-- A dictionary or a set, or a comprehension of one, after its opening brace. -/
def braced (read : Reader) (line : Nat) : Parse Tree := do
  if ← acceptOp "\x7d" then return node "Dict" line [("keys", .list []), ("values", .list [])]
  if ← nextIsOp "**" then
    let first ← dictionaryEntry read
    return ← dictionaryAfter read line first
  let isNamed ← nextIsNameBefore ":="
  let first ← starNamedExpression read
  if !isNamed && !isStarred first && (← nextIsOp ":") then
    expectOp ":"
    let value ← read .expression
    if ← nextIsLoop then
      let loops ← comprehensionLoops read
      expectOp "\x7d"
      return node "DictComp" line [("key", first), ("value", value), ("generators", loops)]
    else return ← dictionaryAfter read line (first, value)
  if ← nextIsLoop then
    if isStarred first then failure
    let loops ← comprehensionLoops read
    expectOp "\x7d"
    return node "SetComp" line [("elt", first), ("generators", loops)]
  return node "Set" line [("elts", .list (← elementsAfter read "\x7d" first))]

/-- The innermost part of an expression. -/
def atom (read : Reader) : Parse Tree := do
  let line ← line
  match ← peek? with
  | some (.string _) => strings read
  | _ =>
    match ← next with
    | .name text => return nameNode line text
    | .number _ | .op "..." | .keyword "None" | .keyword "True" | .keyword "False" =>
      return constant line
    | .op "(" => parenthesized read line
    | .op "[" => bracketed read line
    | .op "\x7b" => braced read line
    | _ => failure

/-- An atom with its attributes, calls and subscripts. -/
def primary (read : Reader) : Parse Tree := do
  let line ← line
  let base ← atom read
  trailers read line ((← remaining) + 1) base

/-- A primary expression, possibly awaited, with its power. -/
def power (read : Reader) : Parse Tree := do
  let line ← line
  let base ←
    if ← acceptKeyword "await" then
      let value ← primary read
      pure (node "Await" line [("value", value)])
    else primary read
  if ← acceptOp "**" then
    return node "BinOp" line [("left", base), ("right", ← read .factor)]
  else return base

/-- An operand with its signs. -/
def factor (read : Reader) : Parse Tree := do
  let line ← line
  match ← peek? with
  | some (.op "+") | some (.op "-") | some (.op "~") =>
    let _ ← next
    return node "UnaryOp" line [("operand", ← read .factor)]
  | _ => power read

/-- The parameters of a function, in the order in which they may come. -/
structure Parameters where
  positional : List Tree := []
  plain : List Tree := []
  defaults : List Tree := []
  rest : Tree := .absent
  named : List Tree := []
  namedDefaults : List Tree := []
  dictionary : Tree := .absent
  /-- Whether a slash or a star has been read. -/
  sawSlash : Bool := false
  sawStar : Bool := false

namespace Parameters

/-- The tree of the parameters. -/
def tree (parameters : Parameters) (line : Nat) : Tree :=
  node "arguments" line [
    ("posonlyargs", .list parameters.positional),
    ("args", .list parameters.plain),
    ("vararg", parameters.rest),
    ("kwonlyargs", .list parameters.named),
    ("kw_defaults", .list parameters.namedDefaults),
    ("kwarg", parameters.dictionary),
    ("defaults", .list parameters.defaults)]

end Parameters

/-- The name of a parameter with its type hint. -/
def parameter (typeHint : Parse Tree) (isAnnotated : Bool) : Parse Tree := do
  let line ← line
  let label ← name
  let note ← if isAnnotated && (← nextIsOp ":") then expectOp ":" *> typeHint
    else pure Tree.absent
  return node "arg" line [("arg", .text label), ("annotation", note)]

/-- Parameters up to the closing operator, which is left in place. Only the parameters of functions
with names are annotated. After a parameter with a default all others need one, up to a star. -/
def parametersFrom (read : Reader) (isAnnotated : Bool) (closing : String) :
    (fuel : Nat) → Parameters → Parse Parameters
  | 0, _ => failure
  | fuel + 1, before => do
    let proceed (parameters : Parameters) : Parse Parameters := do
      if ← acceptOp "," then parametersFrom read isAnnotated closing fuel parameters
      else if ← nextIsOp closing then return parameters
      else failure
    if ← nextIsOp closing then return before
    else if ← acceptOp "/" then
      if before.sawSlash || before.sawStar || before.plain.isEmpty then failure
      proceed { before with positional := before.plain, plain := [], sawSlash := true }
    else if ← acceptOp "**" then
      let dictionary ← parameter (read .expression) isAnnotated
      let _ ← acceptOp ","
      unless ← nextIsOp closing do failure
      return { before with dictionary := dictionary }
    else if ← acceptOp "*" then
      if before.sawStar then failure
      if ← acceptOp "," then
        match ← peek? with
        | some (.name _) =>
          parametersFrom read isAnnotated closing fuel { before with sawStar := true }
        | _ => failure
      else
        let rest ← parameter (starExpression read) isAnnotated
        proceed { before with rest := rest, sawStar := true }
    else
      let item ← parameter (read .expression) isAnnotated
      let value ← if ← acceptOp "=" then some <$> read .expression else pure none
      if before.sawStar then
        proceed { before with
          named := before.named ++ [item]
          namedDefaults := before.namedDefaults ++ [orAbsent value] }
      else
        if value.isNone && !before.defaults.isEmpty then failure
        proceed { before with
          plain := before.plain ++ [item], defaults := before.defaults ++ value.toList }

/-- Parameters up to the closing operator, which is left in place. -/
def parameters (read : Reader) (isAnnotated : Bool) (closing : String) : Parse Tree := do
  let line ← line
  let found ← parametersFrom read isAnnotated closing ((← remaining) + 1) {}
  return found.tree line

/-- A function without a name after its keyword. -/
def lambdaAfter (read : Reader) (line : Nat) : Parse Tree := do
  let parameters ← parameters read false ":"
  expectOp ":"
  return node "Lambda" line [("args", parameters), ("body", ← read .expression)]

/-- A conditional expression or a function without a name. -/
def expression (read : Reader) : Parse Tree := do
  let line ← line
  if ← acceptKeyword "lambda" then return ← lambdaAfter read line
  let value ← disjunction read
  if ← acceptKeyword "if" then
    let condition ← disjunction read
    expectKeyword "else"
    let other ← read .expression
    return node "IfExp" line [("test", condition), ("body", value), ("orelse", other)]
  else return value

/-- Reads a rule, with a bound on the depth. -/
def readRule : (depth : Nat) → Rule → Parse Tree
  | 0, _ => failure
  | depth + 1, rule =>
    let read := readRule depth
    match rule with
    | .expression => expression read
    | .operation minimum => operation read minimum
    | .factor => factor read
    | .primary => primary read
    | .inversion => inversion read

end CodeIndex.Grammar
