import CodeIndex.Grammar.Expression

/-! The patterns of match statements. -/
namespace CodeIndex.Grammar

open Parse

/-- Whether an operator comes next after which a name is no capture: a dot, a parenthesis or an
equality sign. -/
def nextExtendsName : Parse Bool := do
  return (← nextIsOp ".") || (← nextIsOp "(") || (← nextIsOp "=")

/-- A name that a pattern gives to what it matches. -/
def captureTarget : Parse String := do
  let target ← name
  if target = "_" then failure
  if ← nextExtendsName then failure
  return target

/-- A pattern that captures what it matches, or matches all. -/
def capture (line : Nat) (target : Tree) : Tree := node "MatchAs" line [("name", target)]

/-- A number in a pattern, with a sign or an imaginary part. The imaginary part comes last. -/
def patternNumber : Parse Tree := do
  let line ← line
  let _ ← acceptOp "-"
  let .number imaginary ← next | failure
  if (← nextIsOp "+") || (← nextIsOp "-") then
    if imaginary then failure
    let _ ← next
    let .number true ← next | failure
    return constant line
  else return constant line

/-- A literal in a pattern: a number, a text or a constant. -/
def patternLiteral (read : Reader) : Parse Tree := do
  let line ← line
  match ← peek? with
  | some (.number _) | some (.op "-") => patternNumber
  | some (.string _) => strings read
  | some (.keyword "None") | some (.keyword "True") | some (.keyword "False") =>
    let _ ← next
    return constant line
  | _ => failure

/-- Whether a literal comes next. -/
def nextIsLiteral : Parse Bool := do
  match ← peek? with
  | some (.number _) | some (.op "-") | some (.string _) => return true
  | some (.keyword text) => return ["None", "True", "False"].contains text
  | _ => return false

/-- A name with its attributes, and whether it has any. -/
def dottedNames : Parse (Tree × Bool) := do
  let line ← line
  let first ← name
  let others ← many (nextIsOp ".") (do expectOp "."; name)
  let tree := others.foldl
    (fun base label => node "Attribute" line [("value", base), ("attr", .text label)])
    (nameNode line first)
  return (tree, !others.isEmpty)

/-- A starred pattern in a sequence, or a pattern. -/
def starPattern (pattern : Parse Tree) : Parse Tree := do
  let line ← line
  if ← acceptOp "*" then
    if ← accept (.name "_") then return node "MatchStar" line [("name", .absent)]
    else return node "MatchStar" line [("name", .text (← captureTarget))]
  else pattern

/-- A sequence of patterns up to a closing operator. -/
def sequenceUntil (pattern : Parse Tree) (closing : String) (line : Nat) : Parse Tree := do
  if ← acceptOp closing then return node "MatchSequence" line [("patterns", .list [])]
  let (items, _) ← separated (nextIsOp closing) (starPattern pattern)
  expectOp closing
  return node "MatchSequence" line [("patterns", .list items)]

/-- A pattern in parentheses after the opening one: a sequence if there is a comma. -/
def parenthesizedPattern (pattern : Parse Tree) (line : Nat) : Parse Tree := do
  if ← acceptOp ")" then return node "MatchSequence" line [("patterns", .list [])]
  let (items, trailing) ← separated (nextIsOp ")") (starPattern pattern)
  expectOp ")"
  match items, trailing with
  | [item], false => if item.label? = some "MatchStar" then failure else return item
  | items, _ => return node "MatchSequence" line [("patterns", .list items)]

/-- An entry of a mapping pattern: a key, which is a literal or an attribute, with its pattern. The
rest of the mapping has no key. -/
def mappingEntry (read : Reader) (pattern : Parse Tree) : Parse (Option Tree × Tree) := do
  if ← acceptOp "**" then return (none, .text (← captureTarget))
  let key ←
    if ← nextIsLiteral then patternLiteral read
    else
      let (tree, isAttribute) ← dottedNames
      unless isAttribute do failure
      pure tree
  expectOp ":"
  return (some key, ← pattern)

/-- A mapping pattern after its opening brace. The rest of the mapping comes last. -/
def mappingPattern (read : Reader) (pattern : Parse Tree) (line : Nat) : Parse Tree := do
  let entries ←
    if ← nextIsOp "\x7d" then pure []
    else pure (← separated (nextIsOp "\x7d") (mappingEntry read pattern)).1
  expectOp "\x7d"
  unless entries.dropLast.all fun entry => entry.1.isSome do failure
  let keyed := entries.filter fun entry => entry.1.isSome
  return node "MatchMapping" line
    [("keys", .list (keyed.filterMap Prod.fst)), ("patterns", .list (keyed.map Prod.snd))]

/-- An argument of a class pattern, and whether it is named. -/
def classArgument (pattern : Parse Tree) : Parse (Bool × Tree) := do
  if ← nextIsNameBefore "=" then
    let _ ← name
    expectOp "="
    return (true, ← pattern)
  else return (false, ← pattern)

/-- A class pattern after its opening parenthesis. Named arguments come after the others. -/
def classPattern (pattern : Parse Tree) (line : Nat) (subject : Tree) : Parse Tree := do
  let arguments ←
    if ← nextIsOp ")" then pure []
    else pure (← separated (nextIsOp ")") (classArgument pattern)).1
  expectOp ")"
  let named := arguments.dropWhile fun (isNamed, _) => !isNamed
  unless named.all Prod.fst do failure
  let plain := arguments.takeWhile fun (isNamed, _) => !isNamed
  return node "MatchClass" line [("cls", subject), ("patterns", .list (plain.map Prod.snd)),
    ("kwd_patterns", .list (named.map Prod.snd))]

/-- A pattern that starts with a name. -/
def namePattern (pattern : Parse Tree) (line : Nat) : Parse Tree := do
  if ← accept (.name "_") then return capture line .absent
  let (tree, isAttribute) ← dottedNames
  if ← acceptOp "(" then classPattern pattern line tree
  else if ← nextIsOp "=" then failure
  else if isAttribute then return node "MatchValue" line [("value", tree)]
  else return capture line tree

/-- A pattern without alternatives. -/
def closedPattern (read : Reader) (pattern : Parse Tree) : Parse Tree := do
  let line ← line
  if ← nextIsLiteral then
    return node "MatchValue" line [("value", ← patternLiteral read)]
  match ← peek? with
  | some (.name _) => namePattern pattern line
  | some (.op "(") => next *> parenthesizedPattern pattern line
  | some (.op "[") => next *> sequenceUntil pattern "]" line
  | some (.op "\x7b") => next *> mappingPattern read pattern line
  | _ => failure

/-- Alternative patterns, with a name for what they match. Patterns nest up to the given depth. -/
def patternAt (read : Reader) : (depth : Nat) → Parse Tree
  | 0 => failure
  | depth + 1 => do
    let line ← line
    let closed := closedPattern read (patternAt read depth)
    let first ← closed
    let others ← many (nextIsOp "|") (do expectOp "|"; closed)
    let alternatives := if others.isEmpty then first
      else node "MatchOr" line [("patterns", .list (first :: others))]
    if ← acceptKeyword "as" then
      let target ← captureTarget
      return node "MatchAs" line [("pattern", alternatives), ("name", .text target)]
    else return alternatives

/-- The patterns of a case: a sequence without brackets if there is a comma. -/
def casePatterns (read : Reader) : Parse Tree := do
  let line ← line
  let pattern := patternAt read ((← remaining) + 1)
  let ends : Parse Bool := do return (← nextIsOp ":") || (← nextIsKeyword "if")
  let (items, trailing) ← separated ends (starPattern pattern)
  match items, trailing with
  | [item], false => if item.label? = some "MatchStar" then failure else return item
  | items, _ => return node "MatchSequence" line [("patterns", .list items)]

end CodeIndex.Grammar
