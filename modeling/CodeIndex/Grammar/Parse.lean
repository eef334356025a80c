import CodeIndex.Grammar.Token
import CodeIndex.Grammar.Tree

/-! Reading a list of tokens from left to right. A rule of the grammar takes tokens and gives a
result, or refuses; a rule that refuses takes nothing. -/
namespace CodeIndex.Grammar

/-- The tokens that are left, and the last line of those taken so far. -/
structure Rest where
  tokens : List Token
  last : Nat
  deriving Repr

/-- A rule of the grammar. -/
abbrev Parse := StateT Rest Option

namespace Parse

/-- The kind of the next token. -/
def peek? : Parse (Option TokenKind) := do return (← get).tokens.head?.map Token.kind

/-- The line of the next token. -/
def line : Parse Nat := do
  match (← get).tokens with
  | token :: _ => return token.line
  | [] => failure

/-- The last line of the tokens taken so far. -/
def lastLine : Parse Nat := do return (← get).last

/-- Whether a token only shows the layout of the source. -/
def isLayout : TokenKind → Bool
  | .newline | .indent | .dedent | .finish => true
  | _ => false

/-- Takes the next token. -/
def next : Parse TokenKind := do
  let state ← get
  match state.tokens with
  | token :: rest =>
    set (Rest.mk rest (if isLayout token.kind then state.last else token.last))
    return token.kind
  | [] => failure

/-- Takes the next token if it is of the given kind. -/
def accept (kind : TokenKind) : Parse Bool := do
  if (← peek?) = some kind then
    let _ ← next
    return true
  else return false

/-- Takes the next token, which must be of the given kind. -/
def expect (kind : TokenKind) : Parse Unit := do
  unless ← accept kind do failure

/-- Whether an operator comes next. -/
def nextIsOp (text : String) : Parse Bool := do return (← peek?) = some (.op text)

/-- Whether a keyword comes next. -/
def nextIsKeyword (text : String) : Parse Bool := do return (← peek?) = some (.keyword text)

/-- Takes an operator if it comes next. -/
def acceptOp (text : String) : Parse Bool := accept (.op text)

/-- Takes an operator, which must come next. -/
def expectOp (text : String) : Parse Unit := expect (.op text)

/-- Takes a keyword if it comes next. -/
def acceptKeyword (text : String) : Parse Bool := accept (.keyword text)

/-- Takes a keyword, which must come next. -/
def expectKeyword (text : String) : Parse Unit := expect (.keyword text)

/-- Takes an identifier. -/
def name : Parse String := do
  match ← next with
  | .name text => return text
  | _ => failure

/-- Whether an identifier comes next with an operator behind it. -/
def nextIsNameBefore (operator : String) : Parse Bool := do
  match (← get).tokens with
  | first :: second :: _ =>
    match first.kind with
    | .name _ => return second.kind = .op operator
    | _ => return false
  | _ => return false

/-- How many tokens are left. -/
def remaining : Parse Nat := do return (← get).tokens.length

/-- Applies a rule as long as the test holds. -/
def whileLoop {α : Type} (test : Parse Bool) (rule : Parse α) : (fuel : Nat) → Parse (List α)
  | 0 => failure
  | fuel + 1 => do
    if ← test then
      let item ← rule
      return item :: (← whileLoop test rule fuel)
    else return []

/-- Applies a rule as long as the test holds. The rule takes a token each time. -/
def many {α : Type} (test : Parse Bool) (rule : Parse α) : Parse (List α) := do
  whileLoop test rule ((← remaining) + 1)

/-- Further items after commas, up to a comma that no item follows. The result also says whether
the last comma is such a one. -/
def commaLoop {α : Type} (ends : Parse Bool) (rule : Parse α) :
    (fuel : Nat) → Parse (List α × Bool)
  | 0 => failure
  | fuel + 1 => do
    if ← acceptOp "," then
      if ← ends then return ([], true)
      let item ← rule
      let (items, trailing) ← commaLoop ends rule fuel
      return (item :: items, trailing)
    else return ([], false)

/-- Items with commas between them, and whether a comma follows the last one. The test tells whether
a comma is the last one. -/
def separated {α : Type} (ends : Parse Bool) (rule : Parse α) : Parse (List α × Bool) := do
  let first ← rule
  let (items, trailing) ← commaLoop ends rule ((← remaining) + 1)
  return (first :: items, trailing)

end Parse

/-- A node that begins at a line. -/
def node (label : String) (line : Nat) (fields : List (String × Tree)) : Tree :=
  .node label fields (some line) none

/-- A tree that may be missing. -/
def orAbsent (tree : Option Tree) : Tree := tree.getD .absent

end CodeIndex.Grammar
