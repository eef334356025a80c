import CodeIndex.Grammar.NumberToken
import CodeIndex.Grammar.Token
import CodeIndex.Text.Identifier
import CodeIndex.Text.NormalForm

/-! The tokens of a Python source. The text ends with a line feed, and line feeds are its only line
ends. -/
namespace CodeIndex.Grammar

/-- Adds a letter to the letters before a string literal, if it may stand there. -/
def addLetter? (literal : StringLiteral) (plain : Bool) (c : Char) :
    Option (StringLiteral × Bool) :=
  if (c = 'b' || c = 'B') && !literal.isBytes && plain && !literal.isFormatted then
    some ({ literal with isBytes := true }, plain)
  else if (c = 'u' || c = 'U') && plain && literal = ⟨false, false, false, []⟩ then
    some (literal, false)
  else if (c = 'r' || c = 'R') && !literal.isRaw && plain then
    some ({ literal with isRaw := true }, plain)
  else if (c = 'f' || c = 'F') && !literal.isFormatted && !literal.isBytes && plain then
    some ({ literal with isFormatted := true }, plain)
  else none

/-- The letters before a string literal, and the characters from its opening quote on. -/
def literalStart? (literal : StringLiteral) (plain : Bool) :
    List Char → Option (StringLiteral × List Char)
  | [] => none
  | c :: rest =>
    if c = '\'' || c = '"' then some (literal, c :: rest)
    else do
      let (literal, plain) ← addLetter? literal plain c
      literalStart? literal plain rest

/-- The body of a literal up to three quotes in a row, and the characters after them. -/
def longBody (quote : Char) : List Char → List Char → Option (List Char × List Char)
  | body, '\\' :: c :: rest => longBody quote (c :: '\\' :: body) rest
  | body, a :: b :: c :: rest =>
    if a = quote ∧ b = quote ∧ c = quote then some (body.reverse, rest)
    else longBody quote (a :: body) (b :: c :: rest)
  | _, _ => none

/-- The body of a literal up to a quote on the same line, and the characters after it. -/
def shortBody (quote : Char) : List Char → List Char → Option (List Char × List Char)
  | _, [] => none
  | body, '\\' :: c :: rest => shortBody quote (c :: '\\' :: body) rest
  | body, c :: rest =>
    if c = quote then some (body.reverse, rest)
    else if c = '\n' then none
    else shortBody quote (c :: body) rest

/-- The body of a literal from its opening quote on, and the characters after its closing quote. -/
def literalBody : List Char → Option (List Char × List Char)
  | a :: b :: c :: rest =>
    if a = b then
      if b = c then longBody a [] rest else some ([], c :: rest)
    else shortBody a [] (b :: c :: rest)
  | [a, b] => if a = b then some ([], []) else none
  | _ => none

/-- Whether a character may start an identifier, as far as ASCII is concerned. -/
def isNameStart (c : Char) : Bool := c.isAlpha || c == '_' || 128 ≤ c.toNat

/-- The token kind of a word. Identifiers beyond ASCII are checked and brought to their normal
form. -/
def wordKind? (word : List Char) : Option TokenKind :=
  if word.all (·.toNat < 128) then
    let text := String.ofList word
    some (if keywords.contains text then .keyword text else .name text)
  else if isIdentifier word then some (.name (String.ofList (NormalForm.compatibility word)))
  else none

/-- Where the lexer stands: the present line, the open indentations from the innermost on (with
tabulators up to the next multiple of eight, and as one column), and the closing characters that
are waited for. -/
structure LexState where
  line : Nat
  indents : List (Nat × Nat) := []
  closers : List Char := []
  deriving Repr

/-- The most parentheses that may be open at once. -/
def parenthesisLimit : Nat := 200

/-- The most indentations that may be open at once. -/
def indentLimit : Nat := 99

/-- The indentation of a line. A backslash at the end of a blank line joins it to the next one, and
the columns before the first such backslash count. -/
structure Indentation where
  column : Nat := 0
  narrow : Nat := 0
  joined : Nat := 0
  line : Nat
  deriving Repr

/-- Measures the indentation, and gives the characters after it. -/
def measure (indentation : Indentation) : List Char → Option (Indentation × List Char)
  | ' ' :: rest =>
    measure { indentation with
      column := indentation.column + 1, narrow := indentation.narrow + 1 } rest
  | '\t' :: rest =>
    measure { indentation with
      column := (indentation.column / 8 + 1) * 8, narrow := indentation.narrow + 1 } rest
  | '\x0c' :: rest => measure { indentation with column := 0, narrow := 0 } rest
  | '\\' :: '\n' :: rest =>
    if rest.isEmpty then none
    else measure { indentation with
      line := indentation.line + 1
      joined := if indentation.joined = 0 then indentation.column else indentation.joined } rest
  | '\\' :: _ => none
  | rest => some (indentation, rest)

/-- Closes indentations down to the given columns, and counts them. There must be an open
indentation of just these columns. -/
def closeIndents (column narrow : Nat) : List (Nat × Nat) → Option (Nat × List (Nat × Nat))
  | [] => if column = 0 ∧ narrow = 0 then some (0, []) else none
  | (wide, thin) :: rest =>
    if column < wide then
      (closeIndents column narrow rest).map fun (count, left) => (count + 1, left)
    else if column = wide ∧ narrow = thin then some (0, (wide, thin) :: rest)
    else none

/-- The tokens at the start of a logical line, and the indentations that are open after them. -/
def indentTokens (state : LexState) (column narrow : Nat) :
    Option (List Token × List (Nat × Nat)) :=
  let (wide, thin) := state.indents.headD (0, 0)
  if wide < column then
    if thin < narrow ∧ state.indents.length < indentLimit then
      some ([⟨.indent, state.line, state.line⟩], (column, narrow) :: state.indents)
    else none
  else (closeIndents column narrow state.indents).map fun (count, indents) =>
    (List.replicate count ⟨.dedent, state.line, state.line⟩, indents)

/-- Keeps track of parentheses. A closing one must fit the one that was opened last. -/
def trackParentheses (operator : String) (closers : List Char) : Option (List Char) :=
  let opened (closer : Char) : Option (List Char) :=
    if closers.length < parenthesisLimit then some (closer :: closers) else none
  let closed (closer : Char) : Option (List Char) :=
    if closers.head? = some closer then some closers.tail else none
  match operator with
  | "(" => opened ')'
  | "[" => opened ']'
  | "\x7b" => opened '\x7d'
  | ")" => closed ')'
  | "]" => closed ']'
  | "\x7d" => closed '\x7d'
  | _ => some closers

/-- Whether a number starts here. -/
def startsNumber : List Char → Bool
  | '.' :: c :: _ => c.isDigit
  | c :: _ => c.isDigit
  | [] => false

/-- One token from a character that is no blank, with the characters after it and the closing
characters that are waited for. -/
def nextToken (state : LexState) (text : List Char) : Option (Token × List Char × List Char) :=
  match literalStart? ⟨false, false, false, []⟩ true text with
  | some (literal, quoted) => do
    let (body, rest) ← literalBody quoted
    let last := state.line + body.count '\n'
    some (⟨.string { literal with body := body }, state.line, last⟩, rest, state.closers)
  | none =>
    if text.head?.any isNameStart then do
      let kind ← wordKind? (text.takeWhile isNamePart)
      some (⟨kind, state.line, state.line⟩, text.dropWhile isNamePart, state.closers)
    else if startsNumber text then do
      let (imaginary, rest) ← numberEnd text
      some (⟨.number imaginary, state.line, state.line⟩, rest, state.closers)
    else do
      let operator ← operators.find? fun operator => operator.toList.isPrefixOf text
      let closers ← trackParentheses operator state.closers
      some (⟨.op operator, state.line, state.line⟩, text.drop operator.length, closers)

mutual

/-- The tokens from the start of a line on. Lines with blanks and comments only have none. -/
def lexLines : (fuel : Nat) → LexState → List Char → Option (List Token)
  | 0, _, _ => none
  | fuel + 1, state, text => do
    let (indentation, rest) ← measure { line := state.line } text
    let state := { state with line := indentation.line }
    match rest with
    | [] =>
      let closing := state.indents.map fun _ => Token.mk .dedent state.line state.line
      some (closing ++ [⟨.finish, state.line, state.line⟩])
    | '\n' :: rest => lexLines fuel { state with line := state.line + 1 } rest
    | '#' :: rest =>
      lexLines fuel { state with line := state.line + 1 } (rest.dropWhile (· ≠ '\n')).tail
    | rest =>
      let joined := indentation.joined
      let column := if joined = 0 then indentation.column else joined
      let narrow := if joined = 0 then indentation.narrow else joined
      let (tokens, indents) ← indentTokens state column narrow
      return tokens ++ (← lexRest fuel { state with indents := indents } rest)

/-- The tokens of the rest of a line and of those after it. Inside parentheses a line end means
nothing. -/
def lexRest : (fuel : Nat) → LexState → List Char → Option (List Token)
  | 0, _, _ => none
  | fuel + 1, state, text =>
    match text.dropWhile fun c => c = ' ' || c = '\t' || c = '\x0c' with
    | [] => none
    | '#' :: rest => lexRest fuel state (rest.dropWhile (· ≠ '\n'))
    | '\n' :: rest => do
      let next := { state with line := state.line + 1 }
      if state.closers.isEmpty then
        return ⟨.newline, state.line, state.line⟩ :: (← lexLines fuel next rest)
      else lexRest fuel next rest
    | '\\' :: '\n' :: rest =>
      if rest.isEmpty then none else lexRest fuel { state with line := state.line + 1 } rest
    | rest => do
      let (token, rest, closers) ← nextToken state rest
      return token :: (← lexRest fuel { state with line := token.last, closers := closers } rest)

end

/-- The tokens of a source whose first line has the given number. A zero character is refused. -/
def tokens? (firstLine : Nat) (text : List Char) : Option (List Token) :=
  if text.contains '\x00' then none
  else
    let text := if text.getLast? = some '\n' then text else text ++ ['\n']
    lexLines (2 * text.length + 4) { line := firstLine } text

end CodeIndex.Grammar
