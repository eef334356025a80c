import CodeIndex.Grammar.NumberToken
import CodeIndex.Grammar.Token
import CodeIndex.Text.CharName

/-! What stands between the quotes of a string literal: escapes, and the replacement fields of
formatted literals. -/
namespace CodeIndex.Grammar

/-- The number that hexadecimal digits denote. -/
def hexNumber (digits : List Char) : Nat :=
  digits.foldl (fun n c =>
    n * 16 + if c.isDigit then c.toNat - 48 else (c.toNat ||| 32) - 87) 0

/-- Whether the text starts with a number of hexadecimal digits. -/
def startsWithHex (count : Nat) (text : List Char) : Bool :=
  count ≤ text.length && (text.take count).all isHexDigit

/-- Whether the text starts with the name of a character in braces. -/
def startsWithCharName : List Char → Bool
  | '\x7b' :: rest =>
    let name := rest.takeWhile (· ≠ '\x7d')
    name.length < rest.length && !name.isEmpty && (codeOfName? name).isSome
  | _ => false

/-- Whether the escapes of a text are well formed. In bytes only hexadecimal ones can be
malformed. -/
def escapesFit (isBytes : Bool) : List Char → Bool
  | '\\' :: c :: rest =>
    let fits :=
      if c = 'x' then startsWithHex 2 rest
      else if isBytes then true
      else if c = 'u' then startsWithHex 4 rest
      else if c = 'U' then startsWithHex 8 rest && hexNumber (rest.take 8) < 0x110000
      else if c = 'N' then startsWithCharName rest
      else true
    fits && escapesFit isBytes rest
  | _ :: rest => escapesFit isBytes rest
  | [] => true

/-- A replacement field of a formatted literal: its expression, how many lines after the start of
the literal it begins, and the fields of its format. -/
inductive ReplacementField where
  | mk (line : Nat) (expression : List Char) (format : List ReplacementField)
  deriving Repr

/-- How plain text in a formatted literal ends. -/
inductive TextEnd where
  /-- A doubled brace stands for one, and the text goes on. -/
  | doubled
  /-- A field begins, or the text of a format ends. -/
  | brace
  | finished
  deriving DecidableEq, Repr

/-- The plain text of a formatted literal up to a brace, with the characters after it. In a format
braces are not doubled. A brace in the name of a character is passed over. -/
def plainText (isRaw isFormat : Bool) :
    (fuel : Nat) → List Char → List Char → Option (List Char × TextEnd × List Char)
  | 0, _, _ => none
  | _ + 1, seen, [] => some (seen.reverse, .finished, [])
  | fuel + 1, seen, c :: rest =>
    let brace (seen : List Char) (c : Char) (rest : List Char) :
        Option (List Char × TextEnd × List Char) :=
      if isFormat then some (seen.reverse, .brace, c :: rest)
      else if rest.head? = some c then some ((c :: seen).reverse, .doubled, rest.tail)
      else if c = '\x7d' then none
      else some (seen.reverse, .brace, c :: rest)
    if c = '\\' && !isRaw then
      match rest with
      | [] => plainText isRaw isFormat fuel (c :: seen) []
      | 'N' :: '\x7b' :: rest =>
        let name := rest.takeWhile (· ≠ '\x7d')
        if name.length = rest.length then none
        else plainText isRaw isFormat fuel ('\x7d' :: (name.reverse ++ '\x7b' :: 'N' :: c :: seen))
          (rest.drop (name.length + 1))
      | 'N' :: _ => none
      | d :: rest =>
        if d = '\x7b' || d = '\x7d' then brace (c :: seen) d rest
        else plainText isRaw isFormat fuel (d :: c :: seen) rest
    else if c = '\x7b' || c = '\x7d' then brace seen c rest
    else plainText isRaw isFormat fuel (c :: seen) rest

/-- The closing character for an opening one. -/
def closerOf? : Char → Option Char
  | '(' => some ')'
  | '[' => some ']'
  | '\x7b' => some '\x7d'
  | _ => none

/-- The expression of a replacement field, read up to the character that ends it, which comes first
in the rest. An expression holds neither backslashes nor comments. The quote of an inner literal
is remembered together with whether it is a triple one. -/
def fieldExpression (quote : Option (Char × Bool)) (closers seen : List Char) :
    List Char → Option (List Char × List Char)
  | [] => none
  | c :: rest =>
    if c = '\\' then none
    else match quote with
    | some (q, triple) =>
      if c = q then
        if triple then
          match rest with
          | a :: b :: rest =>
            if a = q ∧ b = q then fieldExpression none closers (b :: a :: c :: seen) rest
            else fieldExpression quote closers (c :: seen) (a :: b :: rest)
          | rest => fieldExpression quote closers (c :: seen) rest
        else fieldExpression none closers (c :: seen) rest
      else fieldExpression quote closers (c :: seen) rest
    | none =>
      if c = '\'' || c = '"' then
        match rest with
        | a :: b :: rest =>
          if a = c ∧ b = c then
            fieldExpression (some (c, true)) closers (b :: a :: c :: seen) rest
          else fieldExpression (some (c, false)) closers (c :: seen) (a :: b :: rest)
        | rest => fieldExpression (some (c, false)) closers (c :: seen) rest
      else match closerOf? c with
      | some closer => fieldExpression none (closer :: closers) (c :: seen) rest
      | none =>
        if c = '#' then none
        else if closers.isEmpty && ['!', ':', '\x7d', '=', '<', '>'].contains c then
          match rest with
          | '=' :: rest =>
            if c = '!' || c = '=' || c = '<' || c = '>' then
              fieldExpression none closers ('=' :: c :: seen) rest
            else some (seen.reverse, c :: '=' :: rest)
          | rest =>
            if c = '<' || c = '>' then fieldExpression none closers (c :: seen) rest
            else some (seen.reverse, c :: rest)
        else if c = ')' || c = ']' || c = '\x7d' then
          if closers.head? = some c then fieldExpression none closers.tail (c :: seen) rest
          else none
        else fieldExpression none closers (c :: seen) rest

/-- The characters that an expression must not consist of. -/
def isExpressionBlank (c : Char) : Bool := c == ' ' || c == '\t' || c == '\n' || c == '\x0c'

/-- The characters passed over after an equality sign that ends an expression. -/
def isFieldBlank (c : Char) : Bool := c == ' ' || (9 ≤ c.toNat && c.toNat ≤ 13)

/-- The characters after a conversion, if there is one. -/
def skipConversion : List Char → Option (List Char)
  | '!' :: c :: rest => if c = 's' || c = 'r' || c = 'a' then some rest else none
  | ['!'] => none
  | rest => some rest

/-- The replacement fields of a formatted literal up to its end, or of a format up to its closing
brace, and the characters from there on. Fields nest `depth` levels deep at most. -/
def replacementFields (isRaw : Bool) : (depth : Nat) → (isFormat : Bool) → (fuel : Nat) →
    (line : Nat) → List Char → Option (List ReplacementField × List Char)
  | _, _, 0, _, _ => none
  | depth, isFormat, fuel + 1, line, text => do
    let (plain, ending, rest) ← plainText isRaw isFormat (text.length + 1) [] text
    if !isRaw && !escapesFit false plain then none
    let line := line + (text.take (text.length - rest.length)).count '\n'
    match ending, rest with
    | .doubled, rest => replacementFields isRaw depth isFormat fuel line rest
    | .finished, rest => if isFormat then none else some ([], rest)
    | .brace, '\x7b' :: rest =>
      match depth with
      | 0 => none
      | depth + 1 =>
        let (expression, after) ← fieldExpression none [] [] rest
        if expression.all isExpressionBlank then none
        let after := match after with
          | '=' :: after => after.dropWhile isFieldBlank
          | after => after
        let after ← skipConversion after
        let lineOf (left : List Char) : Nat :=
          line + (rest.take (rest.length - left.length)).count '\n'
        let (format, after) ← match after with
          | ':' :: after => replacementFields isRaw depth true fuel (lineOf after) after
          | after => some ([], after)
        match after with
        | '\x7d' :: after =>
          let (fields, final) ←
            replacementFields isRaw (depth + 1) isFormat fuel (lineOf after) after
          some (.mk line expression format :: fields, final)
        | _ => none
    | .brace, rest => some ([], rest)

/-- The replacement fields of a formatted literal. A format may hold fields, whose formats may
not. -/
def StringLiteral.fields? (literal : StringLiteral) : Option (List ReplacementField) := do
  let (fields, rest) ←
    replacementFields literal.isRaw 2 false (2 * literal.body.length + 2) 0 literal.body
  if rest.isEmpty then some fields else none

/-- Whether the characters and escapes of a literal that is not formatted are well formed. -/
def StringLiteral.isWellFormed (literal : StringLiteral) : Bool :=
  (!literal.isBytes || literal.body.all (·.toNat < 128))
    && (literal.isRaw || escapesFit literal.isBytes literal.body)

end CodeIndex.Grammar
