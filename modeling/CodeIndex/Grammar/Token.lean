namespace CodeIndex.Grammar

/-- A string literal: the kind that its letters give it, and the characters between its quotes as
they stand in the source. -/
structure StringLiteral where
  isBytes : Bool
  isRaw : Bool
  isFormatted : Bool
  body : List Char
  deriving DecidableEq, Repr

/-- What a token is. -/
inductive TokenKind where
  /-- An identifier in its normal form. -/
  | name (text : String)
  | keyword (text : String)
  | number (imaginary : Bool)
  | string (literal : StringLiteral)
  | op (text : String)
  /-- The end of a logical line. -/
  | newline
  | indent
  | dedent
  /-- The end of the source. -/
  | finish
  deriving DecidableEq, Repr

/-- A token with its first and last line. -/
structure Token where
  kind : TokenKind
  line : Nat
  last : Nat
  deriving DecidableEq, Repr

/-- The words that are no identifiers. -/
def keywords : List String :=
  ["False", "None", "True", "and", "as", "assert", "async", "await", "break", "class", "continue",
    "def", "del", "elif", "else", "except", "finally", "for", "from", "global", "if", "import",
    "in", "is", "lambda", "nonlocal", "not", "or", "pass", "raise", "return", "try", "while",
    "with", "yield"]

/-- The operators and delimiters. One that starts with another one comes before it. -/
def operators : List String :=
  ["...", "**=", "//=", ">>=", "<<=", "!=", "%=", "&=", "**", "*=", "+=", "-=", "->", "//", "/=",
    ":=", "<<", "<=", "==", ">=", ">>", "@=", "^=", "|=", "%", "&", "(", ")", "*", "+", ",", "-",
    ".", "/", ":", ";", "<", "=", ">", "@", "[", "]", "^", "\x7b", "|", "\x7d", "~"]

end CodeIndex.Grammar
