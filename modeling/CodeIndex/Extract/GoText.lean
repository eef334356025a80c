/-! Comments and string literals in a line of Go. The line is not parsed: comments are found by
their marks alone, also inside string literals. -/
namespace CodeIndex.Go

/-- How many characters of a string literal come before its closing quote, or before the end of the
line if there is none. A backslash hides the character after it. -/
def literalLength : (escaped : Bool) → List Char → Nat
  | _, [] => 0
  | true, _ :: rest => literalLength false rest + 1
  | false, c :: rest =>
    if c = '"' then 0 else literalLength (c == '\\') rest + 1

/-- The position of the quote that closes the string literal opened at `start`, or the length of
the line. -/
def literalEnd (line : List Char) (start : Int) : Nat :=
  let first := (start + 1).toNat
  if first < line.length then first + literalLength false (line.drop first) else line.length

/-- Where a scan for string literals stands. -/
inductive LiteralMode where
  | outside
  | inside
  /-- Inside a literal, after a backslash. -/
  | escaped
  deriving DecidableEq, Repr

/-- Empties the string literals in the rest of a line. -/
def blankFrom : LiteralMode → List Char → List Char
  | _, [] => []
  | .outside, c :: rest =>
    if c = '"' then '"' :: '"' :: blankFrom .inside rest else c :: blankFrom .outside rest
  | .inside, c :: rest =>
    if c = '"' then blankFrom .outside rest
    else if c = '\\' then blankFrom .escaped rest
    else blankFrom .inside rest
  | .escaped, _ :: rest => blankFrom .inside rest

/-- Empties the string literals of a line. One that is not closed goes up to the end of the
line. -/
def blankLiterals (line : List Char) : List Char := blankFrom .outside line

/-- The position of the first place where two characters stand one after the other. -/
def pairPosition? (a b : Char) : List Char → Option Nat
  | x :: y :: rest =>
    if x = a ∧ y = b then some 0 else (pairPosition? a b (y :: rest)).map (· + 1)
  | _ => none

/-- The part of a line before a line comment. -/
def dropLineComment (line : List Char) : List Char :=
  match pairPosition? '/' '/' line with
  | some position => line.take position
  | none => line

/-- How long a block comment is after its opening mark, if it is closed on the same line. -/
def commentLength? (rest : List Char) : Option Nat :=
  (pairPosition? '*' '/' (rest.takeWhile (· ≠ '\n'))).map (· + 2)

/-- Puts a space in the place of every closed block comment, after passing over `skip`
characters. -/
def joinComments : (skip : Nat) → List Char → List Char
  | _, [] => []
  | skip + 1, _ :: rest => joinComments skip rest
  | 0, '/' :: '*' :: rest =>
    match commentLength? rest with
    | some length => ' ' :: joinComments (length + 1) ('*' :: rest)
    | none => '/' :: joinComments 0 ('*' :: rest)
  | 0, c :: rest => c :: joinComments 0 rest

/-- The line without block comments, and whether one stays open at its end. A closed comment leaves
a space behind. -/
def dropBlockComments (line : List Char) : List Char × Bool :=
  let joined := joinComments 0 line
  match pairPosition? '/' '*' joined with
  | some position => (joined.take position, true)
  | none => (joined, false)

end CodeIndex.Go
