import CodeIndex.Failure

/-! Reading a YAML text from left to right. -/
namespace CodeIndex.Yaml

/-- Whether a character ends a line. -/
def isBreak (c : Char) : Bool := c = '\n' || c = '\u0085' || c = '\u2028' || c = '\u2029'

/-- Whether a character may occur in a text at all. -/
def isAllowed (c : Char) : Bool :=
  let code := c.toNat
  code = 9 || code = 10 || code = 13 || (32 ≤ code && code ≤ 126) || code = 0x85 ||
    (0xa0 ≤ code && code ≤ 0xfffd) || 0x10000 ≤ code

/-- A place in a text: the characters after it, how many came before it, and its line and column.
Lines and columns are counted from zero. -/
structure Cursor where
  rest : List Char
  index : Nat := 0
  line : Nat := 0
  column : Nat := 0
  deriving Repr

namespace Cursor

/-- The place after the next character. A byte order mark takes no column. -/
def step (cursor : Cursor) : Cursor :=
  match cursor.rest with
  | [] => cursor
  | c :: rest =>
    if isBreak c then ⟨rest, cursor.index + 1, cursor.line + 1, 0⟩
    else if c = '\ufeff' then ⟨rest, cursor.index + 1, cursor.line, cursor.column⟩
    else ⟨rest, cursor.index + 1, cursor.line, cursor.column + 1⟩

/-- The place after some characters. -/
def forward : (count : Nat) → Cursor → Cursor
  | 0, cursor => cursor
  | count + 1, cursor => forward count cursor.step

/-- The character at a distance, if the text reaches that far. -/
def peek? (cursor : Cursor) (distance : Nat) : Option Char := cursor.rest[distance]?

end Cursor

/-- The end of the text, or a character of a class. -/
def endOr (test : Char → Bool) : Option Char → Bool
  | none => true
  | some c => test c

/-- The end of the text or of a line. -/
def isLineEnd : Option Char → Bool := endOr isBreak

/-- The end of the text or of a line, or a space. -/
def isSpaceOrEnd : Option Char → Bool := endOr fun c => c = ' ' || isBreak c

/-- The end of the text or of a line, or a space or tabulator. -/
def isGap : Option Char → Bool := endOr fun c => c = ' ' || c = '\t' || isBreak c

/-- A letter, a digit, a dash or an underscore of ASCII. -/
def isWordPart (c : Char) : Bool := c.isAlphanum || c = '-' || c = '_'

/-- Whether a document marker stands at a place that starts a line. -/
def startsDocumentMarker (rest : List Char) : Bool :=
  match rest with
  | '-' :: '-' :: '-' :: rest => isGap rest.head?
  | '.' :: '.' :: '.' :: rest => isGap rest.head?
  | _ => false

/-- A piece of text in a document. One with an unpaired half of a surrogate pair in it is no text,
and the replacement character stands there. -/
structure ScalarText where
  chars : List Char := []
  isBroken : Bool := false
  deriving DecidableEq, Repr

/-- One piece after the other. -/
def ScalarText.append (a b : ScalarText) : ScalarText :=
  ⟨a.chars ++ b.chars, a.isBroken || b.isBroken⟩

instance : Append ScalarText := ⟨ScalarText.append⟩

end CodeIndex.Yaml
