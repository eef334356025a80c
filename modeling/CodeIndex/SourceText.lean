import CodeIndex.Text.Trim

/-! The text of a source file and its physical lines. -/
namespace CodeIndex

/-- The text with every line end written as a single line feed. -/
def unifyLineEnds : List Char → List Char
  | [] => []
  | '\r' :: '\n' :: rest => '\n' :: unifyLineEnds rest
  | '\r' :: rest => '\n' :: unifyLineEnds rest
  | c :: rest => c :: unifyLineEnds rest

/-- The physical lines of a text. A line feed, a carriage return or both together end a line, and
the last line need not be ended. -/
def physicalLines (text : List Char) : List (List Char) :=
  let lines := splitAt '\n' (unifyLineEnds text)
  if lines.getLast? = some [] then lines.dropLast else lines

/-- The text of a source file. -/
structure SourceText where
  text : List Char
  lines : List (List Char)
  deriving DecidableEq, Repr

namespace SourceText

/-- A text with its lines. -/
def ofText (text : List Char) : SourceText := ⟨text, physicalLines text⟩

/-- The line of a number. Lines are counted from one. -/
def line? (source : SourceText) (number : Int) : Option (List Char) :=
  if 1 ≤ number then source.lines[(number - 1).toNat]? else none

end SourceText

end CodeIndex
