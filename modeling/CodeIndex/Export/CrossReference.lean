import CodeIndex.Record
import CodeIndex.Text.Word

/-! The cross-reference file of a source browser: the lines of each file with their names broken
out behind marks, and a trailer that lists the roots and the files. The first line gives the byte
position of the trailer. -/
namespace CodeIndex.CrossReference

/-- The mark of a record, which is empty for records that are not shown. -/
def mark (record : Record) : String :=
  if record.table = defsTable then
    match record.kind with
    | some "func" => "$"
    | some "class" => "c"
    | some "module" => "c"
    | some "type" => "t"
    | _ => "g"
  else if record.table = callsTable then "\x60"
  else if record.table = assignsTable then "="
  else if record.table = importsTable then "~<"
  else if record.table = endTable ∧ record.kind = some "func" then "\x7d"
  else ""

/-- The mark with a tabulator in front of it, or nothing. -/
def tabbedMark (record : Record) : String :=
  if (mark record).isEmpty then "" else "\t" ++ mark record

/-- Whether there is a word character. -/
def isWordPart (c : Option Char) : Bool := c.any isWord

/-- The position of the first occurrence of a token as a whole word in `rest`, which follows
`before` at the given position. -/
def wordOffsetFrom (token : List Char) (before : Option Char) (position : Nat)
    (rest : List Char) : Option Nat :=
  if !isWordPart before && token.isPrefixOf rest && !isWordPart (rest.drop token.length).head? then
    some position
  else match rest with
    | [] => none
    | c :: rest => wordOffsetFrom token (some c) (position + 1) rest

/-- The position of the first occurrence of a token as a whole word in a line. -/
def wordOffset? (token line : List Char) : Option Nat := wordOffsetFrom token none 0 line

/-- The line with its blanks collapsed to single spaces. -/
def collapse (line : List Char) : List Char := [' '].intercalate (wordsOf line)

/-- A token to be broken out of a line. -/
structure Token where
  offset : Nat
  mark : String
  text : List Char
  deriving DecidableEq, Repr

/-- The token of a record in a line, if the record is shown and its name stands in the line. -/
def token? (line : List Char) (record : Record) : Except Failure (Option Token) := do
  if (mark record).isEmpty then return none
  let name ← record.shortName
  return (wordOffset? name.toList line).map fun offset => ⟨offset, mark record, name.toList⟩

/-- Leaves out the tokens that start where an earlier one does. -/
def distinctTokens : List Token → List Token
  | [] => []
  | token :: rest =>
    token :: (distinctTokens rest).filter fun other => other.offset ≠ token.offset

/-- The tokens of a line in the order of their places. At one place the first record counts. -/
def tokens (line : List Char) (records : List Record) : Except Failure (List Token) := do
  let found ← records.mapM (token? line)
  return (distinctTokens (found.filterMap id)).mergeSort fun a b => decide (a.offset ≤ b.offset)

/-- The line from a position on, with the tokens broken out that do not overlap an earlier one. -/
def breakOut (line : List Char) (position : Nat) : List Token → List Char
  | [] => line.drop position ++ ['\n', '\n']
  | token :: rest =>
    if token.offset < position then breakOut line position rest
    else
      (line.drop position).take (token.offset - position) ++ '\n' :: '\t' :: token.mark.toList
        ++ token.text ++ '\n' :: breakOut line (token.offset + token.text.length) rest

/-- One source line with its names broken out. A line without names is left out. -/
def renderLine (lineNo : Int) (source : String) (records : List Record) :
    Except Failure String := do
  let line := collapse source.toList
  let tokens ← tokens line records
  if tokens.isEmpty then return ""
  return toString lineNo ++ " " ++ String.ofList (breakOut line 0 tokens)

/-- The records of each file by line number. -/
abbrev LineIndex := List (String × List (Int × List Record))

/-- The lines of one file in ascending order, with the first source line that one of their records
gives. -/
def renderFileLines (lines : List (Int × List Record)) : Except Failure String := do
  let ordered := lines.mergeSort fun a b => decide (a.1 ≤ b.1)
  let rendered ← ordered.mapM fun (lineNo, records) =>
    match records.findSome? Record.line with
    | none => .ok ""
    | some (.text source) => renderLine lineNo source records
    | some _ => .error .lineNotText
  return String.join rendered

/-- The decimal digits of a number, filled with zeros to at least ten places. -/
def paddedNumber (n : Nat) : String :=
  let digits := toString n
  String.ofList (List.replicate (10 - digits.length) '0') ++ digits

/-- The files with lines, in ascending order. -/
def listedFiles (index : LineIndex) : LineIndex :=
  (index.filter fun (_, lines) => !lines.isEmpty).mergeSort fun a b => decide (a.1 ≤ b.1)

/-- The lines of all files, each file below its path, and the line that ends them. -/
def renderBody (files : LineIndex) : Except Failure String := do
  let parts ← files.mapM fun (file, lines) => do
    return "\t@" ++ file ++ "\n\n" ++ (← renderFileLines lines)
  return String.join parts ++ "\t@\n"

/-- The trailer: the roots, an empty list and the files, each list with its length in front of it
and the files also with their size in bytes. -/
def renderTrailer (roots files : List String) : String :=
  let fileList := String.join (files.map (· ++ "\n"))
  toString roots.length ++ "\n" ++ String.join (roots.map (· ++ "\n")) ++ "0\n"
    ++ toString files.length ++ "\n" ++ toString fileList.utf8ByteSize ++ "\n" ++ fileList

/-- The whole file. -/
def render (index : LineIndex) (roots : List String) (directory : String) :
    Except Failure String := do
  let files := listedFiles index
  let body ← renderBody files
  let header := "cscope 15 " ++ directory ++ " -c "
  let offset := header.utf8ByteSize + 11 + body.utf8ByteSize
  return header ++ paddedNumber offset ++ "\n" ++ body ++ renderTrailer roots (files.map Prod.fst)

end CodeIndex.CrossReference
