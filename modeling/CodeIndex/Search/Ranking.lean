import CodeIndex.Record
import CodeIndex.Search.Matcher
import CodeIndex.Search.Reader

namespace CodeIndex.Search

namespace Fault

/-- The failure that a refused pattern causes. -/
def failure : Fault → Failure
  | .malformed => .malformedPattern
  | .repetitionTooLarge => .repetitionTooLarge
  | .repetitionTooLong => .repetitionTooLong
  | .flagConflict => .flagConflict

end Fault

/-- Whether a character has a meaning of its own in patterns. -/
def isSpecial (c : Char) : Bool :=
  "()[]\x7b\x7d?*+-|^$\\.&~# \t\n\r\x0b\x0c".toList.contains c

/-- The pattern that matches a text literally. -/
def escape : List Char → List Char
  | [] => []
  | c :: rest => if isSpecial c then '\\' :: c :: escape rest else c :: escape rest

/-- What is searched for: the key as it was given, and the pattern that is looked for in names. -/
structure Key where
  text : String
  /-- The written form of the pattern. -/
  source : String
  pattern : Pattern
  flags : Flags
  deriving Repr

namespace Key

/-- Reads a key. A key that is no pattern is searched for literally. -/
def ofText (text : String) : Except Failure Key :=
  match readPattern text.toList with
  | .ok (pattern, flags) => .ok ⟨text, text, pattern, flags⟩
  | .error .malformed =>
    let source := escape text.toList
    match readPattern source with
    | .ok (pattern, flags) => .ok ⟨text, String.ofList source, pattern, flags⟩
    | .error fault => .error fault.failure
  | .error fault => .error fault.failure

end Key

/-- The scores of the kinds of matches, from the whole name to no match at all. -/
def exactScore : Nat := 10

@[inherit_doc exactScore]
def exactIgnoringCaseScore : Nat := 8

@[inherit_doc exactScore]
def segmentScore : Nat := 6

@[inherit_doc exactScore]
def segmentIgnoringCaseScore : Nat := 5

@[inherit_doc exactScore]
def partialScore : Nat := 2

/-- Records whose score is less than this below the best one are kept. -/
def tolerance : Nat := 4

/-- How well the name of a record fits a key. Zero means not at all. -/
def score (key : Key) (record : Record) : Except Failure Nat := do
  let name := record.qualifiedName
  if name = key.text then return exactScore
  if lowerText name = lowerText key.text then return exactIgnoringCaseScore
  let short ← record.shortName
  if short = key.text then return segmentScore
  if lowerText short = lowerText key.text then return segmentIgnoringCaseScore
  if key.pattern.found key.flags name.toList then return partialScore
  return 0

/-- The records that match, best first, as long as they come near to the best score. Records of one
score keep their order. -/
def rank (key : Key) (records : List Record) : Except Failure (List Record) := do
  let scored ← records.mapM fun record => do return (← score key record, record)
  let matching := (scored.filter fun entry => 0 < entry.1).mergeSort fun a b => b.1 ≤ a.1
  match matching.head? with
  | none => return []
  | some (best, _) =>
    return (matching.filter fun entry => best < entry.1 + tolerance).map Prod.snd

/-- The ranking for the text of a key. -/
def rankText (text : String) (records : List Record) : Except Failure (List Record) := do
  rank (← Key.ofText text) records

end CodeIndex.Search
