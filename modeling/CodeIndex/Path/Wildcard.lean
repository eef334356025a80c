namespace CodeIndex

/-- A part of a file name pattern. -/
inductive Wildcard where
  /-- Any characters, or none. -/
  | star
  /-- Any one character. -/
  | question
  | char (c : Char)
  /-- One character that is, or is not, among the given ones or in one of the ranges. -/
  | set (negated : Bool) (chars : List Char) (ranges : List (Char × Char))
  deriving DecidableEq, Repr

namespace Wildcard

/-- Whether the pattern part takes the character. -/
def accepts (part : Wildcard) (c : Char) : Bool :=
  match part with
  | .star | .question => true
  | .char d => c == d
  | .set negated chars ranges =>
    (chars.contains c || ranges.any fun (low, high) => low ≤ c && c ≤ high) != negated

/-- Cuts the content of a set at the hyphens that make ranges. The first character of a piece is
never such a hyphen, nor is the second one unless the piece is the first. -/
def chunksFrom : (wait : Nat) → List Char → List Char → List (List Char)
  | _, chunk, [] => [chunk.reverse]
  | 0, chunk, '-' :: rest => chunk.reverse :: chunksFrom 2 [] rest
  | wait, chunk, c :: rest => chunksFrom (wait - 1) (c :: chunk) rest

/-- The pieces of the content of a set between which there are ranges. A hyphen at the end belongs
to the piece before it. -/
def chunks (content : List Char) : List (List Char) :=
  let pieces := chunksFrom (if content.head? = some '!' then 2 else 1) [] content
  match pieces.reverse with
  | [] :: last :: before => ((last ++ ['-']) :: before).reverse
  | _ => pieces

/-- Leaves out the ranges that run downwards, together with their ends. -/
def dropEmptyRanges : List (List Char) → List (List Char)
  | [] => []
  | chunk :: rest =>
    match dropEmptyRanges rest with
    | next :: rest =>
      match chunk.getLast?, next with
      | some low, high :: tail =>
        if high < low then (chunk.dropLast ++ tail) :: rest else chunk :: next :: rest
      | _, _ => chunk :: next :: rest
    | [] => [chunk]

/-- The ranges between neighbouring pieces. -/
def rangesBetween : List (List Char) → List (Char × Char)
  | first :: second :: rest =>
    match first.getLast?, second.head? with
    | some low, some high => (low, high) :: rangesBetween (second :: rest)
    | _, _ => rangesBetween (second :: rest)
  | _ => []

/-- The set with the given content. An exclamation mark at its start negates it. -/
def ofContent (content : List Char) : Wildcard :=
  match dropEmptyRanges (chunks content) with
  | ['!'] :: [] => .question
  | ['!'] :: rest => .set true ('-' :: rest.flatten) (rangesBetween rest)
  | ('!' :: first) :: rest => .set true (first ++ rest.flatten) (rangesBetween (first :: rest))
  | pieces => .set false pieces.flatten (rangesBetween pieces)

/-- The content of a set after its opening bracket, if a bracket closes it. A closing bracket at
the very start belongs to the content. -/
def content? (rest : List Char) : Option (List Char) :=
  let start := match rest with
    | '!' :: ']' :: _ => 2
    | '!' :: _ => 1
    | ']' :: _ => 1
    | _ => 0
  let body := (rest.drop start).takeWhile (· ≠ ']')
  if start + body.length < rest.length then some (rest.take (start + body.length)) else none

/-- The parts of a pattern after `skip` characters that are passed over. -/
def partsAfter : (skip : Nat) → List Char → List Wildcard
  | _, [] => []
  | skip + 1, _ :: rest => partsAfter skip rest
  | 0, '*' :: rest => .star :: partsAfter 0 rest
  | 0, '?' :: rest => .question :: partsAfter 0 rest
  | 0, '[' :: rest =>
    match content? rest with
    | some content => ofContent content :: partsAfter (content.length + 1) rest
    | none => .char '[' :: partsAfter 0 rest
  | 0, c :: rest => .char c :: partsAfter 0 rest

/-- The parts of a written pattern. There is no way to write a special character literally but in
a set. A bracket that is not closed is a character like any other. -/
def parts (pattern : List Char) : List Wildcard := partsAfter 0 pattern

/-- Whether the parts take the whole text. -/
def takesAll : List Wildcard → List Char → Bool
  | [], text => text.isEmpty
  | .star :: parts, [] => takesAll parts []
  | .star :: parts, c :: text => takesAll parts (c :: text) || takesAll (.star :: parts) text
  | _ :: _, [] => false
  | part :: parts, c :: text => part.accepts c && takesAll parts text

/-- Whether a pattern describes the whole name. -/
def isMatch (pattern name : List Char) : Bool := takesAll (parts pattern) name

/-- Whether the text holds a character with a meaning of its own in patterns. -/
def hasMagic (text : List Char) : Bool := text.any fun c => c == '*' || c == '?' || c == '['

end Wildcard

end CodeIndex
