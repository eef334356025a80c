import CodeIndex.Yaml.Cursor

/-! The tokens of a YAML text, and what is known at a place between two of them. -/
namespace CodeIndex.Yaml

/-- A token. Blocks have tokens for their start and end, which the indentation gives. -/
inductive Token where
  | version (major : Nat)
  | tagDirective (handle content : String)
  | otherDirective
  | documentStart
  | documentEnd
  | finish
  | blockSequenceStart
  | blockMappingStart
  | blockEnd
  | flowSequenceStart
  | flowSequenceEnd
  | flowMappingStart
  | flowMappingEnd
  | flowEntry
  | blockEntry
  | key
  | value
  | alias (name : String)
  | anchor (name : String)
  | tag (handle : Option String) (suffix : String)
  | scalar (content : ScalarText) (isPlain : Bool)
  deriving DecidableEq, Repr

/-- A place where a key may have started, which only a colon shows: the number of tokens before it,
whether there has to be a key, and where it is. -/
structure PossibleKey where
  position : Nat
  isRequired : Bool
  index : Nat
  line : Nat
  column : Nat
  deriving Repr

/-- What is known at a place: the tokens so far from the last one on, the depth of flow
collections, the column of the present block and those of the blocks around it, whether a key may
start here, and the places where keys may have started, by the depth of flow collections. -/
structure Layout where
  cursor : Cursor
  tokens : List Token := []
  flowLevel : Int := 0
  indent : Int := -1
  indents : List Int := []
  allowsKey : Bool := true
  possibleKeys : List (Int × PossibleKey) := []

/-- Reading on from a place. -/
abbrev Reading := StateT Layout (Except Failure)

namespace Reading

/-- The text cannot be read. -/
def refuse {α : Type} : Reading α := throw .malformedYaml

/-- The character at a distance. -/
def peek? (distance : Nat := 0) : Reading (Option Char) := return (← get).cursor.peek? distance

/-- Goes on by some characters. -/
def forward (count : Nat := 1) : Reading Unit :=
  modify fun layout => { layout with cursor := layout.cursor.forward count }

/-- The characters that are left. -/
def rest : Reading (List Char) := return (← get).cursor.rest

/-- The present column. -/
def column : Reading Nat := return (← get).cursor.column

/-- Whether the place is in a flow collection. -/
def inFlow : Reading Bool := return (← get).flowLevel ≠ 0

/-- Takes the characters up to the first one that fails a test. -/
def takeWhile (test : Char → Bool) : Reading (List Char) := do
  let taken := (← rest).takeWhile test
  forward taken.length
  return taken

/-- Passes over characters. -/
def skipWhile (test : Char → Bool) : Reading Unit := do
  let _ ← takeWhile test

/-- Takes a line break, if one comes next. All but the separators of lines and paragraphs are line
feeds. -/
def takeBreak : Reading (List Char) := do
  match ← peek? with
  | some c =>
    if c = '\n' || c = '\u0085' then
      forward
      return ['\n']
    else if c = '\u2028' || c = '\u2029' then
      forward
      return [c]
    else return []
  | none => return []

/-- Passes over spaces and a comment, which have to reach the end of the line, and over the line
break. -/
def skipRestOfLine : Reading Unit := do
  skipWhile (· = ' ')
  if (← peek?) = some '#' then skipWhile fun c => !isBreak c
  unless isLineEnd (← peek?) do refuse
  let _ ← takeBreak

/-- Adds a token. -/
def emit (token : Token) : Reading Unit :=
  modify fun layout => { layout with tokens := token :: layout.tokens }

/-- Says whether a key may start at the present place. -/
def allowKey (allows : Bool) : Reading Unit :=
  modify fun layout => { layout with allowsKey := allows }

end Reading

end CodeIndex.Yaml
