import CodeIndex.Json.Reader
import CodeIndex.Yaml.Token

/-! The three ways to write text in YAML: plain, quoted, and in a block of its own. -/
namespace CodeIndex.Yaml

open Reading

/-- Whether a plain text may start with a character, given the one after it. -/
def startsPlain (inFlow : Bool) (c : Char) (after : Option Char) : Bool :=
  !(c = ' ' || c = '\t' || isBreak c || "-?:,[]\x7b\x7d#&*!|>'\"%@\x60".toList.contains c)
    || (!isGap after && (c = '-' || (!inFlow && (c = '?' || c = ':'))))

/-- The part of a plain text up to the next gap or indicator. -/
def plainPart (inFlow : Bool) : List Char → List Char
  | [] => []
  | c :: rest =>
    if c = ' ' || c = '\t' || isBreak c then []
    else if c = ':' && endOr (fun d => d = ' ' || d = '\t' || isBreak d
        || (inFlow && ",[]\x7b\x7d".toList.contains d)) rest.head? then []
    else if inFlow && ",?[]\x7b\x7d".toList.contains c then []
    else c :: plainPart inFlow rest

/-- Line breaks as they show in text: a single line feed is a space, and the first one of several
is left out. -/
def foldBreaks (first : List Char) (others : List Char) : List Char :=
  if first ≠ ['\n'] then first ++ others
  else if others.isEmpty then [' ']
  else others

/-- The line breaks after the first one in a plain text, with spaces between them. A document
marker gives none. -/
def plainBreaks : (fuel : Nat) → Reading (Option (List Char))
  | 0 => return some []
  | fuel + 1 => do
    match ← peek? with
    | some ' ' =>
      forward
      plainBreaks fuel
    | some c =>
      if isBreak c then
        let found ← takeBreak
        if startsDocumentMarker (← rest) then return none
        return (← plainBreaks fuel).map (found ++ ·)
      else return some []
    | none => return some []

/-- The gap after a part of a plain text. An empty one ends the text. -/
def plainGap : Reading (List Char) := do
  let spaces ← takeWhile (· = ' ')
  if (← peek?).any isBreak then
    let first ← takeBreak
    allowKey true
    if startsDocumentMarker (← rest) then return []
    match ← plainBreaks ((← rest).length + 1) with
    | none => return []
    | some others => return foldBreaks first others
  else return spaces

/-- The parts of a plain text, each after the gap before it. -/
def plainParts (indent : Int) : (fuel : Nat) → (gap : List Char) → Reading (List Char)
  | 0, _ => return []
  | fuel + 1, gap => do
    if (← peek?) = some '#' then return []
    let part := plainPart (← inFlow) (← rest)
    if part.isEmpty then return []
    allowKey false
    forward part.length
    let next ← plainGap
    if next.isEmpty || (← peek?) = some '#' then return gap ++ part
    if !(← inFlow) && Int.ofNat (← column) < indent then return gap ++ part
    return gap ++ part ++ (← plainParts indent fuel next)

/-- A plain text. -/
def plainText : Reading ScalarText := do
  let indent := (← get).indent + 1
  return ⟨← plainParts indent ((← rest).length + 1) [], false⟩

/-- The line breaks after the first one in a quoted text, with blanks between them. -/
def quotedBreaks : (fuel : Nat) → Reading (List Char)
  | 0 => return []
  | fuel + 1 => do
    if startsDocumentMarker (← rest) then refuse
    skipWhile fun c => c = ' ' || c = '\t'
    if (← peek?).any isBreak then
      let found ← takeBreak
      return found ++ (← quotedBreaks fuel)
    else return []

/-- A gap in a quoted text. -/
def quotedGap : Reading ScalarText := do
  let blanks ← takeWhile fun c => c = ' ' || c = '\t'
  match ← peek? with
  | none => refuse
  | some c =>
    if isBreak c then
      let first ← takeBreak
      return ⟨foldBreaks first (← quotedBreaks ((← rest).length + 1)), false⟩
    else return ⟨blanks, false⟩

/-- The character that an escape of one letter stands for. -/
def escape? : Char → Option Char
  | '0' => some '\x00'
  | 'a' => some '\x07'
  | 'b' => some '\x08'
  | 't' | '\t' => some '\t'
  | 'n' => some '\n'
  | 'v' => some '\x0b'
  | 'f' => some '\x0c'
  | 'r' => some '\r'
  | 'e' => some '\x1b'
  | ' ' => some ' '
  | '"' => some '"'
  | '\\' => some '\\'
  | '/' => some '/'
  | 'N' => some '\u0085'
  | '_' => some '\u00a0'
  | 'L' => some '\u2028'
  | 'P' => some '\u2029'
  | _ => none

/-- How many hexadecimal digits follow an escape by number. -/
def escapeWidth? : Char → Option Nat
  | 'x' => some 2
  | 'u' => some 4
  | 'U' => some 8
  | _ => none

/-- The number that hexadecimal digits stand for. -/
def hexNumber? (digits : List Char) : Option Nat :=
  digits.foldlM (fun number digit => do return number * 16 + (← hexValue? digit)) 0

/-- The text of a character given by number. -/
def numberedChar (code : Nat) : Reading ScalarText :=
  if code < 0x110000 then
    if 0xd800 ≤ code ∧ code < 0xe000 then return ⟨['\ufffd'], true⟩
    else return ⟨[Char.ofNat code], false⟩
  else throw .codeTooLarge

/-- An escape in a text in double quotes, after its backslash. -/
def escaped : Reading ScalarText := do
  match ← peek? with
  | none => refuse
  | some c =>
    match escape? c, escapeWidth? c with
    | some found, _ =>
      forward
      return ⟨[found], false⟩
    | none, some width =>
      forward
      let digits := (← rest).take width
      unless digits.length = width do refuse
      match hexNumber? digits with
      | none => refuse
      | some code =>
        let found ← numberedChar code
        forward width
        return found
    | none, none =>
      if isBreak c then
        let _ ← takeBreak
        return ⟨← quotedBreaks ((← rest).length + 1), false⟩
      else refuse

/-- The part of a quoted text up to the next gap or its end. -/
def quotedPart (isDouble : Bool) : (fuel : Nat) → Reading ScalarText
  | 0 => return {}
  | fuel + 1 => do
    let found ← takeWhile fun c =>
      !(c = '\'' || c = '"' || c = '\\' || c = ' ' || c = '\t' || isBreak c)
    let next ← peek?
    let more : Option ScalarText ←
      if !isDouble && next = some '\'' && (← peek? 1) = some '\'' then do
        forward 2
        pure (some ⟨['\''], false⟩)
      else if (isDouble && next = some '\'')
          || (!isDouble && (next = some '"' || next = some '\\')) then do
        forward
        pure (some ⟨next.toList, false⟩)
      else if isDouble && next = some '\\' then do
        forward
        pure (some (← escaped))
      else pure none
    match more with
    | some more => return ⟨found, false⟩ ++ more ++ (← quotedPart isDouble fuel)
    | none => return ⟨found, false⟩

/-- The parts of a quoted text up to its closing quote. -/
def quotedParts (isDouble : Bool) (quote : Char) : (fuel : Nat) → Reading ScalarText
  | 0 => refuse
  | fuel + 1 => do
    let part ← quotedPart isDouble ((← rest).length + 1)
    if (← peek?) = some quote then
      forward
      return part
    else
      let gap ← quotedGap
      return part ++ gap ++ (← quotedParts isDouble quote fuel)

/-- A text in single or double quotes. -/
def quotedText (isDouble : Bool) : Reading ScalarText := do
  forward
  quotedParts isDouble (if isDouble then '"' else '\'') ((← rest).length + 1)

/-- What happens to the line breaks at the end of a block text. -/
inductive Chomping where
  | strip
  | clip
  | keep
  deriving DecidableEq, Repr

/-- The sign for what happens to the line breaks at the end. -/
def takeChomping : Reading (Option Chomping) := do
  match ← peek? with
  | some '+' =>
    forward
    return some .keep
  | some '-' =>
    forward
    return some .strip
  | _ => return none

/-- The digit for the indentation of a block text. Zero is refused. -/
def takeIncrement : Reading (Option Nat) := do
  match ← peek? with
  | some c =>
    if c.isDigit then
      if c = '0' then refuse
      forward
      return some (c.toNat - '0'.toNat)
    else return none
  | none => return none

/-- The sign and the digit at the head of a block text, in either order. -/
def blockHeader : Reading (Chomping × Option Nat) := do
  let first ← takeChomping
  let increment ← takeIncrement
  let chomping ← if first.isNone && increment.isSome then takeChomping else pure first
  unless isSpaceOrEnd (← peek?) do refuse
  return (chomping.getD .clip, increment)

/-- The empty lines at the start of a block text, and the widest indentation in them and after
them. -/
def measureIndent : (fuel : Nat) → (widest : Nat) → Reading (List Char × Nat)
  | 0, widest => return ([], widest)
  | fuel + 1, widest => do
    match ← peek? with
    | some ' ' =>
      forward
      measureIndent fuel (max widest (← column))
    | some c =>
      if isBreak c then
        let found ← takeBreak
        let (others, widest) ← measureIndent fuel widest
        return (found ++ others, widest)
      else return ([], widest)
    | none => return ([], widest)

/-- Passes over spaces up to a column. -/
def skipIndent (indent : Nat) : Reading Unit := do
  let spaces := (← rest).takeWhile (· = ' ')
  forward (min spaces.length (indent - (← column)))

/-- The empty lines before a line of a block text, and the indentation of that line. -/
def blockBreaks (indent : Nat) : (fuel : Nat) → Reading (List Char)
  | 0 => return []
  | fuel + 1 => do
    skipIndent indent
    if (← peek?).any isBreak then
      let found ← takeBreak
      return found ++ (← blockBreaks indent fuel)
    else return []

/-- Whether a line of a block text starts here. -/
def atBlockLine (indent : Nat) : Reading Bool := do
  return decide ((← column) = indent) && (← peek?).isSome

/-- Whether a line starts with a blank, so that it is not joined to others. -/
def startsBlank (c : Option Char) : Bool := c = some ' ' || c = some '\t'

/-- The lines of a block text, and the line breaks after the last one: the first of them, and the
others. -/
def blockLines (isFolded : Bool) (indent : Nat) :
    (fuel : Nat) → Reading (List Char × List Char × List Char)
  | 0 => return ([], [], [])
  | fuel + 1 => do
    let isIndented := startsBlank (← peek?)
    let line ← takeWhile fun c => !isBreak c
    let first ← takeBreak
    let breaks ← blockBreaks indent ((← rest).length + 1)
    if ← atBlockLine indent then
      let gap :=
        if isFolded && first = ['\n'] && !isIndented && !startsBlank (← peek?) then
          if breaks.isEmpty then [' '] else breaks
        else first ++ breaks
      let (others, last) ← blockLines isFolded indent fuel
      return (line ++ gap ++ others, last)
    else return (line, first, breaks)

/-- A text in a block of its own, after its sign. -/
def blockText (isFolded : Bool) : Reading ScalarText := do
  forward
  let (chomping, increment) ← blockHeader
  skipRestOfLine
  let least : Nat := max ((← get).indent + 1).toNat 1
  let fuel := (← rest).length + 1
  let (breaks, indent) ← match increment with
    | none => do
      let (breaks, widest) ← measureIndent fuel 0
      pure (breaks, max least widest)
    | some increment => do
      let indent := least + increment - 1
      pure (← blockBreaks indent fuel, indent)
  let (lines, first, others) ←
    if ← atBlockLine indent then do
      let (lines, last) ← blockLines isFolded indent ((← rest).length + 1)
      pure (breaks ++ lines, last)
    else pure ([], [], breaks)
  return match chomping with
    | .strip => ⟨lines, false⟩
    | .clip => ⟨lines ++ first, false⟩
    | .keep => ⟨lines ++ first ++ others, false⟩

end CodeIndex.Yaml
