import CodeIndex.Number.IntegerText
import CodeIndex.Search.Pattern
import CodeIndex.Text.CharName
import CodeIndex.Text.Digit
import CodeIndex.Text.Identifier

namespace CodeIndex.Search

/-- A unit of a written pattern. A backslash belongs to the character that follows it. -/
inductive Symbol where
  | plain (c : Char)
  | escaped (c : Char)
  /-- A backslash at the end of the pattern. -/
  | dangling
  deriving DecidableEq, Repr

/-- Why a written pattern is refused. -/
inductive Fault where
  /-- It does not follow the grammar of patterns. -/
  | malformed
  /-- A number of rounds is out of range. -/
  | repetitionTooLarge
  /-- A number of rounds has too many digits. -/
  | repetitionTooLong
  /-- ASCII and Unicode matching are both asked for. -/
  | flagConflict
  deriving DecidableEq, Repr

namespace Symbol

/-- The units of a written pattern. -/
def ofChars : List Char → List Symbol
  | [] => []
  | ['\\'] => [.dangling]
  | '\\' :: c :: rest => .escaped c :: ofChars rest
  | c :: rest => .plain c :: ofChars rest

/-- The characters of a unit. -/
def chars : Symbol → List Char
  | .plain c => [c]
  | .escaped c => ['\\', c]
  | .dangling => ['\\']

end Symbol

/-- What has been found out about a pattern while it is read: the switches of the whole pattern,
the named groups, the widths of all groups (absent while a group is open, and for number zero), the
number of groups at the start of the outermost look behind, and the numbers that conditions ask
for. -/
structure Progress where
  rest : List Symbol
  flags : Flags
  names : List (List Char × Nat) := []
  widths : List (Option Pattern.Width) := [none]
  behind : Option Nat := none
  conditions : List Nat := []
  deriving Repr

/-- A step of reading. -/
abbrev Read := StateT Progress (Except Fault)

namespace Read

/-- The next unit, which is left in place. -/
def next? : Read (Option Symbol) := do return (← get).rest.head?

/-- Passes over the next unit. A dangling backslash is refused as soon as it comes next. -/
def skip : Read Unit := do
  let progress ← get
  match progress.rest with
  | _ :: .dangling :: _ => throw .malformed
  | _ :: rest => set { progress with rest := rest }
  | [] => pure ()

/-- Takes the next unit. -/
def take? : Read (Option Symbol) := do
  let symbol ← next?
  skip
  return symbol

/-- Takes the next unit, which must exist. -/
def take : Read Symbol := do
  match ← take? with
  | some symbol => return symbol
  | none => throw .malformed

/-- Takes the next unit if it is the given character. -/
def accept (c : Char) : Read Bool := do
  if (← next?) = some (.plain c) then skip; return true else return false

/-- Takes the next unit, which must be the given character. -/
def expect (c : Char) : Read Unit := do
  unless ← accept c do throw .malformed

/-- Takes up to `limit` characters of a class. -/
def takeWhile (accepts : Char → Bool) : (limit : Nat) → Read (List Char)
  | 0 => return []
  | limit + 1 => do
    match ← next? with
    | some (.plain c) =>
      if accepts c then
        skip
        return c :: (← takeWhile accepts limit)
      else return []
    | _ => return []

/-- How many units are left. -/
def remaining : Read Nat := do return (← get).rest.length

/-- Takes all characters before a closing character, and that one too. -/
def takeUntil (closing : Char) : (fuel : Nat) → Read (List Char)
  | 0 => throw .malformed
  | fuel + 1 => do
    let symbol ← take
    if symbol = .plain closing then return [] else return symbol.chars ++ (← takeUntil closing fuel)

/-- Takes a name that a closing character ends. It must not be empty. -/
def takeName (closing : Char) : Read (List Char) := do
  let name ← takeUntil closing ((← remaining) + 1)
  if name.isEmpty then throw .malformed else return name

end Read

/-- Octal digits. -/
def isOctalDigit (c : Char) : Bool := '0' ≤ c && c ≤ '7'

/-- The number that digits denote in a base. -/
def numberIn (base : Nat) (digits : List Char) : Nat :=
  digits.foldl (fun n c => n * base + (hexValue? c).getD 0) 0

/-- A character code of exactly `count` hexadecimal digits. -/
def readHexCode (count : Nat) : Read Nat := do
  let digits ← Read.takeWhile (fun c => (hexValue? c).isSome) count
  if digits.length = count then return numberIn 16 digits else throw .malformed

/-- The code of the control character that an escaped letter stands for. -/
def controlCode? : Char → Option Nat
  | 'a' => some 7
  | 'b' => some 8
  | 't' => some 9
  | 'n' => some 10
  | 'v' => some 11
  | 'f' => some 12
  | 'r' => some 13
  | '\\' => some 92
  | _ => none

/-- The class that an escaped letter stands for. -/
def category? : Char → Option SetItem
  | 'd' => some (.category .digit false)
  | 'D' => some (.category .digit true)
  | 's' => some (.category .space false)
  | 'S' => some (.category .space true)
  | 'w' => some (.category .word false)
  | 'W' => some (.category .word true)
  | _ => none

/-- The condition that an escaped letter stands for. -/
def anchor? : Char → Option Anchor
  | 'A' => some .textStart
  | 'Z' => some .textEnd
  | 'b' => some .wordBoundary
  | 'B' => some .noWordBoundary
  | _ => none

/-- The code of a character given by number or by name after one of the letters `x`, `u`, `U` and
`N`. -/
def readCode? (c : Char) : Read (Option Nat) := do
  if c = 'x' then return some (← readHexCode 2)
  else if c = 'u' then return some (← readHexCode 4)
  else if c = 'U' then
    let code ← readHexCode 8
    if code < 0x110000 then return some code else throw .malformed
  else if c = 'N' then
    Read.expect '\x7b'
    match codeOfName? (← Read.takeName '\x7d') with
    | some code => return some code
    | none => throw .malformed
  else return none

/-- An escaped character inside a set. -/
def readSetEscape (c : Char) : Read SetItem := do
  if let some code := controlCode? c then return .single code
  if let some item := category? c then return item
  if let some code ← readCode? c then return .single code
  if isOctalDigit c then
    let code := numberIn 8 (c :: (← Read.takeWhile isOctalDigit 2))
    if code ≤ 0o377 then return .single code else throw .malformed
  if c.isAlphanum then throw .malformed
  return .single c.toNat

/-- One end of a range, or a member of a set. -/
def readSetItem : Symbol → Read SetItem
  | .plain c => return .single c.toNat
  | .escaped c => readSetEscape c
  | .dangling => throw .malformed

/-- The members of a set up to its closing bracket. A closing bracket that comes first is a
member. -/
def readSet : (fuel : Nat) → List SetItem → Read (List SetItem)
  | 0, _ => throw .malformed
  | fuel + 1, items => do
    let symbol ← Read.take
    if symbol = .plain ']' && !items.isEmpty then return items.reverse
    let item ← readSetItem symbol
    if ← Read.accept '-' then
      let upper ← Read.take
      if upper = .plain ']' then return (.single '-'.toNat :: item :: items).reverse
      match item, ← readSetItem upper with
      | .single low, .single high =>
        if low ≤ high then readSet fuel (.range low high :: items) else throw .malformed
      | _, _ => throw .malformed
    else readSet fuel (item :: items)

/-- The pattern of a set. A set of one character is that character. -/
def ofSet (negated : Bool) (items : List SetItem) : Pattern :=
  match items.eraseDups with
  | [.single code] => if negated then .notLiteral code else .literal code
  | items => .oneOf negated items

/-- A reference to an earlier group. The group must be closed. -/
def refer (number : Nat) : Read Unit := do
  let progress ← get
  unless (progress.widths[number]?).join.isSome do throw .malformed
  if let some groups := progress.behind then
    if groups ≤ number then throw .malformed

/-- The group that a condition asks for. Inside a look behind it must be closed, and outside of
it. -/
def referInCondition (number : Nat) : Read Unit := do
  if (← get).behind.isSome then refer number

/-- An escaped character outside sets. -/
def readEscape (c : Char) : Read Pattern := do
  if let some anchor := anchor? c then return .anchor anchor
  if let some item := category? c then return .oneOf false [item]
  if let some code := controlCode? c then return .literal code
  if let some code ← readCode? c then return .literal code
  if c = '0' then return .literal (numberIn 8 (← Read.takeWhile isOctalDigit 2))
  if c.isDigit then
    match ← Read.takeWhile Char.isDigit 1 with
    | [second] =>
      if isOctalDigit c && isOctalDigit second then
        if let [third] ← Read.takeWhile isOctalDigit 1 then
          let code := numberIn 8 [c, second, third]
          if code ≤ 0o377 then return .literal code else throw .malformed
      let number := numberIn 10 [c, second]
      refer number
      return .backreference number
    | _ =>
      let number := numberIn 10 [c]
      refer number
      return .backreference number
  if c.isAlpha then throw .malformed
  return .literal c.toNat

/-- The number of rounds from which on a repetition has no limit. -/
def roundLimit : Nat := 4294967295

/-- A written number of rounds. -/
def readRounds (digits : List Char) : Read Nat := do
  if digits.length > IntegerText.digitLimit then throw .repetitionTooLong
  let rounds := numberIn 10 digits
  if rounds < roundLimit then return rounds else throw .repetitionTooLarge

/-- The rest of a counted repetition after its opening brace. Without digits and comma in the
right places there is none, and the brace is a character like any other. -/
def readCount? : Read (Option (Nat × Option Nat)) := do
  if (← Read.next?) = some (.plain '\x7d') then return none
  let start ← get
  let low ← Read.takeWhile Char.isDigit (← Read.remaining)
  let comma ← Read.accept ','
  let high ← if comma then Read.takeWhile Char.isDigit (← Read.remaining) else pure low
  unless ← Read.accept '\x7d' do
    set start
    return none
  let least ← if low.isEmpty then pure 0 else readRounds low
  if high.isEmpty then return some (least, none)
  let most ← readRounds high
  if most < least then throw .malformed
  return some (least, some most)

/-- The greed of a repetition, which one character after it may name. -/
def readGreed : Read Greed := do
  if ← Read.accept '?' then return .lazy
  else if ← Read.accept '+' then return .possessive
  else return .greedy

/-- The repetition of the last item. -/
def readRepetition (items : List Pattern) (least : Nat) (most : Option Nat) :
    Read (List Pattern) := do
  match items with
  | [] | .anchor _ :: _ | .repeated .. :: _ => throw .malformed
  | item :: items => return .repeated (← readGreed) least most item :: items

/-- The switches named by letters, up to a character that is no such letter, and that one. ASCII
and Unicode exclude each other. -/
def readSwitches : (fuel : Nat) → Flags → Char → Read (Flags × Char)
  | 0, _, _ => throw .malformed
  | fuel + 1, flags, c => do
    match Flags.ofLetter? c with
    | none => return (flags, c)
    | some flag =>
      let flags := flags.union flag
      if flags.ascii && flags.unicode then throw .malformed
      match ← Read.take with
      | .plain next => readSwitches fuel flags next
      | _ => throw .malformed

/-- The switches of a group, the first of which has been taken: those of the whole pattern, or
those turned on and off in the group. -/
def readGroupFlags (first : Char) : Read (Option (Flags × Flags)) := do
  let (on, closing) ← readSwitches ((← Read.remaining) + 1) {} first
  if closing = ')' then
    if on.isEmpty then throw .malformed
    modify fun progress => { progress with flags := progress.flags.union on }
    return none
  if on.template then throw .malformed
  if closing = ':' then
    return some (on, {})
  if closing ≠ '-' then throw .malformed
  let .plain c ← Read.take | throw .malformed
  let (off, closing) ← readSwitches ((← Read.remaining) + 1) {} c
  if closing ≠ ':' || off.isEmpty || off.ascii || off.unicode || off.template then
    throw .malformed
  unless (on.inter off).isEmpty do throw .malformed
  return some (on, off)

/-- Opens a captured group, which may have a name. -/
def openGroup (name : Option (List Char)) : Read Nat := do
  let progress ← get
  let number := progress.widths.length
  let names ← match name with
    | none => pure progress.names
    | some name =>
      if (progress.names.lookup name).isSome then throw .malformed
      pure ((name, number) :: progress.names)
  set { progress with names := names, widths := progress.widths ++ [none] }
  return number

/-- Closes a captured group. -/
def closeGroup (number : Nat) (body : Pattern) : Read Unit :=
  modify fun progress =>
    { progress with widths := progress.widths.set number (some (body.width progress.widths)) }

/-- The number of the group that a condition names. -/
def readCondition : Read Nat := do
  let name ← Read.takeName ')'
  if isIdentifier name then
    match (← get).names.lookup name with
    | some number => return number
    | none => throw .malformed
  else
    match IntegerText.read? name with
    | some (.ofNat number) =>
      if number = 0 then throw .malformed
      modify fun progress => { progress with conditions := number :: progress.conditions }
      return number
    | _ => throw .malformed

namespace Pattern

/-- The items of a sequence. -/
def items : Pattern → List Pattern
  | .empty => []
  | .sequence first second => first.items ++ second.items
  | item => [item]

/-- The items with the contents of plain groups in place of the groups. -/
def unpacked (item : Pattern) : List Pattern :=
  match item with
  | .group none on off body => if on.isEmpty && off.isEmpty then body.items else [item]
  | item => [item]

/-- The finished sequence of items that were read in reverse order. -/
def unpackedItems (items : List Pattern) : List Pattern := items.reverse.flatMap unpacked

/-- Whether the item holds no other pattern. -/
def isSimple : Pattern → Bool
  | .literal _ | .notLiteral _ | .any | .oneOf .. | .anchor _ | .backreference _ => true
  | _ => false

/-- The simple item that all branches start with. -/
def commonHead? : List (List Pattern) → Option Pattern
  | [] => none
  | [] :: _ => none
  | (item :: _) :: branches =>
    if item.isSimple && branches.all (fun branch => branch.head? = some item) then some item
    else none

/-- The items that all branches start with, and what is left of the branches. -/
def splitCommon : (fuel : Nat) → List (List Pattern) → List Pattern × List (List Pattern)
  | 0, branches => ([], branches)
  | fuel + 1, branches =>
    match commonHead? branches with
    | none => ([], branches)
    | some item =>
      let (common, branches) := splitCommon fuel (branches.map List.tail)
      (item :: common, branches)

/-- The set members that a branch of one item stands for. -/
def setItems? : List Pattern → Option (List SetItem)
  | [.literal code] => some [.single code]
  | [.oneOf false items] => some items
  | _ => none

/-- The items of a choice between branches. What all have in common at the start is moved out of
the choice, and a choice between characters is a set. -/
def joined (branches : List (List Pattern)) : List Pattern :=
  match branches with
  | [] => []
  | [branch] => branch
  | first :: _ =>
    let (common, branches) := splitCommon first.length branches
    match branches.mapM setItems? with
    | some sets => common ++ [.oneOf false sets.flatten.eraseDups]
    | none =>
      match (branches.map ofItems).reverse with
      | [] => common
      | last :: before => common ++ [before.foldl (fun choice branch => .choice branch choice) last]

end Pattern

/-- The end of a group. -/
def closeBody (body : Pattern) : Read Pattern := do
  Read.expect ')'
  return body

/-- Blanks that are passed over in verbose patterns. -/
def isLayout (c : Char) : Bool := c == ' ' || (9 ≤ c.toNat && c.toNat ≤ 13)

/-- Passes over a comment up to and including a closing character. Without one the comment goes up
to the end. The result says whether there was one. -/
def skipComment (closing : Char) : (fuel : Nat) → Read Bool
  | 0 => return false
  | fuel + 1 => do
    match ← Read.take? with
    | none => return false
    | some symbol => if symbol = .plain closing then return true else skipComment closing fuel

/-- What a parenthesis opens. -/
inductive Group where
  | item (item : Pattern)
  | comment
  /-- Switches of the whole pattern. -/
  | switches
  deriving Repr

mutual

/-- The branches of a choice. Only the first branch of the whole pattern may begin with switches. -/
def readChoice : (fuel : Nat) → (verbose nested : Bool) → List (List Pattern) → Read Pattern
  | 0, _, _, _ => throw .malformed
  | fuel + 1, verbose, nested, branches => do
    let branch ← readSequence fuel verbose (!nested && branches.isEmpty) []
    let branches := branch :: branches
    if ← Read.accept '|' then
      let flags := (← get).flags
      readChoice fuel (if nested then verbose else flags.verbose) nested branches
    else return .ofItems (Pattern.joined branches.reverse)

/-- The items of a sequence, after those read before in reverse order. -/
def readSequence : (fuel : Nat) → (verbose first : Bool) → List Pattern → Read (List Pattern)
  | 0, _, _, _ => throw .malformed
  | fuel + 1, verbose, first, items => do
    match ← Read.next? with
    | none | some .dangling => return Pattern.unpackedItems items
    | some (.escaped c) =>
      Read.skip
      readSequence fuel verbose first ((← readEscape c) :: items)
    | some (.plain c) =>
      if c = '|' || c = ')' then return Pattern.unpackedItems items
      Read.skip
      if verbose && isLayout c then readSequence fuel verbose first items
      else if verbose && c = '#' then
        let _ ← skipComment '\n' ((← Read.remaining) + 1)
        readSequence fuel verbose first items
      else match c with
      | '[' =>
        let negated ← Read.accept '^'
        let set ← readSet ((← Read.remaining) + 1) []
        readSequence fuel verbose first (ofSet negated set :: items)
      | '*' => readSequence fuel verbose first (← readRepetition items 0 none)
      | '+' => readSequence fuel verbose first (← readRepetition items 1 none)
      | '?' => readSequence fuel verbose first (← readRepetition items 0 (some 1))
      | '\x7b' =>
        match ← readCount? with
        | none => readSequence fuel verbose first (.literal c.toNat :: items)
        | some (least, most) =>
          readSequence fuel verbose first (← readRepetition items least most)
      | '.' => readSequence fuel verbose first (.any :: items)
      | '^' => readSequence fuel verbose first (.anchor .start :: items)
      | '$' => readSequence fuel verbose first (.anchor .finish :: items)
      | '(' =>
        match ← readGroup fuel verbose with
        | .item item => readSequence fuel verbose first (item :: items)
        | .comment => readSequence fuel verbose first items
        | .switches =>
          unless first && items.isEmpty do throw .malformed
          let flags := (← get).flags
          readSequence fuel flags.verbose first items
      | _ => readSequence fuel verbose first (.literal c.toNat :: items)

/-- A group after its opening parenthesis. -/
def readGroup : (fuel : Nat) → (verbose : Bool) → Read Group
  | 0, _ => throw .malformed
  | fuel + 1, verbose => do
    if ← Read.accept '?' then
      let .plain c ← Read.take | throw .malformed
      match c with
      | 'P' =>
        if ← Read.accept '<' then
          let name ← Read.takeName '>'
          unless isIdentifier name do throw .malformed
          .item <$> readCapture fuel verbose (some name)
        else if ← Read.accept '=' then
          let name ← Read.takeName ')'
          let some number := (← get).names.lookup name | throw .malformed
          refer number
          return .item (.backreference number)
        else throw .malformed
      | ':' => return .item (.group none {} {} (← closeBody (← readChoice fuel verbose true [])))
      | '>' => return .item (.atomic (← closeBody (← readChoice fuel verbose true [])))
      | '#' =>
        if ← skipComment ')' ((← Read.remaining) + 1) then return .comment else throw .malformed
      | '=' => return .item (.lookahead false (← closeBody (← readChoice fuel verbose true [])))
      | '!' => return .item (.lookahead true (← closeBody (← readChoice fuel verbose true [])))
      | '<' =>
        let .plain sign ← Read.take | throw .malformed
        unless sign = '=' || sign = '!' do throw .malformed
        let outer := (← get).behind
        modify fun progress => { progress with behind := outer.getD progress.widths.length }
        let body ← readChoice fuel verbose true []
        modify fun progress => { progress with behind := outer }
        let body ← closeBody body
        let width := body.width (← get).widths
        let fixed := if width.least = width.greatest && width.least ≤ roundLimit
          then some width.least else none
        return .item (.lookbehind (sign = '!') fixed body)
      | '(' =>
        let number ← readCondition
        referInCondition number
        let yes ← readSequence fuel verbose false []
        let no ← if ← Read.accept '|' then readSequence fuel verbose false [] else pure []
        return .item (← closeBody (.conditional number (.ofItems yes) (.ofItems no)))
      | c =>
        match ← readGroupFlags c with
        | none => return .switches
        | some (on, off) =>
          let body ← readChoice fuel ((verbose || on.verbose) && !off.verbose) true []
          return .item (.group none on off (← closeBody body))
    else .item <$> readCapture fuel verbose none

/-- A captured group after its opening parenthesis and its name. -/
def readCapture : (fuel : Nat) → (verbose : Bool) → Option (List Char) → Read Pattern
  | 0, _, _ => throw .malformed
  | fuel + 1, verbose, name => do
    let number ← openGroup name
    let body ← closeBody (← readChoice fuel verbose true [])
    closeGroup number body
    return .group (some number) {} {} body

end

/-- Reads a whole pattern. Letter case is ignored unless a group says otherwise. -/
def readPattern (text : List Char) : Except Fault (Pattern × Flags) := do
  let symbols := Symbol.ofChars text
  if symbols.head? = some .dangling then throw .malformed
  let start : Progress := { rest := symbols, flags := { ignoreCase := true } }
  let (pattern, progress) ← readChoice (4 * symbols.length + 8) false false [] start
  if progress.flags.ascii && progress.flags.unicode then throw .flagConflict
  unless progress.rest.isEmpty do throw .malformed
  if progress.conditions.any (fun number => progress.widths.length ≤ number) then throw .malformed
  unless pattern.hasFixedLookbehind do throw .malformed
  if progress.flags.template && pattern.hasRepetition then throw .malformed
  return (pattern, progress.flags)

end CodeIndex.Search
