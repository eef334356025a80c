import CodeIndex.Search.Pattern
import CodeIndex.Text.Blank
import CodeIndex.Text.CaseFamily
import CodeIndex.Text.Digit
import CodeIndex.Text.Word

namespace CodeIndex.Search

namespace Category

/-- The class among all characters. -/
def contains : Category → Char → Bool
  | .digit, c => isDecimal c
  | .space, c => isBlank c
  | .word, c => isWord c

/-- The class among the ASCII characters. -/
def containsAscii : Category → Char → Bool
  | .digit, c => c.isDigit
  | .space, c => c == ' ' || (9 ≤ c.toNat && c.toNat ≤ 13)
  | .word, c => c.isAlphanum || c == '_'

/-- The class under the given switches. -/
def accepts (category : Category) (flags : Flags) (c : Char) : Bool :=
  if flags.ascii then category.containsAscii c else category.contains c

end Category

namespace Flags

/-- The lower case that comparisons use. In ASCII mode only ASCII letters have one. -/
def lower (flags : Flags) (c : Char) : Char :=
  if flags.ascii && 128 ≤ c.toNat then c else lowerChar c

/-- The lower case of a code that may be no character. -/
def lowerCode (flags : Flags) (code : Nat) : Nat :=
  if code.isValidChar then (flags.lower (Char.ofNat code)).toNat else code

/-- The lower-case codes that are taken for the given one. -/
def family (flags : Flags) (code : Nat) : List Nat :=
  if flags.ascii then [code] else caseFamily code

/-- The codes that the given lower-case code stands for in a set. -/
def codesLike (flags : Flags) (code : Nat) : List Nat :=
  if flags.ascii then
    (if flags.lowerCode code = code then [code] else [])
      ++ (if 97 ≤ code && code ≤ 122 then [code - 32] else [])
  else (caseFamily code).flatMap codesLoweredTo

end Flags

/-- The greatest code of the basic plane, beyond which sets compare letter case differently. -/
def basicPlaneEnd : Nat := 0xffff

/-- Whether a character is the literal one. -/
def literalAccepts (flags : Flags) (code : Nat) (c : Char) : Bool :=
  if flags.ignoreCase then (flags.family (flags.lowerCode code)).contains (flags.lower c).toNat
  else c.toNat == code

namespace SetItem

/-- Whether a code lies in a range. -/
def inRange (low high code : Nat) : Bool := low ≤ code && code ≤ high

/-- Whether a character is a member. If letter case is ignored, beyond the basic plane the lower
case of the character is compared with a single member as it stands, and both its cases with a
range. -/
def accepts (flags : Flags) (c : Char) : SetItem → Bool
  | .category members negated => members.accepts flags c != negated
  | .single code =>
    if flags.ignoreCase then
      if flags.lowerCode code ≤ basicPlaneEnd then literalAccepts flags code c
      else (flags.lower c).toNat == code
    else c.toNat == code
  | .range low high =>
    if flags.ignoreCase then
      let image := flags.lower c
      (flags.codesLike image.toNat).any (inRange low (min high basicPlaneEnd))
        || (basicPlaneEnd < high
            && (inRange low high image.toNat || inRange low high (upperChar image).toNat))
    else inRange low high c.toNat

end SetItem

/-- A place in the text: the characters before it in reverse order and those after it, with the
places that the captured groups were last entered and left at. -/
structure Cursor where
  position : Nat
  before : List Char
  after : List Char
  entered : List (Nat × Nat) := []
  left : List (Nat × Nat) := []
  deriving Repr

namespace Cursor

/-- The start of a text. -/
def ofText (text : List Char) : Cursor := { position := 0, before := [], after := text }

/-- The next place, if the next character is accepted. -/
def step? (accepts : Char → Bool) (cursor : Cursor) : Option Cursor :=
  match cursor.after with
  | [] => none
  | c :: rest =>
    if accepts c then
      some { cursor with
        position := cursor.position + 1, before := c :: cursor.before, after := rest }
    else none

/-- The place a number of characters before. -/
def back? : Nat → Cursor → Option Cursor
  | 0, cursor => some cursor
  | count + 1, cursor =>
    match cursor.before with
    | [] => none
    | c :: rest =>
      back? count { cursor with
        position := cursor.position - 1, before := rest, after := c :: cursor.after }

/-- Enters a captured group. -/
def enter (number : Nat) (cursor : Cursor) : Cursor :=
  { cursor with entered := (number, cursor.position) :: cursor.entered }

/-- Leaves a captured group. -/
def leave (number : Nat) (cursor : Cursor) : Cursor :=
  { cursor with left := (number, cursor.position) :: cursor.left }

/-- The whole text. -/
def text (cursor : Cursor) : List Char := cursor.before.reverse ++ cursor.after

/-- The text of a captured group, if the group has matched. -/
def capture? (number : Nat) (cursor : Cursor) : Option (List Char) := do
  let start ← cursor.entered.lookup number
  let finish ← cursor.left.lookup number
  if start ≤ finish then some ((cursor.text.drop start).take (finish - start)) else none

/-- Whether a word begins or ends here. -/
def atBoundary (flags : Flags) (cursor : Cursor) : Bool :=
  let isWordPart (c : Option Char) := c.any (Category.word.accepts flags)
  isWordPart cursor.before.head? != isWordPart cursor.after.head?

/-- Whether the text has no characters. -/
def inEmptyText (cursor : Cursor) : Bool := cursor.before.isEmpty && cursor.after.isEmpty

/-- Whether a condition on the place holds. An empty text has neither word boundaries nor places
that are none. -/
def satisfies (flags : Flags) (cursor : Cursor) : Anchor → Bool
  | .textStart => cursor.before.isEmpty
  | .textEnd => cursor.after.isEmpty
  | .start => cursor.before.isEmpty || (flags.multiLine && cursor.before.head? = some '\n')
  | .finish =>
    cursor.after.isEmpty
      || if flags.multiLine then cursor.after.head? = some '\n' else cursor.after = ['\n']
  | .wordBoundary => !cursor.inEmptyText && cursor.atBoundary flags
  | .noWordBoundary => !cursor.inEmptyText && !cursor.atBoundary flags

/-- Moves over the given characters. -/
def stepAll? (flags : Flags) : List Char → Cursor → Option Cursor
  | [], cursor => some cursor
  | c :: rest, cursor => do
    let accepts (d : Char) :=
      if flags.ignoreCase then flags.lower d = flags.lower c else d = c
    stepAll? flags rest (← cursor.step? accepts)

end Cursor

/-- What is left to match: the place reached at the end, if there is a match. -/
abbrev Goal := Cursor → Option Cursor

/-- Whether another round is below the limit. -/
def roundsLeft (most : Option Nat) (count : Nat) : Bool := most.all (count < ·)

/-- The rounds of a greedy repetition after `count` of them. Beyond the least number, a round that
starts where the last one did is not tried. -/
def greedyRounds (round : Goal → Goal) (goal : Goal) (least : Nat) (most : Option Nat) :
    (fuel : Nat) → (count : Nat) → (last : Option Nat) → Goal
  | 0, _, _, _ => none
  | fuel + 1, count, last, cursor =>
    if count < least then
      round (greedyRounds round goal least most fuel (count + 1) last) cursor
    else if roundsLeft most count && last != some cursor.position then
      match round (greedyRounds round goal least most fuel (count + 1) cursor.position) cursor with
      | some finish => some finish
      | none => goal cursor
    else goal cursor

/-- The rounds of a lazy repetition after `count` of them. -/
def lazyRounds (round : Goal → Goal) (goal : Goal) (least : Nat) (most : Option Nat) :
    (fuel : Nat) → (count : Nat) → (last : Option Nat) → Goal
  | 0, _, _, _ => none
  | fuel + 1, count, last, cursor =>
    if count < least then
      round (lazyRounds round goal least most fuel (count + 1) last) cursor
    else match goal cursor with
      | some finish => some finish
      | none =>
        if roundsLeft most count && last != some cursor.position then
          round (lazyRounds round goal least most fuel (count + 1) cursor.position) cursor
        else none

/-- The place after the rounds of a possessive repetition. -/
def possessiveRounds (round : Goal → Goal) (least : Nat) (most : Option Nat) :
    (fuel : Nat) → (count : Nat) → (last : Option Nat) → Goal
  | 0, _, _, _ => none
  | fuel + 1, count, last, cursor =>
    if count < least then
      (round some cursor).bind (possessiveRounds round least most fuel (count + 1) last)
    else if roundsLeft most count && last != some cursor.position then
      match round some cursor with
      | some next => possessiveRounds round least most fuel (count + 1) cursor.position next
      | none => some cursor
    else some cursor

namespace Pattern

/-- Matches a pattern at a place and then what is left. Choices are tried in order, and the first
one with which all else matches is taken. -/
def run : Pattern → Flags → Goal → Goal
  | .empty, _, goal, cursor => goal cursor
  | .literal code, flags, goal, cursor =>
    (cursor.step? (literalAccepts flags code)).bind goal
  | .notLiteral code, flags, goal, cursor =>
    (cursor.step? (fun c => !literalAccepts flags code c)).bind goal
  | .any, flags, goal, cursor => (cursor.step? (fun c => flags.dotAll || c != '\n')).bind goal
  | .oneOf negated items, flags, goal, cursor =>
    (cursor.step? (fun c => items.any (SetItem.accepts flags c) != negated)).bind goal
  | .anchor place, flags, goal, cursor =>
    if cursor.satisfies flags place then goal cursor else none
  | .sequence first second, flags, goal, cursor =>
    first.run flags (fun next => second.run flags goal next) cursor
  | .choice first second, flags, goal, cursor =>
    match first.run flags goal cursor with
    | some finish => some finish
    | none => second.run flags goal cursor
  | .repeated greed least most body, flags, goal, cursor =>
    let fuel := least + cursor.after.length + 2
    let round (goal : Goal) (cursor : Cursor) := body.run flags goal cursor
    match greed with
    | .greedy => greedyRounds round goal least most fuel 0 none cursor
    | .lazy => lazyRounds round goal least most fuel 0 none cursor
    | .possessive => (possessiveRounds round least most fuel 0 none cursor).bind goal
  | .group number on off body, flags, goal, cursor =>
    match number with
    | none => body.run (flags.within on off) goal cursor
    | some number =>
      body.run (flags.within on off) (fun next => goal (next.leave number)) (cursor.enter number)
  | .atomic body, flags, goal, cursor => (body.run flags some cursor).bind goal
  | .lookahead negated body, flags, goal, cursor =>
    match body.run flags some cursor with
    | some seen =>
      if negated then none
      else goal { cursor with entered := seen.entered, left := seen.left }
    | none => if negated then goal cursor else none
  | .lookbehind negated width body, flags, goal, cursor =>
    match (cursor.back? (width.getD 0)).bind (body.run flags some) with
    | some seen =>
      if negated then none
      else goal { cursor with entered := seen.entered, left := seen.left }
    | none => if negated then goal cursor else none
  | .backreference number, flags, goal, cursor => do
    let captured ← cursor.capture? number
    goal (← cursor.stepAll? flags captured)
  | .conditional number yes no, flags, goal, cursor =>
    if (cursor.capture? number).isSome then yes.run flags goal cursor
    else no.run flags goal cursor

/-- Whether the pattern matches somewhere in the text that follows `before`. -/
def foundAfter (pattern : Pattern) (flags : Flags) (before : List Char) (position : Nat) :
    List Char → Bool
  | [] => (pattern.run flags some ⟨position, before, [], [], []⟩).isSome
  | c :: rest =>
    (pattern.run flags some ⟨position, before, c :: rest, [], []⟩).isSome
      || pattern.foundAfter flags (c :: before) (position + 1) rest

/-- Whether the pattern matches somewhere in the text. -/
def found (pattern : Pattern) (flags : Flags) (text : List Char) : Bool :=
  pattern.foundAfter flags [] 0 text

end Pattern

end CodeIndex.Search
