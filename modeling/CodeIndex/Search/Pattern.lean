namespace CodeIndex.Search

/-- A class of characters with a name of its own. -/
inductive Category where
  | digit
  | space
  | word
  deriving DecidableEq, Repr

/-- One member of a character set. -/
inductive SetItem where
  | single (code : Nat)
  | range (low high : Nat)
  | category (category : Category) (negated : Bool)
  deriving DecidableEq, Repr

/-- A condition on a place between characters. -/
inductive Anchor where
  /-- The start of the text, or of a line in multi-line mode. -/
  | start
  /-- The end of the text or of its last line, or of any line in multi-line mode. -/
  | finish
  /-- The start of the text in all modes. -/
  | textStart
  /-- The end of the text in all modes. -/
  | textEnd
  | wordBoundary
  | noWordBoundary
  deriving DecidableEq, Repr

/-- How a repetition chooses its number of rounds. -/
inductive Greed where
  /-- As many rounds as possible first. -/
  | greedy
  /-- As few rounds as possible first. -/
  | lazy
  /-- As many rounds as possible, and no other number. -/
  | possessive
  deriving DecidableEq, Repr

/-- The switches that change how a pattern is read and matched. -/
structure Flags where
  ignoreCase : Bool := false
  multiLine : Bool := false
  dotAll : Bool := false
  verbose : Bool := false
  ascii : Bool := false
  unicode : Bool := false
  template : Bool := false
  deriving DecidableEq, Repr

namespace Flags

/-- Whether no switch is on. -/
def isEmpty (flags : Flags) : Bool := flags = {}

/-- The switches that are on in one or the other. -/
def union (a b : Flags) : Flags where
  ignoreCase := a.ignoreCase || b.ignoreCase
  multiLine := a.multiLine || b.multiLine
  dotAll := a.dotAll || b.dotAll
  verbose := a.verbose || b.verbose
  ascii := a.ascii || b.ascii
  unicode := a.unicode || b.unicode
  template := a.template || b.template

/-- The switches that are on in both. -/
def inter (a b : Flags) : Flags where
  ignoreCase := a.ignoreCase && b.ignoreCase
  multiLine := a.multiLine && b.multiLine
  dotAll := a.dotAll && b.dotAll
  verbose := a.verbose && b.verbose
  ascii := a.ascii && b.ascii
  unicode := a.unicode && b.unicode
  template := a.template && b.template

/-- The switches of the first that are not on in the second. -/
def without (a b : Flags) : Flags where
  ignoreCase := a.ignoreCase && !b.ignoreCase
  multiLine := a.multiLine && !b.multiLine
  dotAll := a.dotAll && !b.dotAll
  verbose := a.verbose && !b.verbose
  ascii := a.ascii && !b.ascii
  unicode := a.unicode && !b.unicode
  template := a.template && !b.template

/-- The switches inside a group that turns some on and some off. The choice between ASCII and
Unicode replaces the outer one. -/
def within (flags on off : Flags) : Flags :=
  let base := if on.ascii || on.unicode then { flags with ascii := false, unicode := false }
    else flags
  (base.union on).without off

/-- The switch of a letter. -/
def ofLetter? : Char → Option Flags
  | 'i' => some { ignoreCase := true }
  | 'm' => some { multiLine := true }
  | 's' => some { dotAll := true }
  | 'x' => some { verbose := true }
  | 'a' => some { ascii := true }
  | 'u' => some { unicode := true }
  | 't' => some { template := true }
  | _ => none

end Flags

/-- A search pattern. -/
inductive Pattern where
  | empty
  | literal (code : Nat)
  | notLiteral (code : Nat)
  | any
  | oneOf (negated : Bool) (items : List SetItem)
  | anchor (anchor : Anchor)
  | sequence (first second : Pattern)
  | choice (first second : Pattern)
  /-- At least `least` and, unless there is no limit, at most `most` rounds. -/
  | repeated (greed : Greed) (least : Nat) (most : Option Nat) (body : Pattern)
  /-- A group that is captured if it has a number, with its own switches. -/
  | group (number : Option Nat) (on off : Flags) (body : Pattern)
  /-- A group that is left with its first match only. -/
  | atomic (body : Pattern)
  | lookahead (negated : Bool) (body : Pattern)
  /-- A look at the text before the present place. It needs a fixed width. -/
  | lookbehind (negated : Bool) (width : Option Nat) (body : Pattern)
  | backreference (number : Nat)
  /-- One pattern if a group has matched, another one if not. -/
  | conditional (number : Nat) (yes no : Pattern)
  deriving DecidableEq, Repr

namespace Pattern

/-- The patterns of a list one after the other. -/
def ofItems : List Pattern → Pattern
  | [] => .empty
  | [item] => item
  | item :: items => .sequence item (ofItems items)

/-- The least and the greatest number of characters that a pattern may match. -/
structure Width where
  least : Nat
  greatest : Nat
  deriving DecidableEq, Repr

namespace Width

/-- Widths are not told apart from this value on. -/
def limit : Nat := 0x10000000000000000

/-- A width with both numbers cut at the limit. -/
def capped (width : Width) : Width := ⟨min width.least limit, min width.greatest limit⟩

/-- The width of two patterns one after the other. -/
def add (a b : Width) : Width := ⟨a.least + b.least, a.greatest + b.greatest⟩

/-- The width of a choice. -/
def join (a b : Width) : Width := ⟨min a.least b.least, max a.greatest b.greatest⟩

end Width

/-- The width of a pattern, given the widths of the captured groups. -/
def width (groups : List (Option Width)) : Pattern → Width
  | .empty | .anchor _ | .lookahead .. | .lookbehind .. => ⟨0, 0⟩
  | .literal _ | .notLiteral _ | .any | .oneOf .. => ⟨1, 1⟩
  | .sequence first second => ((first.width groups).add (second.width groups)).capped
  | .choice first second => (first.width groups).join (second.width groups)
  | .repeated _ least most body =>
    let inner := body.width groups
    let greatest := match most with
      | some most => inner.greatest * most
      | none => if inner.greatest = 0 then 0 else Width.limit
    (Width.mk (inner.least * least) greatest).capped
  | .group _ _ _ body | .atomic body => body.width groups
  | .backreference number => ((groups[number]?).join).getD ⟨0, 0⟩
  | .conditional _ yes no => (yes.width groups).join (no.width groups)

/-- Whether every look behind has a fixed width. -/
def hasFixedLookbehind : Pattern → Bool
  | .lookbehind _ width body => width.isSome && body.hasFixedLookbehind
  | .sequence first second | .choice first second | .conditional _ first second =>
    first.hasFixedLookbehind && second.hasFixedLookbehind
  | .repeated _ _ _ body | .group _ _ _ body | .atomic body | .lookahead _ body =>
    body.hasFixedLookbehind
  | _ => true

/-- Whether something is repeated. -/
def hasRepetition : Pattern → Bool
  | .repeated .. => true
  | .sequence first second | .choice first second | .conditional _ first second =>
    first.hasRepetition || second.hasRepetition
  | .group _ _ _ body | .atomic body | .lookahead _ body | .lookbehind _ _ body =>
    body.hasRepetition
  | _ => false

end Pattern

end CodeIndex.Search
