import CodeIndex.Number.FloatText
import CodeIndex.Text.LetterCase
import CodeIndex.Yaml.Base64
import CodeIndex.Yaml.Node

/-! The values that the nodes of a YAML document stand for. -/
namespace CodeIndex.Yaml

/-- A value. Pairs are lists of two. -/
inductive Value where
  | null
  | bool (value : Bool)
  | integer (value : Int)
  | float (value : Binary64)
  | text (value : String)
  /-- Text with an unpaired half of a surrogate pair in it. -/
  | brokenText
  | bytes (value : List UInt8)
  | time
  | list (items : List Value)
  | set (items : List Value)
  /-- Later entries of a key win over earlier ones. -/
  | mapping (entries : List (Value × Value))
  /-- A collection that this value is part of. -/
  | enclosing
  deriving Repr, Inhabited

namespace Value

/-- Whether a value can be a key. -/
def isKey : Value → Bool
  | .list _ | .set _ | .mapping _ | .enclosing => false
  | _ => true

/-- Whether a value is neither empty nor zero nor false. -/
def isFilled : Value → Bool
  | .null => false
  | .bool value => value
  | .integer value => value ≠ 0
  | .float value => !value.isZero
  | .text value => value ≠ ""
  | .bytes value => !value.isEmpty
  | .list items | .set items => !items.isEmpty
  | .mapping entries => !entries.isEmpty
  | .brokenText | .time | .enclosing => true

/-- The truth value of a word. -/
def readTruth (text : List Char) : Except Failure Value :=
  let word := lowerText (String.ofList text)
  if ["yes", "true", "on"].contains word then .ok (.bool true)
  else if ["no", "false", "off"].contains word then .ok (.bool false)
  else .error (.unknownTruth (String.ofList text))

/-- Splits off a sign. -/
def takeSign : List Char → Bool × List Char
  | '-' :: rest => (true, rest)
  | '+' :: rest => (false, rest)
  | rest => (false, rest)

/-- The integer of digits in some radix, or in sixties, without its sign. -/
def unsignedInteger (digits : List Char) : Except Failure Int :=
  let checked (found : Option Int) : Except Failure Int :=
    match found with
    | some value => .ok value
    | none => .error .malformedInteger
  match digits with
  | [] => .error .emptyNumber
  | '0' :: 'b' :: rest => checked (IntegerText.readRadix? 2 'b' rest)
  | '0' :: 'x' :: rest => checked (IntegerText.readRadix? 16 'x' rest)
  | '0' :: rest => checked (IntegerText.readRadix? 8 'o' ('0' :: rest))
  | digits =>
    if digits.contains ':' then
      (splitAt ':' digits).foldlM (fun sum part => do
        return sum * 60 + (← checked (IntegerText.read? part))) 0
    else checked (IntegerText.read? digits)

/-- Reads an integer. Underscores do not count. -/
def readInteger (text : List Char) : Except Failure Value := do
  let text := text.filter (· ≠ '_')
  if text.isEmpty then throw .emptyNumber
  let (negative, digits) := takeSign text
  let value ← unsignedInteger digits
  return .integer (if negative then -value else value)

/-- The product of a number with one, or with minus one. -/
def signed (negative : Bool) : Binary64 → Binary64
  | .finite other mantissa exponent => .finite (other != negative) mantissa exponent
  | .infinite other => .infinite (other != negative)
  | .undefined => .undefined

/-- The sum of `number * 60` and another number, rounded. -/
def addSixties (number other : Binary64) : Binary64 :=
  match number, other with
  | .finite n m e, .finite n' m' e' =>
    let least := min e e'
    let size (negative : Bool) (mantissa : Nat) (exponent : Int) : Int :=
      let scaled := Int.ofNat (mantissa * Nat.pow 2 (exponent - least).toNat)
      if negative then -scaled else scaled
    let sum := size n m e * 60 + size n' m' e'
    if sum = 0 then .zeroOf false
    else if 0 ≤ least then .ofQuotient (sum < 0) (sum.natAbs * Nat.pow 2 least.toNat) 1
    else .ofQuotient (sum < 0) sum.natAbs (Nat.pow 2 (-least).toNat)
  | .undefined, _ | _, .undefined => .undefined
  | .infinite negative, .infinite other =>
    if negative = other then .infinite negative else .undefined
  | .infinite negative, _ | _, .infinite negative => .infinite negative

/-- Reads a floating-point number. Underscores do not count. -/
def readFloat (text : List Char) : Except Failure Value := do
  let text := (lowerText (String.ofList (text.filter (· ≠ '_')))).toList
  if text.isEmpty then throw .emptyNumber
  let (negative, digits) := takeSign text
  let checked (part : List Char) : Except Failure Binary64 :=
    match FloatText.read? part with
    | some value => .ok value
    | none => .error .malformedNumber
  let value ←
    if digits = ".inf".toList then pure (Binary64.infinite false)
    else if digits = ".nan".toList then pure Binary64.undefined
    else if digits.contains ':' then
      (splitAt ':' digits).foldlM (fun sum part => return addSixties sum (← checked part))
        (Binary64.zeroOf false)
    else checked digits
  return .float (signed negative value)

/-- Reads a point in time. -/
def readTime (text : List Char) : Except Failure Value :=
  match TimeText.read? (if text.getLast? = some '\n' then text.dropLast else text) with
  | none => .error .malformedTime
  | some moment => if moment.isPossible then .ok .time else .error .impossibleTime

/-- Reads bytes. -/
def readBytes (text : List Char) : Except Failure Value :=
  if text.all (·.toNat < 128) then
    match base64? text with
    | some content => .ok (.bytes content)
    | none => .error .malformedYaml
  else .error .malformedYaml

/-- The value of a text of some kind. -/
def ofScalar (kind : Kind) (content : ScalarText) : Except Failure Value :=
  match kind with
  | .null => .ok .null
  | .truth => readTruth content.chars
  | .integer => readInteger content.chars
  | .float => readFloat content.chars
  | .binary => readBytes content.chars
  | .time => readTime content.chars
  | .text => .ok (if content.isBroken then .brokenText else .text (String.ofList content.chars))
  | _ => .error .malformedYaml

end Value

/-- Whether a node is the key of a kind. -/
def Node.hasKind (kind : Kind) : Node → Bool
  | .scalar other _ | .sequence other _ | .mapping other _ => other = kind
  | .enclosing _ => false

mutual

/-- The text of a node. A mapping has the text of its default value. -/
def Node.text : Node → Except Failure ScalarText
  | .scalar _ content => .ok content
  | .mapping _ entries => Node.defaultText entries
  | _ => .error .malformedYaml

/-- The text of the default value of a mapping. -/
def Node.defaultText : List (Node × Node) → Except Failure ScalarText
  | [] => .error .malformedYaml
  | (key, value) :: rest =>
    if key.hasKind .default then Node.text value else Node.defaultText rest

end

mutual

/-- The value of a node. -/
def Value.ofNode : Node → Except Failure Value
  | .scalar kind content => Value.ofScalar kind content
  | .sequence kind items =>
    match kind with
    | .sequence => .list <$> Value.ofItems items
    | .orderedMap | .pairs => .list <$> Value.ofPairs items
    | _ => .error .malformedYaml
  | .mapping kind entries =>
    match kind with
    | .mapping => .mapping <$> Value.ofEntries [] entries
    | .set => do return .set ((← Value.ofEntries [] entries).map Prod.fst)
    | kind => do Value.ofScalar kind (← Node.defaultText entries)
  | .enclosing _ => .ok .enclosing

/-- The values of nodes. -/
def Value.ofItems : List Node → Except Failure (List Value)
  | [] => .ok []
  | item :: rest => do return (← Value.ofNode item) :: (← Value.ofItems rest)

/-- The pairs of mappings with one entry each. -/
def Value.ofPairs : List Node → Except Failure (List Value)
  | [] => .ok []
  | item :: rest => do
    let pair ← match item with
      | .mapping _ [(key, value)] => pure [← Value.ofNode key, ← Value.ofNode value]
      | _ => throw .malformedYaml
    return .list pair :: (← Value.ofPairs rest)

/-- The entries of a mapping, after those that are taken in from others. -/
def Value.ofEntries (own : List (Value × Value)) :
    List (Node × Node) → Except Failure (List (Value × Value))
  | [] => .ok own
  | (key, value) :: rest => do
    if key.hasKind .merge then
      let taken ← Value.merged value
      return taken ++ (← Value.ofEntries own rest)
    else
      let key ← match key with
        | .scalar .default content => Value.ofScalar .text content
        | key => Value.ofNode key
      unless key.isKey do throw .malformedYaml
      Value.ofEntries (own ++ [(key, ← Value.ofNode value)]) rest

/-- The entries that a mapping takes in: those of one mapping, or of several. -/
def Value.merged : Node → Except Failure (List (Value × Value))
  | .mapping _ entries => Value.ofEntries [] entries
  | .sequence _ items => Value.mergedItems items
  | .enclosing true => .ok []
  | _ => .error .malformedYaml

/-- The entries of several mappings, of which the earlier ones win. -/
def Value.mergedItems : List Node → Except Failure (List (Value × Value))
  | [] => .ok []
  | item :: rest => do
    let first ← match item with
      | .mapping _ entries => Value.ofEntries [] entries
      | .enclosing true => pure []
      | _ => throw .malformedYaml
    return (← Value.mergedItems rest) ++ first

end

/-- The value of the single document of a text. An empty stream stands for nothing. -/
def Value.ofText (text : List Char) : Except Failure Value := do
  match ← Node.ofText text with
  | some node => Value.ofNode node
  | none => return .null

end CodeIndex.Yaml
