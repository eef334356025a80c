import CodeIndex.Json.Value
import CodeIndex.Number.Shortest
import CodeIndex.Text.Digit

namespace CodeIndex.JsonValue

export CodeIndex (hexDigit)

/-- The escaped form of a character. Quotes, backslashes and controls below the space are escaped,
all else stands for itself. -/
def escapeChar (c : Char) : List Char :=
  if c = '"' then ['\\', '"']
  else if c = '\\' then ['\\', '\\']
  else if 32 ≤ c.toNat then [c]
  else if c = '\n' then ['\\', 'n']
  else if c = '\t' then ['\\', 't']
  else if c = '\r' then ['\\', 'r']
  else if c = '\x08' then ['\\', 'b']
  else if c = '\x0c' then ['\\', 'f']
  else ['\\', 'u', '0', '0', hexDigit (c.toNat / 16), hexDigit (c.toNat % 16)]

/-- A text in quotes. -/
def renderText (s : String) : List Char := '"' :: s.toList.flatMap escapeChar ++ ['"']

mutual

/-- The compact form of a value, without blanks. -/
def render : JsonValue → List Char
  | .null => ['n', 'u', 'l', 'l']
  | .bool true => ['t', 'r', 'u', 'e']
  | .bool false => ['f', 'a', 'l', 's', 'e']
  | .integer n => (toString n).toList
  | .real x => (FloatFormat.compact.write x).toList
  | .text s => renderText s
  | .list items => '[' :: renderItems items ++ [']']
  | .object fields => '\x7b' :: renderFields fields ++ ['\x7d']

/-- The items of a list, divided by commas. -/
def renderItems : List JsonValue → List Char
  | [] => []
  | [item] => render item
  | item :: items => render item ++ ',' :: renderItems items

/-- The fields of an object, divided by commas. -/
def renderFields : List (String × JsonValue) → List Char
  | [] => []
  | [(name, value)] => renderText name ++ ':' :: render value
  | (name, value) :: fields => renderText name ++ ':' :: render value ++ ',' :: renderFields fields

end

mutual

/-- Whether every integer in the value fits into a signed or an unsigned word of 64 bits. -/
def fitsWord64 : JsonValue → Bool
  | .integer n => -0x8000000000000000 ≤ n && n < 0x10000000000000000
  | .list items => itemsFitWord64 items
  | .object fields => fieldsFitWord64 fields
  | _ => true

/-- Whether every integer in the items fits into a word. -/
def itemsFitWord64 : List JsonValue → Bool
  | [] => true
  | item :: items => item.fitsWord64 && itemsFitWord64 items

/-- Whether every integer in the fields fits into a word. -/
def fieldsFitWord64 : List (String × JsonValue) → Bool
  | [] => true
  | (_, value) :: fields => value.fitsWord64 && fieldsFitWord64 fields

end

end CodeIndex.JsonValue
