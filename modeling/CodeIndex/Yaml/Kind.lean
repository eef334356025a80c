import CodeIndex.Text.Trim

/-! What kind of value a node of a YAML document stands for. -/
namespace CodeIndex.Yaml

/-- The kinds of values. -/
inductive Kind where
  | null
  | truth
  | integer
  | float
  | binary
  | time
  | orderedMap
  | pairs
  | set
  | text
  | sequence
  | mapping
  /-- The key under which other mappings are taken into one. -/
  | merge
  /-- The key for the value that a mapping has by default. -/
  | default
  | unknown
  deriving DecidableEq, Repr

namespace Kind

/-- What the tags of the common kinds start with. -/
def commonTag : String := "tag:yaml.org,2002:"

/-- The kind of a tag. -/
def ofTag (tag : String) : Kind :=
  if commonTag.toList.isPrefixOf tag.toList then
    match String.ofList (tag.toList.drop commonTag.length) with
    | "null" => .null
    | "bool" => .truth
    | "int" => .integer
    | "float" => .float
    | "binary" => .binary
    | "timestamp" => .time
    | "omap" => .orderedMap
    | "pairs" => .pairs
    | "set" => .set
    | "str" => .text
    | "seq" => .sequence
    | "map" => .mapping
    | _ => .unknown
  else .unknown

/-- The words for true and false. -/
def truthWords : List String :=
  ["yes", "Yes", "YES", "no", "No", "NO", "true", "True", "TRUE", "false", "False", "FALSE",
    "on", "On", "ON", "off", "Off", "OFF"]

/-- Leaves out a sign. -/
def dropSign : List Char → List Char
  | '-' :: rest => rest
  | '+' :: rest => rest
  | rest => rest

/-- A digit or an underscore. -/
def isDigitPart (c : Char) : Bool := c.isDigit || c = '_'

/-- Whether a text is an exponent: a letter, a sign and digits. An empty one counts too. -/
def isExponent : List Char → Bool
  | [] => true
  | c :: sign :: digits =>
    (c = 'e' || c = 'E') && (sign = '-' || sign = '+') && !digits.isEmpty &&
      digits.all Char.isDigit
  | _ => false

/-- Whether a text is a part of sixty: up to two digits below sixty. -/
def isSixtieth : List Char → Bool
  | [c] => c.isDigit
  | [c, d] => '0' ≤ c && c ≤ '5' && d.isDigit
  | _ => false

/-- Whether a text is a number in sixties: digits, and then parts of sixty after colons. -/
def isSexagesimal (text : List Char) : Bool :=
  match splitAt ':' text with
  | first :: second :: rest =>
    first.head?.any Char.isDigit && first.all isDigitPart && (second :: rest).all isSixtieth
  | _ => false

/-- Whether a text is a floating-point number. -/
def isFloat (text : List Char) : Bool :=
  let unsigned := dropSign text
  let whole := unsigned.takeWhile (· ≠ '.')
  let rest := (unsigned.dropWhile (· ≠ '.')).drop 1
  let hasPoint := unsigned.contains '.'
  let tail := rest.dropWhile isDigitPart
  let isPlain := whole.head?.any Char.isDigit && whole.all isDigitPart && isExponent tail
  let isFraction := text.head? = some '.' && rest.head?.any Char.isDigit && isExponent tail
  let isSixties := isSexagesimal whole && tail.isEmpty
  let isInfinite := whole.isEmpty && ["inf", "Inf", "INF"].contains (String.ofList rest)
  let isUndefined := text.head? = some '.' && ["nan", "NaN", "NAN"].contains (String.ofList rest)
  hasPoint && (isPlain || isFraction || isSixties || isInfinite || isUndefined)

/-- Whether a text is an integer: binary, octal, decimal, hexadecimal or in sixties. -/
def isInteger (text : List Char) : Bool :=
  match dropSign text with
  | ['0'] => true
  | '0' :: 'b' :: digits => !digits.isEmpty && digits.all fun c => c = '0' || c = '1' || c = '_'
  | '0' :: 'x' :: digits => !digits.isEmpty && digits.all fun c =>
      isDigitPart c || ('a' ≤ c && c ≤ 'f') || ('A' ≤ c && c ≤ 'F')
  | '0' :: digits => digits.all fun c => ('0' ≤ c && c ≤ '7') || c = '_'
  | digits => digits.head?.any Char.isDigit && (digits.all isDigitPart || isSexagesimal digits)

/-- The digits of a text between one and the given count, and the text after them. -/
def digitsUpTo (count : Nat) (text : List Char) : Option (List Char × List Char) :=
  let digits := (text.takeWhile Char.isDigit).take count
  if digits.isEmpty then none else some (digits, text.drop digits.length)

/-- Exactly as many digits, and the text after them. -/
def digitsOf (count : Nat) (text : List Char) : Option (List Char × List Char) :=
  (digitsUpTo count text).filter fun (digits, _) => digits.length = count

/-- A text after a character that it starts with. -/
def after (c : Char) : List Char → Option (List Char)
  | d :: rest => if d = c then some rest else none
  | [] => none

end Kind

/-- A point in time as it is written. -/
structure TimeText where
  year : List Char
  month : List Char
  day : List Char
  clock : Option (List Char × List Char × List Char) := none
  /-- The sign, hours and minutes of the distance from universal time. -/
  zone : Option (Char × List Char × List Char) := none
  deriving Repr

namespace TimeText

open Kind

/-- The distance from universal time, which takes up the whole text. -/
def zone? (text : List Char) : Option (Option (Char × List Char × List Char)) :=
  match text.dropWhile fun c => c = ' ' || c = '\t' with
  | [] => if text.isEmpty then some none else none
  | ['Z'] => some none
  | sign :: rest =>
    if sign = '-' || sign = '+' then do
      let (hours, rest) ← digitsUpTo 2 rest
      if rest.isEmpty then return some (sign, hours, [])
      let (minutes, rest) ← digitsOf 2 (← after ':' rest)
      if rest.isEmpty then return some (sign, hours, minutes) else none
    else none

/-- The time of day after a date, which takes up the whole text. -/
def clock? (date : TimeText) (text : List Char) : Option TimeText := do
  let isBlank (c : Char) : Bool := c = ' ' || c = '\t'
  let text ← match text with
    | 'T' :: rest | 't' :: rest => some rest
    | c :: rest => if isBlank c then some (rest.dropWhile isBlank) else none
    | [] => none
  let (hour, rest) ← digitsUpTo 2 text
  let (minute, rest) ← digitsOf 2 (← after ':' rest)
  let (second, rest) ← digitsOf 2 (← after ':' rest)
  let rest := match rest with
    | '.' :: rest => rest.dropWhile Char.isDigit
    | rest => rest
  let zone ← zone? rest
  return { date with clock := some (hour, minute, second), zone := zone }

/-- Reads a date, or a date with a time of day. -/
def read? (text : List Char) : Option TimeText := do
  let (year, rest) ← digitsOf 4 text
  let (month, rest) ← digitsUpTo 2 (← after '-' rest)
  let (day, rest) ← digitsUpTo 2 (← after '-' rest)
  let date : TimeText := { year := year, month := month, day := day }
  if rest.isEmpty then return date else clock? date rest

/-- Whether a plain text is taken for a time. A date alone has all its digits. -/
def isImplied (text : List Char) : Bool :=
  match read? text with
  | some found => found.clock.isSome || (found.month.length = 2 && found.day.length = 2)
  | none => false

/-- The number of days of a month. -/
def daysIn (year month : Nat) : Nat :=
  if month = 2 then
    if year % 4 = 0 && (year % 100 ≠ 0 || year % 400 = 0) then 29 else 28
  else if [4, 6, 9, 11].contains month then 30
  else 31

/-- Whether there is such a point in time. The distance from universal time is below a day. -/
def isPossible (moment : TimeText) : Bool :=
  let number (digits : List Char) : Nat :=
    digits.foldl (fun n c => n * 10 + (c.toNat - '0'.toNat)) 0
  let year := number moment.year
  let month := number moment.month
  let day := number moment.day
  let clockFits := moment.clock.all fun (hour, minute, second) =>
    number hour < 24 && number minute < 60 && number second < 60
  let zoneFits := moment.zone.all fun (_, hours, minutes) =>
    number hours * 60 + number minutes < 24 * 60
  1 ≤ year && 1 ≤ month && month ≤ 12 && 1 ≤ day && day ≤ daysIn year month &&
    clockFits && zoneFits

end TimeText

/-- The kind that a plain text stands for. A line feed at its end does not count. -/
def Kind.implied (text : List Char) : Kind :=
  let body := if text.getLast? = some '\n' then text.dropLast else text
  if text.isEmpty then .null
  else if body.isEmpty then .text
  else if truthWords.contains (String.ofList body) then .truth
  else if isFloat body then .float
  else if isInteger body then .integer
  else if body = ['<', '<'] then .merge
  else if ["~", "null", "Null", "NULL"].contains (String.ofList body) then .null
  else if TimeText.isImplied body then .time
  else if body = ['='] then .default
  else if [['!'], ['&'], ['*']].contains body then .unknown
  else .text

end CodeIndex.Yaml
