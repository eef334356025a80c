import CodeIndex.Json.Value
import CodeIndex.Text.Digit

namespace CodeIndex.JsonValue

/-- Which integers are read as integers. The others are read as floating-point numbers. -/
structure IntegerRange where
  contains : Int → Bool

/-- Every integer. -/
def IntegerRange.unbounded : IntegerRange := ⟨fun _ => true⟩

/-- The integers that fit into a signed or an unsigned word of 64 bits. -/
def IntegerRange.word64 : IntegerRange :=
  ⟨fun n => -0x8000000000000000 ≤ n && n < 0x10000000000000000⟩

/-- The blank characters between tokens. -/
def isLayout (c : Char) : Bool := c = ' ' || c = '\t' || c = '\n' || c = '\r'

/-- Leaves out the blank characters in front. -/
def skipLayout (input : List Char) : List Char := input.dropWhile isLayout

/-- The value of four hexadecimal digits. -/
def unit? (a b c d : Char) : Option Nat := do
  return ((← hexValue? a) * 16 + (← hexValue? b)) * 256 + (← hexValue? c) * 16 + (← hexValue? d)

/-- The character of a two-character escape. -/
def shortEscape? : Char → Option Char
  | '"' => some '"'
  | '\\' => some '\\'
  | '/' => some '/'
  | 'b' => some '\x08'
  | 'f' => some '\x0c'
  | 'n' => some '\n'
  | 'r' => some '\r'
  | 't' => some '\t'
  | _ => none

/-- Reads a string after its opening quote: its characters, and the input after the closing quote.
A unit from the surrogate range is read with its partner or not at all. -/
def readText : List Char → Option (List Char × List Char)
  | [] => none
  | '"' :: rest => some ([], rest)
  | '\\' :: 'u' :: a :: b :: c :: d :: '\\' :: 'u' :: a' :: b' :: c' :: d' :: rest => do
    let high ← unit? a b c d
    if 0xd800 ≤ high ∧ high < 0xdc00 then
      let low ← unit? a' b' c' d'
      if 0xdc00 ≤ low ∧ low < 0xe000 then
        let (chars, after) ← readText rest
        some (Char.ofNat (0x10000 + (high - 0xd800) * 0x400 + (low - 0xdc00)) :: chars, after)
      else none
    else if 0xdc00 ≤ high ∧ high < 0xe000 then none
    else
      let (chars, after) ← readText ('\\' :: 'u' :: a' :: b' :: c' :: d' :: rest)
      some (Char.ofNat high :: chars, after)
  | '\\' :: 'u' :: a :: b :: c :: d :: rest => do
    let unit ← unit? a b c d
    if 0xd800 ≤ unit ∧ unit < 0xe000 then none
    else
      let (chars, after) ← readText rest
      some (Char.ofNat unit :: chars, after)
  | '\\' :: c :: rest => do
    let escaped ← shortEscape? c
    let (chars, after) ← readText rest
    some (escaped :: chars, after)
  | c :: rest =>
    if c.toNat < 32 ∨ c = '\\' then none
    else do
      let (chars, after) ← readText rest
      some (c :: chars, after)

/-- The number written by decimal digits. -/
def decimalValue (digits : List Char) : Nat :=
  digits.foldl (fun n c => n * 10 + (c.toNat - '0'.toNat)) 0

/-- Splits off the decimal digits in front. -/
def spanDigits (input : List Char) : List Char × List Char :=
  (input.takeWhile Char.isDigit, input.dropWhile Char.isDigit)

/-- Reads the fraction of a number: its digits, or nothing without a point. A point needs digits. -/
def readFraction : List Char → Option (Option (List Char) × List Char)
  | '.' :: rest =>
    match spanDigits rest with
    | ([], _) => none
    | (digits, after) => some (some digits, after)
  | input => some (none, input)

/-- Reads the exponent of a number after its mark. -/
def readExponentDigits (negative : Bool) (input : List Char) : Option (Option Int × List Char) :=
  match spanDigits input with
  | ([], _) => none
  | (digits, after) =>
    let size := Int.ofNat (decimalValue digits)
    some (some (if negative then -size else size), after)

/-- Reads the exponent of a number, or nothing without a mark. -/
def readExponent : List Char → Option (Option Int × List Char)
  | c :: rest =>
    if c = 'e' ∨ c = 'E' then
      match rest with
      | '-' :: digits => readExponentDigits true digits
      | '+' :: digits => readExponentDigits false digits
      | digits => readExponentDigits false digits
    else some (none, c :: rest)
  | [] => some (none, [])

/-- The value of a number given by its parts. Without fraction and exponent it is an integer if the
range has it. -/
def numberValue (range : IntegerRange) (negative : Bool) (digits : List Char)
    (fraction? : Option (List Char)) (exponent? : Option Int) : JsonValue :=
  if fraction?.isNone && exponent?.isNone then
    let size := Int.ofNat (decimalValue digits)
    let n := if negative then -size else size
    if range.contains n then .integer n else .real (.ofDecimal negative (decimalValue digits) 0)
  else
    let fraction := fraction?.getD []
    .real (.ofDecimal negative (decimalValue (digits ++ fraction))
      (exponent?.getD 0 - Int.ofNat fraction.length))

/-- Reads a number after its sign. A number beyond the floating-point range is refused. -/
def readNumber (range : IntegerRange) (negative : Bool) (input : List Char) :
    Option (JsonValue × List Char) :=
  match spanDigits input with
  | ([], _) => none
  | ('0' :: _ :: _, _) => none
  | (digits, rest) => do
    let (fraction?, rest) ← readFraction rest
    let (exponent?, rest) ← readExponent rest
    match numberValue range negative digits fraction? exponent? with
    | .real (.infinite _) => none
    | value => some (value, rest)

mutual

/-- Reads a value at the start of the input. The fuel bounds the depth and the number of items. -/
def readValue (range : IntegerRange) : Nat → List Char → Option (JsonValue × List Char)
  | 0, _ => none
  | fuel + 1, input =>
    match skipLayout input with
    | 'n' :: 'u' :: 'l' :: 'l' :: rest => some (.null, rest)
    | 't' :: 'r' :: 'u' :: 'e' :: rest => some (.bool true, rest)
    | 'f' :: 'a' :: 'l' :: 's' :: 'e' :: rest => some (.bool false, rest)
    | '"' :: rest => do
      let (chars, rest) ← readText rest
      some (.text (String.ofList chars), rest)
    | '[' :: rest =>
      match skipLayout rest with
      | ']' :: rest => some (.list [], rest)
      | rest => do
        let (items, rest) ← readItems range fuel rest
        some (.list items, rest)
    | '\x7b' :: rest =>
      match skipLayout rest with
      | '\x7d' :: rest => some (.object [], rest)
      | rest => do
        let (fields, rest) ← readFields range fuel rest
        some (.object (fields.foldl (fun all (name, value) => setField name value all) []), rest)
    | '-' :: rest => readNumber range true rest
    | rest => readNumber range false rest

/-- Reads the items of a list up to its closing bracket. -/
def readItems (range : IntegerRange) : Nat → List Char → Option (List JsonValue × List Char)
  | 0, _ => none
  | fuel + 1, input => do
    let (item, rest) ← readValue range fuel input
    match skipLayout rest with
    | ',' :: rest =>
      let (items, rest) ← readItems range fuel rest
      some (item :: items, rest)
    | ']' :: rest => some ([item], rest)
    | _ => none

/-- Reads the fields of an object up to its closing brace. -/
def readFields (range : IntegerRange) :
    Nat → List Char → Option (List (String × JsonValue) × List Char)
  | 0, _ => none
  | fuel + 1, input =>
    match skipLayout input with
    | '"' :: rest => do
      let (name, rest) ← readText rest
      match skipLayout rest with
      | ':' :: rest =>
        let (value, rest) ← readValue range fuel rest
        let field := (String.ofList name, value)
        match skipLayout rest with
        | ',' :: rest =>
          let (fields, rest) ← readFields range fuel rest
          some (field :: fields, rest)
        | '\x7d' :: rest => some ([field], rest)
        | _ => none
      | _ => none
    | _ => none

end

/-- Reads a text that holds one value and nothing else but blanks. -/
def read? (range : IntegerRange) (text : String) : Option JsonValue := do
  let input := text.toList
  let (value, rest) ← readValue range (2 * input.length + 2) input
  if (skipLayout rest).isEmpty then some value else none

end CodeIndex.JsonValue
