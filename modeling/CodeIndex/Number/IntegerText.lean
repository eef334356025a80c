import CodeIndex.Text.Digit
import CodeIndex.Text.Trim

namespace CodeIndex.IntegerText

/-- The most digits that a written integer may have. -/
def digitLimit : Nat := 4300

/-- The blanks around a written integer. The ASCII separators from U+001C on are not among them. -/
def isMargin (c : Char) : Bool :=
  if c.toNat < 128 then c.toNat == 32 || (9 ≤ c.toNat && c.toNat ≤ 13) else isBlank c

/-- The values of decimal digits with single underscores between them. -/
def digits? : List Char → Option (List Nat)
  | [] => none
  | [c] => (decimalValue? c).map ([·])
  | c :: '_' :: rest => do
    let digit ← decimalValue? c
    let digits ← digits? rest
    some (digit :: digits)
  | c :: rest => do
    let digit ← decimalValue? c
    let digits ← digits? rest
    some (digit :: digits)

/-- The number of at most `digitLimit` digits. -/
def magnitude? (text : List Char) : Option Nat := do
  let digits ← digits? text
  if digits.length ≤ digitLimit then some (digits.foldl (fun n d => n * 10 + d) 0) else none

/-- Reads a decimal integer: an optional sign, digits of any script with single underscores between
them, and blanks on both sides. -/
def read? (text : List Char) : Option Int :=
  match trim isMargin text with
  | '-' :: digits => (magnitude? digits).map fun n => -Int.ofNat n
  | '+' :: digits => (magnitude? digits).map Int.ofNat
  | digits => (magnitude? digits).map Int.ofNat

/-- The value of a digit in a radix of up to sixteen. -/
def radixDigit? (radix : Nat) (c : Char) : Option Nat :=
  let digit := if c.isAlpha then some (c.toLower.toNat - 'a'.toNat + 10) else decimalValue? c
  digit.filter (· < radix)

/-- The number that digits in a radix stand for. There may be single underscores between them. -/
def radixMagnitude? (radix : Nat) : (number : Nat) → List Char → Option Nat
  | _, [] => none
  | number, [c] => (radixDigit? radix c).map (number * radix + ·)
  | number, c :: '_' :: rest => do
    radixMagnitude? radix (number * radix + (← radixDigit? radix c)) rest
  | number, c :: rest => do
    radixMagnitude? radix (number * radix + (← radixDigit? radix c)) rest

/-- The digits without the mark of their radix, which may be left out. -/
def dropMark (letter : Char) : List Char → List Char
  | '0' :: c :: '_' :: rest => if c.toLower = letter then rest else '0' :: c :: '_' :: rest
  | '0' :: c :: rest => if c.toLower = letter then rest else '0' :: c :: rest
  | digits => digits

/-- Reads an integer in a radix that has a letter for its mark: an optional sign, an optional mark,
digits, and blanks on both sides. -/
def readRadix? (radix : Nat) (letter : Char) (text : List Char) : Option Int :=
  match trim isMargin text with
  | '-' :: digits => (radixMagnitude? radix 0 (dropMark letter digits)).map fun n => -Int.ofNat n
  | '+' :: digits => (radixMagnitude? radix 0 (dropMark letter digits)).map Int.ofNat
  | digits => (radixMagnitude? radix 0 (dropMark letter digits)).map Int.ofNat

end CodeIndex.IntegerText
