import CodeIndex.Number.Binary64
import CodeIndex.Number.IntegerText

namespace CodeIndex.FloatText

/-- The values of the decimal digits at the start of a text, and the text after them. -/
def spanDigits : List Char → List Nat × List Char
  | [] => ([], [])
  | c :: rest =>
    match decimalValue? c with
    | some digit =>
      let (digits, rest) := spanDigits rest
      (digit :: digits, rest)
    | none => ([], c :: rest)

/-- The number of a list of digits. -/
def numberOf (digits : List Nat) : Nat := digits.foldl (fun n d => n * 10 + d) 0

/-- The digits after a point, if there is one. -/
def fraction : List Char → List Nat × List Char
  | '.' :: rest => spanDigits rest
  | rest => ([], rest)

/-- The exponent that takes up the whole text. An empty text is the exponent zero. -/
def exponent? : List Char → Option Int
  | [] => some 0
  | c :: rest =>
    let digits? (text : List Char) : Option Nat :=
      match spanDigits text with
      | ([], _) => none
      | (digits, []) => some (numberOf digits)
      | _ => none
    if c = 'e' || c = 'E' then
      match rest with
      | '-' :: rest => (digits? rest).map fun n => -Int.ofNat n
      | '+' :: rest => (digits? rest).map Int.ofNat
      | rest => (digits? rest).map Int.ofNat
    else none

/-- Reads a number without a sign: digits with an optional point and exponent, or a word for an
infinite or undefined number. -/
def magnitude? (negative : Bool) (text : List Char) : Option Binary64 :=
  let word := String.ofList (text.map Char.toLower)
  if word = "inf" || word = "infinity" then some (.infinite negative)
  else if word = "nan" then some .undefined
  else do
    let (whole, rest) := spanDigits text
    let (part, rest) := fraction rest
    if (whole ++ part).isEmpty then none
    else
      let exponent ← exponent? rest
      some (.ofDecimal negative (numberOf (whole ++ part)) (exponent - Int.ofNat part.length))

/-- Reads a decimal number with an optional sign, and blanks on both sides. -/
def read? (text : List Char) : Option Binary64 :=
  match trim IntegerText.isMargin text with
  | '-' :: rest => magnitude? true rest
  | '+' :: rest => magnitude? false rest
  | rest => magnitude? false rest

end CodeIndex.FloatText
