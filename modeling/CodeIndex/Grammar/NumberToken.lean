import CodeIndex.Number.IntegerText

/-! Number literals. The functions take the characters from some place on and give those after the
literal, or nothing if the literal is malformed. -/
namespace CodeIndex.Grammar

/-- Whether a character can stand in an identifier, as far as ASCII is concerned. -/
def isNamePart (c : Char) : Bool := c.isAlphanum || c == '_' || 128 ≤ c.toNat

/-- The keywords that may follow a number without a blank. -/
def numberFollowers : List (List Char) :=
  ["and", "else", "for", "if", "in", "is", "or", "not"].map String.toList

/-- Whether a number may end before the given characters. -/
def endsNumber (rest : List Char) : Bool :=
  numberFollowers.any (fun word => word.isPrefixOf rest) || !rest.head?.any isNamePart

/-- The characters after digits with single underscores between them. -/
def skipDigits? (isDigit : Char → Bool) : List Char → Option (List Char)
  | [] => some []
  | '_' :: c :: rest => if isDigit c then skipDigits? isDigit rest else none
  | ['_'] => none
  | c :: rest => if isDigit c then skipDigits? isDigit rest else some (c :: rest)

/-- The characters after zeros with single underscores between them. -/
def skipZeros? : List Char → Option (List Char)
  | '_' :: c :: rest =>
    if c = '0' then skipZeros? rest else if c.isDigit then some (c :: rest) else none
  | ['_'] => none
  | '0' :: rest => skipZeros? rest
  | rest => some rest

/-- Whether the number is imaginary, and the characters after it. -/
abbrev NumberEnd := Option (Bool × List Char)

/-- The end of a number where an imaginary unit may stand. -/
def imaginaryEnd : List Char → NumberEnd
  | 'j' :: rest | 'J' :: rest => if endsNumber rest then some (true, rest) else none
  | rest => if endsNumber rest then some (false, rest) else none

/-- The end of a number where an exponent may stand. Without digits the letter does not belong to
the number. -/
def exponentEnd (text : List Char) : NumberEnd :=
  let afterMark (rest : List Char) : NumberEnd :=
    match rest with
    | sign :: c :: rest =>
      if sign = '+' || sign = '-' then
        if c.isDigit then (skipDigits? Char.isDigit rest).bind imaginaryEnd else none
      else if sign.isDigit then (skipDigits? Char.isDigit (c :: rest)).bind imaginaryEnd
      else if endsNumber text then some (false, text) else none
    | _ => if endsNumber text then some (false, text) else none
  match text with
  | 'e' :: rest | 'E' :: rest => afterMark rest
  | _ => imaginaryEnd text

/-- The end of a number after its point. -/
def fractionEnd (text : List Char) : NumberEnd :=
  if text.head?.any Char.isDigit then (skipDigits? Char.isDigit text).bind exponentEnd
  else exponentEnd text

/-- The end of an integer in another base after its mark. An underscore may follow the mark. -/
def baseEnd (isDigit : Char → Bool) (text : List Char) : NumberEnd := do
  let digits := match text with
    | '_' :: rest => rest
    | rest => rest
  if digits.head?.any isDigit then
    let rest ← skipDigits? isDigit digits
    if endsNumber rest then some (false, rest) else none
  else none

/-- Hexadecimal digits. -/
def isHexDigit (c : Char) : Bool :=
  c.isDigit || ('a' ≤ c && c ≤ 'f') || ('A' ≤ c && c ≤ 'F')

/-- The end of a number that starts with a zero, after it. Other integers must not start with
one. -/
def zeroEnd (text : List Char) : NumberEnd := do
  let rest ← skipZeros? text
  let nonzero := rest.head?.any Char.isDigit
  let rest ← if nonzero then skipDigits? Char.isDigit rest else some rest
  match rest with
  | '.' :: rest => fractionEnd rest
  | 'e' :: _ | 'E' :: _ => exponentEnd rest
  | 'j' :: _ | 'J' :: _ => imaginaryEnd rest
  | _ => if !nonzero && endsNumber rest then some (false, rest) else none

/-- The end of a decimal number that starts with another digit. The digits of an integer are
limited. -/
def decimalEnd (text : List Char) : NumberEnd := do
  let rest ← skipDigits? Char.isDigit text
  match rest with
  | '.' :: rest => fractionEnd rest
  | 'j' :: _ | 'J' :: _ => imaginaryEnd rest
  | _ =>
    let (imaginary, final) ← exponentEnd rest
    let digits := (text.take (text.length - rest.length)).filter Char.isDigit
    if final.length = rest.length && IntegerText.digitLimit < digits.length then none
    else some (imaginary, final)

/-- The end of a number that starts with a digit or with a point and a digit. -/
def numberEnd : List Char → NumberEnd
  | '.' :: rest => fractionEnd rest
  | '0' :: 'x' :: rest | '0' :: 'X' :: rest => baseEnd isHexDigit rest
  | '0' :: 'o' :: rest | '0' :: 'O' :: rest => baseEnd (fun c => '0' ≤ c && c ≤ '7') rest
  | '0' :: 'b' :: rest | '0' :: 'B' :: rest => baseEnd (fun c => c == '0' || c == '1') rest
  | '0' :: rest => zeroEnd rest
  | text => decimalEnd text

end CodeIndex.Grammar
