import CodeIndex.Text.CharName.Names1
import CodeIndex.Text.CharName.Names2
import CodeIndex.Text.CharName.Words
import CodeIndex.Text.Trim

/-! The characters that names stand for, with all aliases of the Unicode standard. A table lists the
names in the order of the characters, each by the number of words that it shares with the name
before it and the numbers of its other words. -/
namespace CodeIndex.CharName

/-- All words. -/
def words : List String := words1 ++ words2 ++ words3 ++ words4 ++ words5

/-- The table of names. -/
def names : List String :=
  names1 ++ names2 ++ names3 ++ names4 ++ names5 ++ names6 ++ names7 ++ names8 ++ names9

/-- How many digits there are. -/
def radix : Nat := 87

/-- The value of a digit. The digits are the characters from `#` to `z` without the backslash. -/
def digitValue (c : Char) : Nat := if c.toNat < 92 then c.toNat - 35 else c.toNat - 36

/-- Cuts a name before every space and hyphen. -/
def piecesFrom : (piece : List Char) → List Char → List (List Char)
  | piece, [] => [piece.reverse]
  | piece, c :: rest =>
    if c = ' ' || c = '-' then piece.reverse :: piecesFrom [c] rest
    else piecesFrom (c :: piece) rest

/-- The words of a name. A word after a hyphen keeps it, and the empty word is written as a dot. -/
def wordsOfName (name : List Char) : List String :=
  (piecesFrom [' '] name).map fun piece =>
    match piece with
    | [' '] => "."
    | ' ' :: rest => String.ofList rest
    | other => String.ofList other

/-- The number of a word, counted from the first one on. -/
def wordNumber? (wanted : String) : (number : Nat) → List String → Option Nat
  | _, [] => none
  | number, word :: rest =>
    if word = wanted then some number else wordNumber? wanted (number + 1) rest

/-- Reads the number of a word: frequent words have one digit, others two or three. -/
def readNumber : List Nat → Option (Nat × List Nat)
  | [] => none
  | first :: rest =>
    if first < 42 then some (first, rest)
    else if first < 85 then
      match rest with
      | second :: rest => some (42 + (first - 42) * radix + second, rest)
      | [] => none
    else
      match rest with
      | second :: third :: rest =>
        some (42 + 43 * radix + ((first - 85) * radix + second) * radix + third, rest)
      | _ => none

/-- Reads the numbers of some words. -/
def readNumbers : (count : Nat) → List Nat → Option (List Nat × List Nat)
  | 0, digits => some ([], digits)
  | count + 1, digits => do
    let (number, digits) ← readNumber digits
    let (numbers, digits) ← readNumbers count digits
    return (number :: numbers, digits)

/-- How an entry of the table starts: the character if it is not the next one, how many words the
name shares with the one before it, and how many others it has. -/
def readHead (next : Nat) : List Nat → Option (Nat × Nat × Nat × List Nat)
  | 81 :: a :: b :: c :: d :: rest =>
    let code := ((a * radix + b) * radix + c) * radix + d
    match rest with
    | 82 :: shared :: count :: rest => some (code, shared, count, rest)
    | head :: rest => some (code, head / 9, head % 9 + 1, rest)
    | [] => none
  | 82 :: shared :: count :: rest => some (next, shared, count, rest)
  | head :: rest => some (next, head / 9, head % 9 + 1, rest)
  | [] => none

/-- Looks for a name in the entries of the table. -/
def search (wanted : List Nat) :
    (fuel next : Nat) → (before : List Nat) → List Nat → Option Nat
  | 0, _, _, _ => none
  | fuel + 1, next, before, digits => do
    let (code, shared, count, digits) ← readHead next digits
    let (others, digits) ← readNumbers count digits
    let name := before.take shared ++ others
    if name = wanted then some code else search wanted fuel (code + 1) name digits

/-- Whether a character can stand in a name. -/
def isNamePart (c : Char) : Bool := c.isUpper || c.isDigit || c = ' ' || c = '-'

/-- The character of a name in the table. -/
def tabulated? (name : List Char) : Option Nat := do
  if !name.all isNamePart then none
  let wanted ← (wordsOfName name).mapM fun word =>
    wordNumber? word 0 (words.flatMap fun line => (splitAt ' ' line.toList).map String.ofList)
  let digits := names.flatMap fun line => line.toList.map digitValue
  search wanted digits.length 0 [] digits

/-- The number of four or five hexadecimal digits in capitals. -/
def hexCode? (digits : List Char) : Option Nat :=
  if digits.length = 4 || digits.length = 5 then
    digits.foldlM (fun code c =>
      if c.isDigit then some (code * 16 + (c.toNat - '0'.toNat))
      else if 'A' ≤ c ∧ c ≤ 'F' then some (code * 16 + (c.toNat - 'A'.toNat + 10))
      else none) 0
  else none

/-- The text after a start that it has. -/
def after? (start : String) (text : List Char) : Option (List Char) :=
  if start.toList.isPrefixOf text then some (text.drop start.length) else none

/-- The character whose name is a fixed start and its own code, if it is in one of some ranges. -/
def numbered? (start : String) (ranges : List (Nat × Nat)) (name : List Char) : Option Nat := do
  let code ← hexCode? (← after? start name)
  if ranges.any fun (low, high) => low ≤ code && code ≤ high then some code else none

/-- The unified ideographs. -/
def ideographs : List (Nat × Nat) :=
  [(0x3400, 0x4dbf), (0x4e00, 0x9fff), (0x20000, 0x2a6df), (0x2a700, 0x2b738), (0x2b740, 0x2b81d),
    (0x2b820, 0x2cea1), (0x2ceb0, 0x2ebe0), (0x30000, 0x3134a)]

/-- The letters at the start of a Hangul syllable. -/
def leadJamo : List String :=
  ["G", "GG", "N", "D", "DD", "R", "M", "B", "BB", "S", "SS", "", "J", "JJ", "C", "K", "T", "P",
    "H"]

/-- The vowels of a Hangul syllable. -/
def vowelJamo : List String :=
  ["A", "AE", "YA", "YAE", "EO", "E", "YEO", "YE", "O", "WA", "WAE", "OE", "YO", "U", "WEO", "WE",
    "WI", "YU", "EU", "YI", "I"]

/-- The letters at the end of a Hangul syllable. -/
def tailJamo : List String :=
  ["", "G", "GG", "GS", "N", "NJ", "NH", "D", "L", "LG", "LM", "LB", "LS", "LT", "LP", "LH", "M",
    "B", "BS", "S", "SS", "NG", "J", "C", "K", "T", "P", "H"]

/-- The longest of some letters that a text starts with, by its place, and the text after it. -/
def longest (letters : List String) (text : List Char) : Option (Nat × List Char) :=
  let fitting := letters.zipIdx.filter fun (letter, _) => letter.toList.isPrefixOf text
  match fitting.foldl (fun best entry =>
      match best with
      | none => some entry
      | some found => if found.1.length < entry.1.length then some entry else best) none with
  | some (letter, place) => some (place, text.drop letter.length)
  | none => none

/-- The Hangul syllable of three letters, of which the first and the last may be silent. -/
def syllable? (name : List Char) : Option Nat := do
  let (lead, rest) ← longest leadJamo name
  let (vowel, rest) ← longest vowelJamo rest
  let (tail, rest) ← longest tailJamo rest
  if rest.isEmpty then some (0xac00 + (lead * 21 + vowel) * 28 + tail) else none

/-- The characters with their own codes in their names, whatever the case of the letters. -/
def numberedFamilies : List (String × List (Nat × Nat)) :=
  [("CJK COMPATIBILITY IDEOGRAPH-", [(0xf900, 0xfa6d), (0xfa70, 0xfad9), (0x2f800, 0x2fa1d)]),
    ("KHITAN SMALL SCRIPT CHARACTER-", [(0x18b00, 0x18cd5)]),
    ("NUSHU CHARACTER-", [(0x1b170, 0x1b2fb)])]

end CharName

/-- The code of the character with a name. The case of letters does not count, except in the names
of unified ideographs and Hangul syllables. -/
def codeOfName? (name : List Char) : Option Nat :=
  match CharName.after? "HANGUL SYLLABLE " name, CharName.after? "CJK UNIFIED IDEOGRAPH-" name with
  | some rest, _ => CharName.syllable? rest
  | none, some _ => CharName.numbered? "CJK UNIFIED IDEOGRAPH-" CharName.ideographs name
  | none, none =>
    let name := name.map Char.toUpper
    match CharName.numberedFamilies.findSome? fun (start, ranges) =>
        CharName.numbered? start ranges name with
    | some code => some code
    | none => CharName.tabulated? name

end CodeIndex
