import CodeIndex.Text.CharRanges

namespace CodeIndex

/-- The zeros of the decimal digit sequences beyond ASCII. Each is followed by the digits one to
nine of its sequence. -/
def wideZeros : Array Nat := CharRanges.readDistances
  ["19c 40 5s bq 3k 3k 3k 3k 3k 3k 3k 3k 3k 2y 3k 28 80 28 1g0 1c 8m 3u 4w g 5c 2o 40 g r80 ",
    "j4 1c 5s w 2o bk gf4 13k 1ow mu 3u 1y 4a 80 9s 3k ao 34 34 c0 34 lc 74 28 f5s 2o 40 lfi a ",
    "a a a 1u2 c0 19c 3og "]

/-- The value of a decimal digit of any script. -/
def decimalValue? (c : Char) : Option Nat :=
  if c.toNat < 128 then
    if c.isDigit then some (c.toNat - '0'.toNat) else none
  else
    let first := wideZeros.getD (CharRanges.countUpTo wideZeros c.toNat 0 wideZeros.size - 1) 0
    if first ≤ c.toNat && c.toNat < first + 10 then some (c.toNat - first) else none

/-- Whether the character is a decimal digit of any script. -/
def isDecimal (c : Char) : Bool := (decimalValue? c).isSome

/-- A lower-case hexadecimal digit. -/
def hexDigit (n : Nat) : Char := if n < 10 then Char.ofNat (n + 48) else Char.ofNat (n + 87)

/-- The value of a hexadecimal digit. -/
def hexValue? (c : Char) : Option Nat :=
  if '0' ≤ c ∧ c ≤ '9' then some (c.toNat - '0'.toNat)
  else if 'a' ≤ c ∧ c ≤ 'f' then some (c.toNat - 'a'.toNat + 10)
  else if 'A' ≤ c ∧ c ≤ 'F' then some (c.toNat - 'A'.toNat + 10)
  else none

end CodeIndex
