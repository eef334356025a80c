import CodeIndex.Number.Binary64
import CodeIndex.Text.Trim

namespace CodeIndex

/-- A decimal number `0.d₁d₂…dₙ * 10 ^ point` given by its digits. -/
structure DecimalDigits where
  digits : List Nat
  point : Int

namespace DecimalDigits

/-- The decimal digits of a number, the most significant one first. -/
def digitsOf (n : Nat) : List Nat := (Nat.toDigits 10 n).map (·.toNat - '0'.toNat)

/-- Leaves out the zeros at the end, but keeps one digit. -/
def dropZeros (digits : List Nat) : List Nat :=
  match trimEnd (· = 0) digits with
  | [] => [0]
  | kept => kept

/-- The interval of the numbers that round to one double, in units of a quarter of its last place
times a power of ten. The ends belong to it if `closed` holds. -/
structure Rounding where
  low : Nat
  value : Nat
  high : Nat
  unit : Nat
  closed : Bool

/-- Whether `point * unit` rounds to the double. -/
def Rounding.holds (r : Rounding) (point : Nat) : Bool :=
  if r.closed then r.low ≤ point * r.unit && point * r.unit ≤ r.high
  else r.low < point * r.unit && point * r.unit < r.high

/-- The multiple of the unit that rounds to the double and lies nearest to it, if one does. A tie
goes to the even multiple. -/
def Rounding.nearest? (r : Rounding) : Option Nat :=
  let below := r.value / r.unit
  let above := below + 1
  match r.holds below, r.holds above with
  | true, true =>
    let down := r.value - below * r.unit
    let up := above * r.unit - r.value
    some (if down < up then below else if up < down then above
      else if below % 2 = 0 then below else above)
  | true, false => some below
  | false, true => some above
  | false, false => none

/-- The bounds of the double in quarters of its last place, scaled so that a unit of `10 ^ grid` is
an integer too. -/
def roundingAt (mantissa : Nat) (exponent grid : Int) : Rounding :=
  let twos := exponent - 2
  let scale : Nat := (if 0 ≤ twos then Nat.pow 2 twos.toNat else 1) *
    (if 0 ≤ grid then 1 else Nat.pow 10 (-grid).toNat)
  let unit : Nat := (if 0 ≤ twos then 1 else Nat.pow 2 (-twos).toNat) *
    (if 0 ≤ grid then Nat.pow 10 grid.toNat else 1)
  let below := if mantissa = Nat.pow 2 52 && -1074 < exponent then 1 else 2
  { low := (4 * mantissa - below) * scale
    value := 4 * mantissa * scale
    high := (4 * mantissa + 2) * scale
    unit := unit
    closed := mantissa % 2 = 0 }

/-- Tries the grids from the coarse to the fine: the first that holds a number rounding to the
double gives its digits. -/
def search (mantissa : Nat) (exponent top : Int) : Nat → Nat → DecimalDigits
  | 0, _ => ⟨[0], 0⟩
  | fuel + 1, places =>
    let grid := top - Int.ofNat places
    match (roundingAt mantissa exponent grid).nearest? with
    | some (point + 1) =>
      let digits := digitsOf (point + 1)
      ⟨dropZeros digits, Int.ofNat digits.length + grid⟩
    | _ => search mantissa exponent top fuel (places + 1)

/-- The fewest digits that read back as `mantissa * 2 ^ exponent`, and of those the nearest. -/
def shortest (mantissa : Nat) (exponent : Int) : DecimalDigits :=
  if mantissa = 0 then ⟨[0], 1⟩
  else
    let whole : Nat := if 0 ≤ exponent then mantissa * Nat.pow 2 exponent.toNat else
      mantissa * Nat.pow 10 400 / Nat.pow 2 (-exponent).toNat
    let size := Int.ofNat (Nat.toDigits 10 whole).length
    search mantissa exponent (if 0 ≤ exponent then size else size - 400) 20 0

end DecimalDigits

/-- How a floating-point number is written: the least and the greatest position of the decimal
point for positional notation, the sign of a positive exponent and the least number of its
digits. -/
structure FloatFormat where
  leastPoint : Int
  greatestPoint : Int
  exponentPlus : String
  exponentWidth : Nat

namespace FloatFormat

/-- The display form, as in lists and messages. -/
def display : FloatFormat := ⟨-3, 16, "+", 2⟩

/-- The compact form, as in stored data. -/
def compact : FloatFormat := ⟨-4, 16, "", 1⟩

/-- The text of decimal digits. -/
def digitText (digits : List Nat) : String :=
  String.ofList (digits.map fun d => Char.ofNat (d + '0'.toNat))

/-- The text of an exponent. -/
def exponentText (format : FloatFormat) (exponent : Int) : String :=
  let digits := toString exponent.natAbs
  let padding := String.ofList (List.replicate (format.exponentWidth - digits.length) '0')
  "e" ++ (if exponent < 0 then "-" else format.exponentPlus) ++ padding ++ digits

/-- Writes a decimal number, with a fraction of at least one digit in positional notation. -/
def writeDigits (format : FloatFormat) (number : DecimalDigits) : String :=
  let digits := number.digits
  let point := number.point
  if format.leastPoint ≤ point && point ≤ format.greatestPoint then
    if point ≤ 0 then "0." ++ digitText (List.replicate (-point).toNat 0 ++ digits)
    else
      let before := digits.take point.toNat
      let after := digits.drop point.toNat
      digitText (before ++ List.replicate (point.toNat - before.length) 0) ++ "." ++
        digitText (if after.isEmpty then [0] else after)
  else
    let fraction := digits.drop 1
    digitText (digits.take 1) ++ (if fraction.isEmpty then "" else "." ++ digitText fraction) ++
      format.exponentText (point - 1)

/-- Writes a floating-point number with the fewest digits that read back. -/
def write (format : FloatFormat) : Binary64 → String
  | .finite negative mantissa exponent =>
    (if negative then "-" else "") ++ format.writeDigits (.shortest mantissa exponent)
  | .infinite negative => if negative then "-inf" else "inf"
  | .undefined => "nan"

end FloatFormat

end CodeIndex
