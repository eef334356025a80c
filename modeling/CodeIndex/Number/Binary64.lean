namespace CodeIndex

/-- A binary floating-point number of double precision. A finite number is
`mantissa * 2 ^ exponent` with `mantissa < 2 ^ 53` and `-1074 ≤ exponent ≤ 971`; below `2 ^ 52` the
mantissa comes with the least exponent only. -/
inductive Binary64 where
  | finite (negative : Bool) (mantissa : Nat) (exponent : Int)
  | infinite (negative : Bool)
  | undefined
  deriving DecidableEq, Repr, Inhabited

namespace Binary64

/-- The quotient rounded to the nearest integer, a half to the even neighbour. -/
def roundDiv (numerator denominator : Nat) : Nat :=
  let floor := numerator / denominator
  let twice := 2 * (numerator % denominator)
  if twice < denominator then floor
  else if denominator < twice then floor + 1
  else if floor % 2 = 0 then floor else floor + 1

/-- The quotient scaled by a power of two and rounded to the nearest integer. -/
def scaledDiv (numerator denominator : Nat) (exponent : Int) : Nat :=
  if 0 ≤ exponent then roundDiv numerator (denominator * Nat.pow 2 exponent.toNat)
  else roundDiv (numerator * Nat.pow 2 (-exponent).toNat) denominator

/-- Whether the quotient is at least a power of two. -/
def atLeastPower (numerator denominator : Nat) (exponent : Int) : Bool :=
  if 0 ≤ exponent then denominator * Nat.pow 2 exponent.toNat ≤ numerator
  else denominator ≤ numerator * Nat.pow 2 (-exponent).toNat

/-- The number nearest to a positive quotient, a tie to the even mantissa. -/
def ofQuotient (negative : Bool) (numerator denominator : Nat) : Binary64 :=
  let guess : Int := Int.ofNat numerator.log2 - Int.ofNat denominator.log2
  let top := if atLeastPower numerator denominator guess then guess else guess - 1
  let exponent := max (top - 52) (-1074)
  let mantissa := scaledDiv numerator denominator exponent
  let (mantissa, exponent) :=
    if mantissa < Nat.pow 2 53 then (mantissa, exponent) else (mantissa / 2, exponent + 1)
  if exponent ≤ 971 then .finite negative mantissa exponent else .infinite negative

/-- Zero with a sign. -/
def zeroOf (negative : Bool) : Binary64 := .finite negative 0 (-1074)

/-- The number nearest to `digits * 10 ^ exponent`. -/
def ofDecimal (negative : Bool) (digits : Nat) (exponent : Int) : Binary64 :=
  if digits = 0 then zeroOf negative
  else
    let size : Int := Int.ofNat (Nat.toDigits 10 digits).length + exponent
    if 400 < size then .infinite negative
    else if size < -400 then zeroOf negative
    else if 0 ≤ exponent then ofQuotient negative (digits * Nat.pow 10 exponent.toNat) 1
    else ofQuotient negative digits (Nat.pow 10 (-exponent).toNat)

/-- The integer part, without the fraction. -/
def truncate? : Binary64 → Option Int
  | .finite negative mantissa exponent =>
    let size : Nat :=
      if 0 ≤ exponent then mantissa * Nat.pow 2 exponent.toNat
      else mantissa / Nat.pow 2 (-exponent).toNat
    some (if negative then -Int.ofNat size else Int.ofNat size)
  | _ => none

/-- The integer that the number equals, if it equals one. -/
def toInt? (x : Binary64) : Option Int :=
  match x with
  | .finite _ mantissa exponent =>
    if 0 ≤ exponent || mantissa % Nat.pow 2 (-exponent).toNat = 0 then x.truncate? else none
  | _ => none

/-- Whether the number is zero, of either sign. -/
def isZero : Binary64 → Bool
  | .finite _ mantissa _ => mantissa == 0
  | _ => false

end Binary64

end CodeIndex
