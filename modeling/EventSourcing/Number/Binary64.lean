/-!
# Binary floating-point numbers

Numbers with fifty-three binary digits: a sign, a whole mantissa and a power of
two, or an infinity. Not-a-number is no value of this type. `ofRatio` rounds a
quotient of whole numbers to the nearest such number, ties to an even mantissa;
every number that the library reads or computes comes from it.
-/

set_option autoImplicit false

namespace EventSourcing

/-- A binary number. A finite one is `mantissa * 2 ^ exponent`, with the exponent
as small as a mantissa below `2 ^ 53` and the range allow. -/
inductive Binary64 where
  | finite (negative : Bool) (mantissa : Nat) (exponent : Int)
  | infinite (negative : Bool)
deriving DecidableEq, Repr, Inhabited

namespace Binary64

def minExponent : Int := -1074

def maxExponent : Int := 971

def mantissaBound : Nat := Nat.pow 2 53

def leadingUnit : Nat := Nat.pow 2 52

def zero (negative : Bool) : Binary64 :=
  .finite negative 0 minExponent

/-- `numerator / denominator` as a quotient by `2 ^ exponent`. -/
def scaled (numerator denominator : Nat) (exponent : Int) : Nat × Nat :=
  if exponent ≥ 0 then (numerator, denominator * Nat.pow 2 exponent.toNat)
  else (numerator * Nat.pow 2 (-exponent).toNat, denominator)

/-- The whole number nearest to a quotient, a tie going to the even one. -/
def roundHalfEven (numerator denominator : Nat) : Nat :=
  let quotient := numerator / denominator
  let twice := 2 * (numerator % denominator)
  if twice < denominator then quotient
  else if denominator < twice then quotient + 1
  else quotient + quotient % 2

def ofRatio (negative : Bool) (numerator denominator : Nat) : Binary64 :=
  if numerator = 0 then zero negative
  else
    let guess : Int := (numerator.log2 : Int) - denominator.log2 - 52
    let (top, bottom) := scaled numerator denominator guess
    let exponent := max minExponent (if top / bottom < leadingUnit then guess - 1 else guess)
    let (top, bottom) := scaled numerator denominator exponent
    let mantissa := roundHalfEven top bottom
    let (mantissa, exponent) :=
      if mantissa = mantissaBound then (leadingUnit, exponent + 1) else (mantissa, exponent)
    if maxExponent < exponent then .infinite negative else .finite negative mantissa exponent

/-- The nearest number to `digits * 10 ^ exponent`. A decimal far outside the
range is settled by its size alone. -/
def ofDecimal (negative : Bool) (digits : Nat) (exponent : Int) : Binary64 :=
  if digits = 0 then zero negative
  else
    let size : Int := (Nat.toDigits 10 digits).length + exponent
    if 400 < size then .infinite negative
    else if size < -400 then zero negative
    else if exponent ≥ 0 then ofRatio negative (digits * Nat.pow 10 exponent.toNat) 1
    else ofRatio negative digits (Nat.pow 10 (-exponent).toNat)

def isZero : Binary64 → Bool
  | .finite _ mantissa _ => mantissa == 0
  | .infinite _ => false

def ratio (mantissa : Nat) (exponent : Int) : Nat × Nat :=
  if exponent ≥ 0 then (mantissa * Nat.pow 2 exponent.toNat, 1)
  else (mantissa, Nat.pow 2 (-exponent).toNat)

/-- The whole number that a binary number equals, if there is one. -/
def toInt? : Binary64 → Option Int
  | .infinite _ => none
  | .finite negative mantissa exponent =>
    let (top, bottom) := ratio mantissa exponent
    if top % bottom = 0 then
      some (if negative then -((top / bottom : Nat) : Int) else (top / bottom : Nat))
    else none

end Binary64

end EventSourcing
