import EventSourcing.Number.Binary64

/-!
# The shortest decimal of a binary number

`Binary64.shortest` finds the decimal with the fewest digits that rounds to a
given number, and among those the one nearest to it. The decimals that round to
`mantissa * 2 ^ exponent` form an interval around it. For one digit, two digits
and so on the two neighbours of the number on that decimal grid are tried; the
first grid with a neighbour inside the interval settles the digits.
-/

set_option autoImplicit false

namespace EventSourcing

structure Decimal where
  digits : Nat
  exponent : Int
deriving DecidableEq, Repr

namespace Decimal

def length (value : Nat) : Nat :=
  (Nat.toDigits 10 value).length

/-- The same number without zeros at the right end of its digits; at most
`fuel` zeros are taken away. -/
def trimmed (decimal : Decimal) : Nat → Decimal
  | 0 => decimal
  | fuel + 1 =>
    if decimal.digits ≠ 0 ∧ decimal.digits % 10 = 0 then
      trimmed ⟨decimal.digits / 10, decimal.exponent + 1⟩ fuel
    else decimal

/-- The least `size` such that `numerator / denominator < 10 ^ size`, for a
positive quotient. -/
def sizeOfRatio (numerator denominator : Nat) : Int :=
  if denominator ≤ numerator then length (numerator / denominator)
  else
    let places := length denominator - length numerator
    if denominator ≤ numerator * Nat.pow 10 places then 1 - (places : Int) else -(places : Int)

end Decimal

namespace Binary64

/-- A number and the ends of the interval that rounds to it, over a common
denominator. The ends belong to the interval when `closed` holds. -/
structure Rounding where
  value : Nat
  low : Nat
  high : Nat
  denominator : Nat
  closed : Bool

/-- The interval that rounds to `mantissa * 2 ^ exponent`. Below a power of two
the neighbours lie closer, so the lower end does too. -/
def rounding (mantissa : Nat) (exponent : Int) : Rounding :=
  let below := if mantissa = leadingUnit ∧ minExponent < exponent then 1 else 2
  let (unit, denominator) := ratio 1 (exponent - 2)
  { value := 4 * mantissa * unit
    low := (4 * mantissa - below) * unit
    high := (4 * mantissa + 2) * unit
    denominator
    closed := mantissa % 2 = 0 }

def Rounding.inSteps (rounding : Rounding) (exponent : Int) : Rounding :=
  if exponent ≥ 0 then
    { rounding with denominator := rounding.denominator * Nat.pow 10 exponent.toNat }
  else
    let factor := Nat.pow 10 (-exponent).toNat
    { rounding with
      value := rounding.value * factor
      low := rounding.low * factor
      high := rounding.high * factor }

def Rounding.holds (rounding : Rounding) (steps : Nat) : Bool :=
  let place := steps * rounding.denominator
  if rounding.closed then rounding.low ≤ place && place ≤ rounding.high
  else rounding.low < place && place < rounding.high

/-- The whole number of steps inside the interval that is nearest to the value,
if one of the value's two neighbours is inside; a tie goes to the even one. -/
def Rounding.nearest? (rounding : Rounding) : Option Nat :=
  let down := rounding.value / rounding.denominator
  let up := down + 1
  match rounding.holds down, rounding.holds up with
  | false, false => none
  | true, false => some down
  | false, true => some up
  | true, true =>
    some (roundHalfEven rounding.value rounding.denominator)

/-- Tries grids of growing fineness, the first with steps of `10 ^ exponent`;
the last grid is taken as it is. -/
def shortestFrom (rounding : Rounding) (exponent : Int) : Nat → Decimal
  | 0 =>
    let steps := rounding.inSteps exponent
    ⟨roundHalfEven steps.value steps.denominator, exponent⟩
  | more + 1 =>
    match (rounding.inSteps exponent).nearest? with
    | some digits => ⟨digits, exponent⟩
    | none => shortestFrom rounding (exponent - 1) more

/-- The decimal of fewest digits that rounds to `mantissa * 2 ^ exponent`. -/
def shortest (mantissa : Nat) (exponent : Int) : Decimal :=
  if mantissa = 0 then ⟨0, 0⟩
  else
    let interval := rounding mantissa exponent
    let size := Decimal.sizeOfRatio interval.value interval.denominator
    (shortestFrom interval (size - 1) 16).trimmed 20

end Binary64

end EventSourcing
