import EventSourcing.Number.Shortest
import EventSourcing.Text.Digit

/-!
# Decimal text

Whole numbers and binary numbers as decimal text, and the way back. A binary
number is written with its shortest digits: in positional form, with at least
one digit on either side of the point, while the point falls near the digits,
and otherwise with one digit in front of the point and a power of ten.
-/

set_option autoImplicit false

namespace EventSourcing.DecimalText

def ofNat (value : Nat) : List Char :=
  Nat.toDigits 10 value

/-- The digits of a whole number with zeros in front, `width` characters at least. -/
def padded (width value : Nat) : List Char :=
  let digits := ofNat value
  List.replicate (width - digits.length) '0' ++ digits

def ofInt : Int → List Char
  | .ofNat value => ofNat value
  | .negSucc value => '-' :: ofNat (value + 1)

/-- Positional notation is used while the point stands at most this far to the
right of the first digit. -/
def lastPositionalPoint : Int := 16

/-- Positional notation is used while fewer than this many zeros follow the point. -/
def zerosAfterPoint : Int := 4

def positional (digits : List Char) (point : Int) : List Char :=
  if point ≤ 0 then '0' :: '.' :: (List.replicate (-point).toNat '0' ++ digits)
  else
    let whole := point.toNat
    if digits.length ≤ whole then
      digits ++ List.replicate (whole - digits.length) '0' ++ ['.', '0']
    else digits.take whole ++ '.' :: digits.drop whole

/-- One digit, the others after a point, and a power of ten of two digits at
least. -/
def scientific (digits : List Char) (point : Int) : List Char :=
  let power := point - 1
  let fraction := digits.drop 1
  digits.take 1 ++ (if fraction.isEmpty then [] else '.' :: fraction) ++
    ['e', if power < 0 then '-' else '+'] ++ padded 2 power.natAbs

def ofDecimal (decimal : Decimal) : List Char :=
  let digits := ofNat decimal.digits
  let point : Int := digits.length + decimal.exponent
  if -zerosAfterPoint < point ∧ point ≤ lastPositionalPoint then positional digits point
  else scientific digits point

def ofFinite (negative : Bool) (mantissa : Nat) (exponent : Int) : List Char :=
  (if negative then ['-'] else []) ++ ofDecimal (Binary64.shortest mantissa exponent)

def ofBinary (infinity : List Char) : Binary64 → List Char
  | .finite negative mantissa exponent => ofFinite negative mantissa exponent
  | .infinite negative => (if negative then ['-'] else []) ++ infinity

def toBinary (negative : Bool) (whole fraction : List Char) (power : Int) : Binary64 :=
  Binary64.ofDecimal negative (Text.digitsValue (whole ++ fraction)) (power - fraction.length)

end EventSourcing.DecimalText
