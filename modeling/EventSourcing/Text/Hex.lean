import EventSourcing.Text.Digit

/-!
# Hexadecimal digits

Numbers in lower-case hexadecimal digits of a fixed width, octets in two digits
each, and the way back, where digits of either case are understood.
-/

set_option autoImplicit false

namespace EventSourcing.Text

def hexDigit (value : Nat) : Char :=
  if value < 10 then Char.ofNat ('0'.toNat + value) else Char.ofNat ('a'.toNat + value - 10)

/-- The last `width` hexadecimal digits of a number. -/
def hexDigits (width value : Nat) : List Char :=
  match width with
  | 0 => []
  | width + 1 => hexDigits width (value / 16) ++ [hexDigit (value % 16)]

def hexValue? (character : Char) : Option Nat :=
  if isDigit character then some (digitValue character)
  else if 'a'.toNat ≤ character.toNat && character.toNat ≤ 'f'.toNat then
    some (character.toNat - 'a'.toNat + 10)
  else if 'A'.toNat ≤ character.toNat && character.toNat ≤ 'F'.toNat then
    some (character.toNat - 'A'.toNat + 10)
  else none

def hexOfOctets (octets : List UInt8) : List Char :=
  octets.flatMap fun octet => hexDigits 2 octet.toNat

def octetsOfHex? : List Char → Option (List UInt8)
  | [] => some []
  | [_] => none
  | first :: second :: rest => do
    let octet := (← hexValue? first) * 16 + (← hexValue? second)
    return UInt8.ofNat octet :: (← octetsOfHex? rest)

end EventSourcing.Text
