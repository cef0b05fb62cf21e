import EventSourcing.Text.Hex
import EventSourcing.Text.Printable

/-!
# Quoted literals

A text between quotes, readable at a glance: single quotes unless the text holds
single quotes and no double ones, and an escape for the quote, the backslash and
every character without a visible form. Octets are quoted by the same rule, with
the letter `b` in front.
-/

set_option autoImplicit false

namespace EventSourcing.Text

/-- The quote around a text: double when the text holds single quotes only. -/
def quoteFor (holdsSingle holdsDouble : Bool) : Char :=
  if holdsSingle && !holdsDouble then '"' else '\''

def letterEscape? (code : Nat) : Option Char :=
  if code = '\t'.toNat then some 't'
  else if code = '\n'.toNat then some 'n'
  else if code = '\r'.toNat then some 'r'
  else none

/-- One character between quotes. A character without a visible form is written
by its code point in two, four or eight hexadecimal digits. -/
def quotedChar (quote character : Char) : List Char :=
  if character = quote || character = '\\' then ['\\', character]
  else
    match letterEscape? character.toNat with
    | some letter => ['\\', letter]
    | none =>
      if isPrintable character then [character]
      else if character.toNat < 0x100 then '\\' :: 'x' :: hexDigits 2 character.toNat
      else if character.toNat < 0x10000 then '\\' :: 'u' :: hexDigits 4 character.toNat
      else '\\' :: 'U' :: hexDigits 8 character.toNat

def quoted (text : String) : String :=
  let characters := text.toList
  let quote := quoteFor (characters.contains '\'') (characters.contains '"')
  String.ofList ([quote] ++ characters.flatMap (quotedChar quote) ++ [quote])

/-- One octet between quotes. An octet outside visible ASCII is written in two
hexadecimal digits. -/
def quotedOctet (quote : Char) (octet : UInt8) : List Char :=
  let character := Char.ofNat octet.toNat
  if character = quote || character = '\\' then ['\\', character]
  else
    match letterEscape? octet.toNat with
    | some letter => ['\\', letter]
    | none =>
      if 0x20 ≤ octet.toNat && octet.toNat < 0x7F then [character]
      else '\\' :: 'x' :: hexDigits 2 octet.toNat

def quotedOctets (octets : List UInt8) : String :=
  let quote := quoteFor (octets.contains 0x27) (octets.contains 0x22)
  String.ofList (['b', quote] ++ octets.flatMap (quotedOctet quote) ++ [quote])

end EventSourcing.Text
