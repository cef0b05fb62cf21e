import EventSourcing.Json.Basic
import EventSourcing.Number.DecimalText
import EventSourcing.Text.Quoted

/-!
# JSON text

`Json.render` writes a value on one line, with a blank after each comma and
colon. Quotes, backslashes and control characters are escaped in every text; the
style says whether characters outside ASCII are escaped as well, those beyond
the first plane as two units. Then no half of a pair is left in the text; otherwise
halves stand in it as they do in the value.
-/

set_option autoImplicit false

namespace EventSourcing.Json

/-- Which characters outside the controls are escaped. -/
inductive Style where
  | unicode
  /-- The text consists of visible ASCII characters and blanks. -/
  | ascii
deriving DecidableEq, Repr

def unitEscape (unit : Nat) : List Char :=
  '\\' :: 'u' :: Text.hexDigits 4 unit

/-- The escape of a character by its code point, in two units beyond `U+FFFF`. -/
def codeEscape (code : Nat) : List Char :=
  if code < 0x10000 then unitEscape code
  else
    unitEscape (0xD800 + (code - 0x10000) / 0x400) ++
      unitEscape (0xDC00 + (code - 0x10000) % 0x400)

def Style.keeps (style : Style) (character : Char) : Bool :=
  0x20 ≤ character.toNat && (style = .unicode || character.toNat < 0x7F)

def renderChar (style : Style) (character : Char) : List Char :=
  if character = '"' then ['\\', '"']
  else if character = '\\' then ['\\', '\\']
  else if style.keeps character then [character]
  else if character = '\n' then ['\\', 'n']
  else if character = '\r' then ['\\', 'r']
  else if character = '\t' then ['\\', 't']
  else if character.toNat = 0x08 then ['\\', 'b']
  else if character.toNat = 0x0C then ['\\', 'f']
  else codeEscape character.toNat

def renderPoint (style : Style) : Point → List Point
  | .char character => (renderChar style character).map .char
  | .half half =>
    match style with
    | .unicode => [.half half]
    | .ascii => (unitEscape (Point.half half).code).map .char

def renderText (style : Style) (text : AnyText) : List Point :=
  .char '"' :: text.points.flatMap (renderPoint style) ++ [.char '"']

mutual

def renderPoints (style : Style) : Json → List Point
  | .null => "null".toList.map .char
  | .bool value => (if value then "true" else "false").toList.map .char
  | .int value => (DecimalText.ofInt value).map .char
  | .float value => (DecimalText.ofBinary "Infinity".toList value).map .char
  | .nan => "NaN".toList.map .char
  | .text value => renderText style value
  | .array [] => [.char '[', .char ']']
  | .array (item :: items) =>
    .char '[' :: renderPoints style item ++ renderItems style items ++ [.char ']']
  | .object [] => [.char '\x7b', .char '\x7d']
  | .object ((name, value) :: members) =>
    .char '\x7b' :: renderText style name ++ .char ':' :: .char ' ' :: renderPoints style value ++
      renderMembers style members ++ [.char '\x7d']

def renderItems (style : Style) : List Json → List Point
  | [] => []
  | item :: items =>
    .char ',' :: .char ' ' :: renderPoints style item ++ renderItems style items

def renderMembers (style : Style) : List (AnyText × Json) → List Point
  | [] => []
  | (name, value) :: members =>
    .char ',' :: .char ' ' :: renderText style name ++
      .char ':' :: .char ' ' :: renderPoints style value ++ renderMembers style members

end

def render (style : Style) (json : Json) : AnyText :=
  .ofPoints (renderPoints style json)

end EventSourcing.Json
