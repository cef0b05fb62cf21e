import EventSourcing.Json.Basic
import EventSourcing.Number.DecimalText
import EventSourcing.Text.Hex

/-!
# Reading JSON text

`Json.parse?` reads one value that fills a text, blanks around it apart. Beyond
the standard it knows the words `NaN`, `Infinity` and `-Infinity`. A repeated
member keeps its first place and takes its last value; a number beyond the range
of binary numbers is infinite; a whole number has a greatest length, and arrays and
objects stand inside one another only so many levels deep. Half of a pair that is
escaped or stands in a text by itself is a part of it; two escaped halves that fit
are one character. A fault tells what was expected and where: line and column count
from one, the offset from zero, all in characters.
-/

set_option autoImplicit false

namespace EventSourcing.Json

inductive Reason where
  | expectedValue
  | expectedName
  | expectedColon
  | expectedComma
  | extraData
  | unterminatedText
  | controlCharacter
  | unknownEscape
  | malformedUnit
  | byteOrderMark
deriving DecidableEq, Repr

def Reason.message : Reason → String
  | .expectedValue => "Expecting value"
  | .expectedName => "Expecting property name enclosed in double quotes"
  | .expectedColon => "Expecting ':' delimiter"
  | .expectedComma => "Expecting ',' delimiter"
  | .extraData => "Extra data"
  | .unterminatedText => "Unterminated string starting at"
  | .controlCharacter => "Invalid control character at"
  | .unknownEscape => "Invalid \\escape"
  | .malformedUnit => "Invalid \\uXXXX escape"
  | .byteOrderMark => "Unexpected UTF-8 BOM (decode using utf-8-sig)"

def maxDigits : Nat := 4300

inductive Container where
  | array
  | object
deriving DecidableEq, Repr

def Container.name : Container → String
  | .array => "array"
  | .object => "object"

def maxNesting : Nat := 988

/-- Where reading stopped, by the number of characters that were left, or the
number of digits that were too many, or what was opened one level too deep. -/
inductive Stop where
  | at (reason : Reason) (remaining : Nat)
  | tooManyDigits (count : Nat)
  | tooDeep (container : Container)
deriving DecidableEq, Repr

inductive Fault where
  | malformed (reason : Reason) (line column offset : Nat)
  | tooManyDigits (count : Nat)
  | tooDeep (container : Container)
deriving DecidableEq, Repr

def Fault.message : Fault → String
  | .malformed reason line column offset =>
    s!"{reason.message}: line {line} column {column} (char {offset})"
  | .tooManyDigits count =>
    s!"Exceeds the limit ({maxDigits} digits) for integer string conversion: value has " ++
      s!"{count} digits; use sys.set_int_max_str_digits() to increase the limit"
  | .tooDeep container =>
    s!"maximum recursion depth exceeded while decoding a JSON {container.name} " ++
      "from a unicode string"

def Fault.atOffset (input : List Point) (reason : Reason) (offset : Nat) : Fault :=
  let before := input.take offset
  let column := (before.reverse.takeWhile (· ≠ .char '\n')).length + 1
  .malformed reason (before.count (.char '\n') + 1) column offset

def Stop.toFault (input : List Point) : Stop → Fault
  | .at reason remaining => .atOffset input reason (input.length - remaining)
  | .tooManyDigits count => .tooManyDigits count
  | .tooDeep container => .tooDeep container

def isSpace (character : Char) : Bool :=
  character = ' ' || character = '\t' || character = '\n' || character = '\r'

def skipSpace (input : List Point) : List Point :=
  input.dropWhile fun point => point.char?.any isSpace

def hexValue? (point : Point) : Option Nat :=
  point.char?.bind Text.hexValue?

def unit? (first second third fourth : Point) : Option Nat := do
  let upper := (← hexValue? first) * 16 + (← hexValue? second)
  let lower := (← hexValue? third) * 16 + (← hexValue? fourth)
  return upper * 0x100 + lower

def escaped? (letter : Char) : Option Char :=
  if letter = '"' || letter = '\\' || letter = '/' then some letter
  else if letter = 'b' then some (Char.ofNat 0x08)
  else if letter = 'f' then some (Char.ofNat 0x0C)
  else if letter = 'n' then some '\n'
  else if letter = 'r' then some '\r'
  else if letter = 't' then some '\t'
  else none

def isHighUnit (unit : Nat) : Bool :=
  0xD800 ≤ unit && unit ≤ 0xDBFF

def isLowUnit (unit : Nat) : Bool :=
  0xDC00 ≤ unit && unit ≤ 0xDFFF

/-- What a single unit stands for: a character, or half of a pair by itself. -/
def unitPoint (unit : Nat) : Point :=
  if paired : halfBase ≤ unit ∧ unit < halfBase + 0x800 then
    .half ⟨unit - halfBase, Nat.sub_lt_left_of_lt_add paired.1 paired.2⟩
  else .char (Char.ofNat unit)

def pairChar (high low : Nat) : Char :=
  Char.ofNat (0x10000 + (high - 0xD800) * 0x400 + (low - 0xDC00))

/-- Reads the rest of a text after its opening quote, which had `opening`
characters from it on. An escaped unit is followed by one more character at
least. -/
def readText (opening : Nat) : List Point → Except Stop (List Point × List Point)
  | [] => .error (.at .unterminatedText opening)
  | .char '"' :: rest => .ok ([], rest)
  | [.char '\\'] => .error (.at .unterminatedText opening)
  | .char '\\' :: .char 'u' :: h1 :: h2 :: h3 :: h4 :: next :: rest =>
    match unit? h1 h2 h3 h4 with
    | none => .error (.at .malformedUnit (rest.length + 6))
    | some high =>
      let single : Except Stop (List Point × List Point) := do
        let (points, rest) ← readText opening (next :: rest)
        return (unitPoint high :: points, rest)
      if !isHighUnit high then single
      else
        match next, rest with
        | .char '\\', .char 'u' :: l1 :: l2 :: l3 :: l4 :: after :: rest =>
          match unit? l1 l2 l3 l4 with
          | none => .error (.at .malformedUnit (rest.length + 6))
          | some low =>
            if isLowUnit low then do
              let (points, rest) ← readText opening (after :: rest)
              return (.char (pairChar high low) :: points, rest)
            else single
        | _, _ => single
  | .char '\\' :: letter :: rest =>
    if letter = .char 'u' then .error (.at .malformedUnit (rest.length + 1))
    else
      match letter.char?.bind escaped? with
      | none => .error (.at .unknownEscape (rest.length + 2))
      | some character => do
        let (points, rest) ← readText opening rest
        return (.char character :: points, rest)
  | point :: rest =>
    if point.char?.any (·.toNat < 0x20) then .error (.at .controlCharacter (rest.length + 1))
    else do
      let (points, rest) ← readText opening rest
      return (point :: points, rest)

/-- The digits of the whole part of a number and what follows: a zero alone, or
digits that start with another one. -/
def splitWhole? : List Char → Option (List Char × List Char)
  | '0' :: rest => some (['0'], rest)
  | input =>
    match input.takeWhile Text.isDigit with
    | [] => none
    | digits => some (digits, input.dropWhile Text.isDigit)

/-- The digits after a point, none when no digit follows it. -/
def splitFraction : List Char → List Char × List Char
  | '.' :: rest =>
    match rest.takeWhile Text.isDigit with
    | [] => ([], '.' :: rest)
    | digits => (digits, rest.dropWhile Text.isDigit)
  | input => ([], input)

def splitPower (input : List Char) : Option Int × List Char :=
  match input with
  | mark :: rest =>
    if mark = 'e' || mark = 'E' then
      let (negative, unsigned) :=
        match rest with
        | '-' :: unsigned => (true, unsigned)
        | '+' :: unsigned => (false, unsigned)
        | _ => (false, rest)
      match unsigned.takeWhile Text.isDigit with
      | [] => (none, input)
      | digits =>
        let power : Int := Text.digitsValue digits
        (some (if negative then -power else power), unsigned.dropWhile Text.isDigit)
    else (none, input)
  | [] => (none, input)

/-- Reads a number; `whole` follows its sign. -/
def readNumber (negative : Bool) (start : Nat) (input : List Char) :
    Except Stop (Json × List Char) :=
  match splitWhole? input with
  | none => .error (.at .expectedValue start)
  | some (whole, afterWhole) =>
    let (fraction, afterFraction) := splitFraction afterWhole
    let (power, rest) := splitPower afterFraction
    if fraction.isEmpty && power.isNone then
      if maxDigits < whole.length then .error (.tooManyDigits whole.length)
      else
        let value : Int := Text.digitsValue whole
        .ok (.int (if negative then -value else value), rest)
    else .ok (.float (DecimalText.toBinary negative whole fraction (power.getD 0)), rest)

/-- Reads a word or a number at the start of characters, which `start` points begin
with. -/
def readWord (start : Nat) (input : List Char) : Except Stop (Json × List Char) :=
  match input with
  | 'n' :: 'u' :: 'l' :: 'l' :: rest => .ok (.null, rest)
  | 't' :: 'r' :: 'u' :: 'e' :: rest => .ok (.bool true, rest)
  | 'f' :: 'a' :: 'l' :: 's' :: 'e' :: rest => .ok (.bool false, rest)
  | 'N' :: 'a' :: 'N' :: rest => .ok (.nan, rest)
  | 'I' :: 'n' :: 'f' :: 'i' :: 'n' :: 'i' :: 't' :: 'y' :: rest =>
    .ok (.float (.infinite false), rest)
  | '-' :: 'I' :: 'n' :: 'f' :: 'i' :: 'n' :: 'i' :: 't' :: 'y' :: rest =>
    .ok (.float (.infinite true), rest)
  | '-' :: rest => readNumber true start rest
  | _ => readNumber false start input

/-- Reads a value that is neither a text nor made of parts. No half belongs to it. -/
def readScalar (input : List Point) : Except Stop (Json × List Point) := do
  let (characters, beyond) := Point.splitChars input
  let (value, rest) ← readWord input.length characters
  return (value, rest.map .char ++ beyond)

mutual

/-- Reads a value at the start of a text. Every call takes one unit of `fuel`, and
`room` is the number of levels that may still be opened. -/
def readValue : Nat → Nat → List Point → Except Stop (Json × List Point)
  | 0, _, input => .error (.at .expectedValue input.length)
  | fuel + 1, room, input =>
    match input, room with
    | .char '"' :: rest, _ => do
      let (points, rest) ← readText input.length rest
      return (.text (.ofPoints points), rest)
    | .char '[' :: _, 0 => .error (.tooDeep .array)
    | .char '[' :: rest, room + 1 =>
      match skipSpace rest with
      | .char ']' :: rest => .ok (.array [], rest)
      | body => do
        let (items, rest) ← readItems fuel room body
        return (.array items, rest)
    | .char '\x7b' :: _, 0 => .error (.tooDeep .object)
    | .char '\x7b' :: rest, room + 1 =>
      match skipSpace rest with
      | .char '\x7d' :: rest => .ok (.object [], rest)
      | body => do
        let (members, rest) ← readMembers fuel room body
        return (.object (members.foldl (fun known member => putMember member.1 member.2 known) []),
          rest)
    | input, _ => readScalar input

def readItems : Nat → Nat → List Point → Except Stop (List Json × List Point)
  | 0, _, input => .error (.at .expectedValue input.length)
  | fuel + 1, room, input => do
    let (item, rest) ← readValue fuel room input
    match skipSpace rest with
    | .char ']' :: rest => return ([item], rest)
    | .char ',' :: rest => do
      let (items, rest) ← readItems fuel room (skipSpace rest)
      return (item :: items, rest)
    | rest => throw (.at .expectedComma rest.length)

def readMembers : Nat → Nat → List Point → Except Stop (List (AnyText × Json) × List Point)
  | 0, _, input => .error (.at .expectedValue input.length)
  | fuel + 1, room, input =>
    match input with
    | .char '"' :: rest => do
      let (name, rest) ← readText input.length rest
      match skipSpace rest with
      | .char ':' :: rest => do
        let (value, rest) ← readValue fuel room (skipSpace rest)
        let member := (AnyText.ofPoints name, value)
        match skipSpace rest with
        | .char '\x7d' :: rest => return ([member], rest)
        | .char ',' :: rest => do
          let (members, rest) ← readMembers fuel room (skipSpace rest)
          return (member :: members, rest)
        | rest => throw (.at .expectedComma rest.length)
      | rest => throw (.at .expectedColon rest.length)
    | input => .error (.at .expectedName input.length)

end

/-- The units of fuel that reading a text never uses up: every two calls in a row
take at least one character. -/
def fuelFor (input : List Point) : Nat :=
  2 * input.length + 2

def readAll (room : Nat) (input : List Point) : Except Stop Json := do
  let body := skipSpace input
  let (value, rest) ← readValue (fuelFor input) room body
  match skipSpace rest with
  | [] => return value
  | rest => throw (.at .extraData rest.length)

/-- The value of at most `room` levels that a text denotes. A byte order mark in
front is refused. -/
def parseWithin? (room : Nat) (text : AnyText) : Except Fault Json :=
  let input := text.points
  if input.head? = some (.char (Char.ofNat 0xFEFF)) then .error (.atOffset input .byteOrderMark 0)
  else (readAll room input).mapError (Stop.toFault input)

def parse? (text : AnyText) : Except Fault Json :=
  parseWithin? maxNesting text

end EventSourcing.Json
