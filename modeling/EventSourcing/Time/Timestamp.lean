import EventSourcing.Text.AnyText
import EventSourcing.Text.Blank
import EventSourcing.Time.IsoText

/-!
# Timestamps

The timestamp text of logs and parameters. Reading is more generous than the ISO
forms: blanks around the text do not count, a final `Z` of either case stands for
the offset zero, and a fraction may have any number of digits, of which those
after the sixth are dropped. An empty text is no timestamp and no fault. Any character
may separate the date from the time, also half of a pair.
-/

set_option autoImplicit false

namespace EventSourcing.Timestamp

structure Fault where
  text : AnyText
  reason : IsoText.Fault
deriving DecidableEq, Repr

def Fault.message (fault : Fault) : String :=
  fault.reason.message fault.text.quoted

def expandZulu (text : List Char) : List Char :=
  if text.getLast? = some 'Z' ∨ text.getLast? = some 'z' then
    text.dropLast ++ "+00:00".toList
  else text

/-- The digits of the first fraction brought to six: further ones dropped, missing
ones filled with zeros. A fraction is a point before a decimal digit of any
script. -/
def fixFraction : List Char → List Char
  | [] => []
  | character :: rest =>
    let digits := rest.takeWhile Text.isAnyDigit
    if character = '.' ∧ digits ≠ [] then
      '.' :: ((digits ++ List.replicate 6 '0').take 6 ++ rest.dropWhile Text.isAnyDigit)
    else character :: fixFraction rest

def normalize (text : List Char) : List Char :=
  fixFraction (expandZulu (Text.stripChars text))

/-- The moment that a text names, or none for the empty text. -/
def parse? (text : String) : Except Fault (Option Moment) :=
  if text.isEmpty then .ok none
  else
    let normalized := normalize text.toList
    match Moment.ofIsoText? normalized with
    | .ok moment => .ok (some moment)
    | .error reason => .error { text := String.ofList normalized, reason }

/-! ## Broken texts -/

/-- The character that a half is read as while a text is normalized: like a half, it is
no blank and belongs neither to a fraction nor to an offset. -/
def standIn : Point → Char
  | .char character => character
  | .half _ => Char.ofNat 0xFFFD

/-- The points that characters stand in for, given those with the same stand-in as a
half in their order. -/
def restore : List Char → List Point → List Point
  | character :: characters, mark :: marks =>
    if standIn mark = character then mark :: restore characters marks
    else .char character :: restore characters (mark :: marks)
  | characters, _ => characters.map .char

def normalizeBroken (text : BrokenText) : List Point :=
  let marks := text.points.filter (standIn · = Char.ofNat 0xFFFD)
  restore (normalize (text.points.map standIn)) marks

/-- Where a date can end. -/
def separatorPlaces : List Nat := [7, 8, 10]

/-- The points with the letter `T` in the place of a half that separates. -/
def replaceSeparator (points : List Point) : List Point :=
  match separatorPlaces.find? fun place => points[place]?.any (·.char?.isNone) with
  | some place => points.set place (.char 'T')
  | none => points

def parseBroken? (text : BrokenText) : Except Fault (Option Moment) :=
  let normalized := normalizeBroken text
  let outcome :=
    match Point.chars? (replaceSeparator normalized) with
    | some characters => Moment.ofIsoText? characters
    | none => .error .malformed
  match outcome with
  | .ok moment => .ok (some moment)
  | .error reason => .error { text := .ofPoints normalized, reason }

def parseAny? : AnyText → Except Fault (Option Moment)
  | .whole text => parse? text
  | .broken text => parseBroken? text

def format? (moment : Option Moment) : Option String :=
  moment.map Moment.isoText

end EventSourcing.Timestamp
