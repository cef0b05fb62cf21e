import EventSourcing.Number.DecimalText
import EventSourcing.Text.Digit
import EventSourcing.Time.Duration

/-!
# ISO 8601 text of moments

`Moment.isoText` writes a moment as date, separator, time and offset; fraction
and offset seconds are left out while they are zero. `Moment.ofIsoText?` reads
that form and the others of the standard: dates by month or by week, with or
without dashes, times of two, four or six digits, with or without colons and with
a fraction of any length.
-/

set_option autoImplicit false

namespace EventSourcing

open DecimalText (padded)

def Date.isoChars (date : Date) : List Char :=
  padded 4 date.year ++ '-' :: (padded 2 date.month ++ '-' :: padded 2 date.day)

/-- A point and six digits, or nothing for zero. -/
def fractionChars (microsecond : Nat) : List Char :=
  if microsecond = 0 then [] else '.' :: padded 6 microsecond

def TimeOfDay.isoChars (time : TimeOfDay) : List Char :=
  padded 2 time.hour ++ ':' :: (padded 2 time.minute ++ ':' :: padded 2 time.second) ++
    fractionChars time.microsecond

/-- The offset as a sign, hours and minutes; seconds only when there are any. -/
def Offset.isoChars (offset : Offset) : List Char :=
  let size := offset.microseconds.natAbs
  let seconds := size / microsecondsPerSecond
  let microsecond := size % microsecondsPerSecond
  let sign := if offset.microseconds < 0 then '-' else '+'
  let finer :=
    if seconds % 60 = 0 ∧ microsecond = 0 then []
    else ':' :: padded 2 (seconds % 60) ++ fractionChars microsecond
  sign :: padded 2 (seconds / 3600) ++ ':' :: padded 2 (seconds / 60 % 60) ++ finer

namespace Moment

def isoChars (moment : Moment) (separator : Char) : List Char :=
  moment.date.isoChars ++ separator :: moment.time.isoChars ++
    (moment.offset.map Offset.isoChars).getD []

def isoText (moment : Moment) : String :=
  String.ofList (moment.isoChars 'T')

end Moment

namespace IsoText

/-- Why a text is no moment: it has not the form of one, or a part of it is out
of range. -/
inductive Fault where
  | malformed
  | offset (microseconds : Int)
  | date (fault : Date.Fault)
  | time (fault : TimeOfDay.Fault)
deriving DecidableEq, Repr

/-- Where the date ends in a week date whose year is followed by a dash. The
first digits after a second dash decide whether it belongs to the date. -/
def dashedWeekEnd? (text : List Char) : Option Nat :=
  if text[8]? = some '-' then
    if text.length = 9 then none
    else if (text[10]?.map Text.isDigit).getD false then some 8
    else some 10
  else some 8

/-- Where the date ends in a week date without dashes: an odd number of digits
after the week's belongs to the time, less one for the day. -/
def plainWeekEnd (text : List Char) : Nat :=
  let last := 7 + ((text.drop 7).takeWhile Text.isDigit).length
  if last < 9 then last else if last % 2 = 0 then 7 else 8

def dateEnd? (text : List Char) : Option Nat :=
  if text.length = 7 then some 7
  else if text[4]? = some '-' then
    if text[5]? = some 'W' then dashedWeekEnd? text else some 10
  else if text[4]? = some 'W' then some (plainWeekEnd text)
  else some 8

def readDate? : List Char → Option (Nat × Nat × Nat)
  | [y1, y2, y3, y4, '-', 'W', w1, w2] => week? [y1, y2, y3, y4] [w1, w2] ['1']
  | [y1, y2, y3, y4, '-', 'W', w1, w2, '-', d] => week? [y1, y2, y3, y4] [w1, w2] [d]
  | [y1, y2, y3, y4, 'W', w1, w2] => week? [y1, y2, y3, y4] [w1, w2] ['1']
  | [y1, y2, y3, y4, 'W', w1, w2, d] => week? [y1, y2, y3, y4] [w1, w2] [d]
  | [y1, y2, y3, y4, '-', m1, m2, '-', d1, d2] => month? [y1, y2, y3, y4] [m1, m2] [d1, d2]
  | [y1, y2, y3, y4, m1, m2, d1, d2] => month? [y1, y2, y3, y4] [m1, m2] [d1, d2]
  | _ => none
where
  week? (year week day : List Char) : Option (Nat × Nat × Nat) := do
    Date.partsOfWeek? (← Text.digitsValue? year) (← Text.digitsValue? week)
      (← Text.digitsValue? day)
  month? (year month day : List Char) : Option (Nat × Nat × Nat) := do
    return (← Text.digitsValue? year, ← Text.digitsValue? month, ← Text.digitsValue? day)

/-- Microseconds of a fraction: its first six digits, zeros added on the right. -/
def readFraction? : List Char → Option Nat
  | [] => some 0
  | mark :: digits =>
    if (mark = '.' ∨ mark = ',') ∧ digits ≠ [] ∧ digits.all Text.isDigit then
      some (Text.digitsValue ((digits ++ List.replicate 6 '0').take 6))
    else none

def readTime? : List Char → Option (Nat × Nat × Nat × Nat)
  | [h1, h2] => parts? [h1, h2] ['0'] ['0'] []
  | [h1, h2, ':', m1, m2] => parts? [h1, h2] [m1, m2] ['0'] []
  | [h1, h2, m1, m2] => parts? [h1, h2] [m1, m2] ['0'] []
  | h1 :: h2 :: ':' :: m1 :: m2 :: ':' :: s1 :: s2 :: fraction =>
    parts? [h1, h2] [m1, m2] [s1, s2] fraction
  | h1 :: h2 :: m1 :: m2 :: s1 :: s2 :: fraction =>
    parts? [h1, h2] [m1, m2] [s1, s2] fraction
  | _ => none
where
  parts? (hour minute second fraction : List Char) : Option (Nat × Nat × Nat × Nat) := do
    return (← Text.digitsValue? hour, ← Text.digitsValue? minute,
      ← Text.digitsValue? second, ← readFraction? fraction)

def startsOffset (character : Char) : Bool :=
  character = '+' || character = '-' || character = 'Z'

def readOffset? : List Char → Option (Option Int)
  | [] => some none
  | ['Z'] => some (some 0)
  | 'Z' :: _ => none
  | sign :: text => do
    let (hour, minute, second, microsecond) ← readTime? text
    let size := ((hour * 60 + minute) * 60 + second) * microsecondsPerSecond + microsecond
    return some (if sign = '-' then -(size : Int) else size)

structure Parts where
  date : Nat × Nat × Nat
  time : Nat × Nat × Nat × Nat
  offset : Option Int

/-- The parts of a text that has the form of a moment. A date alone, also with a
separator after it, is the start of its day. -/
def readParts? (text : List Char) : Option Parts := do
  if text.length < 7 then none
  let dateLength ← dateEnd? text
  let date ← readDate? (text.take dateLength)
  match text.drop (dateLength + 1) with
  | [] => return { date, time := (0, 0, 0, 0), offset := none }
  | rest =>
    let time ← readTime? (rest.takeWhile (! startsOffset ·))
    let offset ← readOffset? (rest.dropWhile (! startsOffset ·))
    return { date, time, offset }

/-- The moment with the given parts. The offset is checked first, then the date,
then the time. -/
def Parts.toMoment? (parts : Parts) : Except Fault Moment := do
  let offset ←
    match parts.offset with
    | none => pure none
    | some microseconds =>
      match Offset.of? microseconds with
      | some offset => pure (some offset)
      | none => throw (.offset microseconds)
  let (year, month, day) := parts.date
  let date ← (Date.of? year month day).mapError .date
  let (hour, minute, second, microsecond) := parts.time
  let time ← (TimeOfDay.of? hour minute second microsecond).mapError .time
  return { date, time, offset }

/-- The fault as a sentence, about a text that is shown quoted. -/
def Fault.message (quoted : String) : Fault → String
  | .malformed => "Invalid isoformat string: " ++ quoted
  | .offset microseconds =>
    "offset must be a timedelta strictly between -timedelta(hours=24) and " ++
      "timedelta(hours=24), not " ++ Duration.literal ⟨microseconds⟩ ++ "."
  | .date fault => fault.message
  | .time fault => fault.message

end IsoText

def Moment.ofIsoText? (text : List Char) : Except IsoText.Fault Moment :=
  match IsoText.readParts? text with
  | some parts => parts.toMoment?
  | none => .error .malformed

end EventSourcing
