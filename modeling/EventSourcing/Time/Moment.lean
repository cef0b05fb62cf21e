import EventSourcing.Time.Calendar

/-!
# Moments

A moment is a date and a time of day to the microsecond, with an offset from
universal time or without one. Moments with an offset stand on one time line:
`instant?` is the position there. Moments without an offset are compared by their
fields, and never equal one that has an offset. A moment does not know how the
offset changes with the seasons; that is said by a `Zone`, wherever local time goes
on.
-/

set_option autoImplicit false

namespace EventSourcing

def microsecondsPerSecond : Nat := 1000000

def secondsPerDay : Nat := 86400

def microsecondsPerDay : Nat := secondsPerDay * microsecondsPerSecond

structure TimeOfDay where
  hour : Nat
  minute : Nat
  second : Nat
  microsecond : Nat
  hourInRange : hour < 24 := by decide
  minuteInRange : minute < 60 := by decide
  secondInRange : second < 60 := by decide
  microsecondInRange : microsecond < microsecondsPerSecond := by decide
deriving DecidableEq, Repr

namespace TimeOfDay

def midnight : TimeOfDay := { hour := 0, minute := 0, second := 0, microsecond := 0 }

instance : Inhabited TimeOfDay := ⟨midnight⟩

/-- Which part of a time of day is impossible; the earliest is named. -/
inductive Fault where
  | hour
  | minute
  | second
  | microsecond
deriving DecidableEq, Repr

def Fault.message : Fault → String
  | .hour => "hour must be in 0..23"
  | .minute => "minute must be in 0..59"
  | .second => "second must be in 0..59"
  | .microsecond => "microsecond must be in 0..999999"

def of? (hour minute second microsecond : Nat) : Except Fault TimeOfDay :=
  if hourInRange : hour < 24 then
    if minuteInRange : minute < 60 then
      if secondInRange : second < 60 then
        if microsecondInRange : microsecond < microsecondsPerSecond then
          .ok { hour, minute, second, microsecond, hourInRange, minuteInRange,
                secondInRange, microsecondInRange }
        else .error .microsecond
      else .error .second
    else .error .minute
  else .error .hour

def sinceMidnight (time : TimeOfDay) : Nat :=
  ((time.hour * 60 + time.minute) * 60 + time.second) * microsecondsPerSecond + time.microsecond

def ofMicroseconds (microseconds : Nat) : TimeOfDay :=
  let seconds := microseconds / microsecondsPerSecond
  { hour := seconds / 3600 % 24
    minute := seconds / 60 % 60
    second := seconds % 60
    microsecond := microseconds % microsecondsPerSecond
    hourInRange := Nat.mod_lt _ (by decide)
    minuteInRange := Nat.mod_lt _ (by decide)
    secondInRange := Nat.mod_lt _ (by decide)
    microsecondInRange := Nat.mod_lt _ (by decide) }

end TimeOfDay

/-- A difference from universal time of less than a day, positive to the east. -/
structure Offset where
  microseconds : Int
  inRange : microseconds.natAbs < microsecondsPerDay := by decide
deriving DecidableEq, Repr

namespace Offset

def universal : Offset := { microseconds := 0 }

instance : Inhabited Offset := ⟨universal⟩

def of? (microseconds : Int) : Option Offset :=
  if inRange : microseconds.natAbs < microsecondsPerDay then some { microseconds, inRange }
  else none

end Offset

structure Moment where
  date : Date
  time : TimeOfDay
  offset : Option Offset
deriving DecidableEq, Repr, Inhabited

namespace Moment

def unixEpoch : Moment :=
  { date := .unixEpoch
    time := .midnight
    offset := some .universal }

/-- Microseconds from the day before the calendar starts to the local date and
time. -/
def localMicroseconds (moment : Moment) : Nat :=
  moment.date.dayNumber * microsecondsPerDay + moment.time.sinceMidnight

/-- The position on the time line in microseconds; only a moment with an offset
has one. -/
def instant? (moment : Moment) : Option Int :=
  moment.offset.map fun offset => (moment.localMicroseconds : Int) - offset.microseconds

def unixNanoseconds? (moment : Moment) : Option Int :=
  moment.instant?.map fun instant =>
    (instant - (unixEpoch.localMicroseconds : Int)) * 1000

/-- Two moments are the same when they are the same instant, or, without
offsets, have the same fields. -/
def same (left right : Moment) : Bool :=
  match left.instant?, right.instant? with
  | some leftInstant, some rightInstant => leftInstant = rightInstant
  | none, none => left.localMicroseconds = right.localMicroseconds
  | _, _ => false

/-- The local date and time a number of microseconds later, with the same offset,
or `none` when the calendar does not reach that far. -/
def shift? (moment : Moment) (microseconds : Int) : Option Moment :=
  let total := (moment.localMicroseconds : Int) + microseconds
  (Date.ofDayNumber? (total / microsecondsPerDay)).map fun date =>
    { moment with date, time := .ofMicroseconds (total % microsecondsPerDay).toNat }

end Moment

/-- How the offset depends on the local date and time. -/
inductive Zone where
  /-- Every moment keeps the offset that it has. -/
  | steady
  | varying (offsetAt : Date → TimeOfDay → Offset)

instance : Inhabited Zone := ⟨.steady⟩

/-- The offset in a zone at the local date and time of a moment. -/
def Zone.offsetAt (zone : Zone) (moment : Moment) : Option Offset :=
  match zone with
  | .steady => moment.offset
  | .varying offsetAt => some (offsetAt moment.date moment.time)

/-- The moment of the same local date and time in a zone. -/
def Zone.settle (zone : Zone) (moment : Moment) : Moment :=
  { moment with offset := zone.offsetAt moment }

end EventSourcing
