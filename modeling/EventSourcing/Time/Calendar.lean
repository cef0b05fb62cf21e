/-!
# The Gregorian calendar

Dates of the years 1 to 9999 and their day numbers: the first day of year 1 has
number 1 and every day one more than the day before. `Date.ofDayNumber?` is the
way back. Dates can also be named by a week of a year and a day of that week.
-/

set_option autoImplicit false

namespace EventSourcing

/-- Every fourth year is a leap year, except the centuries that four hundred
does not divide. -/
def isLeapYear (year : Nat) : Bool :=
  year % 4 = 0 && (year % 100 ≠ 0 || year % 400 = 0)

def daysInMonth (year month : Nat) : Nat :=
  if month = 2 then (if isLeapYear year then 29 else 28)
  else if month = 4 ∨ month = 6 ∨ month = 9 ∨ month = 11 then 30
  else 31

def daysBeforeYear (year : Nat) : Nat :=
  let past := year - 1
  past * 365 + past / 4 - past / 100 + past / 400

def daysBeforeMonth (year : Nat) : Nat → Nat
  | 0 => 0
  | 1 => 0
  | month + 2 => daysBeforeMonth year (month + 1) + daysInMonth year (month + 1)

def lastYear : Nat := 9999

structure Date where
  year : Nat
  month : Nat
  day : Nat
  yearInRange : 1 ≤ year ∧ year ≤ lastYear := by decide
  monthInRange : 1 ≤ month ∧ month ≤ 12 := by decide
  dayInRange : 1 ≤ day ∧ day ≤ daysInMonth year month := by decide
deriving DecidableEq, Repr

namespace Date

def first : Date := { year := 1, month := 1, day := 1 }

def unixEpoch : Date := { year := 1970, month := 1, day := 1 }

instance : Inhabited Date := ⟨first⟩

/-- Which part of a year, month and day is impossible; the earliest is named. -/
inductive Fault where
  | year (value : Nat)
  | month
  | day
deriving DecidableEq, Repr

def Fault.message : Fault → String
  | .year value => s!"year {value} is out of range"
  | .month => "month must be in 1..12"
  | .day => "day is out of range for month"

def of? (year month day : Nat) : Except Fault Date :=
  if yearInRange : 1 ≤ year ∧ year ≤ lastYear then
    if monthInRange : 1 ≤ month ∧ month ≤ 12 then
      if dayInRange : 1 ≤ day ∧ day ≤ daysInMonth year month then
        .ok { year, month, day, yearInRange, monthInRange, dayInRange }
      else .error .day
    else .error .month
  else .error (.year year)

def dayNumber (date : Date) : Nat :=
  daysBeforeYear date.year + daysBeforeMonth date.year date.month + date.day

/-- The year that holds the day with `days` days before it. The average year
length gives it up to one. -/
def yearAfter (days : Nat) : Nat :=
  let guess := days * 400 / 146097 + 1
  if days < daysBeforeYear guess then guess - 1
  else if daysBeforeYear (guess + 1) ≤ days then guess + 1
  else guess

/-- The month and day reached `days` days after the first of a month, within the
next `months` months. -/
def monthAfter (year month days : Nat) : Nat → Nat × Nat
  | 0 => (month, days + 1)
  | months + 1 =>
    if days < daysInMonth year month then (month, days + 1)
    else monthAfter year (month + 1) (days - daysInMonth year month) months

def partsAfter (days : Nat) : Nat × Nat × Nat :=
  let year := yearAfter days
  let (month, day) := monthAfter year 1 (days - daysBeforeYear year) 11
  (year, month, day)

def ofDayNumber? (number : Int) : Option Date :=
  if 1 ≤ number then
    let (year, month, day) := partsAfter (number.toNat - 1)
    (of? year month day).toOption
  else none

def newYear (year : Nat) : Nat :=
  daysBeforeYear year + 1

def weekday (number : Nat) : Nat :=
  (number + 6) % 7

/-- A year has a fifty-third week when it starts on a Thursday, and a leap year
also when it starts on a Wednesday. -/
def hasLongWeekYear (year : Nat) : Bool :=
  weekday (newYear year) = 3 || (weekday (newYear year) = 2 && isLeapYear year)

/-- Day number of the Monday of the week that holds the first Thursday of a year.
For year 1 it is the first day of the calendar. -/
def firstMonday (year : Nat) : Nat :=
  let first := newYear year
  let start := weekday first
  if 3 < start then first + 7 - start else first - start

/-- Year, month and day of a day (Monday being 1) of a week of a year, or `none`
when there is no such week or day. -/
def partsOfWeek? (year week day : Nat) : Option (Nat × Nat × Nat) :=
  if 1 ≤ year ∧ 1 ≤ week ∧ (week ≤ 52 ∨ week = 53 ∧ hasLongWeekYear year) ∧ 1 ≤ day ∧ day ≤ 7 then
    some (partsAfter (firstMonday year + (week - 1) * 7 + (day - 1) - 1))
  else none

end Date

end EventSourcing
