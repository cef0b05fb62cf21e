import EventSourcing.Number.Binary64
import EventSourcing.Number.DecimalText
import EventSourcing.Time.Moment

/-!
# Durations

A duration is a whole number of microseconds of less than a thousand million
days either way. A whole number of seconds is exact. A binary number of seconds
is split into its whole seconds, which are exact, and its fraction, which is
rounded to microseconds, ties to the even one.
-/

set_option autoImplicit false

namespace EventSourcing

/-- A length of time in microseconds, negative into the past. -/
structure Duration where
  microseconds : Int
deriving DecidableEq, Repr, Inhabited

namespace Duration

inductive Fault where
  | notANumber
  | infinite
  | tooManyDays (days : Int)
  | uncountableDays
deriving DecidableEq, Repr

def maxDays : Nat := 999999999

/-- Days are counted in a signed word of thirty-two bits; their number lies below
this. -/
def dayCountBound : Int := 2147483648

def Fault.message : Fault → String
  | .notANumber => "cannot convert float NaN to integer"
  | .infinite => "cannot convert float infinity to integer"
  | .tooManyDays days => s!"days={days}; must have magnitude <= {maxDays}"
  | .uncountableDays => "Python int too large to convert to C int"

/-- A number of microseconds as a duration. The days are counted first, and must
fit a signed word of thirty-two bits before their number is judged. -/
def ofMicroseconds? (microseconds : Int) : Except Fault Duration :=
  let days := microseconds / microsecondsPerDay
  if days < -dayCountBound ∨ dayCountBound ≤ days then .error .uncountableDays
  else if maxDays < days.natAbs then .error (.tooManyDays days)
  else .ok ⟨microseconds⟩

def ofSeconds? (seconds : Int) : Except Fault Duration :=
  ofMicroseconds? (seconds * microsecondsPerSecond)

/-- The microseconds of a fraction of a second `numerator / denominator`: the
nearest binary number to their exact number, rounded to a whole number. -/
def fractionMicroseconds (numerator denominator : Nat) : Nat :=
  match Binary64.ofRatio false (numerator * microsecondsPerSecond) denominator with
  | .infinite _ => 0
  | .finite _ mantissa exponent =>
    let (top, bottom) := Binary64.ratio mantissa exponent
    Binary64.roundHalfEven top bottom

def ofBinarySeconds? : Binary64 → Except Fault Duration
  | .infinite _ => .error .infinite
  | .finite negative mantissa exponent =>
    let (top, bottom) := Binary64.ratio mantissa exponent
    let microseconds := top / bottom * microsecondsPerSecond +
      fractionMicroseconds (top % bottom) bottom
    ofMicroseconds? (if negative then -(microseconds : Int) else microseconds)

/-- The duration as its days, seconds and microseconds, the last two not
negative, leaving out those that are zero. -/
def literal (duration : Duration) : String :=
  let days := duration.microseconds / microsecondsPerDay
  let rest := (duration.microseconds % microsecondsPerDay).toNat
  let part (name : String) (value : Int) : List String :=
    if value = 0 then [] else [name ++ "=" ++ toString value]
  let parts := part "days" days ++ part "seconds" (rest / microsecondsPerSecond : Nat) ++
    part "microseconds" (rest % microsecondsPerSecond : Nat)
  let shown := if parts.isEmpty then "0" else ", ".intercalate parts
  "datetime.timedelta(" ++ shown ++ ")"

end Duration

namespace Moment

def after? (moment : Moment) (duration : Duration) : Option Moment :=
  moment.shift? duration.microseconds

end Moment

end EventSourcing
