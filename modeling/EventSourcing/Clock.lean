import EventSourcing.System.Raise

/-!
# Clocks

A clock is the sequence of its readings and a place in it; a reading may be a
fault instead of a moment. A fixed clock shows one moment until it is advanced along
the local time of its zone.
-/

set_option autoImplicit false

namespace EventSourcing

inductive ClockKind where
  | fixed
  | system
  | ticking
deriving DecidableEq, Repr

def ClockKind.className : ClockKind → String
  | .fixed => "FixedClock"
  | .system => "SystemClock"
  | .ticking => "TickingClock"

structure Clock where
  kind : ClockKind
  readings : Nat → Except Raise Moment
  taken : Nat := 0
  zone : Zone := .steady

namespace Clock

def showing (moment : Moment) (zone : Zone := .steady) : Clock :=
  { kind := .fixed, readings := fun _ => .ok moment, zone }

instance : Inhabited Clock := ⟨showing default⟩

/-- A fixed clock; its moment needs an offset. -/
def fixed? (moment : Moment) (zone : Zone := .steady) : Except Fault Clock :=
  if moment.offset.isSome then .ok (showing moment zone) else .error .clockWithoutOffset

def read (clock : Clock) : Except Raise Moment × Clock :=
  (clock.readings clock.taken, { clock with taken := clock.taken + 1 })

def moved? (moment : Moment) (duration : Duration) : Except Fault Moment :=
  match moment.after? duration with
  | some later => .ok later
  | none => .error .outOfCalendar

/-- The duration of a number of seconds. Truth values count as one and zero. -/
def seconds? (seconds : Datum) : Except Fault Duration :=
  match seconds with
  | .bool value => (Duration.ofSeconds? (if value then 1 else 0)).mapError .duration
  | .int value => (Duration.ofSeconds? value).mapError .duration
  | .float value => (Duration.ofBinarySeconds? value).mapError .duration
  | .nan _ => .error (.duration .notANumber)
  | other => .error (.secondsNotNumber other.qualifiedKindName)

/-- The clock after it is advanced by a number of seconds; only a fixed clock can
be. The seconds are added to the local date and time, and the zone says which offset
there is then. A clock that cannot be advanced stays as it is. -/
def advance? (clock : Clock) (seconds : Datum) : Except Fault Clock := do
  match clock.kind, clock.readings clock.taken with
  | .fixed, .ok moment =>
    let later ← moved? moment (← seconds? seconds)
    return showing (clock.zone.settle later) clock.zone
  | kind, _ => throw (.lacksAttribute kind.className "advance")

end Clock

/-- Nanoseconds since the Unix epoch; they are counted only for moments with an
offset. -/
def unixNanoseconds (moment : Moment) : Except Fault Int :=
  match moment.unixNanoseconds? with
  | some nanoseconds => .ok nanoseconds
  | none => .error .mixedMoments

end EventSourcing
