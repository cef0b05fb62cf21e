import EventSourcing.Clock

/-!
# Ticking clocks

A clock for tests that moves on by a fixed number of seconds after every reading
and can be told to fail from some reading on.
-/

set_option autoImplicit false

namespace EventSourcing.Clock

/-- Reading `taken` of a ticking clock, the first being number zero. The clock must
be able to move on after a reading, or the reading fails. -/
def tickingReading (start : Moment) (step : Except Fault Duration)
    (failure : Option (Nat × Raise)) (taken : Nat) : Except Raise Moment :=
  let shown : Except Fault Moment := do
    let duration ← step
    let now ← moved? start ⟨duration.microseconds * taken⟩
    let _ ← moved? now duration
    return now
  match failure with
  | some (first, fault) =>
    if first ≤ taken + 1 then .error fault else shown.mapError .fresh
  | none => shown.mapError .fresh

/-- A clock that starts at a moment, moves by a number of seconds after every
reading, and raises a fault from reading number `failure` on. -/
def ticking? (start : Moment) (step : Datum) (failure : Option (Nat × Raise)) :
    Except Fault Clock := do
  let _ ← fixed? start
  return { kind := .ticking, readings := tickingReading start (seconds? step) failure }

end EventSourcing.Clock
