import EventSourcing.System.Basic

/-!
# Results of commands

What sending a command led to: a fault, or the receiver's id and the events that
were stored, with the projections that failed on them. A result with failed
projections carries the first of their faults and still says what was stored.
-/

set_option autoImplicit false

namespace EventSourcing

structure ProjectionFailure where
  projection : String
  eventName : Datum
  error : String
  errorType : String
  exception : Option (Ref .fault) := none

namespace ProjectionFailure

def toDatum (failure : ProjectionFailure) : Datum :=
  .mapping [(.text "projection", .text failure.projection),
    (.text "event_name", failure.eventName), (.text "error", .text failure.error),
    (.text "error_type", .text failure.errorType)]

def literal (failure : ProjectionFailure) : String :=
  "ProjectionFailure(projection=" ++ Text.quoted failure.projection ++
    ", event_name=" ++ failure.eventName.literal ++ ", error=" ++ Text.quoted failure.error ++
    ", error_type=" ++ Text.quoted failure.errorType ++ ")"

/-- Equality of everything but the fault itself. -/
def same (left right : ProjectionFailure) : Bool :=
  left.projection = right.projection && left.eventName.same right.eventName &&
    left.error = right.error && left.errorType = right.errorType

end ProjectionFailure

structure CommandResult where
  error : Option (Ref .fault) := none
  aggregateId : String := ""
  events : List (Ref .event) := []
  failures : List ProjectionFailure := []

namespace CommandResult

def failure (error : Ref .fault) : CommandResult :=
  { error := some error }

/-- Events were stored. A failed projection still makes its fault the error. -/
def success (aggregateId : String) (events : List (Ref .event))
    (failures : List ProjectionFailure) : CommandResult :=
  { error := failures.findSome? (·.exception), aggregateId, events, failures }

def isOk (result : CommandResult) : Bool :=
  result.error.isNone

end CommandResult

/-- What a rebuild counted: the events, and the calls of projections that returned and that
failed. -/
structure ReplayResult where
  processed : Nat := 0
  dispatched : Nat := 0
  failed : Nat := 0
  failures : List ProjectionFailure := []

namespace ReplayResult

def isSuccess (result : ReplayResult) : Bool :=
  result.failed = 0

end ReplayResult

end EventSourcing
