import EventSourcing.Store.Basic

/-!
# The contract of stores

What every store must do, as checks that can be run against any store: stored
events are replayed by stream and over all streams, later batches follow earlier
ones, streams are told apart exactly, and an empty batch changes nothing. A check
that fails raises a fault.
-/

set_option autoImplicit false

namespace EventSourcing.Contract

variable {D : Domain}

def expect (condition : Bool) : Act D Unit :=
  if condition then pure () else Act.throw .failedExpectation

def parameterName : Datum := .text "param"

def sample (name streamId value : String) : Act D (Ref .event) := do
  let event ← LiveEvent.create { name := .text name }
  LiveEvent.forStream event (.text streamId)
  LiveEvent.add event parameterName (.text value)
  return event

def history : Act D (List (Ref .event)) := do
  let first ← sample "test.run-1" "id" "value"
  let second ← sample "test.run-1" "other" "other"
  let third ← sample "test.run-2" "id" "new-value"
  return [first, second, third]

def seen (handlers : Handlers D) (store : Ref .store) (streamId : AnyText) :
    Act D (List Event) := do
  let events ← Store.replay handlers store streamId [] fun seen event => pure (seen ++ [event])
  Act.read fun system => events.map (LiveEvent.contentIn system)

def sameData (left right : List Datum) : Bool :=
  Datum.sameItems left right

def parameters : List Event → Act D (List Datum)
  | [] => pure []
  | event :: events => do
    let value ← Act.ofExcept ((event.payload.part parameterName).mapError .access)
    return value :: (← parameters events)

def allValues : List Datum := [.text "value", .text "other", .text "new-value"]

def laterBatches (handlers : Handlers D) (store : Ref .store) : Act D Unit := do
  let events ← history
  Store.append handlers store (events.take 1)
  Store.append handlers store (events.drop 1)
  let values ← parameters (← seen handlers store Event.allStreams)
  expect (sameData values allValues)

def byStream (handlers : Handlers D) (store : Ref .store) : Act D Unit := do
  Store.append handlers store (← history)
  let events ← seen handlers store "id"
  expect (sameData (events.map (·.name)) [.text "test.run-1", .text "test.run-2"])
  expect (sameData (← parameters events) [.text "value", .text "new-value"])
  expect (events.all fun event => event.streamId.same (.text "id"))

def overAllStreams (handlers : Handlers D) (store : Ref .store) : Act D Unit := do
  let stored ← history
  Store.append handlers store stored
  let events ← seen handlers store Event.allStreams
  let expected ← Act.read fun system => stored.map (LiveEvent.contentIn system)
  let identity (event : Event) : Datum := .tuple [event.name, event.streamId]
  expect (sameData (events.map identity) (expected.map identity))

def emptyBatch (handlers : Handlers D) (store : Ref .store) : Act D Unit := do
  Store.append handlers store (← history)
  Store.append handlers store []
  expect ((← seen handlers store Event.allStreams).length = 3)

def exactStream (handlers : Handlers D) (store : Ref .store) : Act D Unit := do
  Store.append handlers store (← history)
  let short ← seen handlers store "i"
  let starred ← seen handlers store "id*"
  expect (short ++ starred).isEmpty

def unknownStream (handlers : Handlers D) (store : Ref .store) : Act D Unit := do
  Store.append handlers store (← history)
  expect (← seen handlers store "missing").isEmpty

def checks (handlers : Handlers D) : List (String × (Ref .store → Act D Unit)) :=
  [("test_later_batches_are_appended_after_earlier_ones", laterBatches handlers),
    ("test_stored_events_can_be_replayed_by_stream_id", byStream handlers),
    ("test_stored_events_can_be_replayed_over_all_streams", overAllStreams handlers),
    ("test_storing_empty_batch_changes_nothing", emptyBatch handlers),
    ("test_stream_id_is_matched_exactly", exactStream handlers),
    ("test_unknown_stream_replays_nothing", unknownStream handlers)]

/-- Runs one check; answers the class of the fault when it fails. -/
def outcome (check : Ref .store → Act D Unit) (store : Ref .store) : Act D String := do
  match ← Act.attempt (check store) with
  | .ok () => return "pass"
  | .error fault => return (← Act.faultOf fault).className

/-- Runs every check on a store of its own, which `makeStore` makes for the number
of the check. -/
def run (handlers : Handlers D) (makeStore : Nat → Act D (Ref .store)) :
    Act D (List (String × String)) :=
  go 0 (checks handlers)
where
  go (number : Nat) :
      List (String × (Ref .store → Act D Unit)) → Act D (List (String × String))
    | [] => pure []
    | (name, check) :: rest => do
      let result ← outcome check (← makeStore number)
      return (name, result) :: (← go (number + 1) rest)

end EventSourcing.Contract
