import EventSourcing.Fault.Basic

/-!
# Events

An event records a change that has already happened: what happened, to which
stream it belongs, when it occurred and when it was stored, and the data needed to
redo the change. All parts are open data, because a log may hold anything in the
place of a name or an id, and its holder may assign anything to any part of an event
that is not stored yet; normally names and ids are texts.
-/

set_option autoImplicit false

namespace EventSourcing

/-- The contents of an event. A time is a moment, or null where there is none; a
payload is a mapping, which can only be read once the event is stored. -/
structure Event where
  name : Datum
  streamId : Datum := .text ""
  id : Datum := .text ""
  occurredOn : Datum := .null
  persistedAt : Datum := .null
  payload : Datum := .mapping []
deriving Repr

namespace Event

instance : Inhabited Event := ⟨{ name := .text "" }⟩

def same (left right : Event) : Bool :=
  left.name.same right.name && left.streamId.same right.streamId && left.id.same right.id &&
    left.occurredOn.same right.occurredOn && left.persistedAt.same right.persistedAt &&
    left.payload.same right.payload

def allStreams : AnyText := "*"

/-- An event belongs to a selection when that is its stream or every stream. -/
def matchesStream (event : Event) (streamId : AnyText) : Bool :=
  streamId = allStreams || event.streamId.same (.text streamId)

def literal (event : Event) : String :=
  "Event(name=" ++ event.name.literal ++ ", stream_id=" ++ event.streamId.literal ++
    ", id=" ++ event.id.literal ++ ", occurred_on=" ++ event.occurredOn.literal ++
    ", persisted_at=" ++ event.persistedAt.literal ++
    ", payload=" ++ event.payload.literal ++ ")"

end Event

end EventSourcing
