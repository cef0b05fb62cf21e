import EventSourcing.Event.Basic
import EventSourcing.Json.Writer

/-!
# Log lines

An event as one line of JSON and back. A line is an object with six members in a
fixed order; timestamps are text, or null where there are none. Only payloads
whose keys are texts at every level are written, since JSON would turn other keys
into texts. Reading takes anything void for a missing value and does not ask what
kind of value a name or an id is.
-/

set_option autoImplicit false

namespace EventSourcing

namespace Datum

mutual

/-- The first key, in the order of the value's parts, that is not a text. Sets
are not looked into. -/
def badKey? : Datum → Option Datum
  | .mapping entries => badEntryKey? entries
  | .frozen entries => badEntryKey? entries
  | .list items => badItemKey? items
  | .tuple items => badItemKey? items
  | _ => none

def badItemKey? : List Datum → Option Datum
  | [] => none
  | item :: items => (badKey? item).orElse fun _ => badItemKey? items

def badEntryKey? : List (Datum × Datum) → Option Datum
  | [] => none
  | (key, value) :: entries =>
    if key.text?.isNone then some key
    else (badKey? value).orElse fun _ => badEntryKey? entries

end

/-- The whole number as JSON; the text of a number has a greatest length. -/
def intToJson? (value : Int) : Except Unencodable Json :=
  if Json.maxDigits < Decimal.length value.natAbs then .error .tooManyDigits
  else .ok (.int value)

/-- The name of an object's member from a key. Scalars other than texts become
the text that JSON has for them. -/
def memberName? : Datum → Except Unencodable AnyText
  | .text value => .ok value
  | .null => .ok (Json.render .unicode .null)
  | .bool value => .ok (Json.render .unicode (.bool value))
  | .int value => do return Json.render .unicode (← intToJson? value)
  | .float value => .ok (Json.render .unicode (.float value))
  | .nan _ => .ok (Json.render .unicode .nan)
  | other => .error (.keyNotScalar other.qualifiedKindName)

mutual

/-- The value as JSON. Tuples become arrays; octets, sets, moments, objects and
mappings that can only be read have no form. -/
def toJson? : Datum → Except Unencodable Json
  | .null => .ok .null
  | .bool value => .ok (.bool value)
  | .int value => intToJson? value
  | .float value => .ok (.float value)
  | .nan _ => .ok .nan
  | .text value => .ok (.text value)
  | .list items => do return .array (← itemsToJson? items)
  | .tuple items => do return .array (← itemsToJson? items)
  | .mapping entries => do return .object (← entriesToJson? entries)
  | .bytes _ => .error (.noJson "bytes")
  | .set _ => .error (.noJson "set")
  | .frozen _ => .error (.noJson "mappingproxy")
  | .moment _ => .error (.noJson "datetime")
  | .object _ => .error (.noJson "object")

def itemsToJson? : List Datum → Except Unencodable (List Json)
  | [] => .ok []
  | item :: items => do return (← toJson? item) :: (← itemsToJson? items)

def entriesToJson? : List (Datum × Datum) → Except Unencodable (List (AnyText × Json))
  | [] => .ok []
  | (key, value) :: entries => do
    let name ← memberName? key
    let value ← toJson? value
    return (name, value) :: (← entriesToJson? entries)

end

mutual

/-- The value that JSON denotes. All not-a-numbers read are one. -/
def ofJson : Json → Datum
  | .null => .null
  | .bool value => .bool value
  | .int value => .int value
  | .float value => .float value
  | .nan => .nan 0
  | .text value => .text value
  | .array items => .list (ofJsonItems items)
  | .object members => .mapping (ofJsonMembers members)

def ofJsonItems : List Json → List Datum
  | [] => []
  | item :: items => ofJson item :: ofJsonItems items

def ofJsonMembers : List (AnyText × Json) → List (Datum × Datum)
  | [] => []
  | (name, value) :: members => (.text name, ofJson value) :: ofJsonMembers members

end

end Datum

namespace Event

def ofMoment? (moment : Option Moment) : Datum :=
  (moment.map Datum.moment).getD .null

def timestamp? (time : Datum) : Except Fault (Option String) :=
  match time with
  | .null => .ok none
  | .moment moment => .ok (Timestamp.format? (some moment))
  | other => .error (.lacksAttribute other.qualifiedKindName "isoformat")

def timestampDatum (time : Datum) : Except Fault Datum := do
  return ((← timestamp? time).map fun text => Datum.text text).getD .null

def toRecord? (event : Event) : Except Fault Entries := do
  let payload ← event.payload.toEntries?.mapError .pairs
  match Datum.badEntryKey? payload with
  | some key => throw (.unencodable (.keyNotText key))
  | none =>
    return [(.text "Id", event.id), (.text "StreamId", event.streamId),
      (.text "Name", event.name), (.text "OccurredOn", ← timestampDatum event.occurredOn),
      (.text "PersistedAt", ← timestampDatum event.persistedAt),
      (.text "Payload", .mapping payload)]

/-- The event as a line, without the line's end. -/
def encode (event : Event) : Except Fault AnyText := do
  let record ← event.toRecord?
  let json ← (Datum.mapping record).toJson?.mapError .unencodable
  return json.render .unicode

/-- The event as a line of the log, which holds whole texts only. -/
def logLine (event : Event) : Except Fault String := do
  (Utf8.wholeText? (← event.encode)).mapError .halves

theorem logLine_eq_ok_iff {event : Event} {line : String} :
    event.logLine = .ok line ↔ event.encode = .ok (.whole line) := by
  unfold logLine
  cases event.encode with
  | error fault => exact iff_of_false (fun same => by cases same) (fun same => by cases same)
  | ok text =>
    cases text with
    | whole text =>
      have written : (Except.ok text : Except Fault String) = .ok line ↔
          (Except.ok (.whole text) : Except Fault AnyText) = .ok (.whole line) := by
        rw [Except.ok.injEq, Except.ok.injEq, AnyText.whole.injEq]
      exact written
    | broken text => exact iff_of_false (fun same => by cases same) (fun same => by cases same)

/-- A value, or the empty text in the stead of a void or missing one. -/
def textOrElse (value : Option Datum) : Datum :=
  match value with
  | some datum => if datum.isVoid then .text "" else datum
  | none => .text ""

/-- The moment under a name: none when the value is missing or void, and otherwise
what its text says. -/
def readMoment? (value : Option Datum) : Except Fault (Option Moment) :=
  match value with
  | none => .ok none
  | some (.text text) => (Timestamp.parseAny? text).mapError .timestamp
  | some (.bytes octets) => if octets.isEmpty then .ok none else .error .octetsNotText
  | some datum =>
    if datum.isVoid then .ok none else .error (.lacksAttribute datum.qualifiedKindName "strip")

def ofRecord? (record : Entries) : Except Fault Event := do
  let payload ←
    match record.get? (.text "Payload") with
    | none => pure []
    | some datum =>
      if datum.isVoid then pure []
      else
        match datum with
        | .mapping entries => pure entries
        | _ => throw .payloadNotObject
  let occurredOn ← readMoment? (record.get? (.text "OccurredOn"))
  let persistedAt ← readMoment? (record.get? (.text "PersistedAt"))
  return {
    name := textOrElse (record.get? (.text "Name"))
    streamId := textOrElse (record.get? (.text "StreamId"))
    id := textOrElse (record.get? (.text "Id"))
    occurredOn := ofMoment? occurredOn, persistedAt := ofMoment? persistedAt
    payload := .mapping payload }

def decode (line : AnyText) : Except Fault Event := do
  match Datum.ofJson (← (Json.parse? line).mapError .json) with
  | .mapping record => ofRecord? record
  | other => throw (.recordNotObject other.kindName)

end Event

end EventSourcing
