import EventSourcing.Application.Basic
import EventSourcing.Event.Record

/-!
# Answers to HTTP clients

The envelope of a command's result as JSON, and the view that sends a command for
a request. A refused command answers 400 with every field's messages; a failed
projection answers 500 and says what was stored; any other failure answers 500
with its message.
-/

set_option autoImplicit false

namespace EventSourcing

variable {D : Domain}

namespace Envelope

/-- The text of a moment for clients: thousandths of a second at most, and the letter
`Z` for universal time. -/
def momentText (moment : Moment) : String :=
  let full := moment.isoText.toList
  let shortened :=
    if moment.time.microsecond = 0 then full else full.take 23 ++ full.drop 26
  let zero := "+00:00".toList
  if zero.isSuffixOf shortened then
    String.ofList (shortened.take (shortened.length - zero.length) ++ ['Z'])
  else String.ofList shortened

mutual

def withMomentTexts : Datum → Datum
  | .moment value => .text (momentText value)
  | .list items => .list (itemsWithTexts items)
  | .tuple items => .tuple (itemsWithTexts items)
  | .mapping entries => .mapping (entriesWithTexts entries)
  | other => other

def itemsWithTexts : List Datum → List Datum
  | [] => []
  | item :: items => withMomentTexts item :: itemsWithTexts items

def entriesWithTexts : List (Datum × Datum) → List (Datum × Datum)
  | [] => []
  | (key, value) :: entries => (key, withMomentTexts value) :: entriesWithTexts entries

end

/-- The envelope of a failure; details that are void are shown as none. -/
def failure (code message : String) (details : Datum) : Datum :=
  .mapping [(.text "ok", .bool false),
    (.text "error", .mapping [(.text "code", .text code), (.text "message", .text message),
      (.text "details", if details.isVoid then .mapping [] else details)])]

def success (data : Datum) : Datum :=
  .mapping [(.text "ok", .bool true), (.text "data", data)]

end Envelope

structure Response where
  status : Nat
  contentType : String
  allow : Option String
  body : String
deriving Repr

namespace Response

def validationFailed : String := "VALIDATION_FAILED"

def commandFailed : String := "COMMAND_FAILED"

def projectionFailed : String := "PROJECTION_FAILED"

/-- An answer with a JSON body of ASCII characters. -/
def json? (status : Nat) (data : Datum) : Except Fault Response := do
  let json ← (Envelope.withMomentTexts data).toJson?.mapError .unencodable
  let body ← (Utf8.wholeText? (json.render .ascii)).mapError .halves
  return { status, contentType := "application/json", allow := none, body }

def notAllowed (allowed : String) : Response :=
  { status := 405, contentType := "text/html; charset=utf-8", allow := some allowed, body := "" }

def eventNames (system : System D) (events : List (Ref .event)) : Datum :=
  .list (events.map fun event => (LiveEvent.contentIn system event).name)

def envelopeIn (system : System D) (result : CommandResult) : Nat × Datum :=
  let stored := [(Datum.text "aggregate_id", Datum.text result.aggregateId),
    (.text "events", eventNames system result.events)]
  match result.error with
  | none => (200, Envelope.success (.mapping stored))
  | some error =>
    let fault := system.faults.get error
    if !result.failures.isEmpty then
      let failures := Datum.list (result.failures.map ProjectionFailure.toDatum)
      (500, Envelope.failure projectionFailed fault.message
        (.mapping (stored ++ [(.text "projection_failures", failures)])))
    else
      match fault with
      | .validation errors =>
        (400, Envelope.failure validationFailed fault.message errors.toDatum)
      | _ => (500, Envelope.failure commandFailed fault.message .null)

def ofResult (result : CommandResult) : Act D Response := do
  let (status, envelope) ← Act.read (envelopeIn · result)
  Act.ofExcept (json? status envelope)

end Response

namespace View

def method : String := "POST"

def name (definitionName : String) : String :=
  String.ofList (definitionName.toList.map fun character =>
    if character = '-' then '_' else character) ++ "_view"

def call (handlers : Handlers D) (application : Ref .application)
    (definition : Ref .definition) (requestMethod : String)
    (body query : List (String × String)) : Act D Response := do
  if requestMethod = method then
    let command ← Command.ofForm definition (.request body query)
    Response.ofResult (← Application.send handlers application command)
  else return .notAllowed method

end View

end EventSourcing
