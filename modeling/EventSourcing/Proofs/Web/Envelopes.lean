import EventSourcing.Proofs.Json.OneLine
import EventSourcing.Proofs.System.Running
import EventSourcing.Web.Response

/-!
# What an answer carries

The bodies of answers as JSON. A result with failed projections is told as such, whatever kind of
fault they raised; a result that is a failure is told by its field messages if it is a validation
error, and by its message otherwise.
-/

set_option autoImplicit false

namespace EventSourcing

variable {D : Domain}

namespace Envelope

def successJson (data : List (AnyText × Json)) : Json :=
  .object [("ok", .bool true), ("data", .object data)]

def failureJson (code message : String) (details : List (AnyText × Json)) : Json :=
  .object [("ok", .bool false),
    ("error", .object [("code", .text code), ("message", .text message),
      ("details", .object details)])]

/-- What is told of stored events. -/
def storedMembers (aggregateId : String) (names : List AnyText) : List (AnyText × Json) :=
  [("aggregate_id", .text aggregateId), ("events", .array (names.map .text))]

/-- What is told of stored events where projections failed. -/
def failedMembers (aggregateId : String) (names : List AnyText) (failures : Json) :
    List (AnyText × Json) :=
  [("aggregate_id", .text aggregateId), ("events", .array (names.map .text)),
    ("projection_failures", failures)]

/-- What is told of field errors. -/
def errorMembers (errors : FieldErrors) : List (AnyText × Json) :=
  errors.map fun entry => (entry.1, .array ((entry.2.map .whole).map .text))

theorem itemsWithTexts_texts (texts : List AnyText) :
    itemsWithTexts (texts.map .text) = texts.map .text := by
  induction texts with
  | nil => rfl
  | cons text texts ih => simp only [List.map_cons, itemsWithTexts, withMomentTexts, ih]

theorem itemsToJson?_texts (texts : List AnyText) :
    Datum.itemsToJson? (texts.map .text) = .ok (texts.map .text) := by
  induction texts with
  | nil => rfl
  | cons text texts ih =>
    simp only [List.map_cons, Datum.itemsToJson?, Datum.toJson?, ih, bind, Except.bind]
    rfl

private theorem toDatum_errors (errors : FieldErrors) :
    errors.toDatum = .mapping (errors.map fun entry =>
      (.text entry.1, .list ((entry.2.map .whole).map .text))) := by
  have texts (messages : List String) : (messages.map fun message : String => Datum.text message) =
      (messages.map .whole).map .text := by
    rw [List.map_map]
    rfl
  simp only [FieldErrors.toDatum, texts]

theorem withMomentTexts_errors (errors : FieldErrors) :
    withMomentTexts errors.toDatum = errors.toDatum := by
  rw [toDatum_errors, withMomentTexts]
  congr 1
  induction errors with
  | nil => rfl
  | cons entry errors ih =>
    simp only [List.map_cons, entriesWithTexts, withMomentTexts, itemsWithTexts_texts, ih]

theorem toJson?_errors (errors : FieldErrors) :
    errors.toDatum.toJson? = .ok (.object (errorMembers errors)) := by
  have members : Datum.entriesToJson? (errors.map fun entry =>
      (.text entry.1, .list ((entry.2.map .whole).map .text))) = .ok (errorMembers errors) := by
    induction errors with
    | nil => rfl
    | cons entry errors ih =>
      simp only [List.map_cons, Datum.entriesToJson?, Datum.memberName?, Datum.toJson?,
        itemsToJson?_texts, ih, bind, Except.bind]
      rfl
  simp only [toDatum_errors, Datum.toJson?, members, bind, Except.bind]
  rfl

theorem toJson?_stored (aggregateId : String) (names : List AnyText) :
    (withMomentTexts (success (.mapping [(.text "aggregate_id", .text aggregateId),
        (.text "events", .list (names.map .text))]))).toJson? =
      .ok (successJson (storedMembers aggregateId names)) := by
  simp only [success, withMomentTexts, entriesWithTexts, itemsWithTexts_texts, Datum.toJson?,
    Datum.entriesToJson?, Datum.memberName?, itemsToJson?_texts, bind, Except.bind]
  rfl

theorem toJson?_fields (code message : String) (errors : FieldErrors) :
    (withMomentTexts (failure code message errors.toDatum)).toJson? =
      .ok (failureJson code message (errorMembers errors)) := by
  have details : (if errors.toDatum.isVoid then .mapping [] else errors.toDatum) =
      errors.toDatum := by
    cases errors with
    | nil => rfl
    | cons entry errors => rfl
  simp only [failure, details, withMomentTexts, entriesWithTexts, withMomentTexts_errors,
    Datum.toJson?, Datum.entriesToJson?, Datum.memberName?, toJson?_errors, bind, Except.bind]
  rfl

/-- The envelope of failed projections has a form if what is told of them does. -/
theorem toJson?_failed (code message aggregateId : String) (names : List AnyText)
    (failures : Datum) :
    (withMomentTexts (failure code message (.mapping [(.text "aggregate_id", .text aggregateId),
        (.text "events", .list (names.map .text)),
        (.text "projection_failures", failures)]))).toJson? =
      (withMomentTexts failures).toJson?.map fun shown =>
        failureJson code message (failedMembers aggregateId names shown) := by
  simp only [failure, Datum.isVoid, List.isEmpty_cons, Bool.false_eq_true, if_false,
    withMomentTexts, entriesWithTexts, itemsWithTexts_texts, Datum.toJson?, Datum.entriesToJson?,
    Datum.memberName?, itemsToJson?_texts, bind, Except.bind]
  cases (withMomentTexts failures).toJson? with
  | error reason => rfl
  | ok shown => rfl

end Envelope

namespace Response

open Envelope (successJson failureJson storedMembers failedMembers errorMembers)

/-- An answer with a JSON body. -/
def ofJson (status : Nat) (json : Json) : Response :=
  { status, contentType := "application/json", allow := none, body := json.asciiText }

theorem json?_eq (status : Nat) (data : Datum) :
    json? status data = match (Envelope.withMomentTexts data).toJson? with
      | .ok json => .ok (ofJson status json)
      | .error reason => .error (.unencodable reason) := by
  rw [json?]
  cases (Envelope.withMomentTexts data).toJson? with
  | error reason => rfl
  | ok json =>
    have whole : (Utf8.wholeText? (json.render .ascii)).mapError .halves =
        (.ok json.asciiText : Except Fault String) := by
      rw [Json.render_ascii]
      rfl
    let answer (body : String) : Except Fault Response :=
      .ok { status, contentType := "application/json", allow := none, body }
    exact congrArg (· >>= answer) whole

variable {system after : System D} {fault : Ref .fault} {response : Response}

theorem ofResult_of_form {result : CommandResult} {status : Nat} {data : Datum} {json : Json}
    (envelope : envelopeIn system result = (status, data))
    (form : (Envelope.withMomentTexts data).toJson? = .ok json) :
    ofResult result system = (.ok (ofJson status json), system) := by
  simp only [ofResult, bind, Act.bind, Act.read, envelope, json?_eq, form]
  rfl

/-- A failure that is a validation error is told field by field. -/
theorem ofResult_of_validation {errors : FieldErrors}
    (known : system.faults.get fault = .validation errors) :
    ofResult (.failure fault) system =
      (.ok (ofJson 400 (failureJson validationFailed (Fault.validation errors).message
        (errorMembers errors))), system) := by
  refine ofResult_of_form ?_ (Envelope.toJson?_fields _ _ errors)
  simp only [envelopeIn, CommandResult.failure, known]
  rfl

theorem ofResult_of_other
    (unlike : ∀ errors, system.faults.get fault ≠ .validation errors) :
    ofResult (.failure fault) system =
      (.ok (ofJson 500 (failureJson commandFailed (system.faults.get fault).message [])),
        system) := by
  have envelope : envelopeIn system (.failure fault) = (500, Envelope.failure commandFailed
      (system.faults.get fault).message .null) := by
    cases known : system.faults.get fault with
    | validation errors => exact absurd known (unlike errors)
    | _ => simp only [envelopeIn, CommandResult.failure, known]; rfl
  exact ofResult_of_form envelope rfl

variable {aggregateId : String} {events : List (Ref .event)} {names : List AnyText}

theorem exists_names {Name : Type} {shape : Name → Datum}
    (named : ∀ event ∈ events, ∃ name, (LiveEvent.contentIn system event).name = shape name) :
    ∃ names : List Name,
      events.map (fun event => (LiveEvent.contentIn system event).name) = names.map shape := by
  induction events with
  | nil => exact ⟨[], rfl⟩
  | cons event events ih =>
    obtain ⟨name, known⟩ := named event List.mem_cons_self
    obtain ⟨names, rest⟩ := ih fun other member => named other (.tail _ member)
    exact ⟨name :: names, by rw [List.map_cons, List.map_cons, known, rest]⟩

theorem ofResult_of_stored
    (named : events.map (fun event => (LiveEvent.contentIn system event).name) =
      names.map .text) :
    ofResult { error := none, aggregateId, events, failures := [] } system =
      (.ok (ofJson 200 (successJson (storedMembers aggregateId names))), system) := by
  refine ofResult_of_form ?_ (Envelope.toJson?_stored aggregateId names)
  simp only [envelopeIn, eventNames, named]

/-- Where projections failed, they are told behind what was stored, under the message of the
first fault, if what is told of them has a form. -/
theorem ofResult_eq_of_failures {failures : List ProjectionFailure}
    (named : events.map (fun event => (LiveEvent.contentIn system event).name) =
      names.map .text) (failed : failures ≠ []) :
    ofResult { error := some fault, aggregateId, events, failures } system =
      match (Envelope.withMomentTexts
        (.list (failures.map ProjectionFailure.toDatum))).toJson? with
      | .ok shown => (.ok (ofJson 500 (failureJson projectionFailed
          (system.faults.get fault).message
          (failedMembers aggregateId names shown))), system)
      | .error reason => Act.ofExcept (.error (.unencodable reason)) system := by
  have several : failures.isEmpty = false := by
    cases failures with
    | nil => exact absurd rfl failed
    | cons failure failures => rfl
  have envelope : envelopeIn system { error := some fault, aggregateId, events, failures } =
      (500, Envelope.failure projectionFailed (system.faults.get fault).message (.mapping
        [(.text "aggregate_id", .text aggregateId), (.text "events", .list (names.map .text)),
          (.text "projection_failures",
            .list (failures.map ProjectionFailure.toDatum))])) := by
    simp only [envelopeIn, eventNames, named, several]
    rfl
  simp only [ofResult, bind, Act.bind, Act.read, envelope, json?_eq, Envelope.toJson?_failed]
  cases (Envelope.withMomentTexts
      (.list (failures.map ProjectionFailure.toDatum))).toJson? with
  | error reason => rfl
  | ok shown => rfl

theorem ofResult_of_failures {failures : List ProjectionFailure}
    (named : events.map (fun event => (LiveEvent.contentIn system event).name) =
      names.map .text) (failed : failures ≠ [])
    (ran : ofResult { error := some fault, aggregateId, events, failures } system =
      (.ok response, after)) :
    after = system ∧ ∃ shown, (Envelope.withMomentTexts
        (.list (failures.map ProjectionFailure.toDatum))).toJson? = .ok shown ∧
      response = ofJson 500 (failureJson projectionFailed (system.faults.get fault).message
        (failedMembers aggregateId names shown)) := by
  rw [ofResult_eq_of_failures named failed] at ran
  cases shows : (Envelope.withMomentTexts
      (.list (failures.map ProjectionFailure.toDatum))).toJson? with
  | error reason =>
    rw [shows] at ran
    cases ran
  | ok shown =>
    rw [shows] at ran
    cases ran
    exact ⟨rfl, shown, rfl, rfl⟩

end Response

end EventSourcing
