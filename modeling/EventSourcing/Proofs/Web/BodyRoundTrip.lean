import EventSourcing.Proofs.Json.OneLine
import EventSourcing.Proofs.Json.ValueRoundTrip
import EventSourcing.Proofs.Web.Envelopes
import Mathlib.Data.List.Forall2

/-!
# Bodies read back

The body of an answer to a command consists of visible ASCII, and a client that reads it as JSON
gets the envelope back: every name, message and field of the result, in order, whatever characters
they are made of. `Tells` says which envelope belongs to a result.
-/

set_option autoImplicit false

namespace EventSourcing.Response

open Envelope (successJson failureJson storedMembers failedMembers errorMembers)

variable {D : Domain}

/-! ## What is told of a result -/

/-- The four texts of a failed projection. -/
inductive TellsFailure (failure : ProjectionFailure) : Json → Prop where
  | texts {name : String} : failure.eventName = .text name →
      TellsFailure failure (.object [("projection", .text failure.projection),
        ("event_name", .text name), ("error", .text failure.error),
        ("error_type", .text failure.errorType)])

/-- The names of events, in order. -/
def Names (system : System D) (events : List (Ref .event)) (names : List String) : Prop :=
  events.map (fun event => (LiveEvent.contentIn system event).name) =
    (names.map .whole).map .text

/-- The status and the envelope for a result. -/
inductive Tells (system : System D) (result : CommandResult) : Nat → Json → Prop where
  | stored {names : List String} :
      result.error = none → Names system result.events names →
      Tells system result 200 (successJson (storedMembers result.aggregateId (names.map .whole)))
  | failures {fault : Ref .fault} {names : List String} {shown : List Json} :
      result.error = some fault → result.failures ≠ [] → Names system result.events names →
      List.Forall₂ TellsFailure result.failures shown →
      Tells system result 500 (failureJson projectionFailed (system.faults.get fault).message
        (failedMembers result.aggregateId (names.map .whole) (.array shown)))
  | fields {fault : Ref .fault} {errors : FieldErrors} :
      result.error = some fault → result.failures = [] →
      system.faults.get fault = .validation errors →
      Tells system result 400 (failureJson validationFailed (Fault.validation errors).message
        (errorMembers errors))
  | message {fault : Ref .fault} :
      result.error = some fault → result.failures = [] →
      (∀ errors, system.faults.get fault ≠ .validation errors) →
      Tells system result 500 (failureJson commandFailed (system.faults.get fault).message [])

/-! ## Envelopes that are read back -/

section Legible

open Json (Legible)

variable {room : Nat}

private theorem legible_texts (texts : List String) :
    Legible (room + 1) (.array ((texts.map .whole).map .text)) := by
  rw [List.map_map]
  exact .array (List.forall_mem_map.mpr fun _ _ => .text)

/-- Members of an object that is read back. -/
private structure LegibleMembers (room : Nat) (members : List (AnyText × Json)) : Prop where
  distinct : (members.map Prod.fst).Nodup
  names : ∀ member ∈ members, ∃ name : String, member.1 = name
  legible : ∀ member ∈ members, Legible room member.2

private theorem LegibleMembers.object {members : List (AnyText × Json)}
    (legible : LegibleMembers room members) : Legible (room + 1) (.object members) :=
  .object legible.distinct legible.names legible.legible

private theorem legible_stored (aggregateId : String) (names : List String) :
    LegibleMembers (room + 1) (storedMembers aggregateId (names.map .whole)) where
  distinct := by simp [storedMembers]
  names := by simp [storedMembers]
  legible := List.forall_mem_cons.mpr ⟨.text, List.forall_mem_singleton.mpr (legible_texts names)⟩

private theorem legible_failed {failures : Json} (aggregateId : String) (names : List String)
    (legible : Legible (room + 1) failures) :
    LegibleMembers (room + 1) (failedMembers aggregateId (names.map .whole) failures) where
  distinct := by simp [failedMembers]
  names := by simp [failedMembers]
  legible := List.forall_mem_cons.mpr ⟨.text, List.forall_mem_cons.mpr
    ⟨legible_texts names, List.forall_mem_singleton.mpr legible⟩⟩

private theorem legible_errors {errors : FieldErrors} (distinct : (errors.map Prod.fst).Nodup) :
    LegibleMembers (room + 1) (errorMembers errors) where
  distinct := by
    have fields : (errorMembers errors).map Prod.fst = (errors.map Prod.fst).map .whole := by
      simp only [errorMembers, List.map_map, Function.comp_def]
    rw [fields]
    exact List.Pairwise.map AnyText.whole (fun _ _ other same => other (AnyText.whole.inj same))
      distinct
  names := List.forall_mem_map.mpr fun _ _ => ⟨_, rfl⟩
  legible := List.forall_mem_map.mpr fun _ _ => legible_texts _

private theorem legible_success {data : List (AnyText × Json)}
    (legible : LegibleMembers room data) : Legible (room + 2) (successJson data) :=
  .object (by simp) (by simp) (List.forall_mem_cons.mpr
    ⟨.bool, List.forall_mem_singleton.mpr legible.object⟩)

private theorem legible_failure {code message : String} {details : List (AnyText × Json)}
    (legible : LegibleMembers room details) :
    Legible (room + 3) (failureJson code message details) := by
  have error : Legible (room + 2) (.object [("code", .text code), ("message", .text message),
      ("details", .object details)]) :=
    .object (by simp) (by simp) (List.forall_mem_cons.mpr ⟨.text, List.forall_mem_cons.mpr
      ⟨.text, List.forall_mem_singleton.mpr legible.object⟩⟩)
  exact .object (by simp) (by simp)
    (List.forall_mem_cons.mpr ⟨.bool, List.forall_mem_singleton.mpr error⟩)

private theorem legible_failures {failures : List ProjectionFailure} {shown : List Json}
    (told : List.Forall₂ TellsFailure failures shown) :
    Legible (room + 2) (.array shown) := by
  refine .array fun json member => ?_
  induction told with
  | nil => cases member
  | cons first _ ih =>
    cases member with
    | tail _ later => exact ih later
    | head =>
      cases first with
      | texts _ =>
        refine .object (by simp) (by simp) ?_
        simp only [List.forall_mem_cons]
        exact ⟨.text, .text, .text, .text, by simp⟩

variable {system : System D} {result : CommandResult} {status : Nat} {json : Json}

/-- Field errors are the only members whose names come from outside. -/
theorem Tells.legible (told : Tells system result status json)
    (distinct : ∀ fault errors, result.error = some fault →
      system.faults.get fault = .validation errors → (errors.map Prod.fst).Nodup) :
    Legible Json.maxNesting json := by
  cases told with
  | stored _ _ => exact legible_success (legible_stored _ _)
  | failures _ _ _ shown => exact legible_failure (legible_failed _ _ (legible_failures shown))
  | @fields fault errors raised _ known =>
    exact legible_failure (legible_errors (distinct fault errors raised known))
  | message _ _ _ => exact legible_failure ⟨by simp, by simp, by simp⟩

end Legible

/-! ## Answers -/

section Answers

variable {system : System D} {result : CommandResult} {status : Nat} {json : Json}

private theorem toJson?_failure {failure : ProjectionFailure} (told : TellsFailure failure json) :
    (Envelope.withMomentTexts failure.toDatum).toJson? = .ok json := by
  cases told with
  | texts named =>
    simp only [ProjectionFailure.toDatum, named, Envelope.withMomentTexts,
      Envelope.entriesWithTexts, Datum.toJson?, Datum.entriesToJson?, Datum.memberName?, bind,
      Except.bind]
    rfl

private theorem toJson?_failures {failures : List ProjectionFailure} {shown : List Json}
    (told : List.Forall₂ TellsFailure failures shown) :
    (Envelope.withMomentTexts (.list (failures.map ProjectionFailure.toDatum))).toJson? =
      .ok (.array shown) := by
  have items : Datum.itemsToJson?
      (Envelope.itemsWithTexts (failures.map ProjectionFailure.toDatum)) = .ok shown := by
    induction told with
    | nil => rfl
    | cons first _ ih =>
      simp only [List.map_cons, Envelope.itemsWithTexts, Datum.itemsToJson?,
        toJson?_failure first, ih, bind, Except.bind]
      rfl
  simp only [Envelope.withMomentTexts, Datum.toJson?, items, bind, Except.bind]
  rfl

private theorem exists_failures {failures : List ProjectionFailure}
    (named : ∀ failure ∈ failures, ∃ name : String, failure.eventName = .text name) :
    ∃ shown, List.Forall₂ TellsFailure failures shown := by
  induction failures with
  | nil => exact ⟨[], .nil⟩
  | cons failure failures ih =>
    obtain ⟨⟨name, first⟩, rest⟩ := List.forall_mem_cons.mp named
    obtain ⟨shown, told⟩ := ih rest
    exact ⟨_ :: shown, .cons (.texts first) told⟩

/-- What a result without failed projections is answered depends on its error alone. -/
private theorem ofResult_of_error {fault : Ref .fault} (raised : result.error = some fault)
    (none : result.failures = []) :
    ofResult result system = ofResult (.failure fault) system := by
  have same : envelopeIn system result = envelopeIn system (.failure fault) := by
    simp only [envelopeIn, raised, none, CommandResult.failure, List.isEmpty_nil, Bool.not_true,
      Bool.false_eq_true, if_false]
  simp only [ofResult, bind, Act.bind, Act.read, same]

theorem Tells.ofResult_eq (told : Tells system result status json) :
    ofResult result system = (.ok (ofJson status json), system) := by
  obtain ⟨error, aggregateId, events, failures⟩ := result
  cases told with
  | stored fine named =>
    cases fine
    exact ofResult_of_stored named
  | failures raised failed named shown =>
    cases raised
    rw [ofResult_eq_of_failures named failed, toJson?_failures shown]
  | fields raised none known =>
    rw [ofResult_of_error raised none]
    exact ofResult_of_validation known
  | message raised none unlike =>
    rw [ofResult_of_error raised none]
    exact ofResult_of_other unlike

theorem exists_tells
    (named : ∀ event ∈ result.events, ∃ name : String,
      (LiveEvent.contentIn system event).name = .text name)
    (blamed : ∀ failure ∈ result.failures, ∃ name : String, failure.eventName = .text name) :
    ∃ status json, Tells system result status json := by
  obtain ⟨names, named⟩ := exists_names named
  replace named : Names system result.events names := by
    rw [Names, List.map_map]
    exact named
  obtain ⟨shown, told⟩ := exists_failures blamed
  cases raised : result.error with
  | none => exact ⟨_, _, .stored raised named⟩
  | some fault =>
    by_cases none : result.failures = []
    · by_cases invalid : ∃ errors, system.faults.get fault = .validation errors
      · obtain ⟨errors, known⟩ := invalid
        exact ⟨_, _, .fields raised none known⟩
      · exact ⟨_, _, .message raised none fun errors known => invalid ⟨errors, known⟩⟩
    · exact ⟨_, _, .failures raised none named told⟩

/-- Every result whose events have texts for their names is answered, in visible ASCII, and
reading the body as JSON gives the envelope of the result back. -/
theorem body_reads_back (system : System D) (result : CommandResult)
    (named : ∀ event ∈ result.events, ∃ name : String,
      (LiveEvent.contentIn system event).name = .text name)
    (blamed : ∀ failure ∈ result.failures, ∃ name : String, failure.eventName = .text name)
    (distinct : ∀ fault errors, result.error = some fault →
      system.faults.get fault = .validation errors → (errors.map Prod.fst).Nodup) :
    ∃ response json, ofResult result system = (.ok response, system) ∧
      Tells system result response.status json ∧ Text.Visible response.body.toList ∧
      Json.parse? response.body = .ok json := by
  obtain ⟨status, json, told⟩ := exists_tells named blamed
  refine ⟨ofJson status json, json, told.ofResult_eq, told, ?_, ?_⟩
  · exact Json.visible_asciiText json
  · rw [ofJson, ← Json.render_ascii]
    exact Json.parse?_render (told.legible distinct) .ascii

/-- A projection failed, with texts outside of ASCII and beyond the first plane. -/
theorem body_reads_back_abroad :
    let system : System Domain.bare := {
      events := ⟨#[{
        name := .text "geöffnet", streamId := .text "", id := .text "", occurredOn := .null
        persistedAt := .null, payload := .own (.mapping []) }]⟩
      faults := ⟨#[.raised .value [.text "leer 😀"]]⟩
      domain := () }
    let result : CommandResult := {
      error := some ⟨0⟩, aggregateId := "größe-1", events := [⟨0⟩]
      failures := [{
        projection := "übersicht", eventName := .text "geöffnet", error := "leer 😀"
        errorType := "ValueError", exception := some ⟨0⟩ }] }
    ∃ response, ofResult result system = (.ok response, system) ∧ response.status = 500 ∧
      Json.parse? response.body = .ok (failureJson projectionFailed "leer 😀"
        (failedMembers "größe-1" ["geöffnet"] (.array [.object
          [("projection", .text "übersicht"), ("event_name", .text "geöffnet"),
            ("error", .text "leer 😀"), ("error_type", .text "ValueError")]]))) := by
  intro system result
  obtain ⟨response, json, answered, told, -, parsed⟩ := body_reads_back system result
    (List.forall_mem_singleton.mpr ⟨_, rfl⟩) (List.forall_mem_singleton.mpr ⟨_, rfl⟩)
    (fun fault errors raised known => by cases raised; cases known)
  refine ⟨response, answered, ?_⟩
  generalize response.status = status at told
  cases told with
  | stored fine _ => cases fine
  | @failures fault names _ raised _ named shown =>
    cases raised
    cases shown with
    | cons first rest =>
      cases rest
      cases first with
      | texts blamed =>
        cases blamed
        have whole : names.map AnyText.whole = ["geöffnet"] :=
          List.map_injective_iff.mpr (fun _ _ same => Datum.text.inj same) named.symm
        obtain rfl : names = ["geöffnet"] :=
          List.map_injective_iff.mpr (fun _ _ same => AnyText.whole.inj same) whole
        exact ⟨rfl, parsed⟩
  | fields _ none _ => cases none
  | message _ none _ => cases none

end Answers

end EventSourcing.Response
