import EventSourcing.Proofs.Event.RecordRoundTrip

/-!
# Types of events that are read

What a line must hold so that it is read, and of what types the parts of the event are then. A
line that is no object is refused, and so is a payload that is neither an object nor void. The
name, the stream and the id are taken as they are: each is a text exactly if the line has a text
for it, or something void, or nothing.
-/

set_option autoImplicit false

namespace EventSourcing

namespace Json

/-- The value is taken for a missing one. -/
def isVoid : Json → Bool
  | .null => true
  | .bool value => !value
  | .int value => value == 0
  | .float value => value.isZero
  | .nan => false
  | .text value => value.isEmpty
  | .array items => items.isEmpty
  | .object members => members.isEmpty

end Json

namespace Datum

@[simp] theorem isVoid_ofJson (json : Json) : (ofJson json).isVoid = json.isVoid := by
  cases json with
  | array items => cases items <;> rfl
  | object members => cases members <;> rfl
  | _ => rfl

theorem get?_ofJsonMembers (members : List (AnyText × Json)) (name : String) :
    Entries.get? (ofJsonMembers members) (.text name) =
      (Json.member? members name).map ofJson := by
  induction members with
  | nil => rfl
  | cons member members ih =>
    obtain ⟨other, json⟩ := member
    have same : (Datum.text name).same (.text other) = (name == other) := by
      simp [Datum.same, sameScalar]
    unfold Json.member? Entries.get? at ih ⊢
    rw [ofJsonMembers, List.find?_cons, same, List.lookup_cons]
    cases name == other with
    | true => rfl
    | false => exact ih

end Datum

namespace Event

/-- The text that a line gives for a part of the event, or nothing in its stead. -/
def TextOrVoid : Option Json → Prop
  | some (.text _) | none => True
  | some json => json.isVoid = true

/-- The entries of a payload, from what a line gives for it. -/
inductive PayloadOf : Option Json → Entries → Prop where
  | missing : PayloadOf none []
  | void {json : Json} : json.isVoid = true → PayloadOf (some json) []
  | object {members : List (AnyText × Json)} :
      PayloadOf (some (.object members)) (Datum.ofJsonMembers members)

/-- A value that no entries are taken from. -/
structure NoPayload (json : Json) : Prop where
  present : json.isVoid = false
  noObject : ∀ members, json ≠ .object members

theorem payloadOf_or_noPayload (value : Option Json) :
    (∃ entries, PayloadOf value entries) ∨ ∃ json, value = some json ∧ NoPayload json := by
  cases value with
  | none => exact .inl ⟨[], .missing⟩
  | some json =>
    cases void : json.isVoid with
    | true => exact .inl ⟨[], .void void⟩
    | false =>
      cases json with
      | object members => exact .inl ⟨_, .object⟩
      | _ => exact .inr ⟨_, rfl, void, by simp⟩

theorem textOrElse_is_text_iff (value : Option Json) :
    (∃ text, textOrElse (value.map Datum.ofJson) = .text text) ↔ TextOrVoid value := by
  cases value with
  | none => exact iff_of_true ⟨_, rfl⟩ trivial
  | some json =>
    rw [Option.map_some, textOrElse, Datum.isVoid_ofJson]
    cases void : json.isVoid with
    | true =>
      refine iff_of_true ⟨_, rfl⟩ ?_
      cases json with
      | text text => trivial
      | _ => exact void
    | false =>
      cases json with
      | text text => exact iff_of_true ⟨text, rfl⟩ trivial
      | _ => simp [TextOrVoid, void, Datum.ofJson]

section

variable {members : List (AnyText × Json)} {event : Event}

/-- The event of a record, once the entries of its payload are known. -/
def withTimes (members : List (AnyText × Json)) (entries : Entries) : Except Fault Event := do
  let part (name : String) : Option Datum := (Json.member? members name).map Datum.ofJson
  let occurredOn ← readMoment? (part "OccurredOn")
  let persistedAt ← readMoment? (part "PersistedAt")
  return {
    name := textOrElse (part "Name")
    streamId := textOrElse (part "StreamId")
    id := textOrElse (part "Id")
    occurredOn := ofMoment? occurredOn, persistedAt := ofMoment? persistedAt
    payload := .mapping entries }

theorem ofRecord?_of_payloadOf {entries : Entries}
    (payload : PayloadOf (Json.member? members "Payload") entries) :
    ofRecord? (Datum.ofJsonMembers members) = withTimes members entries := by
  unfold ofRecord?
  simp only [Datum.get?_ofJsonMembers]
  generalize Json.member? members "Payload" = value at payload
  cases payload with
  | missing => rfl
  | void void => simp only [Option.map_some, Datum.isVoid_ofJson, void]; rfl
  | @object inner =>
    rw [Option.map_some]
    simp only [Datum.isVoid_ofJson]
    split
    · rename_i void
      rw [List.isEmpty_iff.mp void]
      rfl
    · rfl

theorem ofRecord?_of_noPayload {json : Json} (found : Json.member? members "Payload" = some json)
    (refused : NoPayload json) :
    ofRecord? (Datum.ofJsonMembers members) = .error .payloadNotObject := by
  unfold ofRecord?
  simp only [Datum.get?_ofJsonMembers, found, Option.map_some, Datum.isVoid_ofJson,
    refused.present]
  cases json with
  | object inner => exact absurd rfl (refused.noObject inner)
  | _ => rfl

theorem ofRecord?_eq_ok (read : ofRecord? (Datum.ofJsonMembers members) = .ok event) :
    event.name = textOrElse ((Json.member? members "Name").map Datum.ofJson) ∧
      event.streamId = textOrElse ((Json.member? members "StreamId").map Datum.ofJson) ∧
      event.id = textOrElse ((Json.member? members "Id").map Datum.ofJson) ∧
      ∃ entries, event.payload = .mapping entries ∧
        PayloadOf (Json.member? members "Payload") entries := by
  rcases payloadOf_or_noPayload (Json.member? members "Payload") with
    ⟨entries, payload⟩ | ⟨json, found, refused⟩
  · rw [ofRecord?_of_payloadOf payload] at read
    unfold withTimes at read
    obtain ⟨occurredOn, -, read⟩ := bind_eq_ok read
    obtain ⟨persistedAt, -, read⟩ := bind_eq_ok read
    cases read
    exact ⟨rfl, rfl, rfl, entries, rfl, payload⟩
  · rw [ofRecord?_of_noPayload found refused] at read
    cases read

end

/-- A value that no event is read from. -/
inductive Unfit : Json → Prop where
  | noObject {json : Json} : (∀ members, json ≠ .object members) → Unfit json
  | noPayload {members : List (AnyText × Json)} {json : Json} :
      Json.member? members "Payload" = some json → NoPayload json → Unfit (.object members)

variable {line : AnyText}

theorem decode_of_parse {json : Json} (parsed : Json.parse? line = .ok json) :
    decode line =
      match Datum.ofJson json with
      | .mapping record => ofRecord? record
      | other => .error (.recordNotObject other.kindName) := by
  unfold decode
  rw [parsed]
  rfl

theorem decode_of_unfit {json : Json} (parsed : Json.parse? line = .ok json)
    (unfit : Unfit json) :
    ∃ fault, decode line = .error fault ∧ fault.className = "ValueError" := by
  rw [decode_of_parse parsed]
  cases unfit with
  | noObject noObject =>
    cases json with
    | object members => exact absurd rfl (noObject members)
    | _ => exact ⟨_, rfl, rfl⟩
  | noPayload found refused => exact ⟨_, ofRecord?_of_noPayload found refused, rfl⟩

/-- An event is read from objects only. Its payload consists of the entries of an object, or of
none where the payload is missing or void, and its name, stream and id are texts exactly if texts,
void values or no values were given for them. Other payloads and other lines of JSON are
refused. -/
theorem decode_types (line : AnyText) :
    (∀ event, decode line = .ok event →
      ∃ members, Json.parse? line = .ok (.object members) ∧
        ((∃ text, event.name = .text text) ↔ TextOrVoid (Json.member? members "Name")) ∧
        ((∃ text, event.streamId = .text text) ↔
          TextOrVoid (Json.member? members "StreamId")) ∧
        ((∃ text, event.id = .text text) ↔ TextOrVoid (Json.member? members "Id")) ∧
        ∃ entries, event.payload = .mapping entries ∧
          PayloadOf (Json.member? members "Payload") entries) ∧
      ∀ json, Json.parse? line = .ok json → Unfit json →
        ∃ fault, decode line = .error fault ∧ fault.className = "ValueError" := by
  refine ⟨fun event read => ?_, fun json parsed unfit => decode_of_unfit parsed unfit⟩
  cases parsed : Json.parse? line with
  | error reason =>
    rw [decode, parsed] at read
    cases read
  | ok json =>
    rw [decode_of_parse parsed] at read
    cases json with
    | object members =>
      obtain ⟨name, streamId, id, payload⟩ := ofRecord?_eq_ok read
      rw [name, streamId, id]
      exact ⟨members, rfl, textOrElse_is_text_iff _, textOrElse_is_text_iff _,
        textOrElse_is_text_iff _, payload⟩
    | _ => cases read

/-- A line with texts and an object, and one with an array for its payload. -/
theorem decode_types_opened :
    let opened : Json := .object [("Name", .text "opened"), ("Payload", .object [("by", .null)])]
    let listed : Json := .object [("Name", .text "opened"), ("Payload", .array [.null])]
    (∃ event, decode (opened.render .unicode) = .ok event ∧
        ∃ text, event.name = .text text) ∧
      ∃ fault, decode (listed.render .unicode) = .error fault ∧
        fault.className = "ValueError" := by
  intro opened listed
  have openedParsed : Json.parse? (opened.render .unicode) = .ok opened :=
    Json.parse?_render (.object (by decide) (by simp) (List.forall_mem_cons.mpr
      ⟨.text, List.forall_mem_singleton.mpr
        (.object (by decide) (by simp) (List.forall_mem_singleton.mpr .null))⟩)) .unicode
  have listedParsed : Json.parse? (listed.render .unicode) = .ok listed :=
    Json.parse?_render (.object (by decide) (by simp) (List.forall_mem_cons.mpr
      ⟨.text, List.forall_mem_singleton.mpr
        (.array (List.forall_mem_singleton.mpr .null))⟩)) .unicode
  constructor
  · obtain ⟨event, read⟩ : ∃ event, decode (opened.render .unicode) = .ok event :=
      ⟨_, (decode_of_parse openedParsed).trans (ofRecord?_of_payloadOf .object)⟩
    obtain ⟨members, found, name, -⟩ := (decode_types _).1 event read
    rw [openedParsed] at found
    obtain rfl := Json.object.inj (Except.ok.inj found)
    exact ⟨event, read, name.mpr trivial⟩
  · exact (decode_types _).2 listed listedParsed (.noPayload rfl ⟨rfl, by simp⟩)

/-- A number, a truth value and an array are taken for texts, and a truth value for an object. -/
theorem decode_takes_numbers_for_names :
    let line := "\x7b\"Name\": 5, \"StreamId\": true, \"Id\": [1], " ++ "\"Payload\": false\x7d"
    ∃ event, decode line = .ok event ∧ (∀ text, event.name ≠ .text text) ∧
      (∀ text, event.streamId ≠ .text text) ∧ ∀ text, event.id ≠ .text text := by
  intro line
  have shown : (decode line).toOption.map
      (fun event => [event.name.text?, event.streamId.text?, event.id.text?]) =
        some [none, none, none] := by
    decide +kernel
  cases read : decode line with
  | error fault =>
    rw [read] at shown
    cases shown
  | ok event =>
    rw [read] at shown
    have noText {datum : Datum} (other : datum.text? = none) : ∀ text, datum ≠ .text text := by
      rintro text rfl
      cases other
    simp only [Except.toOption, Option.map_some, Option.some.injEq, List.cons.injEq,
      and_true] at shown
    exact ⟨event, rfl, noText shown.1, noText shown.2.1, noText shown.2.2⟩

end Event

end EventSourcing
