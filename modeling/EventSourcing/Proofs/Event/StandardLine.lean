import EventSourcing.Proofs.Event.Encodable
import EventSourcing.Proofs.Json.OneLine
import EventSourcing.Proofs.Json.StandardText

/-!
# Lines that the standard reads

The line of an event is on one line whatever the event holds, and it is the text of an object with
six members in a fixed order, by the grammar of the standard, exactly if no part of the payload is
a number that the standard has no text for. The writer accepts infinities and not-a-number as well;
only readers that know the words for them can read their lines.
-/

set_option autoImplicit false

namespace EventSourcing

open Json.Grammar

namespace Datum

/-- Neither an infinity nor not-a-number; parts of the value are not looked at. -/
def IsFinite : Datum → Prop
  | .nan _ | .float (.infinite _) => False
  | _ => True

private theorem standard_items_iff {items : List Datum} {jsons : List Json}
    (each : ∀ item ∈ items, ∀ json, item.toJson? = .ok json →
      (json.Standard ↔ item.Everywhere IsFinite))
    (written : itemsToJson? items = .ok jsons) :
    (∀ json ∈ jsons, json.Standard) ↔ ∀ item ∈ items, item.Everywhere IsFinite := by
  induction items generalizing jsons with
  | nil =>
    cases written
    simp
  | cons item items ih =>
    obtain ⟨here, later⟩ := List.forall_mem_cons.mp each
    unfold itemsToJson? at written
    obtain ⟨first, firstWritten, written⟩ := Event.bind_eq_ok written
    obtain ⟨rest, restWritten, written⟩ := Event.bind_eq_ok written
    cases written
    simp only [List.forall_mem_cons, here first firstWritten, ih later restWritten]

private theorem standard_entries_iff {entries : Entries} {members : List (AnyText × Json)}
    (each : ∀ value ∈ entries.map Prod.snd, ∀ json, value.toJson? = .ok json →
      (json.Standard ↔ value.Everywhere IsFinite))
    (written : entriesToJson? entries = .ok members) :
    (∀ member ∈ members, member.2.Standard) ↔
      ∀ value ∈ entries.map Prod.snd, value.Everywhere IsFinite := by
  induction entries generalizing members with
  | nil =>
    cases written
    simp
  | cons entry entries ih =>
    obtain ⟨key, value⟩ := entry
    obtain ⟨here, later⟩ := List.forall_mem_cons.mp each
    unfold entriesToJson? at written
    obtain ⟨name, -, written⟩ := Event.bind_eq_ok written
    obtain ⟨first, firstWritten, written⟩ := Event.bind_eq_ok written
    obtain ⟨rest, restWritten, written⟩ := Event.bind_eq_ok written
    cases written
    simp only [List.map_cons, List.forall_mem_cons, here first firstWritten,
      ih later restWritten]

/-- The form of a value has a text of the standard exactly if every part of the value is finite. -/
theorem standard_iff {datum : Datum} {json : Json} (written : datum.toJson? = .ok json) :
    json.Standard ↔ datum.Everywhere IsFinite := by
  induction datum using inductionOnComponents generalizing json with
  | node datum ih =>
    have below : ∀ component ∈ datum.components, ∀ json, component.toJson? = .ok json →
        (json.Standard ↔ component.Everywhere IsFinite) :=
      fun component member _ form => ih component member form
    cases datum with
    | list items | tuple items =>
      obtain ⟨jsons, forms, written⟩ := Event.bind_eq_ok written
      cases written
      constructor
      · intro standard
        cases standard with
        | array standard =>
          exact everywhere_iff.mpr ⟨trivial, (standard_items_iff below forms).mp standard⟩
      · intro everywhere
        exact .array ((standard_items_iff below forms).mpr (everywhere_iff.mp everywhere).2)
    | mapping entries =>
      obtain ⟨members, forms, written⟩ := Event.bind_eq_ok written
      cases written
      constructor
      · intro standard
        cases standard with
        | object standard =>
          exact everywhere_iff.mpr ⟨trivial, (standard_entries_iff below forms).mp standard⟩
      · intro everywhere
        exact .object ((standard_entries_iff below forms).mpr (everywhere_iff.mp everywhere).2)
    | int value =>
      rw [toJson?, intToJson?] at written
      split at written
      · cases written
      · cases written
        exact iff_of_true .int ((everywhere_of_leaf rfl).mpr trivial)
    | float value =>
      cases written
      rw [everywhere_of_leaf rfl]
      cases value with
      | finite negative mantissa exponent => exact iff_of_true .float trivial
      | infinite negative =>
        refine iff_of_false ?_ id
        rintro ⟨⟩
    | nan identity =>
      cases written
      rw [everywhere_of_leaf rfl]
      refine iff_of_false ?_ id
      rintro ⟨⟩
    | null =>
      cases written
      exact iff_of_true .null ((everywhere_of_leaf rfl).mpr trivial)
    | bool value =>
      cases written
      exact iff_of_true .bool ((everywhere_of_leaf rfl).mpr trivial)
    | text value =>
      cases written
      exact iff_of_true .text ((everywhere_of_leaf rfl).mpr trivial)
    | bytes _ | set _ | frozen _ | moment _ | object _ => cases written

end Datum

namespace Event

variable {event : Event} {line : AnyText}

private theorem isTime_of_timestampDatum {time datum : Datum}
    (shown : timestampDatum time = .ok datum) : IsTime time := by
  obtain ⟨text, read, -⟩ := bind_eq_ok shown
  cases time with
  | null => exact .inl rfl
  | moment moment => exact .inr ⟨moment, rfl⟩
  | _ => cases read

private theorem toRecord?_eq_ok {record : Entries} (made : event.toRecord? = .ok record) :
    IsTime event.occurredOn ∧ IsTime event.persistedAt ∧
      ∃ entries, event.payload.toEntries? = .ok entries ∧
        Datum.badEntryKey? entries = none ∧ record = recordOf event entries := by
  unfold toRecord? at made
  obtain ⟨entries, read, made⟩ := bind_eq_ok made
  have holds : event.payload.toEntries? = .ok entries := by
    cases payload : event.payload.toEntries? with
    | error fault =>
      rw [payload] at read
      cases read
    | ok entries =>
      rw [payload] at read
      cases read
      rfl
  cases clean : Datum.badEntryKey? entries with
  | some key =>
    rw [clean] at made
    cases made
  | none =>
    rw [clean] at made
    obtain ⟨occurred, occurredShown, made⟩ := bind_eq_ok made
    obtain ⟨persisted, persistedShown, made⟩ := bind_eq_ok made
    have occurredOn := isTime_of_timestampDatum occurredShown
    have persistedAt := isTime_of_timestampDatum persistedShown
    rw [timestampDatum_of_isTime occurredOn] at occurredShown
    rw [timestampDatum_of_isTime persistedAt] at persistedShown
    cases occurredShown
    cases persistedShown
    cases made
    exact ⟨occurredOn, persistedAt, entries, holds, clean, rfl⟩

theorem encode_eq_ok (written : event.encode = .ok line) :
    IsTime event.occurredOn ∧ IsTime event.persistedAt ∧
      ∃ entries json, event.payload.toEntries? = .ok entries ∧
        Datum.badEntryKey? entries = none ∧
        (Datum.mapping (recordOf event entries)).toJson? = .ok json ∧
        line = json.render .unicode := by
  unfold encode at written
  obtain ⟨record, made, written⟩ := bind_eq_ok written
  obtain ⟨occurredOn, persistedAt, entries, holds, clean, rfl⟩ := toRecord?_eq_ok made
  obtain ⟨json, form, written⟩ := bind_eq_ok written
  cases written
  refine ⟨occurredOn, persistedAt, entries, json, holds, clean, ?_, rfl⟩
  cases shown : (Datum.mapping (recordOf event entries)).toJson? with
  | error reason =>
    rw [shown] at form
    cases form
  | ok other =>
    rw [shown] at form
    cases form
    rfl

/-- The names of the members of a line, in their order. -/
def memberNames : List String :=
  ["Id", "StreamId", "Name", "OccurredOn", "PersistedAt", "Payload"]

private theorem quoted_memberNames {entries : Entries} {members : List (AnyText × Json)}
    (names : members.map (fun member => Datum.text member.1) =
      (recordOf event entries).map Prod.fst) :
    members.map (fun member => Json.renderText .unicode member.1) =
      memberNames.map fun name => ('"' :: (name.toList ++ ['"'])).map .char := by
  have shown : members.map Prod.fst = memberNames.map .whole := by
    refine List.map_injective_iff.mpr (fun _ _ same => Datum.text.inj same) ?_
    rw [List.map_map]
    exact names
  calc members.map (fun member => Json.renderText .unicode member.1)
      = (members.map Prod.fst).map (Json.renderText .unicode) := by rw [List.map_map]; rfl
    _ = memberNames.map fun name => Json.renderText .unicode name := by
      rw [shown, List.map_map]
      rfl
    _ = memberNames.map fun name => ('"' :: (name.toList ++ ['"'])).map .char := by decide

/-- A line has no end of line inside. It is the text of an object with the six members, by the
grammar of the standard, as long as every part of the payload is finite; the line of any other
payload is no JSON text. -/
theorem encode_is_standard_of_finite (name : ∃ text, event.name = .text text)
    (streamId : ∃ text, event.streamId = .text text) (id : ∃ text, event.id = .text text)
    (written : event.encode = .ok line) :
    Text.OneLine line.points ∧
      ∃ entries, event.payload.toEntries? = .ok entries ∧
        ((Datum.mapping entries).Everywhere Datum.IsFinite →
          IsObject memberNames line.points ∧ IsText line.points) ∧
        (¬(Datum.mapping entries).Everywhere Datum.IsFinite → ¬IsText line.points) := by
  obtain ⟨occurredOn, persistedAt, entries, json, holds, clean, form, rfl⟩ := encode_eq_ok written
  have labelled : event.Labelled := ⟨name, streamId, id, occurredOn, persistedAt⟩
  have finite : json.Standard ↔ (Datum.mapping entries).Everywhere Datum.IsFinite :=
    (Datum.standard_iff form).trans
      (everywhere_recordOf labelled (fun _ => trivial) trivial trivial)
  have texts : ∀ entry ∈ recordOf event entries, ∃ key, entry.1 = .text key := by
    simp [recordOf]
  obtain ⟨members, rfl, names⟩ := Datum.object_of_mapping texts form
  rw [Json.render, AnyText.points_ofPoints]
  refine ⟨Json.oneLine_renderPoints .unicode _, entries, holds, fun all => ?_,
    fun other isText => ?_⟩
  · have standard : ∀ member ∈ members, member.2.Standard := by
      cases finite.mpr all with
      | object standard => exact standard
    have object := Json.isObject_renderPoints standard (quoted_memberNames names)
    exact ⟨object, object.isText⟩
  · exact other (finite.mp (Json.isText_renderPoints_iff.mp isText))

/-- A closed payload with a fraction, a large number and texts that need escapes. -/
theorem encode_is_standard_of_finite_weighed :
    let entries : Entries := [(.text "share", .float (.finite false 3 (-1))),
      (.text "parts", .tuple [.int (-7), .float (.finite true 1 80), .text "a\n\"b\""])]
    let weighed : Event := {
      name := .text "weighed", streamId := .text "crate\t1", id := .text "w1"
      payload := .frozen entries }
    ∃ line, weighed.encode = .ok line ∧ (Datum.mapping entries).Everywhere Datum.IsFinite ∧
      Text.OneLine line.points ∧ IsObject memberNames line.points := by
  intro entries weighed
  have leaf {datum : Datum} (bare : datum.components = []) (finite : datum.IsFinite) :
      datum.Everywhere Datum.IsFinite :=
    (Datum.everywhere_of_leaf bare).mpr finite
  have finite : (Datum.mapping entries).Everywhere Datum.IsFinite := by
    refine Datum.everywhere_iff.mpr ⟨trivial, ?_⟩
    simp only [entries, Datum.components, List.map_cons, List.map_nil, List.forall_mem_cons]
    refine ⟨leaf rfl trivial, Datum.everywhere_iff.mpr ⟨trivial, ?_⟩, by simp⟩
    simp only [Datum.components, List.forall_mem_cons]
    exact ⟨leaf rfl trivial, leaf rfl trivial, leaf rfl trivial, by simp⟩
  obtain ⟨line, written⟩ : ∃ line, weighed.encode = .ok line := ⟨_, rfl⟩
  obtain ⟨oneLine, read, holds, standard, -⟩ :=
    encode_is_standard_of_finite ⟨_, rfl⟩ ⟨_, rfl⟩ ⟨_, rfl⟩ written
  cases holds
  exact ⟨line, written, finite, oneLine, (standard finite).1⟩

/-- An event that measured not-a-number is written, and its line is no JSON text. -/
theorem encode_writes_nan :
    let measured : Event := {
      name := .text "measured"
      payload := .mapping [(.text "load", .nan 0)] }
    let line : AnyText := "\x7b\"Id\": \"\", \"StreamId\": \"\", \"Name\": \"measured\", " ++
      "\"OccurredOn\": null, \"PersistedAt\": null, \"Payload\": \x7b\"load\": NaN\x7d\x7d"
    measured.encode = .ok line ∧ ¬IsText line.points := by
  intro measured line
  have written : measured.encode = .ok (Json.render .unicode (.object [("Id", .text ""),
      ("StreamId", .text ""), ("Name", .text "measured"), ("OccurredOn", .null),
      ("PersistedAt", .null), ("Payload", .object [("load", .nan)])])) := rfl
  refine ⟨written.trans (congrArg Except.ok (by decide +kernel)), fun isText => ?_⟩
  obtain ⟨shown, passes, noN, -⟩ := isText.sober
  rw [← passes.shown_eq] at noN
  exact noN (by decide +kernel)

end Event

end EventSourcing
