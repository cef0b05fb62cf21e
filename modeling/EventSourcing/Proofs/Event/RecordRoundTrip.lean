import EventSourcing.Event.Record
import EventSourcing.Proofs.Json.ValueRoundTrip
import EventSourcing.Proofs.Time.TimestampRoundTrip
import Mathlib.Data.List.Nodup

/-!
# Log lines read back

`Datum.Plain` says which data a payload may be built from so that the log gives it back:
no binary numbers, no octets, sets, moments or objects, keys that are texts, and so many
levels at most. An event whose payload is plain, whose name, stream and id are texts and
whose times are moments has a line, and the line describes the event again, tuples read
as lists. The line of what was read is the same line.
-/

set_option autoImplicit false

namespace EventSourcing

namespace Datum

/-- Data of at most `levels` levels that JSON text determines, tuples apart. -/
inductive Plain : Nat → Datum → Prop where
  | null {levels : Nat} : Plain levels .null
  | bool {levels : Nat} {value : Bool} : Plain levels (.bool value)
  | int {levels : Nat} {value : Int} :
      Decimal.length value.natAbs ≤ Json.maxDigits → Plain levels (.int value)
  | text {levels : Nat} {value : String} : Plain levels (.text value)
  | list {levels : Nat} {items : List Datum} :
      (∀ item ∈ items, Plain levels item) → Plain (levels + 1) (.list items)
  | tuple {levels : Nat} {items : List Datum} :
      (∀ item ∈ items, Plain levels item) → Plain (levels + 1) (.tuple items)
  | mapping {levels : Nat} {entries : Entries} :
      (∀ entry ∈ entries, ∃ name : String, entry.1 = .text name) → (entries.map Prod.fst).Nodup →
      (∀ entry ∈ entries, Plain levels entry.2) → Plain (levels + 1) (.mapping entries)

mutual

/-- The value with a list in the place of every tuple. -/
def listed : Datum → Datum
  | .list items => .list (listedItems items)
  | .tuple items => .list (listedItems items)
  | .mapping entries => .mapping (listedEntries entries)
  | .frozen entries => .frozen (listedEntries entries)
  | other => other

def listedItems : List Datum → List Datum
  | [] => []
  | item :: items => listed item :: listedItems items

def listedEntries : List (Datum × Datum) → List (Datum × Datum)
  | [] => []
  | (key, value) :: entries => (key, listed value) :: listedEntries entries

end

/-! ## Plain data as JSON -/

/-- The value has a JSON form that is read back as the value with lists for tuples. -/
private def HasForm (levels : Nat) (datum : Datum) : Prop :=
  ∃ json, datum.toJson? = .ok json ∧ Json.Legible levels json ∧ ofJson json = datum.listed

private theorem itemsToJson?_of_hasForm {levels : Nat} {items : List Datum}
    (forms : ∀ item ∈ items, HasForm levels item) :
    ∃ jsons, itemsToJson? items = .ok jsons ∧ (∀ json ∈ jsons, Json.Legible levels json) ∧
      ofJsonItems jsons = listedItems items := by
  induction items with
  | nil => exact ⟨[], rfl, by simp, rfl⟩
  | cons item items ih =>
      obtain ⟨json, form, legible, back⟩ := forms item (by simp)
      obtain ⟨jsons, restForm, restLegible, restBack⟩ :=
        ih fun each member => forms each (.tail _ member)
      refine ⟨json :: jsons, ?_, ?_, ?_⟩
      · simp only [itemsToJson?, form, restForm, bind, Except.bind]
        rfl
      · intro each member
        rcases List.mem_cons.mp member with rfl | member
        · exact legible
        · exact restLegible each member
      · simp only [ofJsonItems, listedItems, back, restBack]

private theorem entriesToJson?_of_hasForm {levels : Nat} {entries : Entries}
    (texts : ∀ entry ∈ entries, ∃ name : String, entry.1 = .text name)
    (forms : ∀ entry ∈ entries, HasForm levels entry.2) :
    ∃ members, entriesToJson? entries = .ok members ∧
      members.map (fun member => Datum.text member.1) = entries.map Prod.fst ∧
      (∀ member ∈ members, ∃ name : String, member.1 = name) ∧
      (∀ member ∈ members, Json.Legible levels member.2) ∧
      ofJsonMembers members = listedEntries entries := by
  induction entries with
  | nil => exact ⟨[], rfl, rfl, by simp, by simp, rfl⟩
  | cons entry entries ih =>
      obtain ⟨key, value⟩ := entry
      obtain ⟨name, rfl⟩ : ∃ name : String, key = .text name := texts (key, value) (by simp)
      obtain ⟨json, form, legible, back⟩ := forms (.text name, value) (by simp)
      obtain ⟨members, restForm, restKeys, restNames, restLegible, restBack⟩ :=
        ih (fun each member => texts each (.tail _ member))
          fun each member => forms each (.tail _ member)
      refine ⟨(↑name, json) :: members, ?_, ?_, ?_, ?_, ?_⟩
      · simp only [entriesToJson?, memberName?, form, restForm, bind, Except.bind]
        rfl
      · simp only [List.map_cons, restKeys]
      · exact List.forall_mem_cons.mpr ⟨⟨name, rfl⟩, restNames⟩
      · intro each member
        rcases List.mem_cons.mp member with rfl | member
        · exact legible
        · exact restLegible each member
      · simp only [ofJsonMembers, listedEntries, back, restBack]

/-- Plain data has a legible JSON form, which stands for the data with lists for tuples. -/
theorem Plain.toJson? {levels : Nat} {datum : Datum} (plain : Plain levels datum) :
    ∃ json, datum.toJson? = .ok json ∧ Json.Legible levels json ∧
      ofJson json = datum.listed := by
  induction plain with
  | null => exact ⟨.null, rfl, .null, rfl⟩
  | bool => exact ⟨.bool _, rfl, .bool, rfl⟩
  | int short =>
      refine ⟨.int _, ?_, .int short, rfl⟩
      rw [Datum.toJson?, intToJson?, if_neg (Nat.not_lt.mpr short)]
  | text => exact ⟨.text _, rfl, .text, rfl⟩
  | list _ ih =>
      obtain ⟨jsons, form, legible, back⟩ := itemsToJson?_of_hasForm ih
      refine ⟨.array jsons, ?_, .array legible, ?_⟩
      · simp only [Datum.toJson?, form, bind, Except.bind]
        rfl
      · simp only [ofJson, listed, back]
  | tuple _ ih =>
      obtain ⟨jsons, form, legible, back⟩ := itemsToJson?_of_hasForm ih
      refine ⟨.array jsons, ?_, .array legible, ?_⟩
      · simp only [Datum.toJson?, form, bind, Except.bind]
        rfl
      · simp only [ofJson, listed, back]
  | mapping texts distinct _ ih =>
      obtain ⟨members, form, keys, names, legible, back⟩ := entriesToJson?_of_hasForm texts ih
      have once : (members.map Prod.fst).Nodup := by
        rw [← keys] at distinct
        refine List.Nodup.of_map Datum.text ?_
        rwa [List.map_map]
      refine ⟨.object members, ?_, .object once names legible, ?_⟩
      · simp only [Datum.toJson?, form, bind, Except.bind]
        rfl
      · simp only [ofJson, listed, back]

mutual

theorem toJson?_listed : ∀ datum : Datum, datum.listed.toJson? = datum.toJson?
  | .list items | .tuple items => by
      simp only [listed, Datum.toJson?, itemsToJson?_listed items]
  | .mapping entries => by
      simp only [listed, Datum.toJson?, entriesToJson?_listed entries]
  | .frozen _ => rfl
  | .null | .bool _ | .int _ | .float _ | .nan _ | .text _ | .bytes _ | .set _ | .moment _
  | .object _ => rfl

theorem itemsToJson?_listed : ∀ items : List Datum,
    itemsToJson? (listedItems items) = itemsToJson? items
  | [] => rfl
  | item :: items => by
      simp only [listedItems, itemsToJson?, toJson?_listed item, itemsToJson?_listed items]

theorem entriesToJson?_listed : ∀ entries : List (Datum × Datum),
    entriesToJson? (listedEntries entries) = entriesToJson? entries
  | [] => rfl
  | (key, value) :: entries => by
      simp only [listedEntries, entriesToJson?, toJson?_listed value,
        entriesToJson?_listed entries]

end

mutual

theorem badKey?_listed : ∀ datum : Datum, datum.listed.badKey? = datum.badKey?
  | .list items | .tuple items => by
      simp only [listed, badKey?, badItemKey?_listed items]
  | .mapping entries | .frozen entries => by
      simp only [listed, badKey?, badEntryKey?_listed entries]
  | .null | .bool _ | .int _ | .float _ | .nan _ | .text _ | .bytes _ | .set _ | .moment _
  | .object _ => rfl

theorem badItemKey?_listed : ∀ items : List Datum,
    badItemKey? (listedItems items) = badItemKey? items
  | [] => rfl
  | item :: items => by
      simp only [listedItems, badItemKey?, badKey?_listed item, badItemKey?_listed items]

theorem badEntryKey?_listed : ∀ entries : List (Datum × Datum),
    badEntryKey? (listedEntries entries) = badEntryKey? entries
  | [] => rfl
  | (key, value) :: entries => by
      simp only [listedEntries, badEntryKey?, badKey?_listed value, badEntryKey?_listed entries]

end

private theorem badItemKey?_eq_none {items : List Datum}
    (good : ∀ item ∈ items, item.badKey? = none) : badItemKey? items = none := by
  induction items with
  | nil => rfl
  | cons item items ih =>
      rw [badItemKey?, good item (by simp), Option.orElse_none]
      exact ih fun each member => good each (.tail _ member)

private theorem badEntryKey?_eq_none {entries : Entries}
    (texts : ∀ entry ∈ entries, ∃ name : String, entry.1 = .text name)
    (good : ∀ entry ∈ entries, entry.2.badKey? = none) : badEntryKey? entries = none := by
  induction entries with
  | nil => rfl
  | cons entry entries ih =>
      obtain ⟨key, value⟩ := entry
      obtain ⟨name, rfl⟩ : ∃ name : String, key = .text name := texts (key, value) (by simp)
      have value : value.badKey? = none := good (.text name, value) (by simp)
      rw [badEntryKey?, value, Option.orElse_none]
      exact ih (fun each member => texts each (.tail _ member))
        fun each member => good each (.tail _ member)

theorem Plain.badKey? {levels : Nat} {datum : Datum} (plain : Plain levels datum) :
    datum.badKey? = none := by
  induction plain with
  | null | bool | int _ | text => rfl
  | list _ ih | tuple _ ih => exact badItemKey?_eq_none ih
  | mapping texts _ _ ih => exact badEntryKey?_eq_none texts ih

end Datum

namespace Event

theorem bind_eq_ok {Fault First Last : Type} {computation : Except Fault First}
    {next : First → Except Fault Last} {result : Last}
    (computed : computation >>= next = .ok result) :
    ∃ value, computation = .ok value ∧ next value = .ok result := by
  cases computation with
  | error fault => cases computed
  | ok value => exact ⟨value, rfl, computed⟩

def IsTime (time : Datum) : Prop :=
  time = .null ∨ ∃ moment, time = .moment moment

/-- Contents that a line gives back: texts in the places of name, stream and id, times
in those of times, and a mapping of plain data, open or closed, one level below the
deepest that is read. -/
structure IsPlain (event : Event) : Prop where
  name : ∃ text : String, event.name = .text text
  streamId : ∃ text : String, event.streamId = .text text
  id : ∃ text : String, event.id = .text text
  occurredOn : IsTime event.occurredOn
  persistedAt : IsTime event.persistedAt
  payload : ∃ entries, (event.payload = .mapping entries ∨ event.payload = .frozen entries) ∧
    Datum.Plain (Json.maxNesting - 1) (.mapping entries)

/-- The contents as a line gives them back: the payload is an open mapping, with lists in
the place of tuples. -/
def readBack (event : Event) : Event :=
  match event.payload with
  | .mapping entries | .frozen entries =>
    { event with payload := .mapping (Datum.listedEntries entries) }
  | _ => event

/-- How a line shows a time. -/
def timeDatum : Datum → Datum
  | .moment moment => .text moment.isoText
  | other => other

theorem timestampDatum_of_isTime {time : Datum} (isTime : IsTime time) :
    timestampDatum time = .ok (timeDatum time) := by
  rcases isTime with rfl | ⟨moment, rfl⟩ <;> rfl

private theorem plain_timeDatum {levels : Nat} {time : Datum} (isTime : IsTime time) :
    Datum.Plain levels (timeDatum time) := by
  rcases isTime with rfl | ⟨moment, rfl⟩
  · exact .null
  · exact .text

private theorem listed_timeDatum {time : Datum} (isTime : IsTime time) :
    (timeDatum time).listed = timeDatum time := by
  rcases isTime with rfl | ⟨moment, rfl⟩ <;> rfl

private theorem readMoment?_timeDatum {time : Datum} (isTime : IsTime time) :
    ∃ moment, readMoment? (some (timeDatum time)) = .ok moment ∧ ofMoment? moment = time := by
  rcases isTime with rfl | ⟨moment, rfl⟩
  · exact ⟨none, rfl, rfl⟩
  · refine ⟨some moment, ?_, rfl⟩
    simp only [timeDatum, readMoment?, Timestamp.parseAny?, Timestamp.parse?_isoText]
    rfl

/-- What a line says of an event. -/
def recordOf (event : Event) (entries : Entries) : Entries :=
  [(.text "Id", event.id), (.text "StreamId", event.streamId), (.text "Name", event.name),
    (.text "OccurredOn", timeDatum event.occurredOn),
    (.text "PersistedAt", timeDatum event.persistedAt), (.text "Payload", .mapping entries)]

private theorem plain_recordOf {event : Event} (plain : event.IsPlain) {entries : Entries}
    (payload : Datum.Plain (Json.maxNesting - 1) (.mapping entries)) :
    Datum.Plain Json.maxNesting (.mapping (recordOf event entries)) := by
  obtain ⟨name, nameText⟩ := plain.name
  obtain ⟨streamId, streamText⟩ := plain.streamId
  obtain ⟨id, idText⟩ := plain.id
  refine Datum.Plain.mapping ?_ (by simp [recordOf]) ?_
  · simp [recordOf]
  · simp only [recordOf, nameText, streamText, idText, List.forall_mem_cons]
    exact ⟨.text, .text, .text, plain_timeDatum plain.occurredOn,
      plain_timeDatum plain.persistedAt, payload, by simp⟩

/-- An event with times for its times has a record, unless a key of its payload is not a text. -/
theorem toRecord?_of_isTime {event : Event} (occurredOn : IsTime event.occurredOn)
    (persistedAt : IsTime event.persistedAt) {entries : Entries}
    (holds : event.payload = .mapping entries ∨ event.payload = .frozen entries) :
    event.toRecord? =
      match Datum.badEntryKey? entries with
      | some key => .error (.unencodable (.keyNotText key))
      | none => .ok (recordOf event entries) := by
  have read : event.payload.toEntries? = .ok entries := by
    rcases holds with shape | shape <;> rw [shape] <;> rfl
  simp only [toRecord?, read, Except.mapError, bind, Except.bind,
    timestampDatum_of_isTime occurredOn, timestampDatum_of_isTime persistedAt]
  cases Datum.badEntryKey? entries <;> rfl

private theorem textOrElse_text (text : String) :
    textOrElse (some (.text text)) = .text text := by
  by_cases void : AnyText.isEmpty text
  · have empty : text = "" := String.isEmpty_iff.mp void
    subst empty
    rfl
  · simp only [textOrElse, Datum.isVoid, void, Bool.false_eq_true, if_false]

private theorem ofRecord?_recordOf {event : Event} (plain : event.IsPlain)
    {entries : Entries}
    (holds : event.payload = .mapping entries ∨ event.payload = .frozen entries) :
    ofRecord? (Datum.listedEntries (recordOf event entries)) = .ok event.readBack := by
  obtain ⟨name, nameText⟩ := plain.name
  obtain ⟨streamId, streamText⟩ := plain.streamId
  obtain ⟨id, idText⟩ := plain.id
  obtain ⟨occurred, occurredRead, occurredBack⟩ := readMoment?_timeDatum plain.occurredOn
  obtain ⟨persisted, persistedRead, persistedBack⟩ := readMoment?_timeDatum plain.persistedAt
  have back : event.readBack =
      { event with payload := .mapping (Datum.listedEntries entries) } := by
    rcases holds with shape | shape <;> simp only [readBack, shape]
  have shown : Datum.listedEntries (recordOf event entries) =
      [(.text "Id", .text id), (.text "StreamId", .text streamId), (.text "Name", .text name),
        (.text "OccurredOn", timeDatum event.occurredOn),
        (.text "PersistedAt", timeDatum event.persistedAt),
        (.text "Payload", .mapping (Datum.listedEntries entries))] := by
    simp only [recordOf, Datum.listedEntries, nameText, streamText, idText, Datum.listed,
      listed_timeDatum plain.occurredOn, listed_timeDatum plain.persistedAt]
  rw [shown, back]
  simp only [ofRecord?, Entries.get?, List.find?, Datum.same, Datum.sameScalar,
    AnyText.whole_beq_whole, String.reduceBEq, Option.map_some, occurredRead, persistedRead,
    occurredBack, persistedBack, textOrElse_text, nameText, streamText, idText, bind, Except.bind,
    pure, Except.pure]
  split
  · rename_i void
    rw [List.isEmpty_iff.mp void]
  · rfl

private theorem encode_listedEntries {event : Event} {entries : Entries}
    (holds : event.payload = .mapping entries ∨ event.payload = .frozen entries) :
    encode { event with payload := .mapping (Datum.listedEntries entries) } = event.encode := by
  have read : event.payload.toEntries? = .ok entries := by
    rcases holds with shape | shape <;> rw [shape] <;> rfl
  have readListed : (Datum.mapping (Datum.listedEntries entries)).toEntries? =
      .ok (Datum.listedEntries entries) := rfl
  simp only [encode, toRecord?, read, readListed, Except.mapError, bind, Except.bind,
    Datum.badEntryKey?_listed]
  cases Datum.badEntryKey? entries with
  | some key => rfl
  | none =>
      cases timestampDatum event.occurredOn with
      | error fault => rfl
      | ok occurred =>
          cases timestampDatum event.persistedAt with
          | error fault => rfl
          | ok persisted =>
              simp only [pure, Except.pure, Datum.toJson?, Datum.entriesToJson?,
                Datum.entriesToJson?_listed]

/-- What is read back has the same line, or the same lack of one. -/
theorem encode_readBack (event : Event) : event.readBack.encode = event.encode := by
  unfold readBack
  split
  · rename_i entries shape
    exact encode_listedEntries (.inl shape)
  · rename_i entries shape
    exact encode_listedEntries (.inr shape)
  · rfl

/-- A plain event has a line of JSON, and the line, whatever blanks stand around it,
describes the event again. -/
theorem IsPlain.encode_eq {event : Event} (plain : event.IsPlain) :
    ∃ line : String, event.encode = .ok line ∧
      ∀ front blanks : List Char, (∀ character ∈ front, Json.isSpace character = true) →
        (∀ character ∈ blanks, Json.isSpace character = true) →
        decode (String.ofList (front ++ (line.toList ++ blanks))) = .ok event.readBack := by
  obtain ⟨entries, holds, payload⟩ := plain.payload
  obtain ⟨json, form, legible, back⟩ := (plain_recordOf plain payload).toJson?
  have record : event.toRecord? = .ok (recordOf event entries) := by
    rw [toRecord?_of_isTime plain.occurredOn plain.persistedAt holds,
      show Datum.badEntryKey? entries = none from payload.badKey?]
  obtain ⟨line, shown⟩ := legible.render_whole .unicode
  refine ⟨line, ?_, fun front blanks frontBlank blank => ?_⟩
  · simp only [encode, record, form, bind, Except.bind, Except.mapError, ← shown]
    rfl
  · have points : line.toList.map .char = Json.renderPoints .unicode json := by
      rw [← AnyText.points_whole, ← shown, Json.render, AnyText.points_ofPoints]
    have shape : (AnyText.whole (String.ofList (front ++ (line.toList ++ blanks)))).points =
        front.map .char ++ (Json.renderPoints .unicode json ++ blanks.map .char) := by
      rw [AnyText.points_whole, String.toList_ofList, List.map_append, List.map_append, points]
    rw [decode, Json.parse?, Json.parseWithin?_render legible .unicode frontBlank blank shape]
    simp only [Except.mapError, bind, Except.bind, back, Datum.listed]
    exact ofRecord?_recordOf plain holds

/-- A plain event has a line, which gives the event back with lists in the place of
tuples, and what was read has the same line again. -/
theorem decode_encode {event : Event} (plain : event.IsPlain) :
    ∃ line : String, event.encode = .ok line ∧ decode line = .ok event.readBack ∧
      event.readBack.encode = .ok line := by
  obtain ⟨line, written, read⟩ := plain.encode_eq
  refine ⟨line, written, ?_, ?_⟩
  · have bare := read [] [] (by simp) (by simp)
    rwa [List.nil_append, List.append_nil, String.ofList_toList] at bare
  · rw [encode_readBack, written]

/-- A stored event with an offset of seconds, no stream and a tuple in its payload. -/
def sampleEvent : Event :=
  { name := .text "order \"placed\"\n", id := .text "é-1"
    occurredOn := .moment
      { date := { year := 2024, month := 2, day := 29 }, time := .midnight
        offset := some { microseconds := -1801000000 } }
    payload := .frozen
      [(.text "lines", .tuple [.int (-12), .bool true, .mapping []]), (.text "", .null)] }

theorem decode_encode_sampleEvent :
    sampleEvent.IsPlain ∧
      ∃ line : String, sampleEvent.encode = .ok line ∧
        decode line = .ok sampleEvent.readBack ∧
        sampleEvent.readBack.encode = .ok line := by
  have plain : sampleEvent.IsPlain :=
    { name := ⟨_, rfl⟩
      streamId := ⟨_, rfl⟩
      id := ⟨_, rfl⟩
      occurredOn := .inr ⟨_, rfl⟩
      persistedAt := .inl rfl
      payload := by
        refine ⟨_, .inr rfl, .mapping (by simp) (by simp) ?_⟩
        simp only [List.forall_mem_cons]
        refine ⟨.tuple ?_, .null, by simp⟩
        simp only [List.forall_mem_cons]
        exact ⟨.int (by decide), .bool, .mapping (by simp) (by simp) (by simp), by simp⟩ }
  exact ⟨plain, decode_encode plain⟩

end Event

end EventSourcing
