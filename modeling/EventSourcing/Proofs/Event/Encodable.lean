import EventSourcing.Proofs.Event.RecordRoundTrip

/-!
# Payloads that have a line

A payload is written after two walks through it, one that looks for keys that are not texts and one
that gives every part its form. `Datum.Part` is reaching through sequences and mappings, which both
walks do: sets and keys are not entered. Each walk comes to its end exactly if every part that is
reached is as that walk wants it, and together they accept the payloads that are `Representable`.
-/

set_option autoImplicit false

namespace EventSourcing

namespace Datum

/-! ## Parts -/

/-- The items of a sequence and the values of a mapping. -/
def components : Datum → List Datum
  | .list items | .tuple items => items
  | .mapping entries | .frozen entries => entries.map Prod.snd
  | _ => []

/-- A value that is reached in another through sequences and mappings, or is the other. -/
inductive Part (part : Datum) : Datum → Prop where
  | whole : Part part part
  | within {component whole : Datum} :
      component ∈ whole.components → Part part component → Part part whole

theorem sizeOf_lt_of_mem_components {component whole : Datum}
    (member : component ∈ whole.components) : sizeOf component < sizeOf whole := by
  have values {entries : Entries} (inside : component ∈ entries.map Prod.snd) :
      sizeOf component < sizeOf entries := by
    obtain ⟨⟨key, value⟩, entry, rfl⟩ := List.mem_map.mp inside
    have small := List.sizeOf_lt_of_mem entry
    simp only [Prod.mk.sizeOf_spec] at small ⊢
    omega
  cases whole with
  | list items | tuple items =>
    have small : sizeOf component < sizeOf items := List.sizeOf_lt_of_mem member
    simp only [list.sizeOf_spec, tuple.sizeOf_spec]
    omega
  | mapping entries | frozen entries =>
    have small := values member
    simp only [mapping.sizeOf_spec, frozen.sizeOf_spec]
    omega
  | _ => cases member

@[elab_as_elim]
theorem inductionOnComponents {motive : Datum → Prop}
    (node : ∀ datum, (∀ component ∈ datum.components, motive component) → motive datum)
    (datum : Datum) : motive datum :=
  node datum fun component _ => inductionOnComponents node component
termination_by sizeOf datum
decreasing_by
  rename_i member
  exact sizeOf_lt_of_mem_components member

/-- What holds of every part. -/
def Everywhere (holds : Datum → Prop) (datum : Datum) : Prop :=
  ∀ part, Part part datum → holds part

section Everywhere

variable {holds : Datum → Prop} {part middle whole : Datum}

theorem Part.trans (inner : Part part middle) (outer : Part middle whole) : Part part whole := by
  induction outer with
  | whole => exact inner
  | within member _ ih => exact .within member ih

theorem Everywhere.of_part (everywhere : whole.Everywhere holds) (reached : Part part whole) :
    part.Everywhere holds :=
  fun other inner => everywhere other (inner.trans reached)

theorem everywhere_iff :
    whole.Everywhere holds ↔
      holds whole ∧ ∀ component ∈ whole.components, component.Everywhere holds := by
  constructor
  · exact fun everywhere =>
      ⟨everywhere whole .whole, fun component member => everywhere.of_part (.within member .whole)⟩
  · rintro ⟨here, below⟩ other reached
    cases reached with
    | whole => exact here
    | within member inner => exact below _ member other inner

theorem everywhere_of_leaf (leaf : whole.components = []) :
    whole.Everywhere holds ↔ holds whole := by
  rw [everywhere_iff, leaf]
  simp

end Everywhere

/-! ## Looking for keys -/

/-- The keys of a mapping are texts; other data has no keys. -/
def HasTextKeys : Datum → Prop
  | .mapping entries | .frozen entries => ∀ entry ∈ entries, ∃ name, entry.1 = .text name
  | _ => True

private theorem badItemKey?_eq_none_iff (items : List Datum) :
    badItemKey? items = none ↔ ∀ item ∈ items, item.badKey? = none := by
  induction items with
  | nil => simp [badItemKey?]
  | cons item items ih =>
    rw [List.forall_mem_cons, ← ih, badItemKey?]
    cases item.badKey? <;> simp

private theorem badEntryKey?_eq_none_iff (entries : Entries) :
    badEntryKey? entries = none ↔
      (∀ entry ∈ entries, ∃ name, entry.1 = .text name) ∧
        ∀ value ∈ entries.map Prod.snd, value.badKey? = none := by
  induction entries with
  | nil => simp [badEntryKey?]
  | cons entry entries ih =>
    obtain ⟨key, value⟩ := entry
    rw [List.forall_mem_cons, List.map_cons, List.forall_mem_cons, and_and_and_comm, ← ih,
      badEntryKey?]
    cases key with
    | text name => cases value.badKey? <;> simp [text?]
    | _ => simp [text?]

/-- No key is found that is not a text exactly if all keys that are reached are texts. -/
theorem badKey?_eq_none_iff (datum : Datum) :
    datum.badKey? = none ↔ datum.Everywhere HasTextKeys := by
  induction datum using inductionOnComponents with
  | node datum ih =>
    have below : (∀ component ∈ datum.components, component.badKey? = none) ↔
        ∀ component ∈ datum.components, component.Everywhere HasTextKeys :=
      forall₂_congr ih
    rw [everywhere_iff, ← below]
    cases datum with
    | list items | tuple items =>
      simp only [badKey?, badItemKey?_eq_none_iff, HasTextKeys, components, true_and]
    | mapping entries | frozen entries =>
      simp only [badKey?, badEntryKey?_eq_none_iff, HasTextKeys, components]
    | _ => simp [badKey?, HasTextKeys, components]

/-! ## Giving forms -/

def IsShort : Datum → Prop
  | .int value => Decimal.length value.natAbs ≤ Json.maxDigits
  | _ => True

def isWritable : Datum → Bool
  | .bytes _ | .set _ | .frozen _ | .moment _ | .object _ => false
  | _ => true

/-- There is a form if the condition holds, and otherwise something that has none is named. -/
def Writes {Form : Type} (outcome : Except Unencodable Form) (condition : Prop) : Prop :=
  (∃ form, outcome = .ok form) ∧ condition ∨
    (∃ kind, outcome = .error (.noJson kind)) ∧ ¬condition

section Writes

variable {Form Next : Type} {outcome : Except Unencodable Form} {first second : Prop}

private theorem writes_ok (form : Form) : Writes (.ok form) True :=
  .inl ⟨⟨form, rfl⟩, trivial⟩

private theorem Writes.congr (writes : Writes outcome first) (same : first ↔ second) :
    Writes outcome second := by
  rwa [← propext same]

private theorem Writes.bind {next : Form → Except Unencodable Next}
    (writes : Writes outcome first) (rest : ∀ form, Writes (next form) second) :
    Writes (outcome >>= next) (first ∧ second) := by
  rcases writes with ⟨⟨form, rfl⟩, holds⟩ | ⟨⟨kind, rfl⟩, fails⟩
  · exact (rest form).congr (and_iff_right holds).symm
  · exact .inr ⟨⟨kind, rfl⟩, fun both => fails both.1⟩

private theorem Writes.map (writes : Writes outcome first) (view : Form → Next) :
    Writes (outcome >>= fun form => pure (view form)) first :=
  (writes.bind fun form => writes_ok (view form)).congr (and_iff_left trivial)

end Writes

private theorem writes_items {condition : Datum → Prop} {items : List Datum}
    (each : ∀ item ∈ items, Writes item.toJson? (condition item)) :
    Writes (itemsToJson? items) (∀ item ∈ items, condition item) := by
  induction items with
  | nil => exact (writes_ok []).congr (by simp)
  | cons item items ih =>
    obtain ⟨here, later⟩ := List.forall_mem_cons.mp each
    rw [List.forall_mem_cons, itemsToJson?]
    exact here.bind fun form => (ih later).map (form :: ·)

private theorem writes_entries {condition : Datum → Prop} {entries : Entries}
    (texts : ∀ entry ∈ entries, ∃ name, entry.1 = .text name)
    (each : ∀ value ∈ entries.map Prod.snd, Writes value.toJson? (condition value)) :
    Writes (entriesToJson? entries) (∀ value ∈ entries.map Prod.snd, condition value) := by
  induction entries with
  | nil => exact (writes_ok []).congr (by simp)
  | cons entry entries ih =>
    obtain ⟨key, value⟩ := entry
    obtain ⟨⟨name, rfl⟩, laterTexts⟩ := List.forall_mem_cons.mp texts
    obtain ⟨here, later⟩ := List.forall_mem_cons.mp each
    rw [List.map_cons, List.forall_mem_cons, entriesToJson?]
    exact here.bind fun form => (ih laterTexts later).map ((name, form) :: ·)

/-- Where all keys are texts and all whole numbers short, a value has a form exactly if every part
that is reached is of a kind that has one. -/
theorem writes_toJson? {datum : Datum} (texts : datum.Everywhere HasTextKeys)
    (short : datum.Everywhere IsShort) :
    Writes datum.toJson? (datum.Everywhere (·.isWritable = true)) := by
  induction datum using inductionOnComponents with
  | node datum ih =>
    obtain ⟨textsHere, textsBelow⟩ := everywhere_iff.mp texts
    obtain ⟨shortHere, shortBelow⟩ := everywhere_iff.mp short
    have below : ∀ component ∈ datum.components, Writes component.toJson?
        (component.Everywhere (·.isWritable = true)) :=
      fun component member => ih component member (textsBelow component member)
        (shortBelow component member)
    rw [everywhere_iff]
    cases datum with
    | list items | tuple items =>
      refine Writes.congr ?_ (and_iff_right rfl).symm
      exact (writes_items below).map Json.array
    | mapping entries =>
      refine Writes.congr ?_ (and_iff_right rfl).symm
      exact (writes_entries textsHere below).map Json.object
    | int value =>
      refine .inl ⟨⟨.int value, if_neg (Nat.not_lt.mpr shortHere)⟩, rfl, by simp [components]⟩
    | null | bool _ | float _ | nan _ | text _ =>
      exact .inl ⟨⟨_, rfl⟩, rfl, by simp [components]⟩
    | bytes _ | set _ | frozen _ | moment _ | object _ =>
      exact .inr ⟨⟨_, rfl⟩, fun writable => Bool.noConfusion writable.1⟩

/-- An object that is written for a mapping has the keys of the mapping for its names. -/
theorem names_of_entriesToJson? {entries : Entries} {members : List (AnyText × Json)}
    (texts : ∀ entry ∈ entries, ∃ name, entry.1 = .text name)
    (written : entriesToJson? entries = .ok members) :
    members.map (fun member => Datum.text member.1) = entries.map Prod.fst := by
  induction entries generalizing members with
  | nil =>
    cases written
    rfl
  | cons entry entries ih =>
    obtain ⟨key, value⟩ := entry
    obtain ⟨⟨name, rfl⟩, later⟩ := List.forall_mem_cons.mp texts
    simp only [entriesToJson?, memberName?, bind, Except.bind] at written
    cases form : value.toJson? with
    | error reason => simp [form] at written
    | ok json =>
      cases rest : entriesToJson? entries with
      | error reason => simp [form, rest] at written
      | ok others =>
        simp only [form, rest, pure, Except.pure, Except.ok.injEq] at written
        rw [← written, List.map_cons, List.map_cons, ih later rest]

theorem object_of_mapping {entries : Entries} {json : Json}
    (texts : ∀ entry ∈ entries, ∃ name, entry.1 = .text name)
    (written : (Datum.mapping entries).toJson? = .ok json) :
    ∃ members, json = .object members ∧
      members.map (fun member => Datum.text member.1) = entries.map Prod.fst := by
  rw [toJson?] at written
  cases forms : entriesToJson? entries with
  | error reason =>
    rw [forms] at written
    cases written
  | ok members =>
    rw [forms] at written
    cases written
    exact ⟨members, rfl, names_of_entriesToJson? texts forms⟩

/-! ## Representable payloads -/

def isContainer : Datum → Bool
  | .list _ | .tuple _ | .mapping _ | .frozen _ => true
  | _ => false

def isJsonScalar : Datum → Bool
  | .null | .bool _ | .int _ | .float _ | .nan _ | .text _ => true
  | _ => false

/-- Every key is a text, no mapping below the top can only be read, and what is neither a sequence
nor a mapping is a scalar or a text. -/
structure Representable (entries : Entries) : Prop where
  keys : ∀ inner, Part (.mapping inner) (.mapping entries) ∨
    Part (.frozen inner) (.mapping entries) → ∀ entry ∈ inner, ∃ name, entry.1 = .text name
  unfrozen : ∀ inner, ¬Part (.frozen inner) (.mapping entries)
  leaves : ∀ leaf, Part leaf (.mapping entries) → leaf.isContainer = false →
    leaf.isJsonScalar = true

theorem representable_iff {entries : Entries} :
    Representable entries ↔
      (Datum.mapping entries).Everywhere HasTextKeys ∧
        (Datum.mapping entries).Everywhere (·.isWritable = true) := by
  constructor
  · intro representable
    refine ⟨fun part reached => ?_, fun part reached => ?_⟩
    · cases part with
      | mapping inner => exact representable.keys inner (.inl reached)
      | frozen inner => exact representable.keys inner (.inr reached)
      | _ => trivial
    · cases part with
      | frozen inner => exact absurd reached (representable.unfrozen inner)
      | bytes _ | set _ | moment _ | object _ => cases representable.leaves _ reached rfl
      | _ => rfl
  · rintro ⟨texts, writable⟩
    refine ⟨?_, ?_, ?_⟩
    · rintro inner (reached | reached)
      · exact texts _ reached
      · exact texts _ reached
    · intro inner reached
      cases writable _ reached
    · intro leaf reached bare
      cases leaf with
      | list _ | tuple _ | mapping _ | frozen _ => cases bare
      | bytes _ | set _ | moment _ | object _ => cases writable _ reached
      | _ => rfl

end Datum

namespace Event

/-- Name, stream and id are texts, and times are in the places of times. -/
structure Labelled (event : Event) : Prop where
  name : ∃ text, event.name = .text text
  streamId : ∃ text, event.streamId = .text text
  id : ∃ text, event.id = .text text
  occurredOn : IsTime event.occurredOn
  persistedAt : IsTime event.persistedAt

section Encoding

variable {event : Event} {entries : Entries}

/-- What is asked of every part of a record is asked of its payload. -/
theorem everywhere_recordOf {holds : Datum → Prop} (labelled : event.Labelled)
    (texts : ∀ text, holds (.text text)) (null : holds .null)
    (record : holds (.mapping (recordOf event entries))) :
    (Datum.mapping (recordOf event entries)).Everywhere holds ↔
      (Datum.mapping entries).Everywhere holds := by
  have shown (text : AnyText) : (Datum.text text).Everywhere holds :=
    (Datum.everywhere_of_leaf rfl).mpr (texts text)
  have time {datum : Datum} (isTime : IsTime datum) : (timeDatum datum).Everywhere holds := by
    rcases isTime with rfl | ⟨moment, rfl⟩
    · exact (Datum.everywhere_of_leaf rfl).mpr null
    · exact shown _
  obtain ⟨name, nameText⟩ := labelled.name
  obtain ⟨streamId, streamText⟩ := labelled.streamId
  obtain ⟨id, idText⟩ := labelled.id
  rw [Datum.everywhere_iff, and_iff_right record]
  simp only [Datum.components, recordOf, nameText, streamText, idText, List.map_cons, List.map_nil,
    List.forall_mem_cons, shown, time labelled.occurredOn, time labelled.persistedAt, true_and,
    List.not_mem_nil, false_implies, implies_true, and_true]

/-- An event either has a line, or a fault of types says that its payload is not representable. -/
theorem encode_cases (labelled : event.Labelled)
    (payload : event.payload = .mapping entries ∨ event.payload = .frozen entries)
    (short : (Datum.mapping entries).Everywhere Datum.IsShort) :
    (∃ line, event.encode = .ok line) ∧ Datum.Representable entries ∨
      (∃ fault, event.encode = .error fault ∧ fault.className = "TypeError") ∧
        ¬Datum.Representable entries := by
  have record := toRecord?_of_isTime labelled.occurredOn labelled.persistedAt payload
  rw [Datum.representable_iff, ← Datum.badKey?_eq_none_iff,
    show (Datum.mapping entries).badKey? = Datum.badEntryKey? entries from rfl]
  cases looked : Datum.badEntryKey? entries with
  | some key =>
    rw [looked] at record
    refine .inr ⟨⟨.unencodable (.keyNotText key), ?_, rfl⟩, by simp⟩
    rw [encode, record]
    rfl
  | none =>
    rw [looked] at record
    have texts : (Datum.mapping entries).Everywhere Datum.HasTextKeys :=
      (Datum.badKey?_eq_none_iff _).mp looked
    have written := Datum.writes_toJson?
      ((everywhere_recordOf labelled (fun _ => trivial) trivial (by simp [Datum.HasTextKeys,
        recordOf])).mpr texts)
      ((everywhere_recordOf labelled (fun _ => trivial) trivial trivial).mpr short)
    have same : (Datum.mapping (recordOf event entries)).Everywhere (·.isWritable = true) ↔
        (Datum.mapping entries).Everywhere (·.isWritable = true) :=
      everywhere_recordOf labelled (fun _ => rfl) rfl rfl
    rw [same] at written
    rw [encode, record]
    rcases written with ⟨⟨json, form⟩, writable⟩ | ⟨⟨kind, form⟩, fails⟩
    · refine .inl ⟨⟨json.render .unicode, ?_⟩, rfl, writable⟩
      simp only [form, bind, Except.bind, Except.mapError]
      rfl
    · refine .inr ⟨⟨.unencodable (.noJson kind), ?_, rfl⟩, fun both => fails both.2⟩
      simp only [form, bind, Except.bind, Except.mapError]

/-- The events with a line are those with a representable payload, and any other is refused with a
fault of types. The mappings of a payload that is written keep their keys. -/
theorem encode_accepts_representable (labelled : event.Labelled)
    (payload : event.payload = .mapping entries ∨ event.payload = .frozen entries)
    (short : ∀ value, Datum.Part (.int value) (.mapping entries) →
      Decimal.length value.natAbs ≤ Json.maxDigits) :
    ((∃ line, event.encode = .ok line) ↔ Datum.Representable entries) ∧
      (¬Datum.Representable entries →
        ∃ fault, event.encode = .error fault ∧ fault.className = "TypeError") ∧
      ∀ line, event.encode = .ok line → ∀ inner,
        Datum.Part (.mapping inner) (.mapping entries) →
        ∃ members, (Datum.mapping inner).toJson? = .ok (.object members) ∧
          members.map (fun member => Datum.text member.1) = inner.map Prod.fst := by
  have everywhereShort : (Datum.mapping entries).Everywhere Datum.IsShort := by
    intro part reached
    cases part with
    | int value => exact short value reached
    | _ => trivial
  rcases encode_cases labelled payload everywhereShort with
    ⟨accepted, representable⟩ | ⟨⟨fault, refused, isType⟩, unrepresentable⟩
  · refine ⟨iff_of_true accepted representable, fun fails => absurd representable fails, ?_⟩
    intro line _ inner reached
    obtain ⟨texts, writable⟩ := Datum.representable_iff.mp representable
    rcases Datum.writes_toJson? (texts.of_part reached) (everywhereShort.of_part reached) with
      ⟨⟨json, form⟩, -⟩ | ⟨-, fails⟩
    · obtain ⟨members, rfl, names⟩ := Datum.object_of_mapping (texts _ reached) form
      exact ⟨members, form, names⟩
    · exact absurd (writable.of_part reached) fails
  · have silent : ∀ line, event.encode ≠ .ok line := by
      intro line accepted
      rw [refused] at accepted
      cases accepted
    refine ⟨iff_of_false ?_ unrepresentable, fun _ => ⟨fault, refused, isType⟩, ?_⟩
    · rintro ⟨line, accepted⟩
      exact silent line accepted
    · exact fun line accepted => absurd accepted (silent line)

/-- A closed payload is written with the mapping inside it, and is refused when that mapping has a
key that is not a text. -/
theorem encode_accepts_representable_nested :
    let fitting : Entries := [(.text "lines", .tuple [.int 3, .mapping [(.text "n", .null)]])]
    let keyed : Entries := [(.text "lines", .tuple [.int 3, .mapping [(.int 1, .null)]])]
    let placed : Event := { name := .text "placed", payload := .frozen fitting }
    let refused : Event := { name := .text "placed", payload := .frozen keyed }
    placed.Labelled ∧ refused.Labelled ∧
      (∃ line, placed.encode = .ok line) ∧ Datum.Representable fitting ∧
      ¬Datum.Representable keyed ∧
      ∃ fault, refused.encode = .error fault ∧ fault.className = "TypeError" := by
  intro fitting keyed placed refused
  have labelled (payload : Datum) :
      ({ name := .text "placed", payload } : Event).Labelled :=
    ⟨⟨_, rfl⟩, ⟨_, rfl⟩, ⟨_, rfl⟩, .inl rfl, .inl rfl⟩
  have leaf {datum : Datum} (bare : datum.components = []) (small : datum.IsShort) :
      datum.Everywhere Datum.IsShort :=
    (Datum.everywhere_of_leaf bare).mpr small
  have short (key : Datum) : (Datum.mapping
      [(.text "lines", .tuple [.int 3, .mapping [(key, .null)]])]).Everywhere Datum.IsShort := by
    have three : (Datum.int 3).IsShort := show Decimal.length 3 ≤ Json.maxDigits by decide
    have inner : (Datum.mapping [(key, .null)]).Everywhere Datum.IsShort :=
      Datum.everywhere_iff.mpr ⟨trivial, List.forall_mem_singleton.mpr (leaf rfl trivial)⟩
    have items : (Datum.tuple [.int 3, .mapping [(key, .null)]]).Everywhere Datum.IsShort :=
      Datum.everywhere_iff.mpr ⟨trivial, List.forall_mem_cons.mpr
        ⟨leaf rfl three, List.forall_mem_singleton.mpr inner⟩⟩
    exact Datum.everywhere_iff.mpr ⟨trivial, List.forall_mem_singleton.mpr items⟩
  have written : ∃ line, placed.encode = .ok line := ⟨_, rfl⟩
  have unrepresentable : ¬Datum.Representable keyed := by
    rw [Datum.representable_iff, ← Datum.badKey?_eq_none_iff]
    rintro ⟨clean, -⟩
    cases clean
  obtain ⟨accepts, -, -⟩ :=
    encode_accepts_representable (labelled (.frozen fitting)) (.inr rfl) fun _ => short _ _
  obtain ⟨-, refuses, -⟩ :=
    encode_accepts_representable (labelled (.frozen keyed)) (.inr rfl) fun _ => short _ _
  exact ⟨labelled _, labelled _, written, accepts.mp written, unrepresentable,
    refuses unrepresentable⟩

end Encoding

end Event

end EventSourcing
