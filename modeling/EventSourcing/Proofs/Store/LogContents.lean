import EventSourcing.Proofs.Event.RecordRoundTrip
import EventSourcing.Proofs.Store.DiskReplay

/-!
# The contents of a log

The events that a replay of every stream reads from a file, whoever wrote it: blank lines
describe none, and the first line that cannot be read leaves the log without contents.
Where the file ends in a line's end, or in blanks of JSON behind one, lines of plain events
that are appended add their events to the contents. Any other last line without an end runs
into the first line appended.
-/

set_option autoImplicit false

namespace EventSourcing

namespace Event

/-- The contents once the payload can only be read. -/
def closed (event : Event) : Event :=
  match event.payload with
  | .mapping entries => { event with payload := .frozen entries }
  | _ => event

theorem closed_of_mapping {event : Event} {entries : Entries}
    (holds : event.payload = .mapping entries) :
    event.closed = { event with payload := .frozen entries } := by
  simp only [closed, holds]

theorem matchesStream_closed (event : Event) (streamId : AnyText) :
    event.closed.matchesStream streamId = event.matchesStream streamId := by
  unfold closed
  split <;> rfl

private theorem payload_of_record {record : Entries} {event : Event}
    (read : ofRecord? record = .ok event) : ∃ entries, event.payload = .mapping entries := by
  unfold ofRecord? at read
  dsimp only at read
  -- Whichever value stands for the payload, what follows puts entries in its place.
  split at read
  on_goal 2 => split at read
  on_goal 3 => split at read
  all_goals
    obtain ⟨entries, -, read⟩ := bind_eq_ok read
    obtain ⟨occurredOn, -, read⟩ := bind_eq_ok read
    obtain ⟨persistedAt, -, read⟩ := bind_eq_ok read
    cases read
    exact ⟨entries, rfl⟩

/-- A line describes a payload of its own, even where it names none. -/
theorem payload_of_decode {line : AnyText} {event : Event}
    (decoded : decode line = .ok event) : ∃ entries, event.payload = .mapping entries := by
  obtain ⟨json, -, decoded⟩ := bind_eq_ok decoded
  split at decoded
  · exact payload_of_record decoded
  · cases decoded

end Event

namespace LogFile

/-- The events that records describe, if a replay can read all of them. -/
def eventsOf? : List (List UInt8) → Option (List Event)
  | [] => some []
  | octets :: rest =>
    if octets.all isBlankOctet then eventsOf? rest
    else
      match decodeLine octets with
      | .ok event => (eventsOf? rest).map (event :: ·)
      | .error _ => none

theorem eventsOf?_append (first rest : List (List UInt8)) :
    eventsOf? (first ++ rest) =
      (eventsOf? first).bind fun events => (eventsOf? rest).map (events ++ ·) := by
  induction first with
  | nil =>
      rw [List.nil_append, eventsOf?, Option.bind_some]
      exact Option.map_id'.symm
  | cons octets first ih =>
      rw [List.cons_append, eventsOf?, eventsOf?]
      cases octets.all isBlankOctet with
      | true => exact ih
      | false =>
          cases decodeLine octets with
          | error fault => rfl
          | ok event =>
              simp only [ih]
              cases eventsOf? first with
              | none => rfl
              | some events => cases eventsOf? rest <;> rfl

theorem eventsOf?_of_blank {octets : List UInt8} (blank : octets.all isBlankOctet = true)
    (rest : List (List UInt8)) : eventsOf? (octets :: rest) = eventsOf? rest := by
  rw [eventsOf?, if_pos blank]

theorem eventsOf?_of_decoded {octets : List UInt8} {event : Event}
    (some : octets.all isBlankOctet = false) (decoded : decodeLine octets = .ok event)
    (rest : List (List UInt8)) :
    eventsOf? (octets :: rest) = (eventsOf? rest).map (event :: ·) := by
  rw [eventsOf?, if_neg (by simp [some]), decoded]

/-- Blank octets describe nothing, however they are broken into lines. -/
theorem eventsOf?_records_of_blank {octets : List UInt8}
    (blank : octets.all isBlankOctet = true) : eventsOf? (records octets) = some [] := by
  have each : ∀ record ∈ records octets, record.all isBlankOctet = true := by
    intro record member
    rw [← flatten_records octets, List.all_flatten, List.all_eq_true] at blank
    exact blank record member
  generalize records octets = found at each
  induction found with
  | nil => rfl
  | cons record found ih =>
      rw [eventsOf?_of_blank (each record (by simp))]
      exact ih fun other member => each other (.tail _ member)

end LogFile

namespace DiskStore

theorem eventsOf?_of_described {path : Path} {number : Nat} {octets : List UInt8}
    {described : Option Event} (shown : describe path number octets = .ok described)
    (rest : List (List UInt8)) :
    LogFile.eventsOf? (octets :: rest) =
      (LogFile.eventsOf? rest).map (described.toList ++ ·) := by
  unfold describe at shown
  rw [LogFile.eventsOf?]
  split at shown
  · rename_i blank
    cases shown
    rw [if_pos blank]
    simp
  · rename_i blank
    rw [if_neg blank]
    cases decoded : LogFile.decodeLine octets with
    | error fault =>
        rw [decoded] at shown
        cases shown
    | ok event =>
        rw [decoded] at shown
        cases shown
        rfl

theorem eventsOf?_of_refused {path : Path} {number : Nat} {octets : List UInt8} {fault : Fault}
    (refused : describe path number octets = .error fault) (rest : List (List UInt8)) :
    LogFile.eventsOf? (octets :: rest) = none := by
  unfold describe at refused
  rw [LogFile.eventsOf?]
  split at refused
  · cases refused
  · rename_i blank
    rw [if_neg blank]
    cases decoded : LogFile.decodeLine octets with
    | error fault => rfl
    | ok event =>
        rw [decoded] at refused
        cases refused

theorem payload_of_described {path : Path} {number : Nat} {octets : List UInt8} {event : Event}
    (shown : describe path number octets = .ok (some event)) :
    ∃ entries, event.payload = .mapping entries := by
  unfold describe at shown
  split at shown
  · cases shown
  · cases decoded : LogFile.decodeLine octets with
    | error fault =>
        rw [decoded] at shown
        cases shown
    | ok known =>
        rw [decoded] at shown
        cases shown
        obtain ⟨line, -, decoded⟩ := Event.bind_eq_ok decoded
        exact Event.payload_of_decode decoded

end DiskStore

/-! ## Appending to any log -/

namespace LogFile

/-- The end of a file that does not spoil a line written behind it: no line is left without
its end, unless it consists of blanks that JSON allows in front of a value. -/
def Seamless (octets : List UInt8) : Prop :=
  ∃ front blanks, octets = front ++ Utf8.encode blanks ∧ Ended front ∧
    ∀ blank ∈ blanks, blank = ' ' ∨ blank = '\t' ∨ blank = '\r'

theorem Ended.seamless {octets : List UInt8} (ended : Ended octets) : Seamless octets :=
  ⟨octets, [], (List.append_nil _).symm, ended, by simp⟩

/-- A line and the contents that it gives back, blanks in front of it or not. -/
structure LineOf (line : String) (content : Event) : Prop where
  record : IsRecord line
  decodes : ∀ blanks : List Char, (∀ blank ∈ blanks, Json.isSpace blank = true) →
    Event.decode (String.ofList (blanks ++ (line.toList ++ ['\n']))) = .ok content

theorem lineOf_of_isPlain {event : Event} (plain : event.IsPlain) {line : String}
    (written : event.logLine = .ok line) : LineOf line event.readBack := by
  obtain ⟨_, encoded, decodes⟩ := plain.encode_eq
  rw [Event.logLine_eq_ok_iff.mp written] at encoded
  cases encoded
  exact ⟨isRecord_of_logLine written, fun blanks blank =>
    decodes blanks ['\n'] blank (List.forall_mem_singleton.mpr rfl)⟩

theorem Ended.of_append {front rest : List UInt8} (ended : Ended (front ++ rest)) :
    Ended rest := by
  rcases ended with none | last
  · exact .inl (List.append_eq_nil_iff.mp none).2
  · cases rest with
    | nil => exact .inl rfl
    | cons octet rest =>
        rw [List.getLast?_append_cons] at last
        exact .inr last

theorem Ended.append_line (octets : List UInt8) (line : String) :
    Ended (octets ++ encodeLine line) := by
  right
  rw [encodeLine, ← List.append_assoc]
  exact List.getLast?_concat

/-- A line behind blanks is one record, and it gives back what it gives back alone. -/
private theorem eventsOf?_line (blanks : List Char) {line : String} {content : Event}
    (blank : ∀ blank ∈ blanks, blank = ' ' ∨ blank = '\t' ∨ blank = '\r')
    (lineOf : LineOf line content) (rest : List UInt8) :
    eventsOf? (records (Utf8.encode blanks ++ (encodeLine line ++ rest))) =
      (eventsOf? (records rest)).map (content :: ·) := by
  have inside : lineEnd ∉ Utf8.encode blanks := by
    intro member
    obtain ⟨character, known, octet⟩ := List.mem_flatMap.mp member
    rcases blank character known with rfl | rfl | rfl <;> exact absurd octet (by decide)
  have outside : lineEnd ∉ Utf8.encode blanks ++ Utf8.encode line.toList := by
    rw [List.mem_append, not_or]
    exact ⟨inside, lineOf.record.lineEnd_notMem⟩
  have same : Utf8.encode blanks ++ (encodeLine line ++ rest) =
      Utf8.encode blanks ++ Utf8.encode line.toList ++ lineEnd :: rest := by
    simp only [encodeLine, List.append_assoc, List.singleton_append]
  have text : Utf8.encode blanks ++ Utf8.encode line.toList ++ [lineEnd] =
      Utf8.encode (blanks ++ (line.toList ++ ['\n'])) := by
    rw [Utf8.encode_append, ← encodeLine_eq, encodeLine, List.append_assoc]
  rw [same, records_line outside]
  refine eventsOf?_of_decoded ?_ ?_ _
  · have some := lineOf.record.not_blank
    rw [encodeLine] at some
    rw [List.append_assoc, List.all_append, some, Bool.and_false]
  · have spaces : ∀ character ∈ blanks, Json.isSpace character = true := by
      intro character member
      rcases blank character member with rfl | rfl | rfl <;> rfl
    rw [text, decodeLine, Utf8.decode_encode_text]
    exact lineOf.decodes blanks spaces

private theorem eventsOf?_lines {lines : List String} {contents : List Event}
    (all : List.Forall₂ LineOf lines contents) :
    eventsOf? (records (lines.flatMap encodeLine)) = some contents := by
  induction all with
  | nil => rfl
  | @cons line content lines contents first _ ih =>
      have read := eventsOf?_line [] (by simp) first (lines.flatMap encodeLine)
      rw [ih] at read
      exact read

/-- Lines appended to a seamless log add their events. -/
theorem eventsOf?_append_lines {octets : List UInt8} {described contents : List Event}
    {lines : List String} (seamless : Seamless octets)
    (shown : eventsOf? (records octets) = some described)
    (all : List.Forall₂ LineOf lines contents) :
    eventsOf? (records (octets ++ lines.flatMap encodeLine)) = some (described ++ contents) := by
  cases all with
  | nil =>
      rw [List.flatMap_nil, List.append_nil, List.append_nil]
      exact shown
  | @cons line content lines contents first rest =>
      obtain ⟨front, blanks, rfl, ended, blank⟩ := seamless
      have allBlank : (Utf8.encode blanks).all isBlankOctet = true := by
        rw [List.all_eq_true]
        intro octet member
        obtain ⟨character, known, inside⟩ := List.mem_flatMap.mp member
        rcases blank character known with rfl | rfl | rfl <;>
          (rw [List.mem_singleton.mp inside]; rfl)
      rw [records_append ended, eventsOf?_append, eventsOf?_records_of_blank allBlank] at shown
      rw [List.append_assoc, records_append ended, eventsOf?_append, List.flatMap_cons,
        eventsOf?_line blanks blank first, eventsOf?_lines rest]
      cases known : eventsOf? (records front) with
      | none =>
          rw [known] at shown
          cases shown
      | some events =>
          rw [known, Option.bind_some, Option.map_some, List.append_nil] at shown
          rw [Option.some.inj shown]
          rfl

end LogFile

end EventSourcing
