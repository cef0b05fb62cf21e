import EventSourcing.Proofs.Json.OneLine
import EventSourcing.Proofs.Text.Utf8RoundTrip
import EventSourcing.Store.Basic

/-!
# The records of a log

The octets of a file split at every line's end. The line of an event is one record,
whatever texts its name, id and payload hold, and no record runs into the next one: behind
octets that are empty or end in a line's end, further octets have the records that they
have alone.
-/

set_option autoImplicit false

namespace EventSourcing

namespace LogFile

/-- The lines of octets, each with its end if it has one. -/
def records : List UInt8 → List (List UInt8)
  | [] => []
  | octet :: rest =>
    if octet = lineEnd then [octet] :: records rest
    else
      match records rest with
      | [] => [[octet]]
      | record :: later => (octet :: record) :: later

/-- Octets after which a new record starts. -/
def Ended (octets : List UInt8) : Prop :=
  octets = [] ∨ octets.getLast? = some lineEnd

theorem records_eq_nil_iff {octets : List UInt8} : records octets = [] ↔ octets = [] := by
  cases octets with
  | nil => exact ⟨fun _ => rfl, fun _ => rfl⟩
  | cons octet rest =>
      rw [records]
      split
      · simp
      · split <;> simp

theorem flatten_records (octets : List UInt8) : (records octets).flatten = octets := by
  induction octets with
  | nil => rfl
  | cons octet rest ih =>
      rw [records]
      split
      · rw [List.flatten_cons, ih, List.singleton_append]
      · split
        · rename_i none
          rw [records_eq_nil_iff.mp none]
          rfl
        · rename_i record later shown
          rw [shown] at ih
          rw [List.flatten_cons, List.cons_append, ← ih, List.flatten_cons]

theorem ended_cons {octet : UInt8} {octets : List UInt8} (ended : Ended (octet :: octets)) :
    Ended octets ∧ (octets = [] → octet = lineEnd) := by
  rcases ended with none | last
  · cases none
  cases octets with
  | nil =>
      rw [List.getLast?_singleton] at last
      exact ⟨.inl rfl, fun _ => Option.some.inj last⟩
  | cons next rest =>
      rw [List.getLast?_cons_cons] at last
      exact ⟨.inr last, fun none => (by cases none)⟩

theorem records_append {octets : List UInt8} (ended : Ended octets) (rest : List UInt8) :
    records (octets ++ rest) = records octets ++ records rest := by
  induction octets with
  | nil => rfl
  | cons octet octets ih =>
      obtain ⟨endedRest, last⟩ := ended_cons ended
      rw [List.cons_append, records, records, ih endedRest]
      split
      · rfl
      · rename_i inside
        cases shown : records octets with
        | nil => exact absurd (last (records_eq_nil_iff.mp shown)) inside
        | cons record later => rfl

theorem records_line {octets : List UInt8} (inside : lineEnd ∉ octets) (rest : List UInt8) :
    records (octets ++ lineEnd :: rest) = (octets ++ [lineEnd]) :: records rest := by
  induction octets with
  | nil => rw [List.nil_append, records, if_pos rfl, List.nil_append]
  | cons octet octets ih =>
      rw [List.mem_cons, not_or] at inside
      rw [List.cons_append, records, if_neg (Ne.symm inside.1), ih inside.2]
      rfl

/-! ## Lines of events -/

/-- A line that can stand in a log: a text on one line that opens with a brace. -/
def IsRecord (line : String) : Prop :=
  Text.OneLine (line.toList.map .char) ∧ line.toList.head? = some '\x7b'

theorem isRecord_of_logLine {event : Event} {line : String} (written : event.logLine = .ok line) :
    IsRecord line := by
  obtain ⟨members, shown⟩ :
      ∃ members, AnyText.whole line = (Json.object members).render .unicode := by
    have written := Event.logLine_eq_ok_iff.mp written
    unfold Event.encode at written
    cases record : event.toRecord? with
    | error fault =>
        rw [record] at written
        cases written
    | ok entries =>
        rw [record] at written
        simp only [bind, Except.bind, Datum.toJson?] at written
        cases shown : Datum.entriesToJson? entries with
        | error reason =>
            rw [shown] at written
            cases written
        | ok members =>
            rw [shown] at written
            exact ⟨members, (Except.ok.inj written).symm⟩
  have points : line.toList.map .char = Json.renderPoints .unicode (.object members) := by
    rw [← AnyText.points_whole, shown, Json.render, AnyText.points_ofPoints]
  refine ⟨?_, ?_⟩
  · rw [points]
    exact Json.oneLine_renderPoints .unicode _
  · have first := congrArg List.head? points
    rw [List.head?_map] at first
    cases members <;> exact Option.map_injective (fun _ _ => Point.char.inj) first

theorem IsRecord.lineEnd_notMem {line : String} (record : IsRecord line) :
    lineEnd ∉ Utf8.encode line.toList := by
  intro member
  have above :=
    Utf8.le_toNat_of_mem_encode (by decide) (Text.oneLine_map_char_iff.mp record.1) member
  exact absurd above (by decide)

/-- Lines behind an ended log are one record each. -/
theorem records_append_lines {octets : List UInt8} (ended : Ended octets) {lines : List String}
    (all : ∀ line ∈ lines, IsRecord line) :
    records (octets ++ lines.flatMap encodeLine) = records octets ++ lines.map encodeLine := by
  rw [records_append ended]
  congr 1
  induction lines with
  | nil => rfl
  | cons line lines ih =>
      rw [List.flatMap_cons, encodeLine, List.append_assoc, List.singleton_append,
        records_line (all line (by simp)).lineEnd_notMem, List.map_cons,
        ih fun each member => all each (.tail _ member)]
      rfl

end LogFile

end EventSourcing
