import EventSourcing.Proofs.Application.Course
import EventSourcing.Proofs.Application.Publishing

/-!
# The history of a receiver

A receiver is handed the history of its own stream: each event that sending a command hands
over has the receiver's id for its stream, and a history that is read to its end is all of that
stream, in order. This is so for every id but one. A receiver whose id is the name for all
streams is handed every event of the log.
-/

set_option autoImplicit false

namespace EventSourcing.Application

open LiveEvent (contentIn)

variable {D : Domain}

/-- Sending a command hands its receiver events of the receiver's stream only, and, if the
history is read to its end and the receiver leaves it as it reads, all of them in their
order. -/
theorem send_hands_own_stream (handlers : Handlers D) {ref : Ref .application}
    {command : Ref .command} {receiver : Ref .aggregate} {start found : System D}
    (finds : Finds handlers ref command start receiver found)
    (native : ∀ description,
      found.stores.get (found.applications.get ref).store ≠ .foreign description)
    (ordinary : (found.aggregates.get receiver).id ≠ Event.allStreams) :
    let store := found.stores.get (found.applications.get ref).store
    let id := (found.aggregates.get receiver).id
    let handing := fun (_ : Unit) event => Aggregate.handleEvent handlers receiver event
    let outcome := rehydrate handlers (found.applications.get ref).store receiver found
    send handlers ref command start = deliver handlers ref command receiver found ∧
    ∃ handed, Store.Hands (Store.Offers store) handing () found handed outcome ∧
      (∀ pair ∈ handed, (contentIn pair.1 pair.2).streamId = .text id) ∧
      ((∀ pair ∈ handed, Store.LogStays store pair.1 (handing () pair.2 pair.1).2) →
        outcome.1 = .ok () → ∃ contents, store.contents? found = some contents ∧
          handed.map (fun pair => contentIn pair.1 pair.2) =
            contents.filter (·.streamId.same (.text id))) := by
  intro store id handing outcome
  have own (content : Event) :
      content.matchesStream id = true ↔ content.streamId = .text id := by
    rw [Event.matchesStream_iff]
    exact or_iff_right ordinary
  obtain ⟨acknowledged, acknowledges, resolves⟩ := finds
  obtain ⟨handed, replayed⟩ := Store.replay_replayed handlers native id () handing
  refine ⟨?_, handed, replayed.hands, fun pair member => ?_, fun stays ended => ?_⟩
  · rw [send, Act.bind_of_ok (Act.read_run _ _), Act.bind_of_ok acknowledges,
      Act.bind_of_ok resolves]
  · exact (own _).mp (replayed.matched pair member)
  · obtain ⟨contents, known, all⟩ :=
      (replayed.complete fun pair member _ => stays pair member).all () ended
    refine ⟨contents, known, all.trans (List.filter_congr fun content _ => ?_)⟩
    rw [Bool.eq_iff_iff, own, Datum.same_text_iff]

/-- A log of two streams in memory, and a command for a receiver with an id. -/
def twoStreams (id : String) : System Domain.publishing :=
  let event (streamId : String) : LiveEvent :=
    { name := .text "added", streamId := .text streamId, id := .text "", occurredOn := .null
      persistedAt := .null, payload := .own (.frozen []), sealing := .bool true }
  { events := ⟨#[event "a", event "b"]⟩
    commands := ⟨#[{
      name := "go", fields := [], idField := "id", errors := ⟨0⟩, factory := some ⟨0⟩
      receiver := none, hasImplicitId := true }]⟩
    faults := ⟨#[.validation []]⟩
    aggregates := ⟨#[{ id, publisher := none, seen := [], handled := [], script := none }]⟩
    stores := ⟨#[.memory [⟨0⟩, ⟨1⟩]]⟩
    clocks := ⟨#[.showing .unixEpoch]⟩
    applications := ⟨#[{
      name := .text "app", store := ⟨0⟩, clock := ⟨0⟩, logger := "app", projections := [] }]⟩
    domain := () }

theorem send_hands_own_stream_twoStreams :
    ∃ found handed, Finds Handlers.publishing ⟨0⟩ ⟨0⟩ (twoStreams "b") ⟨0⟩ found ∧
      Store.Hands (Store.Offers (.memory [⟨0⟩, ⟨1⟩]))
        (fun _ event => Aggregate.handleEvent Handlers.publishing ⟨0⟩ event) () found handed
        (rehydrate Handlers.publishing ⟨0⟩ ⟨0⟩ found) ∧
      handed.map (fun pair => contentIn pair.1 pair.2) = [contentIn found ⟨1⟩] := by
  let acknowledged := (Command.acknowledge ⟨0⟩ ⟨0⟩ (twoStreams "b")).2
  let found := (Command.resolveReceiver Handlers.publishing ⟨0⟩ acknowledged).2
  have acknowledges : Command.acknowledge ⟨0⟩ ⟨0⟩ (twoStreams "b") = (.ok (), acknowledged) :=
    Act.run_of_answer (by decide +kernel)
  have resolves : Command.resolveReceiver Handlers.publishing ⟨0⟩ acknowledged =
      (.ok (some ⟨0⟩), found) :=
    Act.run_of_answer (by decide +kernel)
  have finds : Finds Handlers.publishing ⟨0⟩ ⟨0⟩ (twoStreams "b") ⟨0⟩ found :=
    ⟨acknowledged, acknowledges, resolves⟩
  have store : found.stores.get (found.applications.get ⟨0⟩).store = .memory [⟨0⟩, ⟨1⟩] := rfl
  obtain ⟨-, handed, hands, -, complete⟩ :=
    send_hands_own_stream Handlers.publishing finds nofun (by decide +kernel)
  rw [store] at hands complete
  have reads (system : System Domain.publishing) (event : Ref .event) : Store.LogStays
      (.memory [⟨0⟩, ⟨1⟩]) system
      (Aggregate.handleEvent Handlers.publishing ⟨0⟩ event system).2 := by
    intro other _
    cases script : ((Aggregate.handed ⟨0⟩ event system).aggregates.get ⟨0⟩).script with
    | none => rw [Aggregate.handleEvent_of_no_script script]; rfl
    | some events => rw [Aggregate.handleEvent_of_script script]; rfl
  obtain ⟨contents, known, all⟩ := complete (fun pair _ => reads pair.1 pair.2) (by decide +kernel)
  obtain rfl := Option.some.inj known
  have other : (contentIn found ⟨0⟩).streamId.same (.text (found.aggregates.get ⟨0⟩).id) =
      false := by
    decide +kernel
  have own : (contentIn found ⟨1⟩).streamId.same (.text (found.aggregates.get ⟨0⟩).id) =
      true := by
    decide +kernel
  refine ⟨found, handed, finds, hands, all.trans ?_⟩
  simp only [List.map_cons, List.map_nil, List.filter_cons, List.filter_nil, other, own,
    Bool.false_eq_true, if_false, if_true]

/-- A receiver whose id stands for all streams is handed the events of other streams. -/
theorem wildcard_receives_every_stream :
    let start := twoStreams "*"
    let after := (send Handlers.publishing ⟨0⟩ ⟨0⟩ start).2
    (start.aggregates.get ⟨0⟩).seen = [] ∧ (after.aggregates.get ⟨0⟩).seen = [⟨0⟩, ⟨1⟩] ∧
      (after.aggregates.get ⟨0⟩).id = Event.allStreams ∧
      ∀ event ∈ [(⟨0⟩ : Ref .event), ⟨1⟩],
        (contentIn after event).streamId.same (.text (after.aggregates.get ⟨0⟩).id) = false := by
  decide +kernel

end EventSourcing.Application
