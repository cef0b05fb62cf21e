import EventSourcing.Proofs.Store.AppendReadable
import EventSourcing.Proofs.Store.DiskRefinesMemory
import EventSourcing.Proofs.Store.Listing

/-!
# Replays whose code stores events

The code that a replay calls may store events in the log that is being replayed. A store in
memory hands over what it held when the replay began. A store on disk reads line after line
until there is none left, so that a replay that ends has handed over the events of the log as
it is by then, with those that were stored meanwhile; it comes to its end like a replay in
memory if they belong to other streams, and never does if every call stores one of the stream.
-/

set_option autoImplicit false

namespace EventSourcing

variable {D : Domain} {State : Type}

open LiveEvent (contentIn)

/-! ## Logs that gain events -/

namespace Store

/-- The contents that a log has of an event: a file has lists for tuples. -/
def logged (store : Store D) (content : Event) : Event :=
  match store with
  | .disk _ _ => content.listed
  | _ => content

/-- An open event that is not held by the log and, if that is a file, can be read back. -/
structure Fresh (store : Store D) (system : System D) (event : Ref .event) : Prop where
  unsealed : (system.events.get event).isSealed = false
  absent : ∀ held, store = .memory held → event ∉ held
  plain : ∀ path clock, store = .disk path clock → ∀ moment,
    ({ contentIn system event with persistedAt := .moment moment } : Event).IsPlain

/-- What code does to a log if it stores fresh events in it, one at a time, and does not touch
it otherwise: the log has the contents of these events from then on. -/
inductive Gains (handlers : Handlers D) (store : Ref .store) :
    System D → List Event → System D → Prop
  | rests {before after : System D} :
      after.stores.get store = before.stores.get store →
      LogStays (before.stores.get store) before after → Gains handlers store before [] after
  | stores {before after : System D} {event : Ref .event} :
      Fresh (before.stores.get store) before event →
      append handlers store [event] before = (.ok (), after) →
      Gains handlers store before [logged (before.stores.get store) (contentIn after event)] after
  | trans {before middle after : System D} {first rest : List Event} :
      Gains handlers store before first middle → Gains handlers store middle rest after →
      Gains handlers store before (first ++ rest) after

section Gaining

variable {handlers : Handlers D} {store : Ref .store} {before after : System D}
  {batch : List Event}

private theorem held_of_stored {held : List (Ref .event)} {event : Ref .event}
    (memory : before.stores.get store = .memory held)
    (fresh : Fresh (.memory held) before event)
    (stored : append handlers store [event] before = (.ok (), after)) :
    after.stores.get store = .memory (held ++ [event]) ∧
      ∀ other ∈ held, contentIn after other = contentIn before other := by
  rcases LiveEvent.closable_or_first_not before [event] with
    closable | ⟨first, refused, rest, split, closable, notClosable⟩
  · obtain ⟨known, ran, only, -, others⟩ :=
      MemoryStore.append_of_closable handlers memory closable
    cases stored.symm.trans ran
    refine ⟨MemoryStore.get_storing memory [event] known, fun other member => ?_⟩
    have different : other ∉ [event] := fun same =>
      fresh.absent held rfl (List.mem_singleton.mp same ▸ member)
    exact LiveEvent.contentIn_of_get_eq (others other different) only.mappings
  · have unsealed : (before.events.get refused).isSealed = false := by
      have member : refused ∈ [event] := split ▸ by simp
      rw [List.mem_singleton.mp member]
      exact fresh.unsealed
    obtain ⟨_, _, _, ran, -⟩ := MemoryStore.append_of_not_closable handlers rest memory closable
      unsealed notClosable
    rw [split] at stored
    cases stored.symm.trans ran

/-- A store in memory holds what it gains behind what it held. -/
theorem Gains.held (gains : Gains handlers store before batch after) {held : List (Ref .event)}
    (memory : before.stores.get store = .memory held) :
    ∃ added, after.stores.get store = .memory (held ++ added) ∧
      (∀ event ∈ held, contentIn after event = contentIn before event) ∧
      added.map (contentIn after) = batch := by
  induction gains generalizing held with
  | rests same stays =>
      rw [memory] at stays
      exact ⟨[], by rw [same, memory, List.append_nil], stays, rfl⟩
  | @stores before after event fresh stored =>
      rw [memory] at fresh ⊢
      obtain ⟨longer, same⟩ := held_of_stored memory fresh stored
      exact ⟨[event], longer, same, rfl⟩
  | @trans before middle after first rest _ _ firstHeld restHeld =>
      obtain ⟨added, longer, same, rfl⟩ := firstHeld memory
      obtain ⟨further, longest, again, rfl⟩ := restHeld longer
      refine ⟨added ++ further, by rw [longest, List.append_assoc], ?_, ?_⟩
      · intro event member
        rw [again event (List.mem_append_left _ member), same event member]
      · rw [List.map_append]
        refine congrArg (· ++ _) (List.map_congr_left fun event member => ?_)
        exact again event (List.mem_append_right _ member)

/-- A file has a line for each event that it gains behind the lines that it had. -/
theorem Gains.file (gains : Gains handlers store before batch after) {path : Path}
    {clock : Ref .clock} {octets : List UInt8} (disk : before.stores.get store = .disk path clock)
    (file : before.files.HasFile path octets) :
    after.stores.get store = .disk path clock ∧ ∃ lines contents,
      after.files.HasFile path (octets ++ lines.flatMap LogFile.encodeLine) ∧
      List.Forall₂ LogFile.LineOf lines contents ∧ contents.map Event.closed = batch := by
  induction gains generalizing octets with
  | rests same stays =>
      rw [disk] at stays
      refine ⟨same.trans disk, [], [], ?_, .nil, rfl⟩
      rw [List.flatMap_nil, List.append_nil]
      exact stays octets file
  | @stores before after event fresh stored =>
      rw [disk] at fresh ⊢
      obtain ⟨lines, stored, -⟩ := DiskStore.append_eq_ok disk file stored
      obtain ⟨contents, all, shown⟩ := stored.linesOf fun other member => by
        rw [List.mem_singleton.mp member]
        exact fresh.plain path clock rfl
      refine ⟨?_, lines, contents, stored.file, all, shown⟩
      rw [stored.same]
      exact disk
  | trans _ _ firstFile restFile =>
      obtain ⟨still, lines, contents, longer, all, rfl⟩ := firstFile disk file
      obtain ⟨last, further, others, longest, rest, rfl⟩ := restFile still longer
      refine ⟨last, lines ++ further, contents ++ others, ?_, List.rel_append all rest, ?_⟩
      · rw [List.flatMap_append, ← List.append_assoc]
        exact longest
      · rw [List.map_append]

/-- A log that can be read has the contents that it gains behind those that it had. -/
theorem Gains.contents (gains : Gains handlers store before batch after) {contents : List Event}
    (readable : Readable before (before.stores.get store))
    (shown : (before.stores.get store).contents? before = some contents) :
    (after.stores.get store).contents? after = some (contents ++ batch) := by
  cases log : before.stores.get store with
  | memory held =>
      rw [log] at shown
      cases shown
      obtain ⟨added, longer, same, rfl⟩ := gains.held log
      rw [longer, contents?, List.map_append, List.map_congr_left same]
  | disk path clock =>
      rw [log] at readable shown
      cases readable with
      | @disk _ _ octets described file ended read =>
      obtain ⟨still, lines, added, longer, all, rfl⟩ := gains.file log file
      have before : described.map Event.closed = contents := by
        rw [contents?, FileTree.hasFile_read.mpr file] at shown
        dsimp only at shown
        rw [read] at shown
        exact Option.some.inj shown
      rw [still, contents?, FileTree.hasFile_read.mpr longer]
      dsimp only
      rw [LogFile.eventsOf?_append_lines ended.seamless read all, Option.map_some,
        List.map_append, before]
  | foreign description => exact absurd log (readable.native description)

end Gaining

/-- Code that a replay may call as often as it has events: wherever it is called it answers,
stores a batch of the kind that is given, and leaves the system such that it can be called
again. -/
def Feeds (handlers : Handlers D) (store : Ref .store) (log : Store D)
    (step : State → Ref .event → Act D State) (kind : List Event → Prop)
    (holds : State → System D → Prop) : Prop :=
  ∀ state before event given, holds state before → Offers log before event given →
    ∃ next batch after, step state event given = (.ok next, after) ∧
      Gains handlers store given batch after ∧ kind batch ∧ holds next after

end Store

/-! ## The store in memory -/

namespace MemoryStore

open Store (Feeds Gains Hands Offers)

variable {handlers : Handlers D} {store : Ref .store} {log : List (Ref .event)}
  {step : State → Ref .event → Act D State} {kind : List Event → Prop}
  {holds : State → System D → Prop}

/-- What is stored meanwhile is not among the events that a replay goes through. -/
private theorem fold_feeds (streamId : AnyText) {events held : List (Ref .event)} {state : State}
    {system : System D} (feeds : Feeds handlers store (.memory log) step kind holds)
    (initially : holds state system) (memory : system.stores.get store = .memory held)
    (inside : events ⊆ held) :
    ∃ handed batch last after,
      Act.fold (pick streamId step) state events system = (.ok last, after) ∧
      Hands (Offers (.memory log)) step state system handed (.ok last, after) ∧
      handed.map (fun pair => contentIn pair.1 pair.2) =
        (events.map (contentIn system)).filter (·.matchesStream streamId) ∧
      Gains handlers store system batch after := by
  induction events generalizing state system held with
  | nil => exact ⟨[], [], state, system, rfl, .done, rfl, .rests rfl (.refl _ system)⟩
  | cons event events ih =>
      rw [List.cons_subset] at inside
      rw [Act.fold, List.map_cons, List.filter_cons]
      cases matching : (contentIn system event).matchesStream streamId with
      | false =>
          rw [Act.bind_of_ok (pick_of_other matching)]
          exact ih initially memory inside.2
      | true =>
          obtain ⟨next, batch, middle, ran, gains, -, again⟩ :=
            feeds state system event system initially rfl
          obtain ⟨added, longer, same, -⟩ := gains.held memory
          obtain ⟨handed, rest, last, after, folded, hands, all, further⟩ :=
            ih again longer fun other member => List.mem_append_left added (inside.2 member)
          refine ⟨(system, event) :: handed, batch ++ rest, last, after, ?_,
            .takes rfl ran hands, ?_, gains.trans further⟩
          · rw [Act.bind_of_ok ((pick_of_matching matching).trans ran), folded]
          · have kept : events.map (contentIn middle) = events.map (contentIn system) :=
              List.map_congr_left fun other member => same other (inside.2 member)
            rw [List.map_cons, all, kept]
            rfl

theorem replay_feeds (streamId : AnyText) {state : State} {system : System D}
    (feeds : Feeds handlers store (.memory log) step kind holds) (initially : holds state system)
    (memory : system.stores.get store = .memory log) :
    ∃ handed batch last after,
      Store.replay handlers store streamId state step system = (.ok last, after) ∧
      Hands (Offers (.memory log)) step state system handed (.ok last, after) ∧
      handed.map (fun pair => contentIn pair.1 pair.2) =
        (log.map (contentIn system)).filter (·.matchesStream streamId) ∧
      Gains handlers store system batch after := by
  have read : events store system = (.ok log, system) := by
    rw [events, Act.read_run, eventsIn_of_get memory]
  rw [store_replay memory, replay, Act.bind_of_ok read]
  exact fold_feeds streamId feeds initially memory (List.Subset.refl log)

end MemoryStore

/-! ## The store on disk -/

namespace LogFile

private theorem octet_describes_none :
    ∀ octet : Fin 256, (decodeLine [UInt8.ofFin octet]).toOption = none := by
  decide +kernel

private theorem length_of_decoded {octets : List UInt8} {event : Event}
    (some : octets.all isBlankOctet = false) (decoded : decodeLine octets = .ok event) :
    2 ≤ octets.length := by
  match octets with
  | [] => cases some
  | [octet] =>
      have none := octet_describes_none octet.toFin
      rw [UInt8.ofFin_toFin, decoded] at none
      cases none
  | _ :: _ :: _ => exact Nat.le_add_left 2 _

private theorem length_records_add_le {found : List (List UInt8)} {described : List Event}
    (each : ∀ record ∈ found, record ≠ []) (shown : eventsOf? found = some described) :
    found.length + described.length ≤ found.flatten.length := by
  induction found generalizing described with
  | nil =>
      cases shown
      exact Nat.le_refl 0
  | cons record found ih =>
      have rest (others : List Event) (known : eventsOf? found = some others) :=
        ih (fun other member => each other (.tail _ member)) known
      have size := List.length_pos_of_ne_nil (each record List.mem_cons_self)
      rw [List.flatten_cons, List.length_append, List.length_cons]
      cases blank : record.all isBlankOctet with
      | true =>
          rw [eventsOf?_of_blank blank] at shown
          have bound := rest described shown
          omega
      | false =>
          cases decoded : decodeLine record with
          | error fault =>
              rw [eventsOf?, if_neg (by simp [blank]), decoded] at shown
              cases shown
          | ok event =>
              rw [eventsOf?_of_decoded blank decoded] at shown
              obtain ⟨others, known, rfl⟩ := Option.map_eq_some_iff.mp shown
              have bound := rest others known
              have two := length_of_decoded blank decoded
              rw [List.length_cons]
              omega

private theorem record_ne_nil {octets record : List UInt8} (member : record ∈ records octets) :
    record ≠ [] := by
  induction octets generalizing record with
  | nil => cases member
  | cons octet rest ih =>
      rw [records] at member
      split at member
      · rcases List.mem_cons.mp member with rfl | member
        · simp
        · exact ih member
      · split at member
        · rw [List.mem_singleton.mp member]
          simp
        · rename_i first later shown
          rcases List.mem_cons.mp member with rfl | member
          · simp
          · exact ih (shown ▸ .tail _ member)

/-- A file has at least two octets for each event that it describes, and one for each line that
describes none. -/
theorem length_of_described {octets : List UInt8} {described : List Event}
    (shown : eventsOf? (records octets) = some described) :
    (records octets).length + described.length ≤ octets.length := by
  have bound := length_records_add_le (fun _ member => record_ne_nil member) shown
  rwa [flatten_records] at bound

end LogFile

namespace DiskStore

open Store (Feeds Gains Hands Offers)

/-- A replay stands at an offset of a file, and there are the events that the file describes
from there on. -/
structure StandsAt (path : Path) (offset : Nat) (octets : List UInt8) (described : List Event)
    (system : System D) : Prop where
  file : system.files.HasFile path octets
  within : offset ≤ octets.length
  ended : LogFile.Ended (octets.drop offset)
  shown : LogFile.eventsOf? (LogFile.records (octets.drop offset)) = some described

namespace StandsAt

variable {handlers : Handlers D} {store : Ref .store} {path : Path} {clock : Ref .clock}
  {offset number : Nat} {octets : List UInt8} {described : List Event}
  {system given after : System D}

theorem nil (stands : StandsAt path offset octets described system)
    (none : octets.drop offset = []) : described = [] := by
  have shown := stands.shown
  rw [none] at shown
  cases shown
  rfl

theorem not_refused (stands : StandsAt path offset octets described system) {fault : Fault}
    (some : octets.drop offset ≠ []) :
    describe path number (LogFile.firstLine (octets.drop offset)) ≠ .error fault := by
  intro refused
  have shown := stands.shown
  rw [LogFile.records_eq_cons some, eventsOf?_of_refused refused] at shown
  cases shown

/-- Behind the line that was read there are the events of the lines that follow. -/
theorem next (stands : StandsAt path offset octets described system)
    (some : octets.drop offset ≠ []) {first : Option Event}
    (read : describe path number (LogFile.firstLine (octets.drop offset)) = .ok first) :
    ∃ rest, described = first.toList ++ rest ∧
      StandsAt path (offset + (LogFile.firstLine (octets.drop offset)).length) octets rest
        system ∧
      (LogFile.records (octets.drop offset)).length =
        (LogFile.records
          (octets.drop (offset + (LogFile.firstLine (octets.drop offset)).length))).length + 1 := by
  have split := LogFile.records_eq_cons some
  rw [List.drop_drop] at split
  have whole := LogFile.flatten_records (octets.drop offset)
  rw [split, List.flatten_cons, LogFile.flatten_records] at whole
  have shown := stands.shown
  rw [split, eventsOf?_of_described read] at shown
  obtain ⟨rest, known, rfl⟩ := Option.map_eq_some_iff.mp shown
  refine ⟨rest, rfl, ⟨stands.file, ?_, ?_, known⟩, by rw [split, List.length_cons]⟩
  · have size := LogFile.length_firstLine_le (octets.drop offset)
    rw [List.length_drop] at size
    have within := stands.within
    omega
  · have ended := stands.ended
    rw [← whole] at ended
    exact ended.of_append

/-- What is stored meanwhile is still to come. -/
theorem gains (stands : StandsAt path offset octets described given) {batch : List Event}
    (gains : Gains handlers store given batch after)
    (disk : given.stores.get store = .disk path clock) :
    after.stores.get store = .disk path clock ∧ ∃ longer contents,
      StandsAt path offset longer (described ++ contents) after ∧
      contents.map Event.closed = batch ∧
      (LogFile.records (longer.drop offset)).length =
        (LogFile.records (octets.drop offset)).length + contents.length := by
  obtain ⟨still, lines, contents, file, all, shown⟩ := gains.file disk stands.file
  have behind : (octets ++ lines.flatMap LogFile.encodeLine).drop offset =
      octets.drop offset ++ lines.flatMap LogFile.encodeLine :=
    List.drop_append_of_le_length stands.within
  refine ⟨still, _, contents, ⟨file, ?_, ?_, ?_⟩, shown, ?_⟩
  · rw [List.length_append]
    exact Nat.le_add_right_of_le stands.within
  · rw [behind]
    exact stands.ended.append_lines lines
  · rw [behind]
    exact LogFile.eventsOf?_append_lines stands.ended.seamless stands.shown all
  · have records : ∀ line ∈ lines, LogFile.IsRecord line := by
      have both := all.imp fun line content (lineOf : LogFile.LineOf line content) =>
        And.intro lineOf.record lineOf
      exact ((List.forall₂_and_left _ _).mp both).1
    rw [behind, LogFile.records_append_lines stands.ended records, List.length_append,
      List.length_map, all.length_eq]

end StandsAt

/-- The course of a replay that is fed, over a file that it can read: the budget of lines, how many
are left with the events that they describe, and what was handed over in the end. A line is
passed over, or its event is taken, and then the file gains what the call stores. -/
inductive Fed (handlers : Handlers D) (store : Ref .store) (streamId : AnyText)
    (kind : List Event → Prop) :
    Nat → Nat → List Event → System D → List (System D × Ref .event) →
      Except Halt State × System D → Prop
  | exhausted {left : Nat} {described : List Event} {system : System D} :
      Fed handlers store streamId kind 0 left described system [] (.error .exhausted, system)
  | ended {lines : Nat} {state : State} {system : System D}
      (rests : Gains handlers store system [] system) :
      Fed handlers store streamId kind (lines + 1) 0 [] system [] (.ok state, system)
  | passed {lines left : Nat} {first : Option Event} {rest : List Event} {system : System D}
      {handed : List (System D × Ref .event)} {outcome : Except Halt State × System D} :
      (∀ event ∈ first, event.matchesStream streamId = false) →
      Fed handlers store streamId kind lines left rest system handed outcome →
      Fed handlers store streamId kind (lines + 1) (left + 1) (first.toList ++ rest) system handed
        outcome
  | taken {lines left : Nat} {event : Event} {rest contents : List Event}
      {system given middle : System D} {offered : Ref .event}
      {handed : List (System D × Ref .event)} {outcome : Except Halt State × System D} :
      event.matchesStream streamId = true → contentIn given offered = event.closed →
      Gains handlers store system (contents.map Event.closed) middle →
      kind (contents.map Event.closed) →
      Fed handlers store streamId kind lines (left + contents.length) (rest ++ contents) middle
        handed outcome →
      Fed handlers store streamId kind (lines + 1) (left + 1) (event :: rest) system
        ((given, offered) :: handed) outcome

section Reading

variable {handlers : Handlers D} {store : Ref .store} {path : Path} {clock : Ref .clock}
  {streamId : AnyText} {step : State → Ref .event → Act D State} {kind : List Event → Prop}
  {holds : State → System D → Prop} {lines offset : Nat} {state : State} {system : System D}
  {octets : List UInt8} {described : List Event} {handed : List (System D × Ref .event)}
  {outcome : Except Halt State × System D}

/-- What a file gains while a line's event is handed over, before the next line is read. -/
private theorem gains_of_called
    (feeds : Feeds handlers store (.disk path clock) step kind holds)
    (initially : holds state system)
    (disk : system.stores.get store = .disk path clock) {given middle : System D}
    {event : Ref .event} {next : Except Halt State}
    (offers : Offers (.disk path clock) system event given)
    (ran : step state event given = (next, middle)) :
    ∃ last batch, next = .ok last ∧ Gains handlers store system batch middle ∧ kind batch ∧
      holds last middle := by
  obtain ⟨last, batch, after, answered, gains, fits, again⟩ :=
    feeds state system event given initially offers
  cases ran.symm.trans answered
  have rests : Gains handlers store system [] given := by
    rw [offers.same]
    exact .rests rfl (disk ▸ fun _ there => there)
  exact ⟨last, batch, rfl, rests.trans gains, fits, again⟩

theorem Reads.fed
    (reads : Reads path clock streamId step lines offset state system handed outcome)
    (feeds : Feeds handlers store (.disk path clock) step kind holds)
    (initially : holds state system)
    (disk : system.stores.get store = .disk path clock)
    (stands : StandsAt path offset octets described system) :
    Fed handlers store streamId kind lines (LogFile.records (octets.drop offset)).length described
      system handed outcome := by
  induction reads generalizing octets described with
  | exhausted => exact .exhausted
  | gone found =>
      rw [FileTree.hasFile_read.mpr stands.file] at found
      cases found
  | ended file none =>
      cases file.unique stands.file
      cases stands.nil none
      rw [none]
      exact .ended (.rests rfl (.refl _ _))
  | refused file some refused =>
      cases file.unique stands.file
      exact absurd refused (stands.not_refused some)
  | passed file some read other _ ih =>
      cases file.unique stands.file
      obtain ⟨rest, rfl, further, fewer⟩ := stands.next some read
      rw [fewer]
      exact .passed other (ih initially disk further)
  | taken file some read matching offers files made ran _ ih =>
      cases file.unique stands.file
      obtain ⟨rest, rfl, further, fewer⟩ := stands.next some read
      obtain ⟨_, batch, same, gains, fits, again⟩ :=
        gains_of_called feeds initially disk offers ran
      cases same
      obtain ⟨still, longer, contents, there, rfl, grown⟩ := further.gains gains disk
      have course := ih again still there
      rw [grown] at course
      rw [fewer]
      exact .taken matching made gains fits course
  | raised _ _ _ _ offers _ ran =>
      obtain ⟨_, _, same, -⟩ := gains_of_called feeds initially disk offers ran
      cases same

end Reading

namespace Fed

variable {handlers : Handlers D} {store : Ref .store} {streamId : AnyText}
  {kind : List Event → Prop} {lines left : Nat} {described : List Event} {system : System D}
  {handed : List (System D × Ref .event)} {outcome : Except Halt State × System D}

/-- A replay that ends has handed over the events of the log, those stored meanwhile with them. -/
theorem follows
    (fed : Fed handlers store streamId kind lines left described system handed outcome) :
    outcome.1 = .error .exhausted ∨ ∃ (last : State) (batches : List (List Event)),
      outcome.1 = .ok last ∧ (∀ batch ∈ batches, kind batch) ∧
      handed.map (fun pair => contentIn pair.1 pair.2) =
        (described.map Event.closed ++ batches.flatten).filter (·.matchesStream streamId) ∧
      Gains handlers store system batches.flatten outcome.2 := by
  induction fed with
  | exhausted => exact .inl rfl
  | ended rests => exact .inr ⟨_, [], rfl, by simp, rfl, rests⟩
  | @passed _ _ first rest _ _ _ other _ ih =>
      refine ih.imp_right fun ⟨last, batches, answer, fit, all, gains⟩ =>
        ⟨last, batches, answer, fit, ?_, gains⟩
      have unlike : (first.toList.map Event.closed).filter (·.matchesStream streamId) = [] := by
        simpa [Event.matchesStream_closed] using other
      rw [all, List.map_append, List.append_assoc, List.filter_append (first.toList.map _), unlike,
        List.nil_append]
  | @taken _ _ _ rest contents _ _ _ _ _ _ matching made gains fits _ ih =>
      refine ih.imp_right fun ⟨last, batches, answer, fit, all, further⟩ =>
        ⟨last, contents.map Event.closed :: batches, answer, ?_, ?_, gains.trans further⟩
      · exact List.forall_mem_cons.mpr ⟨fits, fit⟩
      · rw [← Event.matchesStream_closed] at matching
        rw [List.map_cons, all, made, List.map_append, List.map_cons, List.cons_append,
          List.filter_cons, if_pos matching, List.append_assoc, List.flatten_cons]

/-- A replay comes to the end of the file if every call stores one event of another stream at
most: then each event that is handed over leaves one less to hand over, and no more lines. -/
theorem ends (fed : Fed handlers store streamId kind lines left described system handed outcome)
    (others : ∀ batch, kind batch →
      batch.length ≤ 1 ∧ ∀ content ∈ batch, content.matchesStream streamId = false)
    (room : left + (described.filter (·.matchesStream streamId)).length < lines) :
    outcome.1 ≠ .error .exhausted := by
  induction fed with
  | exhausted => exact absurd room (Nat.not_lt_zero _)
  | ended => exact nofun
  | passed _ _ ih =>
      rw [List.filter_append, List.length_append] at room
      exact ih (by omega)
  | @taken _ _ _ _ contents _ _ _ _ _ _ matching _ _ fits _ ih =>
      obtain ⟨small, foreign⟩ := others _ fits
      rw [List.length_map] at small
      have unlike : contents.filter (·.matchesStream streamId) = [] := by
        simpa [Event.matchesStream_closed] using foreign
      rw [List.filter_cons, if_pos matching, List.length_cons] at room
      rw [List.filter_append, unlike, List.append_nil] at ih
      exact ih (by omega)

/-- As long as every call stores an event of the stream, there is one still to come. -/
theorem never_ends
    (fed : Fed handlers store streamId kind lines left described system handed outcome)
    (more : ∀ batch, kind batch → ∃ content ∈ batch, content.matchesStream streamId = true)
    (awaited : ∃ event ∈ described, event.matchesStream streamId = true) :
    outcome.1 = .error .exhausted := by
  induction fed with
  | exhausted => rfl
  | ended =>
      obtain ⟨_, member, -⟩ := awaited
      cases member
  | passed other _ ih =>
      obtain ⟨event, member, matching⟩ := awaited
      rcases List.mem_append.mp member with passed | member
      · have unlike := other event (Option.mem_toList.mp passed)
        rw [matching] at unlike
        cases unlike
      · exact ih ⟨event, member, matching⟩
  | taken _ _ _ fits _ ih =>
      obtain ⟨content, member, matching⟩ := more _ fits
      obtain ⟨event, inside, rfl⟩ := List.mem_map.mp member
      rw [Event.matchesStream_closed] at matching
      exact ih ⟨event, List.mem_append_right _ inside, matching⟩

end Fed

section Replaying

variable {handlers : Handlers D} {store : Ref .store} {path : Path} {clock : Ref .clock}
  {octets : List UInt8} {described : List Event} {step : State → Ref .event → Act D State}
  {kind : List Event → Prop} {holds : State → System D → Prop} {state : State} {system : System D}

private theorem replay_fed (streamId : AnyText)
    (feeds : Feeds handlers store (.disk path clock) step kind holds)
    (initially : holds state system)
    (disk : system.stores.get store = .disk path clock) (file : system.files.HasFile path octets)
    (ended : LogFile.Ended octets)
    (shown : LogFile.eventsOf? (LogFile.records octets) = some described) :
    ∃ handed, Hands (Offers (.disk path clock)) step state system handed
        (Store.replay handlers store streamId state step system) ∧
      Fed handlers store streamId kind (octets.length + growthAllowance)
        (LogFile.records octets).length described system handed
        (Store.replay handlers store streamId state step system) := by
  obtain ⟨handed, reads⟩ := replay_reads handlers disk file streamId state step
  have stands : StandsAt path 0 octets described system := ⟨file, Nat.zero_le _, ended, shown⟩
  exact ⟨handed, reads.hands, reads.fed feeds initially disk stands⟩

/-- A replay of a file that ends has handed over the events of the log as it is by then: those that
were there when it began, and then those that its own code has stored meanwhile. -/
theorem replay_hands_log_at_end (streamId : AnyText)
    (feeds : Feeds handlers store (.disk path clock) step kind holds)
    (initially : holds state system)
    (disk : system.stores.get store = .disk path clock) (file : system.files.HasFile path octets)
    (ended : LogFile.Ended octets)
    (shown : LogFile.eventsOf? (LogFile.records octets) = some described) :
    let outcome := Store.replay handlers store streamId state step system
    outcome.1 = .error .exhausted ∨ ∃ handed contents last, outcome.1 = .ok last ∧
      Hands (Offers (.disk path clock)) step state system handed outcome ∧
      (outcome.2.stores.get store).contents? outcome.2 = some contents ∧
      handed.map (fun pair => contentIn pair.1 pair.2) =
        contents.filter (·.matchesStream streamId) := by
  obtain ⟨handed, hands, fed⟩ := replay_fed streamId feeds initially disk file ended shown
  refine fed.follows.imp_right fun ⟨last, _, answer, _, all, gains⟩ =>
    ⟨handed, _, last, answer, hands, ?_, all⟩
  refine gains.contents (disk ▸ .disk file ended shown) ?_
  rw [disk, Store.contents?, FileTree.hasFile_read.mpr file]
  exact congrArg (Option.map _) shown

/-- A replay of a file comes to no end if its code stores an event of the stream in the log at
every call. -/
theorem replay_never_ends {streamId : AnyText}
    (feeds : Feeds handlers store (.disk path clock) step
      (fun batch => ∃ content ∈ batch, content.matchesStream streamId = true) holds)
    (initially : holds state system) (disk : system.stores.get store = .disk path clock)
    (file : system.files.HasFile path octets) (ended : LogFile.Ended octets)
    (shown : LogFile.eventsOf? (LogFile.records octets) = some described)
    (awaited : ∃ event ∈ described, event.matchesStream streamId = true) :
    (Store.replay handlers store streamId state step system).1 = .error .exhausted := by
  obtain ⟨handed, -, fed⟩ := replay_fed streamId feeds initially disk file ended shown
  exact fed.never_ends (fun _ found => found) awaited

end Replaying

end DiskStore

/-! ## Both stores -/

namespace Store

/-- What code may store in a log that is being replayed without being called for it: anything in
memory, and on disk an event of another stream. -/
def Passes (streamId : AnyText) (log : Store D) (batch : List Event) : Prop :=
  ∀ path clock, log = .disk path clock →
    batch.length ≤ 1 ∧ ∀ content ∈ batch, content.matchesStream streamId = false

/-- A replay of a log that can be read, whose code stores events in that log, is over and has handed
over the matching events of the log as it was when it began, once each and in order, if what is
stored on disk belongs to other streams. The log has the events stored behind those. -/
theorem replay_hands_log_at_start (handlers : Handlers D) {store : Ref .store} {streamId : AnyText}
    {step : State → Ref .event → Act D State} {holds : State → System D → Prop} {state : State}
    {system : System D} (readable : Readable system (system.stores.get store))
    (feeds : Feeds handlers store (system.stores.get store) step
      (Passes streamId (system.stores.get store)) holds)
    (initially : holds state system) :
    ∃ contents handed batch last after,
      (system.stores.get store).contents? system = some contents ∧
      replay handlers store streamId state step system = (.ok last, after) ∧
      Hands (Offers (system.stores.get store)) step state system handed (.ok last, after) ∧
      handed.map (fun pair => contentIn pair.1 pair.2) =
        contents.filter (·.matchesStream streamId) ∧
      Gains handlers store system batch after ∧
      (after.stores.get store).contents? after = some (contents ++ batch) := by
  obtain ⟨contents, shown⟩ := readable.contents
  suffices course : ∃ handed batch last after,
      replay handlers store streamId state step system = (.ok last, after) ∧
      Hands (Offers (system.stores.get store)) step state system handed (.ok last, after) ∧
      handed.map (fun pair => contentIn pair.1 pair.2) =
        contents.filter (·.matchesStream streamId) ∧
      Gains handlers store system batch after by
    obtain ⟨handed, batch, last, after, ran, hands, all, gains⟩ := course
    exact ⟨contents, handed, batch, last, after, shown, ran, hands, all, gains,
      gains.contents readable shown⟩
  cases log : system.stores.get store with
  | memory held =>
      rw [log] at feeds shown
      cases shown
      exact MemoryStore.replay_feeds streamId feeds initially log
  | disk path clock =>
      rw [log] at feeds readable
      cases readable with
      | @disk _ _ octets described file ended read =>
      rw [log, contents?, FileTree.hasFile_read.mpr file] at shown
      dsimp only at shown
      rw [read] at shown
      obtain rfl := Option.some.inj shown
      obtain ⟨handed, hands, fed⟩ :=
        DiskStore.replay_fed streamId feeds initially log file ended read
      have room := LogFile.length_of_described read
      have matching := List.length_filter_le (·.matchesStream streamId) described
      have ends := fed.ends (fun batch passes => passes path clock rfl) (by
        rw [DiskStore.growthAllowance]
        omega)
      rcases fed.follows with exhausted | ⟨last, batches, answer, passes, all, gains⟩
      · exact absurd exhausted ends
      · have ran : replay handlers store streamId state step system =
            (.ok last, (replay handlers store streamId state step system).2) := Prod.ext answer rfl
        rw [ran] at hands
        refine ⟨handed, batches.flatten, last, _, ran, hands, ?_, gains⟩
        have unlike : batches.flatten.filter (·.matchesStream streamId) = [] := by
          refine List.filter_eq_nil_iff.mpr fun content member => ?_
          obtain ⟨batch, inside, member⟩ := List.mem_flatten.mp member
          rw [(passes batch inside path clock rfl).2 content member]
          exact Bool.false_ne_true
        rw [all, List.filter_append, unlike, List.append_nil]
  | foreign description => exact absurd log (readable.native description)

/-- Code that stores the open event of `DiskStore.overFile` when it is called for the first time. -/
def storesOnce (stored : Bool) (_ : Ref .event) : Act Domain.bare Bool := do
  if stored then pure true
  else do
    append Handlers.bare ⟨0⟩ [⟨0⟩]
    pure true

/-- Two events of a stream that is not that of the event to be stored. -/
def otherStream : List UInt8 :=
  Utf8.encode ("\x7b\"Name\": \"a\", \"StreamId\": \"y\"\x7d\n" ++
    "\x7b\"Name\": \"b\", \"StreamId\": \"y\"\x7d\n").toList

/-- The event is still to be stored, and can be. -/
private structure Waits (octets : List UInt8) (system : System Domain.bare) : Prop where
  same : system = { DiskStore.overFile octets with
    events := system.events, mappings := system.mappings }
  event : system.events.get ⟨0⟩ = (DiskStore.overFile octets).events.get ⟨0⟩
  known : 0 < system.events.nextRef.index

private theorem Waits.offered {octets : List UInt8} {path : Path} {clock : Ref .clock}
    {before given : System Domain.bare} {event : Ref .event} (waits : Waits octets before)
    (offers : Offers (.disk path clock) before event given) : Waits octets given := by
  have same := offers.same
  obtain ⟨content, made, ⟨entries, payload⟩, created, closed⟩ := offers
  obtain ⟨_, last, creates, closes, shown, size, -⟩ := LiveEvent.create_sealEvent payload before
  cases created.symm.trans creates
  cases closed.symm.trans closes
  refine ⟨?_, ?_, by omega⟩
  · rw [same, waits.same]
  · have other : before.events.nextRef ≠ ⟨0⟩ := by
      intro first
      have known := waits.known
      rw [first] at known
      exact absurd known (Nat.lt_irrefl 0)
    rw [shown, if_neg other, waits.event]

private theorem Waits.contentIn {octets : List UInt8} {system : System Domain.bare}
    (waits : Waits octets system) :
    LiveEvent.contentIn system ⟨0⟩ = LiveEvent.contentIn (DiskStore.overFile octets) ⟨0⟩ := by
  simp only [LiveEvent.contentIn, waits.event]
  rfl

/-- The event is stored when the code is called, and it is of another stream than the log. -/
private theorem Waits.stores {octets : List UInt8} {system : System Domain.bare}
    (waits : Waits octets system) (event : Ref .event) :
    ∃ content after, storesOnce false event system = (.ok true, after) ∧
      Gains Handlers.bare ⟨0⟩ system [content] after ∧ content.matchesStream "y" = false := by
  have holds : system.stores.get ⟨0⟩ = .disk ⟨["log"]⟩ ⟨0⟩ := by
    rw [waits.same]
    exact DiskStore.overFile_holds octets
  have file : system.files.HasFile ⟨["log"]⟩ octets := by
    rw [waits.same]
    exact DiskStore.overFile_file octets
  have plain := DiskStore.plain_overFile octets ⟨0⟩ List.mem_cons_self
  rw [← waits.contentIn] at plain
  have storable : DiskStore.Storable system ⟨0⟩ := by
    refine ⟨?_, ?_, plain⟩ <;> rw [waits.event]
    · exact ⟨rfl, rfl, rfl⟩
    · rfl
  have shows : ∀ reading, ∃ moment, (system.clocks.get ⟨0⟩).readings reading = .ok moment := by
    rw [waits.same]
    exact fun _ => ⟨default, rfl⟩
  obtain ⟨_, _, after, appended, -⟩ := DiskStore.append_of_storable Handlers.bare holds (.inl file)
    shows (List.nodup_singleton _) (List.forall_mem_singleton.mpr storable)
  have fresh : Fresh (system.stores.get ⟨0⟩) system ⟨0⟩ := by
    rw [holds]
    exact ⟨storable.unsealed, nofun, fun _ _ _ => plain⟩
  refine ⟨_, after, ?_, .stores fresh appended, ?_⟩
  · rw [storesOnce, if_neg Bool.false_ne_true, Act.bind_of_ok appended]
    rfl
  · obtain ⟨lines, stored, -⟩ := DiskStore.append_eq_ok holds file appended
    obtain ⟨line, -, moment, entries, -, -, closed⟩ := stored.of_mem List.mem_cons_self
    have stream : (LiveEvent.contentIn after ⟨0⟩).streamId = .text "x" := by
      simp only [LiveEvent.contentIn, closed, waits.event]
      rfl
    rw [holds, logged, Event.listed, Event.matchesStream, stream]
    decide +kernel

private theorem feeds_storesOnce (octets : List UInt8) :
    Feeds Handlers.bare ⟨0⟩ (.disk ⟨["log"]⟩ ⟨0⟩) storesOnce
      (Passes "y" (.disk (D := Domain.bare) ⟨["log"]⟩ ⟨0⟩))
      fun stored system => stored = true ∨ Waits octets system := by
  intro stored before event given holds offers
  cases stored with
  | true => exact ⟨true, [], given, rfl, .rests rfl (.refl _ given), by simp [Passes], .inl rfl⟩
  | false =>
      rcases holds with never | waits
      · cases never
      · obtain ⟨content, after, ran, gains, other⟩ := (waits.offered offers).stores event
        refine ⟨true, [content], after, ran, gains, fun _ _ _ => ?_, .inl rfl⟩
        exact ⟨Nat.le_refl 1, List.forall_mem_singleton.mpr other⟩

theorem replay_hands_log_at_start_otherStream :
    let system := DiskStore.overFile otherStream
    ∃ contents handed batch last after,
      (system.stores.get ⟨0⟩).contents? system = some contents ∧
      replay Handlers.bare ⟨0⟩ "y" false storesOnce system = (.ok last, after) ∧
      Hands (Offers (system.stores.get ⟨0⟩)) storesOnce false system handed (.ok last, after) ∧
      handed.map (fun pair => contentIn pair.1 pair.2) = contents.filter (·.matchesStream "y") ∧
      Gains Handlers.bare ⟨0⟩ system batch after ∧
      (after.stores.get ⟨0⟩).contents? after = some (contents ++ batch) := by
  intro system
  have readable : Readable system (system.stores.get ⟨0⟩) := by
    have describes : (LogFile.eventsOf? (LogFile.records otherStream)).isSome = true := by
      decide +kernel
    obtain ⟨described, shown⟩ := Option.isSome_iff_exists.mp describes
    exact .disk (DiskStore.overFile_file otherStream) (.inr (by decide +kernel)) shown
  have waits : Waits otherStream system := ⟨rfl, rfl, by decide⟩
  exact replay_hands_log_at_start Handlers.bare readable (feeds_storesOnce otherStream) (.inr waits)

/-- Code that stores the open event of `DiskStore.overFile` when it is called for the first time,
and keeps what it was called with. -/
def collectsAndStores (seen : List (Ref .event)) (event : Ref .event) :
    Act Domain.bare (List (Ref .event)) := do
  if seen.isEmpty then append Handlers.bare ⟨0⟩ [⟨0⟩]
  collect seen event

/-- One event of the stream of the event to be stored. -/
def ownStream : List UInt8 :=
  Utf8.encode "\x7b\"Name\": \"a\", \"StreamId\": \"x\"\x7d\n".toList

/-- A log on disk with one event of the stream hands over two, as the code stores the second one
when it is called with the first. -/
theorem replay_hands_event_stored_meanwhile :
    let system := DiskStore.overFile ownStream
    let outcome := replay Handlers.bare ⟨0⟩ "x" [] collectsAndStores system
    ((system.stores.get ⟨0⟩).contents? system).map
        (fun contents => (contents.filter (·.matchesStream "x")).length) = some 1 ∧
      ((outcome.2.stores.get ⟨0⟩).contents? outcome.2).map List.length = some 2 ∧
      outcome.1.toOption.map List.length = some 2 := by
  decide +kernel

end Store

end EventSourcing
