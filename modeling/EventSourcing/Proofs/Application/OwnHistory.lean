import EventSourcing.Proofs.Application.Committing
import EventSourcing.Proofs.Application.HandedHistory
import EventSourcing.Proofs.Application.Keeping
import EventSourcing.Proofs.Application.Publishing

/-!
# A receiver knows what its stream was answered

An application over a store in memory that is empty at first is sent one command after
another. By then the store holds the events of the results that it gave, in order. A receiver
is handed those of them that were reported with its own id, whatever commands failed in
between and whatever projections raised.
-/

set_option autoImplicit false

namespace EventSourcing.Application

open LiveEvent (Closed KeepsClosed contentIn)

variable {D : Domain}

/-! ## The code of a domain that publishes to its own streams -/

/-- The application and its log are left alone, and closed events stay as they are. -/
structure Undisturbed (ref : Ref .application) (before after : System D) : Prop where
  spares : Spares ref before after
  closed : KeepsClosed before after

instance (ref : Ref .application) : Act.Frame (Undisturbed (D := D) ref) where
  refl system := ⟨Act.Frame.refl system, Act.Frame.refl system⟩
  trans first second :=
    ⟨Act.Frame.trans first.spares second.spares, Act.Frame.trans first.closed second.closed⟩

theorem Moves.undisturbed {before after : System D} (moves : Moves before after)
    (ref : Ref .application) : Undisturbed ref before after :=
  ⟨moves.spares ref, moves.closed⟩

/-- An aggregate keeps its id and what it has been handed, and a command its receiver. -/
structure KeepsReceiver (command : Ref .command) (receiver : Ref .aggregate)
    (before after : System D) : Prop where
  id : (after.aggregates.get receiver).id = (before.aggregates.get receiver).id
  seen : (after.aggregates.get receiver).seen = (before.aggregates.get receiver).seen
  receiver : (after.commands.get command).receiver = (before.commands.get command).receiver

instance (command : Ref .command) (receiver : Ref .aggregate) :
    Act.Frame (KeepsReceiver (D := D) command receiver) where
  refl _ := ⟨rfl, rfl, rfl⟩
  trans first second := ⟨second.id.trans first.id, second.seen.trans first.seen,
    second.receiver.trans first.receiver⟩

/-- What the code of a domain does while a command is sent: it leaves the application and its
log alone, an aggregate publishes events of its own stream only, and projections come to an
end. Nothing is said about how the code ends otherwise. -/
structure Behaves (handlers : Handlers D) (ref : Ref .application) (command : Ref .command)
    (start : System D) : Prop where
  calls : ∀ before after, Calls handlers ref command start before after →
    Undisturbed ref before after
  serves : ∀ {receiver found}, Finds handlers ref command start receiver found →
    ∀ before after, Serves handlers ref command receiver found before after →
      KeepsReceiver command receiver before after
  own : ∀ {receiver found ended published}, Finds handlers ref command start receiver found →
    Executes handlers ref command receiver found ended published →
    ∀ event ∈ published,
      (contentIn ended event).streamId = .text (ended.aggregates.get receiver).id
  observes : ∀ {receiver found ended published stored},
    Finds handlers ref command start receiver found →
    Executes handlers ref command receiver found ended published →
    commit handlers (found.applications.get ref) published ended = (.ok (), stored) →
    Observes handlers ref stored
      (Act.Both (Undisturbed ref) (Act.Same fun system => (system.aggregates.get receiver).id))

/-- A run of commands that are sent one after another, with the results that were answered.
In between anything may happen that leaves the application and its log alone. -/
inductive Session (handlers : Handlers D) (ref : Ref .application) (start : System D) :
    List CommandResult → System D → Prop
  | start : Session handlers ref start [] start
  | between {results : List CommandResult} {before after : System D} :
      Session handlers ref start results before → Undisturbed ref before after →
      Session handlers ref start results after
  | answered {results : List CommandResult} {before after : System D} {command : Ref .command}
      {result : CommandResult} :
      Session handlers ref start results before → Behaves handlers ref command before →
      send handlers ref command before = (.ok result, after) →
      Session handlers ref start (results ++ [result]) after
  | halted {results : List CommandResult} {before after : System D} {command : Ref .command}
      {halt : Halt} :
      Session handlers ref start results before → Behaves handlers ref command before →
      send handlers ref command before = (.error halt, after) →
      Session handlers ref start results after

/-! ## What the store holds -/

/-- The application's store holds the events of results, closed, each in the stream of the id
that its result reports. -/
structure Recorded (ref : Ref .application) (results : List CommandResult) (system : System D) :
    Prop where
  made : (system.applications.get ref).store.index < system.stores.nextRef.index
  held : system.stores.get (system.applications.get ref).store =
    .memory (results.flatMap (·.events))
  own : ∀ result ∈ results, ∀ event ∈ result.events,
    Closed system event ∧ (contentIn system event).streamId = .text result.aggregateId

section Recording

variable {handlers : Handlers D} {ref : Ref .application} {command : Ref .command}
  {receiver : Ref .aggregate} {results : List CommandResult}
  {start found ended before after : System D} {published : List (Ref .event)}

theorem Recorded.undisturbed (recorded : Recorded ref results before)
    (undisturbed : Undisturbed ref before after) : Recorded ref results after where
  made := by
    rw [undisturbed.spares.store]
    exact undisturbed.spares.made recorded.made
  held := by
    rw [undisturbed.spares.store, undisturbed.spares.held recorded.made, recorded.held]
  own result member event inside := by
    obtain ⟨closed, streamId⟩ := recorded.own result member event inside
    refine ⟨undisturbed.closed.closed closed, ?_⟩
    rw [undisturbed.closed.contentIn_eq closed, streamId]

theorem Recorded.add {result : CommandResult} (recorded : Recorded ref results before)
    (closed : KeepsClosed before after)
    (made : (after.applications.get ref).store.index < after.stores.nextRef.index)
    (held : after.stores.get (after.applications.get ref).store =
      .memory (results.flatMap (·.events) ++ result.events))
    (own : ∀ event ∈ result.events,
      Closed after event ∧ (contentIn after event).streamId = .text result.aggregateId) :
    Recorded ref (results ++ [result]) after where
  made := made
  held := by
    rw [held, List.flatMap_append, List.flatMap_singleton]
  own other member event inside := by
    rcases List.mem_append.mp member with member | member
    · obtain ⟨known, streamId⟩ := recorded.own other member event inside
      refine ⟨closed.closed known, ?_⟩
      rw [closed.contentIn_eq known, streamId]
    · obtain rfl := List.mem_singleton.mp member
      exact own event inside

/-- What was recorded is recorded after a command, together with the result that was
answered. -/
def Continues (ref : Ref .application) (results : List CommandResult)
    (outcome : Except Halt CommandResult × System D) : Prop :=
  match outcome.1 with
  | .ok result => Recorded ref (results ++ [result]) outcome.2
  | .error _ => Recorded ref results outcome.2

private theorem Recorded.failed (recorded : Recorded ref results after) (fault : Ref .fault) :
    Continues ref results (.ok (.failure fault), after) := by
  refine recorded.add (Act.Frame.refl after) recorded.made ?_ ?_
  · rw [recorded.held]
    exact congrArg Store.memory (List.append_nil _).symm
  · intro event member
    cases member

/-- While a command is delivered, its receiver keeps its id and the application its store. -/
private structure Delivering (ref : Ref .application) (results : List CommandResult)
    (receiver : Ref .aggregate) (found system : System D) : Prop where
  recorded : Recorded ref results system
  store : (system.applications.get ref).store = (found.applications.get ref).store
  id : (system.aggregates.get receiver).id = (found.aggregates.get receiver).id

private theorem Delivering.moves (delivering : Delivering ref results receiver found before)
    (moves : Moves before after) : Delivering ref results receiver found after where
  recorded := delivering.recorded.undisturbed (moves.undisturbed ref)
  store := (moves.spares ref).store.trans delivering.store
  id := (moves.id receiver).trans delivering.id

private theorem delivering_lasts (behaves : Behaves handlers ref command start)
    (finds : Finds handlers ref command start receiver found)
    (recorded : Recorded ref results found) :
    Lasts handlers ref command receiver found Moves
      (Delivering ref results receiver found) where
  native description foreign := by
    rw [recorded.held] at foreign
    cases foreign
  moved _ _ := Delivering.moves
  offered := Moves.of_offers
  served before after delivering serves := by
    have undisturbed := behaves.calls before after (.serves finds serves)
    exact ⟨delivering.recorded.undisturbed undisturbed,
      undisturbed.spares.store.trans delivering.store,
      (behaves.serves finds before after serves).id.trans delivering.id⟩

private theorem Stamped.streamId {clock : Ref .clock}
    (stamps : Stamped before after clock published) (event : Ref .event) :
    (contentIn after event).streamId = (contentIn before event).streamId := by
  by_cases member : event ∈ published
  · obtain ⟨_, moment, -, -, shown⟩ := stamps.occurred event member
    show (after.events.get event).streamId = _
    rw [shown]
    rfl
  · show (after.events.get event).streamId = _
    rw [stamps.others event member]
    rfl

/-- The last step of a command whose events were stored. -/
private theorem continues_stored {stamped : System D} {known : Table .event LiveEvent}
    (behaves : Behaves handlers ref command start)
    (finds : Finds handlers ref command start receiver found)
    (executes : Executes handlers ref command receiver found ended published)
    (delivering : Delivering ref results receiver found ended)
    (moves : Moves ended stamped)
    (stamps : Stamped ended stamped (found.applications.get ref).clock published)
    (committed : commit handlers (found.applications.get ref) published ended =
      (.ok (), MemoryStore.storing stamped (found.applications.get ref).store published known))
    (closed : KeepsClosed stamped
      (MemoryStore.storing stamped (found.applications.get ref).store published known))
    (stored : ∀ event ∈ published,
      let after := MemoryStore.storing stamped (found.applications.get ref).store published known
      Closed after event ∧
        (contentIn after event).streamId = (contentIn stamped event).streamId) :
    Continues ref results (conclude handlers ref command (found.applications.get ref) receiver
      published ended) := by
  let store := (found.applications.get ref).store
  let last := MemoryStore.storing stamped store published known
  have delivered := delivering.moves moves
  have recorded := delivered.recorded
  have same : (last.applications.get ref).store = store := delivered.store
  have made := recorded.made
  have held := recorded.held
  rw [delivered.store] at made held
  obtain ⟨failures, after, reported, undisturbed, id⟩ :=
    (behaves.observes finds executes committed).report_run (fun related => related.1.spares)
      (fun _ _ _ => ⟨⟨.of_stores rfl rfl, fun _ _ => rfl⟩, rfl⟩) command receiver published
  have idLast : (last.aggregates.get receiver).id = (ended.aggregates.get receiver).id :=
    moves.id receiver
  have added : Recorded ref (results ++ [.success (after.aggregates.get receiver).id published
      failures]) last := by
    refine recorded.add closed ?_ ?_ ?_
    · rw [same]
      show store.index < (stamped.stores.set store _).nextRef.index
      rw [Table.nextRef_set _ made]
      exact made
    · rw [same]
      exact MemoryStore.get_storing held published known
    · intro event member
      obtain ⟨closed, streamId⟩ := stored event member
      refine ⟨closed, ?_⟩
      have own := behaves.own finds executes event member
      rw [streamId, stamps.streamId event, own]
      exact congrArg (fun id : String => Datum.text id) (id.trans idLast).symm
  rw [conclude_of_stored committed, reported]
  exact added.undisturbed undisturbed

private theorem continues_conclude (behaves : Behaves handlers ref command start)
    (finds : Finds handlers ref command start receiver found)
    (executes : Executes handlers ref command receiver found ended published)
    (delivering : Delivering ref results receiver found ended) :
    Continues ref results (conclude handlers ref command (found.applications.get ref) receiver
      published ended) := by
  let application := found.applications.get ref
  have moves : Moves ended _ := keeps_stampEach application.logger application.clock published ended
  rcases ran : stampEach application.logger application.clock published ended with
    ⟨halt | _, stamped⟩
  · have recorded : Recorded ref results stamped := by
      rw [ran] at moves
      exact (delivering.moves moves).recorded
    have committed : commit handlers application published ended = (.error halt, stamped) :=
      Act.bind_of_error ran
    refine conclude_of_error committed (fun halt => recorded) fun fault message => ?_
    have noted : Moves stamped _ := Discreet.logRecord application.logger .error message stamped
    exact (recorded.undisturbed (noted.undisturbed ref)).failed fault
  rw [ran] at moves
  have stamps := stampEach_eq_ok ran
  have delivered := delivering.moves moves
  have made := delivered.recorded.made
  have held := delivered.recorded.held
  rw [delivered.store] at made held
  have unsealed (event : Ref .event) (member : event ∈ published) :
      (stamped.events.get event).isSealed = false := by
    rw [stamps.isSealed_eq]
    exact stamps.unsealed event member
  have commits {outcome : Except Halt Unit × System D}
      (appends : Store.append handlers application.store published stamped = outcome) :
      commit handlers application published ended = outcome :=
    (Act.bind_of_ok ran).trans appends
  rcases MemoryStore.append_cases handlers held unsealed with
    ⟨known, appended, closed, stored⟩ | ⟨known, fault, faults, refused, closed⟩
  · exact continues_stored behaves finds executes delivering moves stamps (commits appended) closed
      stored
  · obtain ⟨message, answered⟩ := conclude_of_raised (commits refused)
    rw [answered]
    refine Recorded.failed ?_ fault
    exact delivered.recorded.undisturbed ⟨.of_stores rfl rfl, closed⟩

private theorem Recorded.moved (before after : System D) (recorded : Recorded ref results before)
    (moves : Moves before after) : Recorded ref results after :=
  recorded.undisturbed (moves.undisturbed ref)

private theorem Recorded.asked {acknowledged : System D} {factory : D.Factory}
    (behaves : Behaves handlers ref command start)
    (acknowledges : Command.acknowledge command (start.applications.get ref).clock start =
      (.ok (), acknowledged))
    (none : (acknowledged.commands.get command).receiver = Option.none)
    (made : (acknowledged.commands.get command).factory = some factory)
    (recorded : Recorded ref results acknowledged) :
    Recorded ref results (handlers.construct factory command acknowledged).2 :=
  recorded.undisturbed (behaves.calls _ _ (.construct acknowledges none made))

/-- Whatever becomes of a command, the store holds what was recorded before and the events that
the answer reports. -/
theorem Recorded.send (behaves : Behaves handlers ref command start)
    (recorded : Recorded ref results start) :
    Continues ref results (send handlers ref command start) := by
  rcases send_cases Recorded.moved (Recorded.asked behaves) recorded with
    ⟨halt, after, sent, recorded⟩ | ⟨receiver, found, finds, recorded, sent⟩
  · rw [sent]
    exact recorded
  have here : Delivering ref results receiver found found := ⟨recorded, rfl, rfl⟩
  have delivers := (delivering_lasts behaves finds recorded).deliver here
  rw [sent]
  generalize deliver handlers ref command receiver found = outcome at delivers
  cases delivers with
  | halts delivering => exact delivering.recorded
  | fails delivering => exact delivering.recorded.failed _
  | commits executes delivering => exact continues_conclude behaves finds executes delivering

theorem Session.recorded (run : Session handlers ref start results after)
    (recorded : Recorded ref [] start) : Recorded ref results after := by
  induction run with
  | start => exact recorded
  | between _ undisturbed ih => exact ih.undisturbed undisturbed
  | answered _ behaves sent ih =>
    have continues := ih.send behaves
    rwa [sent] at continues
  | halted _ behaves sent ih =>
    have continues := ih.send behaves
    rwa [sent] at continues

/-! ## What a receiver is handed -/

private theorem filter_flatMap_events {belongs : Ref .event → Bool}
    {reported : CommandResult → Bool}
    (agrees : ∀ result ∈ results, ∀ event ∈ result.events, belongs event = reported result) :
    (results.flatMap (·.events)).filter belongs = (results.filter reported).flatMap (·.events) := by
  induction results with
  | nil => rfl
  | cons result results ih =>
    have rest := ih fun other member => agrees other (.tail _ member)
    have here := agrees result List.mem_cons_self
    rw [List.flatMap_cons, List.filter_append, rest, List.filter_cons]
    cases own : reported result with
    | true =>
      rw [if_pos rfl, List.flatMap_cons, List.filter_eq_self.mpr]
      exact fun event member => (here event member).trans own
    | false =>
      rw [if_neg Bool.false_ne_true, List.filter_eq_nil_iff.mpr, List.nil_append]
      exact fun event member => by simp [here event member, own]

/-- The events of the log that match the id of a receiver are those of the results that report
it. -/
private theorem Recorded.matching (recorded : Recorded ref results found) {id : String}
    (ordinary : id ≠ Event.allStreams) :
    (results.flatMap (·.events)).filter (fun event => (contentIn found event).matchesStream id) =
      (results.filter (·.aggregateId = id)).flatMap (·.events) := by
  refine filter_flatMap_events fun result member event inside => ?_
  have streamId := (recorded.own result member event inside).2
  rw [Bool.eq_iff_iff, Event.matchesStream_iff, or_iff_right ordinary, streamId,
    Datum.text.injEq, AnyText.whole.injEq, decide_eq_true_eq]

/-- A receiver that is given its history is handed the events of the results that report its
id. -/
private theorem seen_of_rehydrated {rehydrated : System D}
    (behaves : Behaves handlers ref command start)
    (finds : Finds handlers ref command start receiver found)
    (recorded : Recorded ref results found)
    (ordinary : (found.aggregates.get receiver).id ≠ Event.allStreams)
    (ran : rehydrate handlers (found.applications.get ref).store receiver found =
      (.ok (), rehydrated)) :
    (rehydrated.aggregates.get receiver).seen = (found.aggregates.get receiver).seen ++
      (results.filter (·.aggregateId = (found.aggregates.get receiver).id)).flatMap
        (·.events) := by
  have lasts := delivering_lasts behaves finds recorded
  have closed (event : Ref .event) (member : event ∈ results.flatMap (·.events)) :
      Closed found event := by
    obtain ⟨result, known, own⟩ := List.mem_flatMap.mp member
    exact (recorded.own result known event own).1
  obtain ⟨pairs, rehydrates⟩ := Store.replay_replayed handlers lasts.native
    (found.aggregates.get receiver).id ()
    fun _ event => Aggregate.handleEvent handlers receiver event
  have all := handed_of_held recorded.held closed
    (fun before after serves => (behaves.calls before after (.serves finds serves)).closed)
    rehydrates (congrArg Prod.fst ran)
  rw [recorded.matching ordinary] at all
  have collected := seen_of_rehydrates
    (fun before after serves => (behaves.serves finds before after serves).seen) rehydrates
  rwa [ran, all] at collected

/-- The aggregate that is handed a command is the receiver that was found for it, as it is after
it was given its history. -/
private theorem accepts_receiver {aggregate : Ref .aggregate} {given : System D}
    (behaves : Behaves handlers ref command start)
    (finds : Finds handlers ref command start receiver found)
    (recorded : Recorded ref results found)
    (accepts : Accepts handlers ref command receiver found aggregate given) :
    aggregate = receiver ∧
      ∃ rehydrated, Opens handlers ref command receiver found rehydrated given :=
  accepts.receiver_eq finds (delivering_lasts behaves finds recorded).native
    fun before after serves => (behaves.serves finds before after serves).receiver

end Recording

/-! ## Code that only publishes -/

section Publishing

variable {ref : Ref .application} {command : Ref .command} {receiver : Ref .aggregate}
  {start found before after : System Domain.publishing} {held : List (Ref .event)}

theorem serves_publishing
    {relation : System Domain.publishing → System Domain.publishing → Prop} [Act.Frame relation]
    (keeps : ∀ aggregate event, Act.Keeps relation (Aggregate.publish aggregate event))
    (serves : Serves Handlers.publishing ref command receiver found before after) :
    relation before after := by
  cases serves with
  | onEvent => exact Act.Frame.refl _
  | construct => exact Act.Frame.refl _
  | onCommand => exact Act.keeps_forEach (fun event _ => keeps _ event) _

/-- Where no aggregate is bound to the application's store, code that only publishes leaves
the application alone, and closed events. -/
theorem undisturbed_publishing (unbound : Unbound ref start)
    (stored : start.stores.get (start.applications.get ref).store = .memory held)
    (calls : Calls Handlers.publishing ref command start before after) :
    Undisturbed ref before after := by
  have native (description : Domain.publishing.Store) :
      start.stores.get (start.applications.get ref).store ≠ .foreign description := by
    rw [stored]
    intro foreign
    cases foreign
  cases calls with
  | construct => exact Act.Frame.refl _
  | serves finds serves =>
    have closed (fault : Fault) :
        Act.Keeps (KeepsClosed (D := Domain.publishing)) (Act.newFault fault) :=
      fun system => LiveEvent.keepsClosed_of_events rfl
    have reached := serves.unbound finds unbound native (fun _ => Act.keeps_pure _)
      (serves_publishing (shuns_publish ref))
    refine ⟨(serves_publishing (shuns_publish ref) serves reached).2, ?_⟩
    exact serves_publishing (Aggregate.keeps_publish closed fun _ _ _ =>
      LiveEvent.keepsClosed_of_events rfl) serves

theorem behaves_publishing (unbound : Unbound ref start)
    (stored : start.stores.get (start.applications.get ref).store = .memory held)
    (own : ∀ {receiver found ended published},
      Finds Handlers.publishing ref command start receiver found →
      Executes Handlers.publishing ref command receiver found ended published →
      ∀ event ∈ published,
        (contentIn ended event).streamId = .text (ended.aggregates.get receiver).id) :
    Behaves Handlers.publishing ref command start := by
  refine ⟨fun _ _ calls => undisturbed_publishing unbound stored calls,
    fun _ _ _ serves => ?_, own, fun _ _ _ => ⟨?_, ?_⟩⟩
  · exact serves_publishing
      (Aggregate.keeps_publish (fun _ _ => ⟨rfl, rfl, rfl⟩) fun _ _ _ => ⟨rfl, rfl, rfl⟩) serves
  · rintro before after _ ⟨event, -⟩
    refine keeps_onProject (fun fault system => ?_) _ _ before
    exact ⟨⟨(aside_newFault ref fault system).spares, LiveEvent.keepsClosed_of_events rfl⟩, rfl⟩
  · exact fun _ _ => onProject_publishing

/-- Whether the receiver of a command publishes events of its own stream only, if it comes to
publish any. -/
private def publishesOwn (ref : Ref .application) (command : Ref .command)
    (start : System Domain.publishing) : Bool :=
  let acknowledged := (Command.acknowledge command (start.applications.get ref).clock start).2
  match Command.resolveReceiver Handlers.publishing command acknowledged with
  | (.ok (some receiver), found) =>
    let application := found.applications.get ref
    let rehydrated := (rehydrate Handlers.publishing application.store receiver found).2
    let about := opened application.logger command receiver rehydrated
    let ended := (Command.execute Handlers.publishing command about).2
    (MemoryStore.eventsIn ended rehydrated.stores.nextRef).all fun event =>
      (contentIn ended event).streamId.same (.text (ended.aggregates.get receiver).id)
  | _ => true

private theorem own_of_publishesOwn (checked : publishesOwn ref command start = true)
    {receiver : Ref .aggregate} {found ended : System Domain.publishing}
    {published : List (Ref .event)}
    (finds : Finds Handlers.publishing ref command start receiver found)
    (executes : Executes Handlers.publishing ref command receiver found ended published) :
    ∀ event ∈ published,
      (contentIn ended event).streamId = .text (ended.aggregates.get receiver).id := by
  obtain ⟨acknowledged, acknowledges, resolves⟩ := finds
  obtain ⟨rehydrated, about, ⟨ran, rfl⟩, executed, rfl⟩ := executes
  rw [publishesOwn, acknowledges] at checked
  dsimp only at checked
  rw [resolves] at checked
  dsimp only at checked
  rw [ran, executed, List.all_eq_true] at checked
  exact fun event member => (Datum.same_text_iff _ _).mp (checked event member)

end Publishing

/-- However a run of commands goes, an aggregate that is handed a command has been handed, in
order, the events of all results of the run that report its id, and no others. Neither commands
that failed count nor projections that raised. -/
theorem receiver_knows_own_results (handlers : Handlers D) {ref : Ref .application}
    {command : Ref .command} {receiver aggregate : Ref .aggregate}
    {start last found given : System D} {results : List CommandResult}
    (made : (start.applications.get ref).store.index < start.stores.nextRef.index)
    (empty : start.stores.get (start.applications.get ref).store = .memory [])
    (session : Session handlers ref start results last)
    (behaves : Behaves handlers ref command last)
    (finds : Finds handlers ref command last receiver found)
    (fresh : (found.aggregates.get receiver).seen = [])
    (ordinary : (found.aggregates.get receiver).id ≠ Event.allStreams)
    (accepts : Accepts handlers ref command receiver found aggregate given) :
    (given.aggregates.get aggregate).seen =
      (results.filter (·.aggregateId = (given.aggregates.get aggregate).id)).flatMap
        (·.events) := by
  have recordedStart : Recorded ref [] start := ⟨made, empty, by simp⟩
  have recorded := finds.lasts Recorded.moved (Recorded.asked behaves)
    (session.recorded recordedStart)
  obtain ⟨rfl, rehydrated, opens⟩ := accepts_receiver behaves finds recorded accepts
  have seen := seen_of_rehydrated behaves finds recorded ordinary opens.rehydrates
  have lasts := delivering_lasts behaves finds recorded
  have delivering := lasts.opens ⟨recorded, rfl, rfl⟩ opens
  have opened : (given.aggregates.get aggregate).seen =
      (rehydrated.aggregates.get aggregate).seen := by
    rw [opens.opens]
    refine (congrArg Aggregate.seen (Table.get_set _ _ _ _)).trans ?_
    rw [if_pos rfl]
  rw [opened, seen, fresh, delivering.id]
  rfl

/-- An application with a projection that raises, and commands for three receivers: two of one
id, of which only the first publishes, and one of another id between them. -/
def interleaved : System Domain.publishing :=
  let event (streamId : String) : LiveEvent :=
    { name := .text "added", streamId := .text streamId, id := .text "", occurredOn := .null
      persistedAt := .null, payload := .own (.mapping []) }
  let command (receiver : Nat) : EventSourcing.Command Domain.publishing :=
    { name := "go", fields := [], idField := "id", errors := ⟨0⟩, factory := some ⟨receiver⟩
      receiver := none, hasImplicitId := true }
  let aggregate (id : String) (script : List (Ref .event)) : Aggregate Domain.publishing :=
    { id, publisher := none, seen := [], handled := [], script := some script }
  { events := ⟨#[event "x", event "y"]⟩
    commands := ⟨#[command 0, command 1, command 2]⟩
    faults := ⟨#[.validation []]⟩
    aggregates := ⟨#[aggregate "x" [⟨0⟩], aggregate "y" [⟨1⟩], aggregate "x" []]⟩
    stores := ⟨#[.memory []]⟩
    clocks := ⟨#[.showing .unixEpoch]⟩
    applications := ⟨#[{
      name := .text "app", store := ⟨0⟩, clock := ⟨0⟩, logger := "app"
      projections := [("raises", some .clockWithoutOffset)] }]⟩
    domain := () }

private theorem answered {sent : Except Halt CommandResult × System Domain.publishing}
    {id : String} {events : List (Ref .event)}
    (shown : sent.1.toOption.map (fun result => (result.aggregateId, result.events, result.isOk)) =
      some (id, events, false)) :
    ∃ result, sent = (.ok result, sent.2) ∧ result.aggregateId = id ∧ result.events = events ∧
      result.isOk = false := by
  obtain ⟨halt | result, after⟩ := sent
  · cases shown
  · have same := Option.some.inj shown
    rw [Prod.mk.injEq, Prod.mk.injEq] at same
    exact ⟨result, rfl, same⟩

theorem receiver_knows_own_results_interleaved :
    ∃ first second last found given,
      Session Handlers.publishing ⟨0⟩ interleaved [first, second] last ∧
      first.events = [⟨0⟩] ∧ first.isOk = false ∧ second.events = [⟨1⟩] ∧ second.isOk = false ∧
      Finds Handlers.publishing ⟨0⟩ ⟨2⟩ last ⟨2⟩ found ∧
      Accepts Handlers.publishing ⟨0⟩ ⟨2⟩ ⟨2⟩ found ⟨2⟩ given ∧
      (given.aggregates.get ⟨2⟩).id = "x" ∧ (given.aggregates.get ⟨2⟩).seen = [⟨0⟩] := by
  let middle := (send Handlers.publishing ⟨0⟩ ⟨0⟩ interleaved).2
  let last := (send Handlers.publishing ⟨0⟩ ⟨1⟩ middle).2
  let acknowledged := (Command.acknowledge ⟨2⟩ (last.applications.get ⟨0⟩).clock last).2
  let found := (Command.resolveReceiver Handlers.publishing ⟨2⟩ acknowledged).2
  let application := found.applications.get ⟨0⟩
  let rehydrated := (rehydrate Handlers.publishing application.store ⟨2⟩ found).2
  let about := opened application.logger ⟨2⟩ ⟨2⟩ rehydrated
  let given := (Command.resolveReceiver Handlers.publishing ⟨2⟩ about).2
  obtain ⟨first, sentFirst, idFirst, eventsFirst, raisedFirst⟩ :
      ∃ result, send Handlers.publishing ⟨0⟩ ⟨0⟩ interleaved = (.ok result, middle) ∧
        result.aggregateId = "x" ∧ result.events = [⟨0⟩] ∧ result.isOk = false :=
    answered (by decide +kernel)
  obtain ⟨second, sentSecond, idSecond, eventsSecond, raisedSecond⟩ :
      ∃ result, send Handlers.publishing ⟨0⟩ ⟨1⟩ middle = (.ok result, last) ∧
        result.aggregateId = "y" ∧ result.events = [⟨1⟩] ∧ result.isOk = false :=
    answered (by decide +kernel)
  have made : (interleaved.applications.get ⟨0⟩).store.index <
      interleaved.stores.nextRef.index := by
    decide
  have empty : Recorded ⟨0⟩ [] interleaved := ⟨made, rfl, by simp⟩
  have behavesFirst : Behaves Handlers.publishing ⟨0⟩ ⟨0⟩ interleaved :=
    behaves_publishing (unbound_of_all made (by decide +kernel)) empty.held
      (own_of_publishesOwn (by decide +kernel))
  have sessionFirst : Session Handlers.publishing ⟨0⟩ interleaved [first] middle :=
    .answered .start behavesFirst sentFirst
  have recordedFirst := sessionFirst.recorded empty
  have behavesSecond : Behaves Handlers.publishing ⟨0⟩ ⟨1⟩ middle :=
    behaves_publishing (unbound_of_all recordedFirst.made (by decide +kernel))
      recordedFirst.held (own_of_publishesOwn (by decide +kernel))
  have session : Session Handlers.publishing ⟨0⟩ interleaved [first, second] last :=
    .answered sessionFirst behavesSecond sentSecond
  have recorded := session.recorded empty
  have behaves : Behaves Handlers.publishing ⟨0⟩ ⟨2⟩ last :=
    behaves_publishing (unbound_of_all recorded.made (by decide +kernel)) recorded.held
      (own_of_publishesOwn (by decide +kernel))
  have finds : Finds Handlers.publishing ⟨0⟩ ⟨2⟩ last ⟨2⟩ found :=
    ⟨acknowledged, Act.run_of_answer (by decide +kernel), Act.run_of_answer (by decide +kernel)⟩
  have opens : Opens Handlers.publishing ⟨0⟩ ⟨2⟩ ⟨2⟩ found rehydrated about :=
    ⟨Act.run_of_answer (by decide +kernel), rfl⟩
  have accepts : Accepts Handlers.publishing ⟨0⟩ ⟨2⟩ ⟨2⟩ found ⟨2⟩ given :=
    ⟨rehydrated, about, opens, by decide +kernel, Act.run_of_answer (by decide +kernel)⟩
  have seen := receiver_knows_own_results Handlers.publishing made empty.held session behaves finds
    (by decide +kernel) (by decide +kernel) accepts
  have id : (given.aggregates.get ⟨2⟩).id = "x" := by
    decide +kernel
  rw [id] at seen
  refine ⟨first, second, last, found, given, session, eventsFirst, raisedFirst, eventsSecond,
    raisedSecond, finds, accepts, id, ?_⟩
  simp [seen, idFirst, idSecond, eventsFirst]

end EventSourcing.Application
