import EventSourcing.Proofs.Application.Committing
import EventSourcing.Proofs.Application.Course
import EventSourcing.Proofs.Application.Publishing

/-!
# Sending is all or nothing

A command sent to an application over a store in memory has one of two ends. Either all
events that its handling published are stored, sealed and stamped, and reported; or the
store is as before, no projection was called, and the sender gets a fault. `Executed` says
which events were published. The application by itself seals no event in the second case,
unless the batch was stamped and an event of it cannot be sealed: then those before it are
sealed already.
-/

set_option autoImplicit false

namespace EventSourcing.Application

open LiveEvent (Closable)

variable {D : Domain}

/-- A command was acknowledged, its receiver found and given its history, and the command
executed while the receiver published to a new store. The events are those that this store
holds then, in the order of their publication. -/
structure Executed (handlers : Handlers D) (ref : Ref .application) (command : Ref .command)
    (start ended : System D) (receiver : Ref .aggregate)
    (published : List (Ref .event)) : Prop where
  run : ∃ acknowledged found rehydrated,
    Command.acknowledge command (start.applications.get ref).clock start =
      (.ok (), acknowledged) ∧
    Command.resolveReceiver handlers command acknowledged = (.ok (some receiver), found) ∧
    rehydrate handlers (start.applications.get ref).store receiver found =
      (.ok (), rehydrated) ∧
    Command.execute handlers command
        (opened (found.applications.get ref).logger command receiver rehydrated) =
      (.ok (), ended) ∧
    MemoryStore.eventsIn ended rehydrated.stores.nextRef = published

/-- The events published by the handling of a command are stored behind those held, each
sealed and with a time of the application's clock, and the result reports them. -/
structure Stores (handlers : Handlers D) (ref : Ref .application) (command : Ref .command)
    (held : List (Ref .event)) (start after : System D) (result : CommandResult)
    (ended : System D) (receiver : Ref .aggregate) : Prop where
  executed : Executed handlers ref command start ended receiver result.events
  success : ∃ failures, result = .success result.aggregateId result.events failures
  aggregateId : result.aggregateId = (after.aggregates.get receiver).id
  kept : after.stores.get (start.applications.get ref).store = .memory (held ++ result.events)
  isSealed : ∀ event ∈ result.events, (after.events.get event).isSealed = true
  occurred : ∀ event ∈ result.events, ∃ place moment, result.events[place]? = some event ∧
    let clock := ended.clocks.get (start.applications.get ref).clock
    clock.readings (clock.taken + place) = .ok moment ∧
      (after.events.get event).occurredOn = .moment moment

/-- The sender gets a fault, the store is as before, and no projection was called, unless
the domain's code called one while it handled the command. -/
structure StoresNothing (handlers : Handlers D) (ref : Ref .application)
    (command : Ref .command) (held : List (Ref .event)) (start after : System D)
    (outcome : Except Halt CommandResult) : Prop where
  fails : (∃ halt, outcome = .error halt) ∨ ∃ result fault, outcome = .ok result ∧
    result = .failure fault ∧ result.aggregateId = "" ∧ result.events = []
  kept : after.stores.get (start.applications.get ref).store = .memory held
  projected : Leaves handlers ref command start (Act.Same (projectionCalls ref)) →
    projectionCalls ref after = projectionCalls ref start

def sealedIn (event : Ref .event) (system : System D) : Bool :=
  (system.events.get event).isSealed

/-- No event is sealed that the domain's code does not seal. -/
def SealsNothing (handlers : Handlers D) (ref : Ref .application) (command : Ref .command)
    (start after : System D) : Prop :=
  ∀ event, Leaves handlers ref command start (Act.Same (sealedIn event)) →
    sealedIn event after = sealedIn event start

/-- The published events, all of them open, have a first one that cannot be sealed, and those
before it are sealed. -/
def SealsBeforeRefused (handlers : Handlers D) (ref : Ref .application)
    (command : Ref .command) (start after : System D) : Prop :=
  ∃ ended receiver first event rest,
    Executed handlers ref command start ended receiver (first ++ event :: rest) ∧
    (∀ other ∈ first ++ event :: rest, sealedIn other ended = false) ∧
    (∀ other ∈ first, Closable ended other) ∧ ¬ Closable ended event ∧
    ∀ other, Leaves handlers ref command start (Act.Same (sealedIn other)) →
      (sealedIn other after = true ↔ other ∈ first ∨ sealedIn other start = true)

def Succeeds (handlers : Handlers D) (ref : Ref .application) (command : Ref .command)
    (held : List (Ref .event)) (start : System D)
    (outcome : Except Halt CommandResult × System D) : Prop :=
  ∃ result ended receiver, outcome.1 = .ok result ∧
    Stores handlers ref command held start outcome.2 result ended receiver

/-- Nothing is stored, and the application by itself seals nothing, or what comes before an
event that cannot be sealed. -/
def Fails (handlers : Handlers D) (ref : Ref .application) (command : Ref .command)
    (held : List (Ref .event)) (start : System D)
    (outcome : Except Halt CommandResult × System D) : Prop :=
  StoresNothing handlers ref command held start outcome.2 outcome.1 ∧
    (SealsNothing handlers ref command start outcome.2 ∨
      SealsBeforeRefused handlers ref command start outcome.2)

section Sending

variable {handlers : Handlers D} {ref : Ref .application} {command : Ref .command}
  {start : System D} {held : List (Ref .event)}

private theorem Handling.spares {system : System D}
    (reached : Handling handlers ref command start system)
    (apart : Apart handlers ref command start) : Spares ref start system :=
  reached.relates (fun _ _ => Aside.spares) apart.handling

private theorem Handling.same_projected {system : System D}
    (reached : Handling handlers ref command start system)
    (leaves : Leaves handlers ref command start (Act.Same (projectionCalls ref))) :
    projectionCalls ref system = projectionCalls ref start := by
  have asides : ∀ before after : System D, Aside ref before after →
      Act.Same (projectionCalls ref) before after := fun _ _ aside => aside.projected
  exact reached.relates asides leaves

private theorem Handling.same_sealed {system : System D}
    (reached : Handling handlers ref command start system) (event : Ref .event)
    (leaves : Leaves handlers ref command start (Act.Same (sealedIn event))) :
    sealedIn event system = sealedIn event start := by
  have asides : ∀ before after : System D, Aside ref before after →
      Act.Same (sealedIn event) before after := fun _ _ aside => (aside.events event).isSealed
  exact reached.relates asides leaves

private theorem fails_of_handling {after : System D} {outcome : Except Halt CommandResult}
    (apart : Apart handlers ref command start)
    (made : (start.applications.get ref).store.index < start.stores.nextRef.index)
    (holds : start.stores.get (start.applications.get ref).store = .memory held)
    (reached : Handling handlers ref command start after)
    (fails : (∃ halt, outcome = .error halt) ∨ ∃ fault, outcome = .ok (.failure fault)) :
    Fails handlers ref command held start (outcome, after) := by
  refine ⟨⟨?_, ((reached.spares apart).held made).trans holds, reached.same_projected⟩,
    .inl fun event leaves => reached.same_sealed event leaves⟩
  rcases fails with halted | ⟨fault, failed⟩
  · exact .inl halted
  · exact .inr ⟨_, fault, failed, rfl, rfl, rfl⟩

private theorem succeeds_of_stored {ended stamped : System D} {receiver : Ref .aggregate}
    {published : List (Ref .event)} {known : Table .event LiveEvent}
    (apart : Apart handlers ref command start)
    (made : (start.applications.get ref).store.index < start.stores.nextRef.index)
    (holds : start.stores.get (start.applications.get ref).store = .memory held)
    (reached : Handling handlers ref command start stamped)
    (executed : Executed handlers ref command start ended receiver published)
    (stamps : Stamped ended stamped (start.applications.get ref).clock published)
    (appended : Store.append handlers (start.applications.get ref).store published stamped =
      (.ok (), MemoryStore.storing stamped (start.applications.get ref).store published known))
    (closed : ∀ event ∈ published, (known.get event).isSealed = true ∧
      (known.get event).occurredOn = (stamped.events.get event).occurredOn) :
    Succeeds handlers ref command held start (report handlers ref command receiver published
      (MemoryStore.storing stamped (start.applications.get ref).store published known)) := by
  have spares := reached.spares apart
  have holdsStamped := (spares.held made).trans holds
  have madeStamped := spares.made made
  obtain ⟨failures, after, reported, sparesAfter, staySealed⟩ :=
    report_run apart (.stored reached appended) receiver published
  have store : ((MemoryStore.storing stamped (start.applications.get ref).store published
      known).applications.get ref).store = (start.applications.get ref).store := spares.store
  have kept := sparesAfter.held
  rw [store, MemoryStore.get_storing holdsStamped] at kept
  have madeStored : (start.applications.get ref).store.index < (MemoryStore.storing stamped
      (start.applications.get ref).store published known).stores.nextRef.index := by
    rw [MemoryStore.storing, Table.nextRef_set _ madeStamped]
    exact madeStamped
  rw [reported]
  refine ⟨_, ended, receiver, rfl, executed, ⟨failures, rfl⟩, rfl, kept madeStored, ?_, ?_⟩
  · intro event member
    exact (staySealed event (closed event member).1).1
  · intro event member
    obtain ⟨place, moment, found, reading, shown⟩ := stamps.occurred event member
    refine ⟨place, moment, found, reading, ?_⟩
    rw [(staySealed event (closed event member).1).2]
    refine (closed event member).2.trans ?_
    rw [shown]
    rfl

private theorem fails_of_refused {ended stamped : System D} {receiver : Ref .aggregate}
    {first rest : List (Ref .event)} {event : Ref .event} {known : Table .event LiveEvent}
    {fault : Ref .fault} {faults : Table .fault Fault} {log : Array LogRecord}
    (apart : Apart handlers ref command start)
    (made : (start.applications.get ref).store.index < start.stores.nextRef.index)
    (holds : start.stores.get (start.applications.get ref).store = .memory held)
    (reached : Handling handlers ref command start stamped)
    (executed : Executed handlers ref command start ended receiver (first ++ event :: rest))
    (stamps : Stamped ended stamped (start.applications.get ref).clock (first ++ event :: rest))
    (closable : ∀ other ∈ first, Closable ended other) (notClosable : ¬ Closable ended event)
    (isSealed : ∀ other ∈ first, (known.get other).isSealed = true)
    (others : ∀ other, other ∉ first → known.get other = stamped.events.get other) :
    Fails handlers ref command held start (.ok (.failure fault),
      { stamped with
        events := known, faults, log
        calls := stamped.calls.push
          (.storeEvents (start.applications.get ref).store (first ++ event :: rest)) }) := by
  refine ⟨⟨.inr ⟨_, fault, rfl, rfl, rfl, rfl⟩, ?_, fun leaves => ?_⟩, .inr ?_⟩
  · exact ((reached.spares apart).held made).trans holds
  · have same := reached.same_projected leaves
    exact (projectionCalls_push rfl rfl).trans same
  · refine ⟨ended, receiver, first, event, rest, executed, stamps.unsealed, closable,
      notClosable, fun other leaves => ?_⟩
    by_cases member : other ∈ first
    · exact iff_of_true (isSealed other member) (.inl member)
    · have same : sealedIn other stamped = sealedIn other start :=
        reached.same_sealed other leaves
      rw [or_iff_right member, ← same]
      exact iff_of_eq (congrArg (·.isSealed = true) (others other member))

private theorem commit_outcome {found ended : System D} {receiver : Ref .aggregate}
    {published : List (Ref .event)} (apart : Apart handlers ref command start)
    (made : (start.applications.get ref).store.index < start.stores.nextRef.index)
    (holds : start.stores.get (start.applications.get ref).store = .memory held)
    (spares : Spares ref start found)
    (reached : Handling handlers ref command start ended)
    (executed : Executed handlers ref command start ended receiver published) :
    let outcome :=
      conclude handlers ref command (found.applications.get ref) receiver published ended
    Succeeds handlers ref command held start outcome ∨
      Fails handlers ref command held start outcome := by
  intro outcome
  have sparesEnded := reached.spares apart
  have holdsEnded : ended.stores.get (found.applications.get ref).store = .memory held := by
    rw [spares.store, sparesEnded.held made, holds]
  have madeEnded : (found.applications.get ref).store.index < ended.stores.nextRef.index := by
    rw [spares.store]
    exact sparesEnded.made made
  have committed := commit_cases handlers ref (found.applications.get ref) holdsEnded madeEnded
    published
  rcases ran : commit handlers (found.applications.get ref) published ended with ⟨result, after⟩
  rw [ran, spares.store, spares.clock] at committed
  cases committed with
  | unstamped aside =>
    right
    have reachedAfter := reached.aside aside
    refine conclude_of_error ran (fun halt => ?_) fun fault message => ?_
    · exact fails_of_handling apart made holds reachedAfter (.inl ⟨halt, rfl⟩)
    · have noted : Aside ref after _ :=
        Discreet.logRecord (found.applications.get ref).logger .error message after
      exact fails_of_handling apart made holds (reachedAfter.aside noted) (.inr ⟨fault, rfl⟩)
  | stored aside stamps appended closed =>
    left
    have reported : outcome = _ := conclude_of_stored ran
    rw [reported]
    exact succeeds_of_stored apart made holds (reached.aside aside) executed stamps appended closed
  | @refused stamped known fault faults first rest event aside stamps split closable
      notClosable isSealed others =>
    right
    subst split
    obtain ⟨message, answers⟩ := conclude_of_raised ran
    rw [show outcome = _ from answers]
    exact fails_of_refused apart made holds (reached.aside aside) executed stamps closable
      notClosable isSealed others

private theorem Serves.handles {receiver : Ref .aggregate} {found before after : System D}
    (receives : Receives handlers ref command start receiver)
    (serves : Serves handlers ref command receiver found before after) :
    Handles handlers ref command start before after := by
  cases serves with
  | onEvent _ _ script => exact .onEvent _ receives script
  | construct _ _ _ factory => exact .construct factory
  | onCommand accepts script =>
    obtain ⟨_, _, -, -, resolved⟩ := accepts
    have receiver := Command.receiver_of_resolved resolved
    exact .onCommand receiver script

private theorem handling_lasts {receiver : Ref .aggregate} {found : System D}
    (finds : Finds handlers ref command start receiver found)
    (holds : found.stores.get (found.applications.get ref).store = .memory held) :
    Lasts handlers ref command receiver found (Aside ref)
      (Handling handlers ref command start) := by
  obtain ⟨acknowledged, acknowledges, resolves⟩ := finds
  refine ⟨?_, fun _ _ => .aside, ?_, fun _ _ reached serves =>
    .handles reached (serves.handles ?_)⟩
  · intro description foreign
    rw [holds] at foreign
    cases foreign
  · intro before event given offers
    rw [holds] at offers
    obtain rfl : given = before := offers
    exact Aside.refl ref given
  · exact ⟨acknowledged, found, acknowledges, resolves⟩

private theorem send_outcome (apart : Apart handlers ref command start)
    (made : (start.applications.get ref).store.index < start.stores.nextRef.index)
    (holds : start.stores.get (start.applications.get ref).store = .memory held) :
    Succeeds handlers ref command held start (send handlers ref command start) ∨
      Fails handlers ref command held start (send handlers ref command start) := by
  have aside (before after : System D) (reached : Handling handlers ref command start before)
      (moves : Aside ref before after) : Handling handlers ref command start after :=
    reached.aside moves
  rcases send_cases aside (fun _ _ factory reached => .handles reached (.construct factory))
      .start with
    ⟨halt, after, sent, reached⟩ | ⟨receiver, found, finds, reached, sent⟩
  · rw [sent]
    exact .inr (fails_of_handling apart made holds reached (.inl ⟨halt, rfl⟩))
  have spares := reached.spares apart
  have holdsFound : found.stores.get (found.applications.get ref).store = .memory held := by
    rw [spares.store, spares.held made, holds]
  have delivers := (handling_lasts finds holdsFound).deliver reached
  rw [sent]
  generalize deliver handlers ref command receiver found = outcome at delivers
  cases delivers with
  | halts reachedAfter =>
    exact .inr (fails_of_handling apart made holds reachedAfter (.inl ⟨_, rfl⟩))
  | fails reachedAfter =>
    exact .inr (fails_of_handling apart made holds reachedAfter (.inr ⟨_, rfl⟩))
  | commits executes reachedEnded =>
    obtain ⟨rehydrated, about, ⟨ran, rfl⟩, executed, published⟩ := executes
    obtain ⟨acknowledged, acknowledges, resolves⟩ := finds
    rw [spares.store] at ran
    exact commit_outcome apart made holds spares reachedEnded
      ⟨acknowledged, found, rehydrated, acknowledges, resolves, ran, executed, published⟩

private theorem success_ne_failure {aggregateId : String} {events : List (Ref .event)}
    {failures : List ProjectionFailure} {fault : Ref .fault} :
    CommandResult.success aggregateId events failures ≠ .failure fault := by
  intro same
  have none := congrArg CommandResult.failures same
  have some := congrArg CommandResult.error same
  cases failures with
  | nil => cases some
  | cons failure failures => cases none

end Sending

/-- Over a store in memory that the domain's code does not touch, sending a command has
exactly one of two ends. Either all events that the receiver published are stored behind
those held, sealed and stamped, and the result reports them with the receiver's id; or the
store is as before, no projection was called and the sender gets a fault. Then no event is
sealed either, unless a published event cannot be sealed: then those before it are. -/
theorem send_all_or_nothing (handlers : Handlers D) {start : System D}
    {ref : Ref .application} {command : Ref .command} {held : List (Ref .event)}
    (holds : start.stores.get (start.applications.get ref).store = .memory held)
    (made : (start.applications.get ref).store.index < start.stores.nextRef.index)
    (apart : Apart handlers ref command start) :
    let outcome := send handlers ref command start
    (Succeeds handlers ref command held start outcome ∨
      Fails handlers ref command held start outcome) ∧
    ¬ (Succeeds handlers ref command held start outcome ∧
      Fails handlers ref command held start outcome) := by
  intro outcome
  refine ⟨send_outcome apart made holds, ?_⟩
  rintro ⟨⟨result, ended, receiver, succeeded, stores⟩, failed, -⟩
  obtain ⟨failures, success⟩ := stores.success
  rcases failed.fails with ⟨halt, halted⟩ | ⟨other, fault, failing, shown, -, -⟩
  · rw [succeeded] at halted
    cases halted
  · rw [succeeded] at failing
    cases failing
    exact success_ne_failure (success.symm.trans shown)

/-- An application over an empty store, with a projection that raises, and a command whose
receiver publishes two open events. The payload of the first is a mapping. -/
def publishingTwo (payload : Datum) : System Domain.publishing :=
  let event (payload : Datum) : LiveEvent :=
    { name := .text "added", streamId := .text "x", id := .text "", occurredOn := .null
      persistedAt := .null, payload := .own payload }
  { events := ⟨#[event (.mapping []), event payload]⟩
    parameters := ⟨#[.exactly "x"]⟩
    commands := ⟨#[{
      name := "add", fields := [("id", ⟨0⟩)], idField := "id", errors := ⟨0⟩
      factory := some ⟨0⟩, receiver := none, hasImplicitId := false }]⟩
    faults := ⟨#[.validation []]⟩
    aggregates := ⟨#[{
      id := "x", publisher := none, seen := [], handled := [], script := some [⟨0⟩, ⟨1⟩] }]⟩
    stores := ⟨#[.memory []]⟩
    clocks := ⟨#[.showing .unixEpoch]⟩
    applications := ⟨#[{
      name := .text "app", store := ⟨0⟩, clock := ⟨0⟩, logger := "app"
      projections := [("raises", some .clockWithoutOffset)] }]⟩
    domain := () }

private theorem made_publishingTwo (payload : Datum) :
    let start := publishingTwo payload
    (start.applications.get ⟨0⟩).store.index < start.stores.nextRef.index ∧
      start.stores.get (start.applications.get ⟨0⟩).store = .memory [] :=
  ⟨Nat.zero_lt_one, rfl⟩

private theorem apart_publishingTwo (payload : Datum) :
    Apart Handlers.publishing ⟨0⟩ ⟨0⟩ (publishingTwo payload) := by
  refine apart_publishing ⟨Nat.zero_lt_one, ?_⟩
  rintro ⟨index⟩ bound
  cases index <;> cases bound

theorem send_all_or_nothing_publishingTwo :
    Succeeds Handlers.publishing ⟨0⟩ ⟨0⟩ [] (publishingTwo (.mapping []))
      (send Handlers.publishing ⟨0⟩ ⟨0⟩ (publishingTwo (.mapping []))) := by
  obtain ⟨made, holds⟩ := made_publishingTwo (.mapping [])
  obtain ⟨either, -⟩ :=
    send_all_or_nothing Handlers.publishing holds made (apart_publishingTwo (.mapping []))
  have stored : (send Handlers.publishing ⟨0⟩ ⟨0⟩ (publishingTwo (.mapping []))).1.toOption.map
      (·.events) = some [⟨0⟩, ⟨1⟩] := by
    decide +kernel
  refine either.resolve_right fun failed => ?_
  rcases failed.1.fails with ⟨halt, halted⟩ | ⟨result, fault, ended, -, -, none⟩
  · rw [halted] at stored
    cases stored
  · rw [ended, Except.toOption, Option.map_some, none] at stored
    cases stored

/-- A payload that is no mapping and cannot be made one keeps both events out of the store,
but the first event is sealed by then, although the receiver does not seal it. -/
theorem send_seals_before_refused :
    let start := publishingTwo (.int 5)
    let outcome := send Handlers.publishing ⟨0⟩ ⟨0⟩ start
    (start.applications.get ⟨0⟩).store.index < start.stores.nextRef.index ∧
    start.stores.get (start.applications.get ⟨0⟩).store = .memory [] ∧
    Apart Handlers.publishing ⟨0⟩ ⟨0⟩ start ∧
    ¬ (Succeeds Handlers.publishing ⟨0⟩ ⟨0⟩ [] start outcome ∨
      StoresNothing Handlers.publishing ⟨0⟩ ⟨0⟩ [] start outcome.2 outcome.1 ∧
        SealsNothing Handlers.publishing ⟨0⟩ ⟨0⟩ start outcome.2) := by
  intro start outcome
  refine ⟨Nat.zero_lt_one, rfl, apart_publishingTwo (.int 5), ?_⟩
  rintro (⟨result, ended, receiver, succeeded, stores⟩ | ⟨-, sealsNothing⟩)
  · have failed : outcome.1.toOption.map (·.isOk) = some false := by
      decide +kernel
    have none : outcome.1.toOption.map (·.failures.length) = some 0 := by
      decide +kernel
    obtain ⟨failures, success⟩ := stores.success
    rw [succeeded, success] at failed none
    cases failures with
    | nil => cases failed
    | cons failure failures => cases none
  · have leaves : Leaves Handlers.publishing ⟨0⟩ ⟨0⟩ start (Act.Same (sealedIn ⟨0⟩)) :=
      leaves_publishing (Aggregate.keeps_publish (fun _ _ => rfl) fun _ _ _ => rfl)
    have same := sealsNothing ⟨0⟩ leaves
    have isSealed : sealedIn ⟨0⟩ outcome.2 = true := by
      decide +kernel
    rw [isSealed] at same
    cases same

end EventSourcing.Application
