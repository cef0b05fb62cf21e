import EventSourcing.Proofs.Application.Runs

/-!
# Code that sends further commands

A domain whose aggregates publish events and send commands to the application that they are
handled by, which leads to commands inside one another. Over a store in memory, where every
event can be sealed, whatever such code does is a run of commands, to any depth.
-/

set_option autoImplicit false

namespace EventSourcing

/-- What an aggregate does for a command, one step after another. -/
inductive Relay where
  | publish (event : Ref .event)
  | send (command : Ref .command)
deriving DecidableEq

/-- A domain whose aggregates publish events that exist already and send commands, and whose
projections do nothing or raise a fault. Receivers are named by the command. -/
def Domain.relaying : Domain :=
  { State := Unit, Factory := Ref .aggregate, Script := List Relay
    Projection := Option Fault, Store := Empty, faultNamed := fun _ _ => none }

/-- One step of an aggregate. -/
def Relay.run (send : Ref .command → Act Domain.relaying CommandResult)
    (aggregate : Ref .aggregate) : Relay → Act Domain.relaying Unit
  | .publish event => Aggregate.publish aggregate event
  | .send command => do
    let _ ← send command

def Handlers.relayingBy (send : Ref .command → Act Domain.relaying CommandResult) :
    Handlers Domain.relaying where
  construct factory _ := pure (some factory)
  onEvent _ _ _ := pure ()
  onCommand script aggregate _ := Act.forEach (Relay.run send aggregate) script
  onProject projection _ :=
    match projection with
    | none => pure ()
    | some fault => Act.throw fault
  storeForeign := nofun
  replayForeign := nofun

/-- Code that sends commands to an application, so many inside one another at most. -/
def Handlers.relaying (ref : Ref .application) : Nat → Handlers Domain.relaying
  | 0 => relayingBy fun _ => Act.halt .exhausted
  | depth + 1 => relayingBy (Application.send (relaying ref depth) ref)

namespace Application

open LiveEvent (Closable)

section Relaying

variable {ref : Ref .application} {store : Ref .store}
  {send : Ref .command → Act Domain.relaying CommandResult}
  {start before after : System Domain.relaying}

theorem observes_relaying {relation : System Domain.relaying → System Domain.relaying → Prop}
    [Act.Frame relation] (making : ∀ fault, Act.Keeps relation (Act.newFault fault))
    (other : Ref .application) : Observes (Handlers.relayingBy send) other start relation := by
  constructor
  · intro before after _ call
    cases call with
    | @onProject name projection event _ =>
      cases projection with
      | none => exact Act.keeps_pure () before
      | some fault => exact Act.keeps_throw making fault before
  · intro system name projection event halt _ _ raised
    cases projection with
    | none => cases raised
    | some fault =>
      cases raised
      exact ⟨_, rfl⟩

/-- The application has a store in memory to which no aggregate publishes, and every event can
be sealed. -/
structure Ready (ref : Ref .application) (store : Ref .store) (system : System Domain.relaying) :
    Prop where
  same : (system.applications.get ref).store = store
  unbound : Unbound ref system
  memory : ∃ held, system.stores.get store = .memory held
  closable : ∀ event, Closable system event

private theorem Ready.aside (ready : Ready ref store before) (aside : Aside ref before after) :
    Ready ref store after := by
  obtain ⟨rfl, unbound, ⟨held, holds⟩, closable⟩ := ready
  refine ⟨aside.spares.store, (aside.shuns unbound).1, ⟨held, ?_⟩, fun event => ?_⟩
  · rw [aside.kept _ unbound.made, holds]
  · exact (closable_iff_of_restamped (aside.events event) aside.mappings).mpr (closable event)

/-- The application stays ready, and what is done is a run of commands. -/
abbrev Relays (ref : Ref .application) (store : Ref .store) :
    System Domain.relaying → System Domain.relaying → Prop :=
  Act.Under (Ready ref store) (Live ref)

/-- An aggregate that publishes elsewhere leaves the application and its log alone. -/
theorem quiet_publish (unbound : Unbound ref start) (aggregate : Ref .aggregate)
    (event : Ref .event) : Quiet ref start (Aggregate.publish aggregate event start).2 := by
  have same : Act.Keeps (Act.Same fun system : System Domain.relaying =>
      (system.applications, system.events, system.files, system.calls))
      (Aggregate.publish aggregate event) :=
    Aggregate.keeps_publish (fun _ _ => rfl) (fun _ _ _ => rfl) aggregate event
  have same := same start
  rw [Act.Same, Prod.mk.injEq, Prod.mk.injEq, Prod.mk.injEq] at same
  obtain ⟨applications, events, files, calls⟩ := same
  obtain ⟨-, spares⟩ := shuns_publish ref aggregate event start unbound
  refine ⟨⟨spares, by rw [applications], fun _ path clock disk => ?_⟩, ?_⟩
  · rw [disk]
    refine ⟨fun octets there => ?_, LiveEvent.keepsClosed_of_events events⟩
    rw [files]
    exact there
  · show projectionCalls ref _ = projectionCalls ref start
    rw [projectionCalls, calls]
    rfl

private theorem relays_publish (aggregate : Ref .aggregate) (event : Ref .event) :
    Act.Keeps (Relays ref store) (Aggregate.publish aggregate event) := by
  intro system ready
  have same : Act.Keeps (Act.Same fun system : System Domain.relaying =>
      (system.events, system.mappings)) (Aggregate.publish aggregate event) :=
    Aggregate.keeps_publish (fun _ _ => rfl) (fun _ _ _ => rfl) aggregate event
  have same := same system
  rw [Act.Same, Prod.mk.injEq] at same
  obtain ⟨events, mappings⟩ := same
  have quiet := quiet_publish ready.unbound aggregate event
  obtain ⟨rfl, unbound, ⟨held, holds⟩, closable⟩ := ready
  obtain ⟨unboundAfter, spares⟩ := shuns_publish ref aggregate event system unbound
  refine ⟨⟨spares.store, unboundAfter, ⟨held, ?_⟩, fun other => ?_⟩, .quiet quiet⟩
  · rw [spares.held unbound.made, holds]
  · refine (closable_iff_of_restamped ?_ mappings).mpr (closable other)
    rw [events]
    rfl

/-- Events are stored, since every event can be sealed. -/
private theorem Ready.append (handlers : Handlers Domain.relaying)
    (ready : Ready ref store before) (events : List (Ref .event)) :
    ∃ stored, Store.append handlers store events before = (.ok (), stored) ∧
      Ready ref store stored := by
  obtain ⟨rfl, unbound, ⟨held, holds⟩, closable⟩ := ready
  obtain ⟨known, appended, only, -, -⟩ :=
    MemoryStore.append_of_closable handlers holds fun event (_ : event ∈ events) => closable event
  have made := Nat.lt_of_lt_of_le unbound.made (Table.nextRef_le_set before.stores
    (before.applications.get ref).store (.memory (MemoryStore.eventsIn before
      (before.applications.get ref).store ++ events)))
  refine ⟨_, appended, rfl, ⟨made, unbound.publisher⟩,
    ⟨_, MemoryStore.get_storing holds events known⟩, fun event => ?_⟩
  have closableAfter := only.closable (closable event)
  exact ⟨closableAfter.closes, closableAfter.present, closableAfter.entries⟩

private theorem Ready.noted (ready : Ready ref store before) (log : Array LogRecord)
    (calls : Array Call) : Ready ref store { before with log, calls } where
  same := ready.same
  unbound := ⟨ready.unbound.made, ready.unbound.publisher⟩
  memory := ready.memory
  closable event :=
    let closable := ready.closable event
    ⟨closable.closes, closable.present, closable.entries⟩

private theorem Ready.reported (ready : Ready ref store before) (command : Ref .command)
    (receiver : Ref .aggregate) (events : List (Ref .event)) :
    Ready ref store (report (Handlers.relayingBy send) ref command receiver events before).2 := by
  let relation := Act.Both (Spares ref) (Act.Along (Ready ref store))
  have making (fault : Fault) : Act.Keeps relation (Act.newFault fault) := by
    intro system
    have aside := aside_newFault ref fault system
    exact ⟨aside.spares, fun known => known.aside aside⟩
  have notes (system : System Domain.relaying) (log : Array LogRecord) (calls : Array Call) :
      relation system { system with log, calls } :=
    ⟨(Steady.noted ref system log calls).spares, fun known => known.noted log calls⟩
  obtain ⟨failures, after, ran, -, keeps⟩ :=
    (observes_relaying making ref).report_run (fun related => related.1) notes command receiver
      events
  rw [ran]
  exact keeps ready

/-- What publishing keeps, and sending further commands, is kept by every call. -/
private theorem serves_keeps {relation : System Domain.relaying → System Domain.relaying → Prop}
    [Act.Frame relation] {command : Ref .command} {receiver : Ref .aggregate}
    {found : System Domain.relaying}
    (publishes : ∀ aggregate event, Act.Keeps relation (Aggregate.publish aggregate event))
    (sends : ∀ command, Act.Keeps relation (send command))
    (serves : Serves (Handlers.relayingBy send) ref command receiver found before after) :
    relation before after := by
  cases serves with
  | onEvent => exact Act.Frame.refl _
  | construct => exact Act.Frame.refl _
  | @onCommand given aggregate script _ _ =>
    have each (relay : Relay) : Act.Keeps relation (relay.run send aggregate) := by
      cases relay with
      | publish event => exact publishes aggregate event
      | send command => exact (sends command).bind fun _ => Act.keeps_pure ()
    exact Act.keeps_forEach (fun relay _ => each relay) _

private theorem ready_persists (sends : ∀ command, Act.Keeps (Relays ref store) (send command))
    (command : Ref .command) :
    Persists (Handlers.relayingBy send) ref command start (Aside ref) (Ready ref store) where
  native ready description foreign := by
    obtain ⟨rfl, -, ⟨held, holds⟩, -⟩ := ready
    rw [holds] at foreign
    cases foreign
  moved _ _ := Ready.aside
  offered ready before event given offers := by
    obtain ⟨rfl, -, ⟨held, holds⟩, -⟩ := ready
    rw [holds] at offers
    rw [show given = before from offers]
    exact Aside.refl ref before
  calls before after call ready := by
    cases call with
    | construct => exact ready
    | serves _ serves => exact (serves_keeps relays_publish sends serves ready).1
  stored {receiver _ _ events _} _ _ _ found ready := by
    obtain ⟨stored, appended, readyStored⟩ := ready.append (Handlers.relayingBy send) events
    rw [found.same]
    exact ⟨stored, appended, readyStored.reported command receiver events⟩

private theorem Ready.stamped {command : Ref .command} {receiver : Ref .aggregate}
    {found ended stamped : System Domain.relaying} {events : List (Ref .event)}
    (ready : Ready ref store found)
    (lasts : Lasts (Handlers.relayingBy send) ref command receiver found (Aside ref)
      (Ready ref store))
    (executes : Executes (Handlers.relayingBy send) ref command receiver found ended events)
    (ran : stampEach (found.applications.get ref).logger (found.applications.get ref).clock events
      ended = (.ok (), stamped)) : Ready ref store stamped := by
  obtain ⟨rehydrated, about, opens, executed, -⟩ := executes
  have readyEnded := lasts.execute ready opens
  rw [executed] at readyEnded
  have aside : Aside ref ended _ := keeps_stampEach (found.applications.get ref).logger
    (found.applications.get ref).clock events ended
  rw [ran] at aside
  exact readyEnded.aside aside

/-- Sending a command is a run if the sending of further commands is. -/
private theorem relays_send (sends : ∀ command, Act.Keeps (Relays ref store) (send command))
    (command : Ref .command) :
    Act.Keeps (Relays ref store) (Application.send (Handlers.relayingBy send) ref command) := by
  intro start ready
  have persists : Persists (Handlers.relayingBy send) ref command start (Aside ref)
      (Ready ref store) :=
    ready_persists sends command
  refine ⟨persists.send ready, .send (fun before after call => ?_) ?_⟩
  · cases call with
    | construct => exact Act.Frame.refl _
    | serves finds serves =>
      have found := persists.holds_found finds ready
      have reached := (persists.lasts finds found).serves found serves
      exact (serves_keeps relays_publish sends serves reached).2
  · intro receiver found ended events stamped finds executes ran
    have known := persists.holds_found finds ready
    have readyStamped := known.stamped (persists.lasts finds known) executes ran
    obtain ⟨stored, appended, -⟩ := readyStamped.append (Handlers.relayingBy send) events
    rw [known.same]
    refine ⟨fun path clock disk => ?_, stored, appended, observes_relaying (quiet_newFault ref) ref⟩
    obtain ⟨held, holds⟩ := readyStamped.memory
    rw [holds] at disk
    cases disk

/-- However many commands may be sent inside one another, sending a command is a run. -/
theorem relays_relaying (depth : Nat) (command : Ref .command) :
    Act.Keeps (Relays ref store) (Application.send (Handlers.relaying ref depth) ref command) := by
  induction depth generalizing command with
  | zero => exact relays_send (fun _ => Act.keeps_halt .exhausted) command
  | succ depth ih => exact relays_send ih command

/-- Over any store, a command that sends no others is a run if what it publishes is stored. -/
theorem live_of_storesAll {command : Ref .command} (unbound : Unbound ref start)
    (native : ∀ description,
      start.stores.get (start.applications.get ref).store ≠ .foreign description)
    (stores : StoresAll (Handlers.relaying ref 0) ref command start) :
    Live ref start (Application.send (Handlers.relaying ref 0) ref command start).2 := by
  let publishes :=
    Act.Both (Shuns (D := Domain.relaying) ref) (Act.Under (Unbound ref) (Live ref))
  have served {receiver : Ref .aggregate} {found before after : System Domain.relaying}
      (serves : Serves (Handlers.relaying ref 0) ref command receiver found before after) :
      publishes before after := by
    refine serves_keeps (fun aggregate event system => ?_) (fun _ => Act.keeps_halt .exhausted)
      serves
    have shuns := shuns_publish ref aggregate event system
    exact ⟨shuns, fun unbound =>
      ⟨(shuns unbound).1, .quiet (quiet_publish unbound aggregate event)⟩⟩
  refine .send (fun before after call => ?_) stores
  cases call with
  | construct => exact Act.Frame.refl _
  | serves finds serves =>
    have reached := serves.unbound finds unbound native (fun _ => Act.keeps_pure _)
      fun serves => (served serves).1
    exact ((served serves).2 reached).2

end Relaying

end Application

end EventSourcing
