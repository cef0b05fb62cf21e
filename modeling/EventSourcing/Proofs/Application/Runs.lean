import EventSourcing.Proofs.Application.Committing
import EventSourcing.Proofs.Application.Publishing
import EventSourcing.Proofs.Application.Rebuilding

/-!
# Projections that are kept up to date

An application that was rebuilt hands every event that it stores to its projections, also the
events of commands that are sent while another one is handled. By then each projection has
received the events that the log lists, in the same order, and so has a projection of another
application that is rebuilt from the log.
-/

set_option autoImplicit false

namespace EventSourcing.Application

open LiveEvent (contentIn)

variable {D : Domain}

/-! ## Runs of commands -/

/-- If a command comes to store events, they are stored without a fault, on disk only such as a
line gives back, and the projections that receive them leave the application alone. -/
def StoresAll (handlers : Handlers D) (ref : Ref .application) (command : Ref .command)
    (start : System D) : Prop :=
  ∀ {receiver found ended events stamped}, Finds handlers ref command start receiver found →
    Executes handlers ref command receiver found ended events →
    stampEach (found.applications.get ref).logger (found.applications.get ref).clock events ended =
      (.ok (), stamped) →
    (∀ path clock, stamped.stores.get (found.applications.get ref).store = .disk path clock →
      ∀ event ∈ events, (contentIn stamped event).Lossless) ∧
    ∃ stored, Store.append handlers (found.applications.get ref).store events stamped =
        (.ok (), stored) ∧
      Observes handlers ref stored (Quiet ref)

/-- A run in which an application is sent commands. What the code of the domain does for a
command is such a run again: it may send further commands, and otherwise leaves the application
alone. Commands may fail, but not because events cannot be stored. -/
inductive Live (ref : Ref .application) : System D → System D → Prop
  | quiet {before after : System D} : Quiet ref before after → Live ref before after
  | trans {before middle after : System D} :
      Live ref before middle → Live ref middle after → Live ref before after
  | send {handlers : Handlers D} {command : Ref .command} {start : System D} :
      (∀ before after, Calls handlers ref command start before after → Live ref before after) →
      StoresAll handlers ref command start →
      Live ref start (send handlers ref command start).2

instance (ref : Ref .application) : Act.Frame (Live (D := D) ref) where
  refl system := .quiet (Act.Frame.refl system)
  trans := .trans

/-! ## What persists -/

/-- A property of systems that holds on while a command is sent: after what the application does
by itself, after the calls that it makes, and once events are stored and reported. -/
structure Persists (handlers : Handlers D) (ref : Ref .application) (command : Ref .command)
    (start : System D) (moves : System D → System D → Prop) (holds : System D → Prop) : Prop where
  native : ∀ {system}, holds system → ∀ description,
    system.stores.get (system.applications.get ref).store ≠ .foreign description
  moved : ∀ before after, holds before → moves before after → holds after
  offered : ∀ {system}, holds system → ∀ {before event given},
    Store.Offers (system.stores.get (system.applications.get ref).store) before event given →
    moves before given
  calls : ∀ before after, Calls handlers ref command start before after →
    holds before → holds after
  stored : ∀ {receiver found ended events stamped},
    Finds handlers ref command start receiver found →
    Executes handlers ref command receiver found ended events →
    stampEach (found.applications.get ref).logger (found.applications.get ref).clock events ended =
      (.ok (), stamped) →
    holds found → holds stamped →
    ∃ stored, Store.append handlers (found.applications.get ref).store events stamped =
        (.ok (), stored) ∧ holds (report handlers ref command receiver events stored).2

section Persisting

variable {handlers : Handlers D} {ref : Ref .application} {command : Ref .command}
  {start found ended : System D} {receiver : Ref .aggregate}
  {moves : System D → System D → Prop} [Discreet moves] {holds : System D → Prop}

omit [Discreet moves] in
theorem Persists.lasts (persists : Persists handlers ref command start moves holds)
    (finds : Finds handlers ref command start receiver found) (known : holds found) :
    Lasts handlers ref command receiver found moves holds where
  native := persists.native known
  moved := persists.moved
  offered := persists.offered known
  served before after held serves := persists.calls before after (.serves finds serves) held

omit [Discreet moves] in
private theorem Persists.asked (persists : Persists handlers ref command start moves holds)
    {acknowledged : System D} {factory : D.Factory}
    (acknowledges : Command.acknowledge command (start.applications.get ref).clock start =
      (.ok (), acknowledged))
    (none : (acknowledged.commands.get command).receiver = Option.none)
    (made : (acknowledged.commands.get command).factory = some factory)
    (known : holds acknowledged) : holds (handlers.construct factory command acknowledged).2 :=
  persists.calls _ _ (.construct acknowledges none made) known

theorem Persists.holds_found (persists : Persists handlers ref command start moves holds)
    (finds : Finds handlers ref command start receiver found) (known : holds start) :
    holds found :=
  finds.lasts persists.moved persists.asked known

private theorem Persists.concluded (persists : Persists handlers ref command start moves holds)
    {events : List (Ref .event)} (finds : Finds handlers ref command start receiver found)
    (executes : Executes handlers ref command receiver found ended events)
    (knownFound : holds found) (known : holds ended) :
    holds (conclude handlers ref command (found.applications.get ref) receiver events ended).2 := by
  let application := found.applications.get ref
  have stamping : holds _ := persists.moved _ _ known
    (keeps_stampEach application.logger application.clock events ended)
  rcases ran : stampEach application.logger application.clock events ended with
    ⟨halt | _, stamped⟩
  · rw [ran] at stamping
    have committed : commit handlers application events ended = (.error halt, stamped) :=
      Act.bind_of_error ran
    let Holds (outcome : Except Halt CommandResult × System D) : Prop := holds outcome.2
    have concluded : Holds (conclude handlers ref command application receiver events ended) :=
      conclude_of_error committed (fun halt => stamping)
        fun fault message => persists.moved _ _ stamping (Discreet.logRecord _ _ _ _)
    exact concluded
  · rw [ran] at stamping
    obtain ⟨stored, appended, reported⟩ := persists.stored finds executes ran knownFound stamping
    have committed : commit handlers application events ended = (.ok (), stored) :=
      (Act.bind_of_ok ran).trans appended
    rw [conclude_of_stored committed]
    exact reported

/-- What persists holds whenever and however the sending of a command ends. -/
theorem Persists.send (persists : Persists handlers ref command start moves holds)
    (known : holds start) : holds (send handlers ref command start).2 := by
  rcases send_cases persists.moved persists.asked known with
    ⟨halt, after, sent, known⟩ | ⟨receiver, found, finds, known, sent⟩
  · rw [sent]
    exact known
  have delivers := (persists.lasts finds known).deliver known
  rw [sent]
  generalize deliver handlers ref command receiver found = outcome at delivers
  cases delivers with
  | halts known => exact known
  | fails known => exact known
  | commits executes knownEnded => exact persists.concluded finds executes known knownEnded

end Persisting

/-! ## What projections have received -/

/-- The application has a store and projections, and each of these has received the events that
the store lists. -/
structure Fed (ref : Ref .application) (store : Ref .store)
    (entries : List (String × D.Projection)) (system : System D) : Prop where
  same : (system.applications.get ref).store = store
  made : store.index < system.stores.nextRef.index
  projections : (system.applications.get ref).projections = entries
  upToDate : ∃ events, Store.Lists system events (system.stores.get store) ∧
    ∀ name ∈ entries.map Prod.fst, received ref name system = events

section Feeding

variable {handlers : Handlers D} {ref : Ref .application} {command : Ref .command}
  {store : Ref .store} {entries : List (String × D.Projection)}
  {start found ended before after : System D}

/-- Projections that had received what the store listed have received what it lists once they
were handed the events that were added. -/
private theorem fed_of_handed {old new : List (Ref .event)}
    (distinct : (entries.map Prod.fst).Nodup)
    (same : (before.applications.get ref).store = store)
    (made : store.index < before.stores.nextRef.index)
    (projections : (before.applications.get ref).projections = entries)
    (steady : Steady ref before after)
    (lists : Store.Lists after (old ++ new) (before.stores.get store))
    (known : ∀ name ∈ entries.map Prod.fst, received ref name before = old)
    (calls : projectionCalls ref after =
      projectionCalls ref before ++ new.flatMap (handings ref entries)) :
    Fed ref store entries after := by
  subst same
  refine ⟨steady.spares.store, steady.spares.made made, steady.projections.trans projections,
    old ++ new, ?_, fun name member => ?_⟩
  · rw [steady.spares.held made]
    exact lists
  · rw [received, calls, List.filterMap_append, filterMap_flatMap_handings new distinct member]
    exact congrArg (· ++ new) (known name member)

theorem Fed.quiet (fed : Fed ref store entries before) (quiet : Quiet ref before after) :
    Fed ref store entries after := by
  obtain ⟨rfl, made, projections, events, lists, received⟩ := fed
  obtain ⟨steady, same⟩ := quiet
  refine ⟨steady.spares.store, steady.spares.made made, steady.projections.trans projections,
    events, ?_, fun name member => ?_⟩
  · rw [steady.spares.held made]
    exact lists.stays (steady.logged made)
  · rw [← received name member]
    exact congrArg (List.filterMap (Call.eventFor name)) same

private theorem Fed.moves (before after : System D) (fed : Fed ref store entries before)
    (moves : Moves before after) : Fed ref store entries after :=
  fed.quiet (moves.quiet ref)

/-- The events that were stored are handed to every projection. -/
private theorem Fed.reported {receiver : Ref .aggregate} {events : List (Ref .event)}
    {stamped : System D} (distinct : (entries.map Prod.fst).Nodup)
    (stores : StoresAll handlers ref command start)
    (finds : Finds handlers ref command start receiver found)
    (executes : Executes handlers ref command receiver found ended events)
    (ran : stampEach (found.applications.get ref).logger (found.applications.get ref).clock events
      ended = (.ok (), stamped))
    (fedFound : Fed ref store entries found) (fed : Fed ref store entries stamped) :
    ∃ stored, Store.append handlers (found.applications.get ref).store events stamped =
        (.ok (), stored) ∧
      Fed ref store entries (report handlers ref command receiver events stored).2 := by
  obtain ⟨lossless, stored, appended, observes⟩ := stores finds executes ran
  refine ⟨stored, appended, ?_⟩
  have stamps := stampEach_eq_ok ran
  have unsealed (event : Ref .event) (member : event ∈ events) :
      (stamped.events.get event).isSealed = false := by
    rw [stamps.isSealed_eq]
    exact stamps.unsealed event member
  obtain ⟨same, made, projections, old, lists, known⟩ := fed
  rw [fedFound.same] at lossless appended
  have added := lists.append unsealed lossless appended
  obtain ⟨result, after, reported, steady, calls⟩ := report_hands observes command receiver events
  have madeStored := Nat.lt_of_lt_of_le made added.made
  rw [← added.applications] at same projections
  have listsAfter : Store.Lists after (old ++ events) (stored.stores.get store) := by
    have stays := steady.logged (same ▸ madeStored)
    rw [same] at stays
    exact added.lists.stays stays
  have unhanded (name : String) : received ref name stored = received ref name stamped :=
    congrArg (List.filterMap (Call.eventFor name)) (projectionCalls_push rfl added.calls)
  rw [reported]
  refine fed_of_handed distinct same madeStored projections steady listsAfter ?_ ?_
  · exact fun name member => (unhanded name).trans (known name member)
  · rw [calls, projections]

/-- Sending a command keeps projections up to date if the calls of the domain's code do. -/
private theorem Fed.persists (distinct : (entries.map Prod.fst).Nodup)
    (calls : ∀ before after, Calls handlers ref command start before after →
      Fed ref store entries before → Fed ref store entries after)
    (stores : StoresAll handlers ref command start) :
    Persists handlers ref command start Moves (Fed ref store entries) where
  native fed := by
    obtain ⟨same, -, -, events, lists, -⟩ := fed
    rw [same]
    exact lists.native
  moved := Fed.moves
  offered _ := Moves.of_offers
  calls before after call known := calls before after call known
  stored := Fed.reported distinct stores

/-- A run keeps projections up to date, however deep commands are sent inside one another. -/
theorem Live.fed (live : Live ref before after) (distinct : (entries.map Prod.fst).Nodup)
    (fed : Fed ref store entries before) : Fed ref store entries after := by
  induction live with
  | quiet quiet => exact fed.quiet quiet
  | trans _ _ first second => exact second (first fed)
  | send _ stores calls => exact (Fed.persists distinct calls stores).send fed

/-- Projections are up to date once an application was rebuilt. -/
theorem fed_of_init (made : (start.applications.get ref).store.index < start.stores.nextRef.index)
    (readable : Store.Readable start (start.stores.get (start.applications.get ref).store))
    (unhanded : projectionCalls ref start = [])
    (distinct : ((start.applications.get ref).projections.map Prod.fst).Nodup)
    (observes : Observes handlers ref start (Quiet ref)) :
    ∃ result after, init handlers ref start = (.ok result, after) ∧ Steady ref start after ∧
      Fed ref (start.applications.get ref).store (start.applications.get ref).projections
        after := by
  obtain ⟨result, after, events, ran, steady, lists, calls⟩ := init_run made readable observes
  have nothing (name : String) : received ref name start = [] := by
    rw [received, unhanded]
    rfl
  have all : Store.Lists after ([] ++ events)
      (start.stores.get (start.applications.get ref).store) := lists
  exact ⟨result, after, ran, steady, fed_of_handed distinct rfl made rfl steady all
    (fun name _ => nothing name) calls⟩

end Feeding

end EventSourcing.Application
