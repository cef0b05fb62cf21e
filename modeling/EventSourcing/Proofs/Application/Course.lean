import EventSourcing.Proofs.Application.Handling
import EventSourcing.Proofs.Store.Handover

/-!
# The course of a command

Sending a command leads to calls of the domain's code: its factory is asked for the receiver,
and the receiver's script is handed each event of its history and then the command. `Calls`
names these calls with the very systems in which they are made. A property of systems that
holds on after what the application does by itself, and after these calls, holds when the
sender is answered or when the events of the command are about to be stored.
-/

set_option autoImplicit false

namespace EventSourcing

variable {D : Domain}

namespace Aggregate

variable {handlers : Handlers D} {aggregate : Ref .aggregate} {event : Ref .event}
  {command : Ref .command} {system : System D}

/-- The system in which the script of an aggregate is handed an event. -/
def handed (aggregate : Ref .aggregate) (event : Ref .event) (system : System D) : System D :=
  let noted := { system with calls := system.calls.push (.foldEvent aggregate event) }
  (change aggregate (fun known => { known with seen := known.seen ++ [event] }) noted).2

/-- The system in which the script of an aggregate is handed a command. -/
def commanded (aggregate : Ref .aggregate) (command : Ref .command) (system : System D) :
    System D :=
  let noted := { system with calls := system.calls.push (.handleCommand aggregate command) }
  (change aggregate (fun known => { known with handled := known.handled ++ [command] }) noted).2

theorem handleEvent_of_no_script
    (none : ((handed aggregate event system).aggregates.get aggregate).script = Option.none) :
    handleEvent handlers aggregate event system = (.ok (), handed aggregate event system) := by
  simp only [handed, change, Act.update] at none
  simp only [handleEvent, handed, change, bind, Act.bind, Act.noteCall, Act.update, Act.read, none]
  rfl

theorem handleEvent_of_script {script : D.Script}
    (known : ((handed aggregate event system).aggregates.get aggregate).script = some script) :
    handleEvent handlers aggregate event system =
      handlers.onEvent script aggregate event (handed aggregate event system) := by
  simp only [handed, change, Act.update] at known
  simp only [handleEvent, handed, change, bind, Act.bind, Act.noteCall, Act.update, Act.read,
    known]

theorem handleCommand_of_no_script
    (none : ((commanded aggregate command system).aggregates.get aggregate).script =
      Option.none) :
    handleCommand handlers aggregate command system =
      (.ok (), commanded aggregate command system) := by
  simp only [commanded, change, Act.update] at none
  simp only [handleCommand, commanded, change, bind, Act.bind, Act.noteCall, Act.update, Act.read,
    none]
  rfl

theorem handleCommand_of_script {script : D.Script}
    (known : ((commanded aggregate command system).aggregates.get aggregate).script =
      some script) :
    handleCommand handlers aggregate command system =
      handlers.onCommand script aggregate command (commanded aggregate command system) := by
  simp only [commanded, change, Act.update] at known
  simp only [handleCommand, commanded, change, bind, Act.bind, Act.noteCall, Act.update, Act.read,
    known]

end Aggregate

namespace Command

variable {handlers : Handlers D} {command : Ref .command} {system : System D}

def recordedErrors (system : System D) (command : Ref .command) : FieldErrors :=
  Validation.errorsOf (system.faults.get (system.commands.get command).errors)

theorem execute_of_accepted (accepted : (recordedErrors system command).isEmpty = true) :
    execute handlers command system =
      (resolveReceiver handlers command >>= fun receiver =>
        match receiver with
        | some aggregate => Aggregate.handleCommand handlers aggregate command
        | none => Act.throw (.lacksAttribute "NoneType" "handle_command")) system := by
  exact congrFun (if_pos accepted) system

/-- A command with errors is not handed over: its errors are raised. -/
theorem execute_of_refused (handlers : Handlers D)
    (refused : (recordedErrors system command).isEmpty = false) :
    ∃ message, execute handlers command system =
      (.error (.raised (system.commands.get command).errors),
        { system with log := system.log.push ⟨logger, .debug, message⟩ }) := by
  let shown := textIn system command
  let recorded := (recordedErrors system command).text
  refine ⟨s!"Not delivering {shown}: {recorded}", ?_⟩
  show (if (recordedErrors system command).isEmpty then _ else _ : Act D Unit) system = _
  rw [if_neg (by simp [refused])]
  rfl

end Command

namespace Application

/-! ## The stages of a command -/

section Stages

variable (handlers : Handlers D) (ref : Ref .application) (command : Ref .command)

/-- The command is acknowledged and its receiver found. -/
def Finds (start : System D) (receiver : Ref .aggregate) (found : System D) : Prop :=
  ∃ acknowledged,
    Command.acknowledge command (start.applications.get ref).clock start =
      (.ok (), acknowledged) ∧
    Command.resolveReceiver handlers command acknowledged = (.ok (some receiver), found)

/-- The system in which a receiver is about to handle a command: it publishes to a new
store. -/
def opened (logger : String) (command : Ref .command) (receiver : Ref .aggregate)
    (system : System D) : System D :=
  let bound := (Aggregate.publishWith receiver system.stores.nextRef
    { system with stores := system.stores.push (.memory []) }).2
  { bound with log := bound.log.push ⟨logger, .info, s!"EXECUTE {Command.textIn bound command}"⟩ }

/-- The receiver has its history, and the command is about to be executed. -/
structure Opens (receiver : Ref .aggregate) (found rehydrated about : System D) : Prop where
  rehydrates : rehydrate handlers (found.applications.get ref).store receiver found =
    (.ok (), rehydrated)
  opens : about = opened (found.applications.get ref).logger command receiver rehydrated

/-- The command is executed, and the events are those that its receiver published by then. -/
def Executes (receiver : Ref .aggregate) (found ended : System D)
    (published : List (Ref .event)) : Prop :=
  ∃ rehydrated about, Opens handlers ref command receiver found rehydrated about ∧
    Command.execute handlers command about = (.ok (), ended) ∧
    MemoryStore.eventsIn ended rehydrated.stores.nextRef = published

/-- The command has no errors and is handed to the aggregate that is known for it by then. -/
def Accepts (receiver : Ref .aggregate) (found : System D) (aggregate : Ref .aggregate)
    (given : System D) : Prop :=
  ∃ rehydrated about, Opens handlers ref command receiver found rehydrated about ∧
    (Command.recordedErrors about command).isEmpty = true ∧
    Command.resolveReceiver handlers command about = (.ok (some aggregate), given)

/-- A call of the domain's code between finding the receiver of a command and storing its
events. An aggregate that is no longer known for the command is asked for again. -/
inductive Serves (receiver : Ref .aggregate) (found : System D) : System D → System D → Prop
  | onEvent {given : System D} {event : Ref .event} {handed : List (System D × Ref .event)}
      {script : D.Script} :
      Store.Replayed (found.stores.get (found.applications.get ref).store)
        (found.aggregates.get receiver).id
        (fun _ event => Aggregate.handleEvent handlers receiver event) () found handed
        (rehydrate handlers (found.applications.get ref).store receiver found) →
      (given, event) ∈ handed →
      ((Aggregate.handed receiver event given).aggregates.get receiver).script = some script →
      Serves receiver found (Aggregate.handed receiver event given)
        (handlers.onEvent script receiver event (Aggregate.handed receiver event given)).2
  | construct {rehydrated about : System D} {factory : D.Factory} :
      Opens handlers ref command receiver found rehydrated about →
      (Command.recordedErrors about command).isEmpty = true →
      (about.commands.get command).receiver = none →
      (about.commands.get command).factory = some factory →
      Serves receiver found about (handlers.construct factory command about).2
  | onCommand {given : System D} {aggregate : Ref .aggregate} {script : D.Script} :
      Accepts handlers ref command receiver found aggregate given →
      ((Aggregate.commanded aggregate command given).aggregates.get aggregate).script =
        some script →
      Serves receiver found (Aggregate.commanded aggregate command given)
        (handlers.onCommand script aggregate command
          (Aggregate.commanded aggregate command given)).2

/-- A call of the domain's code that a command leads to before its events are stored. -/
inductive Calls (start : System D) : System D → System D → Prop
  | construct {acknowledged : System D} {factory : D.Factory} :
      Command.acknowledge command (start.applications.get ref).clock start =
        (.ok (), acknowledged) →
      (acknowledged.commands.get command).receiver = none →
      (acknowledged.commands.get command).factory = some factory →
      Calls start acknowledged (handlers.construct factory command acknowledged).2
  | serves {receiver : Ref .aggregate} {found before after : System D} :
      Finds handlers ref command start receiver found →
      Serves handlers ref command receiver found before after →
      Calls start before after

/-- The last step of a command: its events are stamped, stored and reported. -/
def conclude (application : Application D) (receiver : Ref .aggregate)
    (events : List (Ref .event)) : Act D CommandResult := do
  match ← Act.attempt (commit handlers application events) with
  | .error fault => do
    let shown ← Command.text command
    let message ← Act.messageOf fault
    Act.logRecord application.logger .error s!"STORE FAILED {shown}: {message}"
    return .failure fault
  | .ok () => report handlers ref command receiver events

end Stages

section Unique

variable {handlers : Handlers D} {ref : Ref .application} {command : Ref .command}
  {receiver other : Ref .aggregate} {start found again : System D}

/-- A command has one receiver, found in one way. -/
theorem Finds.unique (finds : Finds handlers ref command start receiver found)
    (findsAgain : Finds handlers ref command start other again) :
    receiver = other ∧ found = again := by
  obtain ⟨acknowledged, acknowledges, resolves⟩ := finds
  obtain ⟨_, acknowledgesAgain, resolvesAgain⟩ := findsAgain
  cases acknowledges.symm.trans acknowledgesAgain
  cases resolves.symm.trans resolvesAgain
  exact ⟨rfl, rfl⟩

theorem Opens.unique {rehydrated about rehydratedAgain aboutAgain : System D}
    (opens : Opens handlers ref command receiver found rehydrated about)
    (opensAgain : Opens handlers ref command receiver found rehydratedAgain aboutAgain) :
    rehydrated = rehydratedAgain ∧ about = aboutAgain := by
  obtain ⟨rehydrates, rfl⟩ := opens
  obtain ⟨rehydratesAgain, rfl⟩ := opensAgain
  cases rehydrates.symm.trans rehydratesAgain
  exact ⟨rfl, rfl⟩

theorem Executes.unique {ended endedAgain : System D} {published publishedAgain : List (Ref .event)}
    (executes : Executes handlers ref command receiver found ended published)
    (executesAgain : Executes handlers ref command receiver found endedAgain publishedAgain) :
    ended = endedAgain ∧ published = publishedAgain := by
  obtain ⟨rehydrated, about, opens, ran, rfl⟩ := executes
  obtain ⟨_, _, opensAgain, ranAgain, rfl⟩ := executesAgain
  obtain ⟨rfl, rfl⟩ := opens.unique opensAgain
  cases ran.symm.trans ranAgain
  exact ⟨rfl, rfl⟩

end Unique

section Concluding

variable {handlers : Handlers D} {ref : Ref .application} {command : Ref .command}
  {application : Application D} {receiver : Ref .aggregate} {events : List (Ref .event)}
  {ended after : System D}

theorem conclude_of_stored (ran : commit handlers application events ended = (.ok (), after)) :
    conclude handlers ref command application receiver events ended =
      report handlers ref command receiver events after := by
  rw [conclude, Act.bind_of_ok (Act.attempt_of_ok ran)]

theorem conclude_of_raised {fault : Ref .fault}
    (ran : commit handlers application events ended = (.error (.raised fault), after)) :
    ∃ message, conclude handlers ref command application receiver events ended =
      (.ok (.failure fault),
        { after with log := after.log.push ⟨application.logger, .error, message⟩ }) := by
  rw [conclude, Act.bind_of_ok (Act.attempt_of_raised ran)]
  exact ⟨_, rfl⟩

theorem conclude_of_error {halt : Halt} {motive : Except Halt CommandResult × System D → Prop}
    (ran : commit handlers application events ended = (.error halt, after))
    (halted : ∀ halt, motive (.error halt, after))
    (failed : ∀ fault message, motive (.ok (.failure fault),
      { after with log := after.log.push ⟨application.logger, .error, message⟩ })) :
    motive (conclude handlers ref command application receiver events ended) := by
  rw [conclude]
  exact Act.bind_attempt_of_error ran halted fun fault => failed fault _

end Concluding

/-! ## What lasts -/

/-- A property of systems that holds on, from the system in which the receiver of a command is
found, after what the application does by itself and after the calls that it makes. -/
structure Lasts (handlers : Handlers D) (ref : Ref .application) (command : Ref .command)
    (receiver : Ref .aggregate) (found : System D) (moves : System D → System D → Prop)
    (holds : System D → Prop) : Prop where
  native : ∀ description,
    found.stores.get (found.applications.get ref).store ≠ .foreign description
  moved : ∀ before after, holds before → moves before after → holds after
  offered : ∀ {before event given},
    Store.Offers (found.stores.get (found.applications.get ref).store) before event given →
    moves before given
  served : ∀ before after, holds before →
    Serves handlers ref command receiver found before after → holds after

/-- How the delivery of a command ends: with a fault, or with the last step for the events
that were published. -/
inductive Delivers (handlers : Handlers D) (ref : Ref .application) (command : Ref .command)
    (receiver : Ref .aggregate) (found : System D) (holds : System D → Prop) :
    Except Halt CommandResult × System D → Prop
  | halts {halt : Halt} {after : System D} : holds after →
      Delivers handlers ref command receiver found holds (.error halt, after)
  | fails {fault : Ref .fault} {after : System D} : holds after →
      Delivers handlers ref command receiver found holds (.ok (.failure fault), after)
  | commits {ended : System D} {events : List (Ref .event)} :
      Executes handlers ref command receiver found ended events → holds ended →
      Delivers handlers ref command receiver found holds
        (conclude handlers ref command (found.applications.get ref) receiver events ended)

section Lasting

variable {handlers : Handlers D} {ref : Ref .application} {command : Ref .command}
  {receiver : Ref .aggregate} {start found rehydrated about : System D}
  {moves : System D → System D → Prop} [Discreet moves] {holds : System D → Prop}

theorem moves_handed (aggregate : Ref .aggregate) (event : Ref .event) (system : System D) :
    moves system (Aggregate.handed aggregate event system) := by
  have noted : Act.Keeps moves (Act.noteCall (.foldEvent aggregate event)) :=
    Discreet.noteCall _ fun _ => rfl
  have handed : Act.Keeps moves (Aggregate.change (D := D) aggregate fun known =>
      { known with seen := known.seen ++ [event] }) :=
    Discreet.changeAggregate aggregate _ (fun _ => rfl) (fun _ => rfl) fun _ => rfl
  exact Act.Frame.trans (noted system) (handed _)

theorem moves_commanded (aggregate : Ref .aggregate) (command : Ref .command)
    (system : System D) : moves system (Aggregate.commanded aggregate command system) := by
  have noted : Act.Keeps moves (Act.noteCall (.handleCommand aggregate command)) :=
    Discreet.noteCall _ fun _ => rfl
  have handed : Act.Keeps moves (Aggregate.change (D := D) aggregate fun known =>
      { known with handled := known.handled ++ [command] }) :=
    Discreet.changeAggregate aggregate _ (fun _ => rfl) (fun _ => rfl) fun _ => rfl
  exact Act.Frame.trans (noted system) (handed _)

theorem moves_opened (logger : String) (command : Ref .command) (receiver : Ref .aggregate)
    (system : System D) : moves system (opened logger command receiver system) :=
  Act.Frame.trans (Discreet.publishWith receiver system) (Discreet.logRecord _ _ _ _)

/-- Asking for a receiver keeps what the call of the factory keeps. -/
theorem holds_resolveReceiver {system : System D}
    (moved : ∀ before after, holds before → moves before after → holds after)
    (asked : ∀ factory, (system.commands.get command).receiver = none →
      (system.commands.get command).factory = some factory →
      holds (handlers.construct factory command system).2)
    (known : holds system) : holds (Command.resolveReceiver handlers command system).2 := by
  cases receiver : (system.commands.get command).receiver with
  | some aggregate =>
    rw [Command.resolveReceiver_of_receiver receiver]
    exact known
  | none =>
    cases factory : (system.commands.get command).factory with
    | none =>
      rw [Command.resolveReceiver_of_no_factory receiver factory]
      exact moved _ _ known (Discreet.newFault _ _)
    | some made =>
      rw [Command.resolveReceiver_of_factory receiver factory]
      have called := asked made receiver factory
      rcases ran : handlers.construct made command system with ⟨halt | aggregate, after⟩
      · rw [Act.bind_of_error ran]
        rwa [ran] at called
      · rw [Act.bind_of_ok ran]
        rw [ran] at called
        have kept : Act.Keeps moves (Command.change (D := D) command fun known =>
            { known with receiver := aggregate }) := Discreet.changeCommand command _ fun _ => rfl
        exact moved _ _ called (kept after)

/-- What covers the moves of an aggregate that is handed an event, and the call that they lead
to, relates the systems before and after. -/
theorem handleEvent_relates {relation : System D → System D → Prop} [Act.Frame relation]
    (handed : ∀ event system, relation system (Aggregate.handed receiver event system))
    (served : ∀ before after, Serves handlers ref command receiver found before after →
      relation before after)
    {pairs : List (System D × Ref .event)}
    (replayed : Store.Replayed (found.stores.get (found.applications.get ref).store)
      (found.aggregates.get receiver).id
      (fun _ event => Aggregate.handleEvent handlers receiver event) () found pairs
      (rehydrate handlers (found.applications.get ref).store receiver found))
    {pair : System D × Ref .event} (member : pair ∈ pairs) :
    relation pair.1 (Aggregate.handleEvent handlers receiver pair.2 pair.1).2 := by
  obtain ⟨given, event⟩ := pair
  cases script : ((Aggregate.handed receiver event given).aggregates.get receiver).script with
  | none =>
    rw [Aggregate.handleEvent_of_no_script script]
    exact handed event given
  | some description =>
    rw [Aggregate.handleEvent_of_script script]
    exact Act.Frame.trans (handed event given) (served _ _ (.onEvent replayed member script))

/-- What covers the steps of a replay and the calls that it leads to relates the systems before
and after a receiver is given its history. -/
theorem rehydrate_relates {relation : System D → System D → Prop} [Act.Frame relation]
    (native : ∀ description,
      found.stores.get (found.applications.get ref).store ≠ .foreign description)
    (offered : ∀ {before event given},
      Store.Offers (found.stores.get (found.applications.get ref).store) before event given →
      relation before given)
    (handed : ∀ event system, relation system (Aggregate.handed receiver event system))
    (making : ∀ fault, Act.Keeps relation (Act.newFault fault))
    (served : ∀ before after, Serves handlers ref command receiver found before after →
      relation before after) :
    relation found (rehydrate handlers (found.applications.get ref).store receiver found).2 := by
  obtain ⟨pairs, replayed⟩ := Store.replay_replayed handlers native
    (found.aggregates.get receiver).id ()
    fun _ event => Aggregate.handleEvent handlers receiver event
  exact (replayed.hands.relates offered
    (fun pair member _ => handleEvent_relates handed served replayed member) making).1

namespace Lasts

private theorem making (lasts : Lasts handlers ref command receiver found moves holds)
    (fault : Fault) : Act.Keeps (Act.Along holds) (Act.newFault fault) :=
  fun system known => lasts.moved _ _ known (Discreet.newFault fault system)

private theorem handed (lasts : Lasts handlers ref command receiver found moves holds)
    (event : Ref .event) (system : System D) :
    Act.Along holds system (Aggregate.handed receiver event system) :=
  fun known => lasts.moved _ _ known (moves_handed receiver event system)

omit [Discreet moves] in
private theorem along (lasts : Lasts handlers ref command receiver found moves holds)
    (before after : System D)
    (serves : Serves handlers ref command receiver found before after) :
    Act.Along holds before after :=
  fun known => lasts.served _ _ known serves

theorem rehydrate (lasts : Lasts handlers ref command receiver found moves holds)
    (known : holds found) :
    holds (rehydrate handlers (found.applications.get ref).store receiver found).2 := by
  have offered {before given : System D} {event : Ref .event}
      (offers : Store.Offers (found.stores.get (found.applications.get ref).store) before event
        given) : Act.Along holds before given :=
    fun known => lasts.moved _ _ known (lasts.offered offers)
  exact rehydrate_relates lasts.native offered lasts.handed lasts.making lasts.along known

theorem opens (lasts : Lasts handlers ref command receiver found moves holds)
    (known : holds found)
    (opens : Opens handlers ref command receiver found rehydrated about) : holds about := by
  have rehydrates := lasts.rehydrate known
  rw [opens.rehydrates] at rehydrates
  rw [opens.opens]
  exact lasts.moved _ _ rehydrates (moves_opened _ _ _ _)

theorem resolves (lasts : Lasts handlers ref command receiver found moves holds)
    (known : holds found) (opens : Opens handlers ref command receiver found rehydrated about)
    (accepted : (Command.recordedErrors about command).isEmpty = true) :
    holds (Command.resolveReceiver handlers command about).2 := by
  have knownAbout := lasts.opens known opens
  have asked (factory : D.Factory) (none : (about.commands.get command).receiver = Option.none)
      (made : (about.commands.get command).factory = some factory) :
      holds (handlers.construct factory command about).2 :=
    lasts.served _ _ knownAbout (.construct opens accepted none made)
  exact holds_resolveReceiver lasts.moved asked knownAbout

theorem accepts (lasts : Lasts handlers ref command receiver found moves holds)
    (known : holds found) {aggregate : Ref .aggregate} {given : System D}
    (accepts : Accepts handlers ref command receiver found aggregate given) : holds given := by
  obtain ⟨rehydrated, about, opens, accepted, resolved⟩ := accepts
  have resolves := lasts.resolves known opens accepted
  rwa [resolved] at resolves

/-- What lasts holds of every system in which the domain's code is called. -/
theorem serves (lasts : Lasts handlers ref command receiver found moves holds)
    (known : holds found) {before after : System D}
    (serves : Serves handlers ref command receiver found before after) : holds before := by
  cases serves with
  | @onEvent given event handed script replayed member _ =>
    have offered {before given : System D} {event : Ref .event}
        (offers : Store.Offers (found.stores.get (found.applications.get ref).store) before event
          given) : Act.Along holds before given :=
      fun known => lasts.moved _ _ known (lasts.offered offers)
    have called (pair : System D × Ref .event) (member : pair ∈ handed) (_ : Unit) :
        Act.Along holds pair.1 (Aggregate.handleEvent handlers receiver pair.2 pair.1).2 :=
      handleEvent_relates lasts.handed lasts.along replayed member
    have related := replayed.hands.relates offered called lasts.making
    exact lasts.moved _ _ ((related.2 _ member).1 known) (moves_handed receiver event given)
  | construct opens _ _ _ => exact lasts.opens known opens
  | onCommand accepts _ =>
    exact lasts.moved _ _ (lasts.accepts known accepts) (moves_commanded _ command _)

theorem execute (lasts : Lasts handlers ref command receiver found moves holds)
    (known : holds found)
    (opens : Opens handlers ref command receiver found rehydrated about) :
    holds (Command.execute handlers command about).2 := by
  have knownAbout := lasts.opens known opens
  cases accepted : (Command.recordedErrors about command).isEmpty with
  | false =>
    obtain ⟨message, refused⟩ := Command.execute_of_refused handlers accepted
    rw [refused]
    exact lasts.moved _ _ knownAbout (Discreet.logRecord Command.logger .debug message about)
  | true =>
    rw [Command.execute_of_accepted accepted]
    have resolves := lasts.resolves known opens accepted
    rcases resolved : Command.resolveReceiver handlers command about with
      ⟨halt | aggregate, system⟩
    · rw [Act.bind_of_error resolved]
      rwa [resolved] at resolves
    rw [resolved] at resolves
    rw [Act.bind_of_ok resolved]
    cases aggregate with
    | none => exact lasts.moved _ _ resolves (Discreet.newFault _ _)
    | some aggregate =>
      have accepts : Accepts handlers ref command receiver found aggregate system :=
        ⟨rehydrated, about, opens, accepted, resolved⟩
      have knownCommanded : holds (Aggregate.commanded aggregate command system) :=
        lasts.moved _ _ resolves (moves_commanded aggregate command system)
      show holds (Aggregate.handleCommand handlers aggregate command system).2
      cases script : ((Aggregate.commanded aggregate command system).aggregates.get
          aggregate).script with
      | none =>
        rw [Aggregate.handleCommand_of_no_script script]
        exact knownCommanded
      | some description =>
        rw [Aggregate.handleCommand_of_script script]
        exact lasts.served _ _ knownCommanded (.onCommand accepts script)

theorem deliver (lasts : Lasts handlers ref command receiver found moves holds)
    (known : holds found) :
    Delivers handlers ref command receiver found holds
      (deliver handlers ref command receiver found) := by
  have noted {system : System D} (logger : String) (level : Level) (message : String)
      (known : holds system) :
      holds { system with log := system.log.push ⟨logger, level, message⟩ } :=
    lasts.moved _ _ known (Discreet.logRecord logger level message system)
  have rehydrates := lasts.rehydrate known
  rw [Application.deliver, Act.bind_of_ok (Act.read_run _ _)]
  rcases ran : Application.rehydrate handlers (found.applications.get ref).store receiver found
    with ⟨halt | _, rehydrated⟩
  · rw [ran] at rehydrates
    refine Act.bind_attempt_of_error ran (fun halt => .halts rehydrates) fun fault => ?_
    exact .fails (noted _ _ _ rehydrates)
  rw [ran] at rehydrates
  let about := opened (found.applications.get ref).logger command receiver rehydrated
  have opens : Opens handlers ref command receiver found rehydrated about := ⟨ran, rfl⟩
  have executes := lasts.execute known opens
  rw [Act.bind_of_ok (Act.attempt_of_ok ran)]
  show Delivers handlers ref command receiver found holds
    ((Act.attempt (Command.execute handlers command) >>= _) about)
  rcases handled : Command.execute handlers command about with ⟨halt | _, ended⟩
  · rw [handled] at executes
    refine Act.bind_attempt_of_error handled (fun halt => .halts executes) fun fault => ?_
    exact .fails (noted _ _ _ executes)
  · rw [handled] at executes
    rw [Act.bind_of_ok (Act.attempt_of_ok handled)]
    exact .commits ⟨rehydrated, about, opens, handled, rfl⟩ executes

end Lasts

theorem Finds.lasts (finds : Finds handlers ref command start receiver found)
    (moved : ∀ before after, holds before → moves before after → holds after)
    (asked : ∀ {acknowledged factory},
      Command.acknowledge command (start.applications.get ref).clock start =
        (.ok (), acknowledged) →
      (acknowledged.commands.get command).receiver = none →
      (acknowledged.commands.get command).factory = some factory → holds acknowledged →
      holds (handlers.construct factory command acknowledged).2)
    (known : holds start) : holds found := by
  obtain ⟨acknowledged, acknowledges, resolves⟩ := finds
  have reached : holds acknowledged := by
    have acknowledged : holds _ :=
      moved _ _ known (keeps_acknowledge command (start.applications.get ref).clock start)
    rwa [acknowledges] at acknowledged
  have resolved := holds_resolveReceiver moved
    (fun factory none made => asked acknowledges none made reached) reached
  rwa [resolves] at resolved

/-- Sending a command ends before it has a receiver, or goes on with its delivery. -/
theorem send_cases
    (moved : ∀ before after, holds before → moves before after → holds after)
    (asked : ∀ {acknowledged factory},
      Command.acknowledge command (start.applications.get ref).clock start =
        (.ok (), acknowledged) →
      (acknowledged.commands.get command).receiver = none →
      (acknowledged.commands.get command).factory = some factory → holds acknowledged →
      holds (handlers.construct factory command acknowledged).2)
    (known : holds start) :
    (∃ halt after, send handlers ref command start = (.error halt, after) ∧ holds after) ∨
    ∃ receiver found, Finds handlers ref command start receiver found ∧ holds found ∧
      send handlers ref command start = deliver handlers ref command receiver found := by
  have acknowledges : holds _ :=
    moved _ _ known (keeps_acknowledge command (start.applications.get ref).clock start)
  rw [send, Act.bind_of_ok (Act.read_run _ _)]
  rcases ran : Command.acknowledge command (start.applications.get ref).clock start with
    ⟨halt | _, acknowledged⟩
  · rw [ran] at acknowledges
    rw [Act.bind_of_error ran]
    exact .inl ⟨halt, acknowledged, rfl, acknowledges⟩
  rw [ran] at acknowledges
  rw [Act.bind_of_ok ran]
  have resolves := holds_resolveReceiver moved
    (fun factory none made => asked ran none made acknowledges) acknowledges
  rcases resolved : Command.resolveReceiver handlers command acknowledged with
    ⟨halt | receiver, found⟩
  · rw [resolved] at resolves
    rw [Act.bind_of_error resolved]
    exact .inl ⟨halt, found, rfl, resolves⟩
  rw [resolved] at resolves
  rw [Act.bind_of_ok resolved]
  cases receiver with
  | none => exact .inl ⟨_, _, rfl, moved _ _ resolves (Discreet.newFault _ _)⟩
  | some receiver => exact .inr ⟨receiver, found, ⟨acknowledged, ran, resolved⟩, resolves, rfl⟩

end Lasting

/-! ## Where the command is handed over -/

section Handing

variable {handlers : Handlers D} {ref : Ref .application} {command : Ref .command}
  {receiver : Ref .aggregate} {start found rehydrated about : System D}
  {onCommand : D.Script → Ref .aggregate → Ref .command → Act D Unit}

/-- The other code differs in what scripts do with commands, and does the same with a command
wherever it is accepted. -/
def AgreeWhereAccepted (handlers : Handlers D)
    (onCommand : D.Script → Ref .aggregate → Ref .command → Act D Unit) (ref : Ref .application)
    (command : Ref .command) (receiver : Ref .aggregate) (found : System D) : Prop :=
  ∀ aggregate given, Accepts handlers ref command receiver found aggregate given →
    Aggregate.handleCommand { handlers with onCommand } aggregate command given =
      Aggregate.handleCommand handlers aggregate command given

private theorem projectEach_onCommand (logger : String) (event : Ref .event)
    (projections : List (String × D.Projection)) :
    projectEach { handlers with onCommand } ref logger event projections =
      projectEach handlers ref logger event projections := by
  induction projections with
  | nil => rfl
  | cons projection rest ih =>
    rw [projectEach, ih]
    rfl

private theorem report_onCommand (events : List (Ref .event)) :
    report { handlers with onCommand } ref command receiver events =
      report handlers ref command receiver events := by
  have projects : projectAll { handlers with onCommand } ref events =
      projectAll handlers ref events := by
    induction events with
    | nil => rfl
    | cons event events ih =>
      simp only [projectAll, project, projectEach_onCommand, ih]
  rw [report, projects]
  rfl

private theorem execute_of_agrees
    (agrees : AgreeWhereAccepted handlers onCommand ref command receiver found)
    (opens : Opens handlers ref command receiver found rehydrated about) :
    Command.execute { handlers with onCommand } command about =
      Command.execute handlers command about := by
  cases accepted : (Command.recordedErrors about command).isEmpty with
  | false =>
    have refused : ¬ (Command.recordedErrors about command).isEmpty = true := by simp [accepted]
    exact (congrFun (if_neg refused) about).trans (congrFun (if_neg refused) about).symm
  | true =>
    rw [Command.execute_of_accepted accepted, Command.execute_of_accepted accepted]
    have asks : Command.resolveReceiver { handlers with onCommand } command about =
        Command.resolveReceiver handlers command about := rfl
    rcases resolved : Command.resolveReceiver handlers command about with
      ⟨halt | aggregate, given⟩
    · rw [Act.bind_of_error resolved, Act.bind_of_error (asks.trans resolved)]
    · rw [Act.bind_of_ok resolved, Act.bind_of_ok (asks.trans resolved)]
      cases aggregate with
      | none => rfl
      | some aggregate =>
        exact agrees aggregate given ⟨rehydrated, about, opens, accepted, resolved⟩

private theorem deliver_of_agrees
    (agrees : AgreeWhereAccepted handlers onCommand ref command receiver found) :
    deliver { handlers with onCommand } ref command receiver found =
      deliver handlers ref command receiver found := by
  have replays : rehydrate { handlers with onCommand } (found.applications.get ref).store receiver =
      rehydrate handlers (found.applications.get ref).store receiver := rfl
  rw [deliver, deliver, Act.bind_of_ok (Act.read_run _ _), Act.bind_of_ok (Act.read_run _ _),
    replays]
  rcases ran : rehydrate handlers (found.applications.get ref).store receiver found with
    ⟨halt | _, rehydrated⟩
  · cases halt <;> simp only [bind, Act.bind, Act.attempt, ran]
  · rw [Act.bind_of_ok (Act.attempt_of_ok ran), Act.bind_of_ok (Act.attempt_of_ok ran)]
    have opens : Opens handlers ref command receiver found rehydrated
        (opened (found.applications.get ref).logger command receiver rehydrated) := ⟨ran, rfl⟩
    have executes := execute_of_agrees agrees opens
    show (Act.attempt (Command.execute { handlers with onCommand } command) >>= _)
        (opened (found.applications.get ref).logger command receiver rehydrated) =
      (Act.attempt (Command.execute handlers command) >>= _)
        (opened (found.applications.get ref).logger command receiver rehydrated)
    simp only [bind, Act.bind, Act.attempt, executes, report_onCommand]
    rfl

/-- Sending a command hands it over nowhere but where its receiver is found and it is accepted:
other code that does the same with the command there makes no difference to what is sent. -/
theorem send_eq_of_agrees
    (agrees : ∀ receiver found, Finds handlers ref command start receiver found →
      AgreeWhereAccepted handlers onCommand ref command receiver found) :
    send { handlers with onCommand } ref command start = send handlers ref command start := by
  have asks : Command.resolveReceiver { handlers with onCommand } command =
      Command.resolveReceiver handlers command := rfl
  rw [send, send, Act.bind_of_ok (Act.read_run _ _), Act.bind_of_ok (Act.read_run _ _), asks]
  rcases ran : Command.acknowledge command (start.applications.get ref).clock start with
    ⟨halt | _, acknowledged⟩
  · rw [Act.bind_of_error ran, Act.bind_of_error ran]
  rw [Act.bind_of_ok ran, Act.bind_of_ok ran]
  rcases resolved : Command.resolveReceiver handlers command acknowledged with
    ⟨halt | receiver, found⟩
  · rw [Act.bind_of_error resolved, Act.bind_of_error resolved]
  rw [Act.bind_of_ok resolved, Act.bind_of_ok resolved]
  cases receiver with
  | none => rfl
  | some receiver =>
    exact deliver_of_agrees (agrees receiver found ⟨acknowledged, ran, resolved⟩)

end Handing

end Application

end EventSourcing
