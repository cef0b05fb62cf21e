import EventSourcing.Command.Basic
import EventSourcing.Command.Result

/-!
# Applications

An application sends commands through one pipeline: the command is acknowledged,
its receiver found and given its history, the command executed, the events it
published stamped and stored, and every stored event handed to every projection.
A fault before the events are stored ends the pipeline with an error result; a
projection that fails holds nothing up, but its fault is reported.
-/

set_option autoImplicit false

namespace EventSourcing.Application

variable {D : Domain}

def newClock (clock : Clock) : Act D (Ref .clock) :=
  fun system => (.ok system.clocks.nextRef, { system with clocks := system.clocks.push clock })

/-- Advances a clock for all who hold it. One that cannot be advanced shows what it showed. -/
def advanceClock (ref : Ref .clock) (seconds : Datum) : Act D Unit := do
  let clock ← Act.read (·.clocks.get ref)
  let moved ← Act.ofExcept (clock.advance? seconds)
  Act.update fun system => { system with clocks := system.clocks.set ref moved }

def systemClock : Act D (Ref .clock) := do
  newClock { kind := .system, readings := ← Act.read (·.wall) }

def defaultLogger (name : Datum) : String :=
  "ess.app." ++ name.plain

/-- Makes an application without projections. It gets a store in memory, the wall
clock and a logger of its name where none is given. -/
def create (name : Datum) (store : Option (Ref .store)) (clock : Option (Ref .clock))
    (logger : Option String) : Act D (Ref .application) := do
  let store ←
    match store with
    | some store => pure store
    | none => MemoryStore.create
  let clock ←
    match clock with
    | some clock => pure clock
    | none => systemClock
  fun system =>
    let application : Application D :=
      { name, store, clock, logger := logger.getD (defaultLogger name), projections := [] }
    (.ok system.applications.nextRef,
      { system with applications := system.applications.push application })

/-- Registers a projection under a name that no other one of the application has;
`none` stands for something that is no projection. -/
def register (ref : Ref .application) (name : String) (projection : Option D.Projection) :
    Act D Unit := do
  let application ← Act.read (·.applications.get ref)
  match projection with
  | none => Act.throw (.notCallable name)
  | some projection =>
    if (application.projections.lookup name).isSome then
      Act.throw (.duplicateProjection (.text name))
    else do
      Act.update fun system =>
        let known := system.applications.get ref
        let changed := { known with projections := known.projections ++ [(name, projection)] }
        { system with applications := system.applications.set ref changed }
      Act.logRecord application.logger .info s!"Projection registered: {name}"

def projectTo (handlers : Handlers D) (ref : Ref .application) (logger : String)
    (event : Ref .event) (name : String) (projection : D.Projection) :
    Act D (Option ProjectionFailure) := do
  let shown := (← LiveEvent.content event).name.plain
  Act.logRecord logger .info s!"PROJECT {shown} TO {name}"
  Act.noteCall (.project ref name event)
  match ← Act.attempt (handlers.onProject projection event) with
  | .ok () => return none
  | .error fault => do
    let content ← LiveEvent.content event
    let cause ← Act.faultOf fault
    Act.logRecord logger .error
      (s!"Projection failed: {name} for {content.name.plain} " ++
        s!"(stream: {content.streamId.plain}): {cause.message}")
    return some {
      projection := name, eventName := content.name, error := cause.message
      errorType := cause.className, exception := some fault }

def projectEach (handlers : Handlers D) (ref : Ref .application) (logger : String)
    (event : Ref .event) : List (String × D.Projection) → Act D (List ProjectionFailure)
  | [] => pure []
  | (name, projection) :: rest => do
    let failure ← projectTo handlers ref logger event name projection
    return failure.toList ++ (← projectEach handlers ref logger event rest)

/-- Hands an event to every projection that is registered when it begins. -/
def project (handlers : Handlers D) (ref : Ref .application) (event : Ref .event) :
    Act D (List ProjectionFailure) := do
  let application ← Act.read (·.applications.get ref)
  projectEach handlers ref application.logger event application.projections

def projectAll (handlers : Handlers D) (ref : Ref .application) :
    List (Ref .event) → Act D (List ProjectionFailure)
  | [] => pure []
  | event :: events => do
    let failures ← project handlers ref event
    return failures ++ (← projectAll handlers ref events)

def initStep (handlers : Handlers D) (ref : Ref .application) (result : ReplayResult)
    (event : Ref .event) : Act D ReplayResult := do
  let failures ← project handlers ref event
  let registered ← Act.read fun system => (system.applications.get ref).projections.length
  return {
    processed := result.processed + 1
    dispatched := result.dispatched + (registered - failures.length)
    failed := result.failed + failures.length
    failures := result.failures ++ failures }

/-- Rebuilds all projections from the whole history. A history that cannot be read
is a fault. -/
def init (handlers : Handlers D) (ref : Ref .application) : Act D ReplayResult := do
  let application ← Act.read (·.applications.get ref)
  let result ←
    Store.replay handlers application.store Event.allStreams {} (initStep handlers ref)
  Act.logRecord application.logger .info
    (s!"Init complete: {result.processed} event(s) replayed, " ++
      s!"{result.failed} projection failure(s)")
  return result

def rehydrate (handlers : Handlers D) (store : Ref .store) (receiver : Ref .aggregate) :
    Act D Unit := do
  let aggregate ← Act.read (·.aggregates.get receiver)
  Store.replay handlers store aggregate.id ()
    (fun _ event => Aggregate.handleEvent handlers receiver event)

def stampEach (logger : String) (clock : Ref .clock) : List (Ref .event) → Act D Unit :=
  Act.forEach fun event => do
    LiveEvent.occur event clock
    let shown := (← LiveEvent.content event).name.plain
    Act.logRecord logger .info s!"EVENT {shown}"

def commit (handlers : Handlers D) (application : Application D) (events : List (Ref .event)) :
    Act D Unit := do
  stampEach application.logger application.clock events
  Store.append handlers application.store events

def report (handlers : Handlers D) (ref : Ref .application) (command : Ref .command)
    (receiver : Ref .aggregate) (events : List (Ref .event)) : Act D CommandResult := do
  let application ← Act.read (·.applications.get ref)
  let failures ← projectAll handlers ref events
  if !failures.isEmpty then
    let shown ← Command.text command
    Act.logRecord application.logger .warning
      (s!"PROJECTION FAILED {shown}: {failures.length} failure(s), events kept")
  let aggregate ← Act.read (·.aggregates.get receiver)
  return .success aggregate.id events failures

def deliver (handlers : Handlers D) (ref : Ref .application) (command : Ref .command)
    (receiver : Ref .aggregate) : Act D CommandResult := do
  let application ← Act.read (·.applications.get ref)
  match ← Act.attempt (rehydrate handlers application.store receiver) with
  | .error fault => do
    let aggregate ← Act.read (·.aggregates.get receiver)
    let message ← Act.messageOf fault
    Act.logRecord application.logger .error s!"REPLAY FAILED {aggregate.id}: {message}"
    return .failure fault
  | .ok () => do
    let transaction ← MemoryStore.create
    Aggregate.publishWith receiver transaction
    let shown ← Command.text command
    Act.logRecord application.logger .info s!"EXECUTE {shown}"
    match ← Act.attempt (Command.execute handlers command) with
    | .error fault => do
      let message ← Act.messageOf fault
      Act.logRecord application.logger .info s!"DENY {message}"
      return .failure fault
    | .ok () => do
      let events ← MemoryStore.events transaction
      match ← Act.attempt (commit handlers application events) with
      | .error fault => do
        let shown ← Command.text command
        let message ← Act.messageOf fault
        Act.logRecord application.logger .error s!"STORE FAILED {shown}: {message}"
        return .failure fault
      | .ok () => report handlers ref command receiver events

/-- Sends a command. Faults are raised only before a receiver is found; later ones
are answered in the result. -/
def send (handlers : Handlers D) (ref : Ref .application) (command : Ref .command) :
    Act D CommandResult := do
  let application ← Act.read (·.applications.get ref)
  Command.acknowledge command application.clock
  match ← Command.resolveReceiver handlers command with
  | none => Act.throw (.lacksAttribute "NoneType" "id")
  | some receiver => deliver handlers ref command receiver

end EventSourcing.Application
