import EventSourcing.Testing.Template

/-!
# Running scripts

What the scripts of tests do, as handlers of the scripted domain. A script that
sends a command runs the whole pipeline again; `handlers depth` allows for `depth`
commands inside one another.
-/

set_option autoImplicit false

namespace EventSourcing.Testing

/-- Gives an object a name; the object that had it loses it. -/
def bind (name : String) (binding : Binding) : ScriptAct Unit :=
  updateSession fun known => { known with bindings := putNamed name binding known.bindings }

def lookup? (name : String) : ScriptAct (Option Binding) := do
  return (← session).bindings.lookup name

/-- The fault that a cause stands for by now. -/
def Cause.fault : Cause → ScriptAct (Ref .fault)
  | .made fault => do Act.newFault (← Act.ofExcept fault)
  | .named name => Act.faultNamed name
  | .kept fault => pure fault

def Cause.raise {Result : Type} (cause : Cause) : ScriptAct Result :=
  Act.raise cause.raised

def openList (name : String) : ScriptAct Unit :=
  updateSession fun known =>
    if (known.lists.lookup name).isSome then known
    else { known with lists := known.lists ++ [(name, [])] }

def note (name : String) (value : Datum) : ScriptAct Unit := do
  openList name
  updateSession fun known =>
    let notes := (known.lists.lookup name).getD []
    { known with lists := putNamed name (notes ++ [value]) known.lists }

def identity (event : Ref .event) : ScriptAct Datum := do
  LiveEvent.requirePart event "name"
  let content ← LiveEvent.content event
  return .list [content.name, content.streamId]

def isNamed (event : Ref .event) (name : Option String) : ScriptAct Bool := do
  match name with
  | none => return true
  | some wanted => do
    LiveEvent.requirePart event "name"
    return (← LiveEvent.content event).name.same (.text wanted)

def fieldText (command : Ref .command) (field : String) : ScriptAct String := do
  match ← Command.parameter? command field with
  | some parameter => Act.read fun system => (system.parameters.get parameter).shown
  | none => return Datum.null.literal

def withSome {Value : Type} (value : Option Value) (act : Value → ScriptAct Unit) :
    ScriptAct Unit :=
  match value with
  | some value => act value
  | none => pure ()

def newEvent (aggregate : Ref .aggregate) (name : Datum) (payload : List (Datum × Datum)) :
    ScriptAct (Ref .event) := do
  let event ← LiveEvent.create { name := ← instantiate name }
  let known ← Act.read (·.aggregates.get aggregate)
  LiveEvent.forStream event (.text known.id)
  Act.forEach
    (fun entry => do LiveEvent.add event (← instantiate entry.1) (← instantiate entry.2)) payload
  return event

/-- Makes an aggregate with a script. The fault that it raises after every command is
one and the same. -/
def newAggregate (id : String) (script : Script) : ScriptAct (Ref .aggregate) := do
  match script.commandFault with
  | none => Aggregate.create id (some script)
  | some cause => do
    let fault ← cause.fault
    Aggregate.create id (some { script with commandFault := some (.kept fault) })

def missingFields (command : Ref .command) : List String → ScriptAct FieldErrors
  | [] => pure []
  | field :: fields => do
    let text ← fieldText command field
    let rest ← missingFields command fields
    return if text.isEmpty then (field, [Parameter.emptyCode]) :: rest else rest

/-- Sends a named command to a named application and keeps the result. -/
def sendNamed (handlers : Handlers scripted) (application command : String)
    (result : Option String) : ScriptAct Unit := do
  match ← lookup? application, ← lookup? command with
  | some (.application application), some (.command command) => do
    let outcome ← Application.send handlers application command
    withSome result fun name => bind name (.result outcome)
  | some (.application _), _ => Act.halt (.unbound command)
  | _, _ => Act.halt (.unbound application)

def runStep (handlers : Handlers scripted) (aggregate : Ref .aggregate)
    (command : Ref .command) : ScriptStep → ScriptAct Unit
  | .publish name payload streamId id => do
    let event ← newEvent aggregate name payload
    withSome streamId fun value => do LiveEvent.assign event (.streamId (← instantiate value))
    withSome id fun value => do LiveEvent.assign event (.id (← instantiate value))
    Aggregate.publish aggregate event
  | .publishEvent name => do
    match ← lookup? name with
    | some (.event event) => Aggregate.publish aggregate event
    | _ => Act.halt (.unbound name)
  | .publishField name field => do
    let text ← fieldText command field
    Aggregate.publish aggregate (← newEvent aggregate name [(.text field, .text text)])
  | .publishSeen name => do
    let known ← Act.read (·.aggregates.get aggregate)
    let count : Datum := .int known.seen.length
    Aggregate.publish aggregate (← newEvent aggregate name [(.text "seen", count)])
  | .require fields => do
    let missing ← missingFields command fields
    if missing.isEmpty then pure ()
    else
      Act.throw (.validation
        (missing.foldl (fun errors entry => errors.extend entry.1 entry.2) []))
  | .raise fault => fault.raise
  | .send application other result => sendNamed handlers application other result

def runScript (handlers : Handlers scripted) (script : Script) (aggregate : Ref .aggregate)
    (command : Ref .command) : ScriptAct Unit := do
  Act.forEach (runStep handlers aggregate command) script.steps
  withSome script.commandFault Cause.raise

def seeEvent (script : Script) (event : Ref .event) : ScriptAct Unit :=
  withSome script.eventFault fun (name, fault) => do
    if ← isNamed event name then fault.raise

def construct (factory : Factory) (command : Ref .command) :
    ScriptAct (Option (Ref .aggregate)) := do
  let shown ← Command.text command
  updateSession fun known => { known with factoryCalls := known.factoryCalls ++ [shown] }
  match factory with
  | .named name => do
    match ← lookup? name with
    | some (.aggregate aggregate) => return some aggregate
    | _ => Act.halt (.unbound name)
  | .ofCommand script => return some (← newAggregate (← Command.aggregateId command) script)
  | .ofField field script => return some (← newAggregate (← fieldText command field) script)
  | .raise fault => fault.raise
  | .nothing => return none

def runProjection (handlers : Handlers scripted) (projection : Projection)
    (event : Ref .event) : ScriptAct Unit := do
  match projection with
  | .record list => note list (← identity event)
  | .fail fault name list => do
    if ← isNamed event name then fault.raise
    else withSome list fun list => do note list (← identity event)
  | .add name value => do LiveEvent.add event (← instantiate name) (← instantiate value)
  | .put name value => do
    let value ← instantiate value
    LiveEvent.put event [] (← instantiate name) value
  | .register application name list other => do
    withSome list openList
    Application.register application name other
  | .send name application command result => do
    if ← isNamed event (some name) then sendNamed handlers application command result

def stubEvents (store : StubStore) : ScriptAct (List (Ref .event)) := do
  return (← session).stubs.getD store.place []

def setStubEvents (store : StubStore) (events : List (Ref .event)) : ScriptAct Unit :=
  updateSession fun known => { known with stubs := known.stubs.set store.place events }

/-- Appends events to a store for tests, as far as its fault allows. -/
def storeInStub (store : StubStore) (events : List (Ref .event)) : ScriptAct Unit := do
  match store.fault with
  | .storing fault => fault.raise
  | fault => do
    Act.forEach LiveEvent.sealEvent events
    let held ← stubEvents store
    match fault with
    | .forget => setStubEvents store events
    | .double => setStubEvents store (held ++ if events.isEmpty then held else events)
    | _ => setStubEvents store (held ++ events)

def stubMatches (fault : StoreFault) (content : Event) (streamId : AnyText) : Bool :=
  match fault with
  | .leak => true
  | .beginning =>
    content.matchesStream streamId ||
      (content.streamId.text?.any fun text => streamId.points.isPrefixOf text.points)
  | _ => content.matchesStream streamId

def replayStub {State : Type} (store : StubStore) (streamId : AnyText) (state : State)
    (step : State → Ref .event → ScriptAct State) : ScriptAct State := do
  let held ← stubEvents store
  match store.fault with
  | .replaying fault => fault.raise
  | .silent => return state
  | fault =>
    let ordered :=
      match fault with
      | .reverse => held.reverse
      | _ => held
    Act.fold
      (fun state event => do
        let content ← LiveEvent.content event
        if stubMatches fault content streamId then step state event else return state)
      state ordered

/-- What is done with every event of a replay: it may raise a fault for events of a
given name, and may store an event again. -/
structure ReplayHandler where
  failure : Option (String × Cause) := none
  again : Option (Ref .event) := none

/-- Hands one event of a replay over; it is noted unless its name raises a fault. -/
def handleReplayed (handlers : Handlers scripted) (store : Ref .store) (handler : ReplayHandler)
    (event : Ref .event) : ScriptAct Unit := do
  withSome handler.failure fun (name, fault) => do
    if ← isNamed event (some name) then fault.raise
  updateSession fun known => { known with replayed := known.replayed ++ [event] }
  withSome handler.again fun stored => Store.append handlers store [stored]

def replayTo (handlers : Handlers scripted) (store : Ref .store) (streamId : AnyText)
    (handler : ReplayHandler) : ScriptAct Unit := do
  updateSession fun known => { known with replayed := [] }
  Store.replay handlers store streamId () fun _ event =>
    handleReplayed handlers store handler event

def newStub (fault : StoreFault) : ScriptAct (Ref .store) := do
  let place := (← session).stubs.length
  updateSession fun known => { known with stubs := known.stubs ++ [[]] }
  Store.createForeign { place, fault }

/-- What scripts do, with at most `depth` commands inside one another. A command deeper
inside fails. -/
def handlers : Nat → Handlers scripted
  | 0 =>
    { construct := fun _ _ => Act.throw .tooDeep
      onEvent := fun _ _ _ => Act.throw .tooDeep
      onCommand := fun _ _ _ => Act.throw .tooDeep
      onProject := fun _ _ => Act.throw .tooDeep
      storeForeign := fun _ _ => Act.throw .tooDeep
      replayForeign := fun _ _ _ _ => Act.throw .tooDeep }
  | depth + 1 =>
    { construct
      onEvent := fun script _ event => seeEvent script event
      onCommand := runScript (handlers depth)
      onProject := runProjection (handlers depth)
      storeForeign := storeInStub
      replayForeign := replayStub }

def maxDepth : Nat := 150

def sessionHandlers : Handlers scripted :=
  handlers maxDepth

end EventSourcing.Testing
