import EventSourcing.Clock
import EventSourcing.Event.Basic
import EventSourcing.Files.Tree
import EventSourcing.Parameter

/-!
# A running system

The live objects of a running system and the actions on it. What a domain brings
of its own, such as the code behind aggregates and projections, is left open:
`Domain` names the types of its descriptions, and `Handlers` says what they do.
An action may change the system and ends with a value, with a fault, because the
code it runs did not come to an end within the bounds it was given, or because it asks
for an object by a name that none has.
-/

set_option autoImplicit false

namespace EventSourcing

/-- What a domain brings: a state of its own, descriptions of the factories,
aggregates, projections and stores it has code for, and names of faults. -/
structure Domain where
  State : Type
  Factory : Type
  Script : Type
  Projection : Type
  Store : Type
  faultNamed : State → String → Option (Ref .fault)

/-- The data of a live event: a mapping that its holders may still change, or a
value of its own, such as the entries it had when the event was sealed. -/
inductive Payload where
  | live (mapping : Ref .mapping)
  | own (value : Datum)
deriving Inhabited

inductive Builder where
  | forStream
  | add
  | occur
  | persist
  | close
deriving DecidableEq, Repr

/-- An event as a live object. The seal is a value, and the event is sealed unless that
is void. A builder that is replaced by a value is gone, and so is a part that was left
out when all parts were assigned at once. -/
structure LiveEvent where
  name : Datum
  streamId : Datum
  id : Datum
  occurredOn : Datum
  persistedAt : Datum
  payload : Payload
  sealing : Datum := .bool false
  replaced : List (Builder × Datum) := []
  lacking : List String := []
deriving Inhabited

def LiveEvent.isSealed (event : LiveEvent) : Bool :=
  !event.sealing.isVoid

/-- The name and parameters of a kind of command, with a prototype for every
parameter, and the factory of the aggregates that receive it. -/
structure Definition (D : Domain) where
  name : String
  fields : List (String × Ref .parameter)
  idField : String
  factory : Option D.Factory

instance {D : Domain} : Inhabited (Definition D) := ⟨⟨"", [], "", none⟩⟩

structure Command (D : Domain) where
  name : String
  fields : List (String × Ref .parameter)
  idField : String
  errors : Ref .fault
  factory : Option D.Factory
  receiver : Option (Ref .aggregate)
  hasImplicitId : Bool

instance {D : Domain} : Inhabited (Command D) := ⟨⟨"", [], "", default, none, none, false⟩⟩

/-- A receiver of commands: its id, where it publishes, and what it has been
handed. -/
structure Aggregate (D : Domain) where
  id : String
  publisher : Option (Ref .store)
  seen : List (Ref .event)
  handled : List (Ref .command)
  script : Option D.Script

instance {D : Domain} : Inhabited (Aggregate D) := ⟨⟨"", none, [], [], none⟩⟩

/-- A log of events: in memory, in a file, or of a kind that the domain brings. -/
inductive Store (D : Domain) where
  | memory (events : List (Ref .event))
  | disk (path : Path) (clock : Ref .clock)
  | foreign (store : D.Store)

instance {D : Domain} : Inhabited (Store D) := ⟨.memory []⟩

structure Application (D : Domain) where
  name : Datum
  store : Ref .store
  clock : Ref .clock
  logger : String
  projections : List (String × D.Projection)

instance {D : Domain} : Inhabited (Application D) := ⟨⟨.null, default, default, "", []⟩⟩

inductive Level where
  | debug
  | info
  | warning
  | error
deriving DecidableEq, Repr

def Level.name : Level → String
  | .debug => "DEBUG"
  | .info => "INFO"
  | .warning => "WARNING"
  | .error => "ERROR"

structure LogRecord where
  logger : String
  level : Level
  message : String
deriving DecidableEq, Repr

/-- A call of the domain's code, or of a store on behalf of a command. -/
inductive Call where
  | foldEvent (aggregate : Ref .aggregate) (event : Ref .event)
  | handleCommand (aggregate : Ref .aggregate) (command : Ref .command)
  | project (application : Ref .application) (projection : String) (event : Ref .event)
  | storeEvents (store : Ref .store) (events : List (Ref .event))
deriving DecidableEq, Repr

/-- A running system: its live objects, its files, what it logged and which calls
it made, the readings of the wall clock, and the domain's own state. -/
structure System (D : Domain) where
  events : Table .event LiveEvent := .empty
  mappings : Table .mapping Entries := .empty
  faults : Table .fault Fault := .empty
  parameters : Table .parameter Parameter := .empty
  definitions : Table .definition (Definition D) := .empty
  commands : Table .command (Command D) := .empty
  aggregates : Table .aggregate (Aggregate D) := .empty
  stores : Table .store (Store D) := .empty
  clocks : Table .clock Clock := .empty
  applications : Table .application (Application D) := .empty
  files : FileTree := .empty
  log : Array LogRecord := #[]
  calls : Array Call := #[]
  wall : Nat → Except Raise Moment := fun _ => .ok .unixEpoch
  domain : D.State

inductive Halt where
  | raised (fault : Ref .fault)
  /-- Code that it ran went on beyond the given bounds. -/
  | exhausted
  | unbound (name : String)
deriving DecidableEq, Repr

def Act (D : Domain) (Result : Type) : Type :=
  System D → Except Halt Result × System D

namespace Act

variable {D : Domain} {Result Next : Type}

def run (act : Act D Result) (system : System D) : Except Halt Result × System D :=
  act system

protected def pure (result : Result) : Act D Result :=
  fun system => (.ok result, system)

/-- One action after another; the second is left out when the first has no
value. -/
protected def bind (act : Act D Result) (next : Result → Act D Next) : Act D Next :=
  fun system =>
    match act system with
    | (.ok result, system) => next result system
    | (.error halt, system) => (.error halt, system)

instance : Monad (Act D) where
  pure := Act.pure
  bind := Act.bind

def read (view : System D → Result) : Act D Result :=
  fun system => (.ok (view system), system)

def update (change : System D → System D) : Act D Unit :=
  fun system => (.ok (), change system)

def halt (reason : Halt) : Act D Result :=
  fun system => (.error reason, system)

/-- Runs an action and ends with its value or with the fault it raised. -/
def attempt (act : Act D Result) : Act D (Except (Ref .fault) Result) :=
  fun system =>
    match act system with
    | (.ok result, system) => (.ok (.ok result), system)
    | (.error (.raised fault), system) => (.ok (.error fault), system)
    | (.error .exhausted, system) => (.error .exhausted, system)
    | (.error (.unbound name), system) => (.error (.unbound name), system)

def newFault (fault : Fault) : Act D (Ref .fault) :=
  fun system => (.ok system.faults.nextRef, { system with faults := system.faults.push fault })

def rethrow (fault : Ref .fault) : Act D Result :=
  halt (.raised fault)

def throw (fault : Fault) : Act D Result := do
  rethrow (← newFault fault)

def faultNamed (name : String) : Act D (Ref .fault) := do
  match D.faultNamed (← read (·.domain)) name with
  | some fault => pure fault
  | none => halt (.unbound name)

/-- Raises a fault, new or not. -/
def raise : Raise → Act D Result
  | .fresh fault => throw fault
  | .known fault => rethrow fault
  | .named name => do rethrow (← faultNamed name)

def ofExcept : Except Fault Result → Act D Result
  | .ok result => pure result
  | .error fault => throw fault

def faultOf (fault : Ref .fault) : Act D Fault :=
  read (·.faults.get fault)

def causeOf : Raise → Act D Fault
  | .fresh fault => pure fault
  | .known fault => faultOf fault
  | .named name => do faultOf (← faultNamed name)

def messageOf (fault : Ref .fault) : Act D String :=
  read fun system => (system.faults.get fault).message

def logRecord (logger : String) (level : Level) (message : String) : Act D Unit :=
  update fun system => { system with log := system.log.push ⟨logger, level, message⟩ }

def noteCall (call : Call) : Act D Unit :=
  update fun system => { system with calls := system.calls.push call }

def forEach {Item : Type} (act : Item → Act D Unit) : List Item → Act D Unit
  | [] => pure ()
  | item :: items => do
    act item
    forEach act items

def fold {State Item : Type} (step : State → Item → Act D State) (state : State) :
    List Item → Act D State
  | [] => pure state
  | item :: items => do
    fold step (← step state item) items

end Act

structure Handlers (D : Domain) where
  /-- The aggregate that a factory answers for a command, if any. -/
  construct : D.Factory → Ref .command → Act D (Option (Ref .aggregate))
  onEvent : D.Script → Ref .aggregate → Ref .event → Act D Unit
  onCommand : D.Script → Ref .aggregate → Ref .command → Act D Unit
  onProject : D.Projection → Ref .event → Act D Unit
  storeForeign : D.Store → List (Ref .event) → Act D Unit
  replayForeign : {State : Type} → D.Store → AnyText → State →
    (State → Ref .event → Act D State) → Act D State

end EventSourcing
