import EventSourcing.Application.Basic

/-!
# Scripts

Descriptions of aggregates, receivers, projections and stores for tests. A script
says step by step what to do; the objects it works with are found by name, and the values
it describes are made, when it runs.
-/

set_option autoImplicit false

namespace EventSourcing.Testing

inductive Cause where
  /-- A new fault, or the reason why it cannot be made. -/
  | made (fault : Except Fault Fault)
  | named (name : String)
  | kept (fault : Ref .fault)

def Cause.raised : Cause → Raise
  | .made (.ok fault) | .made (.error fault) => .fresh fault
  | .named name => .named name
  | .kept fault => .known fault

inductive ScriptStep where
  | publish (name : Datum) (payload : List (Datum × Datum)) (streamId id : Option Datum)
  | publishEvent (event : String)
  | publishField (name : Datum) (field : String)
  /-- Publishes a new event that carries the number of events seen. -/
  | publishSeen (name : Datum)
  | require (fields : List String)
  | raise (fault : Cause)
  | send (application command : String) (result : Option String)

structure Script where
  steps : List ScriptStep := []
  eventFault : Option (Option String × Cause) := none
  /-- The fault raised after a command was handled, one for each aggregate. -/
  commandFault : Option Cause := none

inductive Factory where
  | named (aggregate : String)
  | ofCommand (script : Script)
  | ofField (field : String) (script : Script)
  | raise (fault : Cause)
  | nothing

inductive Projection where
  | record (list : String)
  | fail (fault : Cause) (name list : Option String)
  | add (name : Datum) (value : Datum)
  | put (name : Datum) (value : Datum)
  /-- Registers another projection, for which a list of notes may have to be there;
  nothing stands for no projection. -/
  | register (application : Ref .application) (name : String) (list : Option String)
    (projection : Option Projection)
  | send (name : String) (application command : String) (result : Option String)

inductive StoreFault where
  | none
  | storing (fault : Cause)
  | replaying (fault : Cause)
  | forget
  | double
  | silent
  | reverse
  /-- Streams are selected by how their ids begin. -/
  | beginning
  | leak

structure StubStore where
  place : Nat
  fault : StoreFault

inductive Binding where
  | event (ref : Ref .event)
  | fault (ref : Ref .fault)
  | parameter (ref : Ref .parameter)
  | definition (ref : Ref .definition)
  | command (ref : Ref .command)
  | aggregate (ref : Ref .aggregate)
  | store (ref : Ref .store)
  | clock (ref : Ref .clock)
  | application (ref : Ref .application)
  | result (value : CommandResult)
  | failure (value : ProjectionFailure)

/-- What a test session keeps: named objects, named lists of notes, the commands
that factories were asked for, the lists of the stores for tests, the events handed
over by the last replay, and the number of marks used. -/
structure Session where
  bindings : List (String × Binding) := []
  lists : List (String × List Datum) := []
  factoryCalls : List String := []
  stubs : List (List (Ref .event)) := []
  replayed : List (Ref .event) := []
  marks : Nat := 0

def Session.faultNamed (session : Session) (name : String) : Option (Ref .fault) :=
  match session.bindings.lookup name with
  | some (.fault fault) => some fault
  | _ => none

def scripted : Domain where
  State := Session
  Factory := Factory
  Script := Script
  Projection := Projection
  Store := StubStore
  faultNamed := Session.faultNamed

abbrev ScriptAct := Act scripted

def updateSession (change : Session → Session) : ScriptAct Unit :=
  Act.update fun system => { system with domain := change system.domain }

def session : ScriptAct Session :=
  Act.read (·.domain)

end EventSourcing.Testing
