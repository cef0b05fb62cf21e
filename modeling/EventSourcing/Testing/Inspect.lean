import EventSourcing.Testing.Rehearsal

/-!
# Inspecting named objects

What a test can find out about the live objects of a session: of which kind an
object is, whether two names stand for one object, whether two objects are equal,
and how an object is written as a literal.
-/

set_option autoImplicit false

namespace EventSourcing.Testing.Binding

def event? : Binding → Option (Ref .event)
  | .event ref => some ref
  | _ => none

def fault? : Binding → Option (Ref .fault)
  | .fault ref => some ref
  | _ => none

def parameter? : Binding → Option (Ref .parameter)
  | .parameter ref => some ref
  | _ => none

def definition? : Binding → Option (Ref .definition)
  | .definition ref => some ref
  | _ => none

def command? : Binding → Option (Ref .command)
  | .command ref => some ref
  | _ => none

def aggregate? : Binding → Option (Ref .aggregate)
  | .aggregate ref => some ref
  | _ => none

def store? : Binding → Option (Ref .store)
  | .store ref => some ref
  | _ => none

def clock? : Binding → Option (Ref .clock)
  | .clock ref => some ref
  | _ => none

def application? : Binding → Option (Ref .application)
  | .application ref => some ref
  | _ => none

def result? : Binding → Option CommandResult
  | .result value => some value
  | _ => none

/-- Two names of one object. Results and failures are values and have no
identity. -/
def isSame : Binding → Binding → Bool
  | .event left, .event right => left = right
  | .fault left, .fault right => left = right
  | .parameter left, .parameter right => left = right
  | .definition left, .definition right => left = right
  | .command left, .command right => left = right
  | .aggregate left, .aggregate right => left = right
  | .store left, .store right => left = right
  | .clock left, .clock right => left = right
  | .application left, .application right => left = right
  | _, _ => false

def pairwise {Item : Type} (equal : Item → Item → Bool) : List Item → List Item → Bool
  | [], [] => true
  | left :: lefts, right :: rights => equal left right && pairwise equal lefts rights
  | _, _ => false

def sameEvent (system : System scripted) (left right : Ref .event) : Bool :=
  (LiveEvent.contentIn system left).same (LiveEvent.contentIn system right)

def sameResult (system : System scripted) (left right : CommandResult) : Bool :=
  left.error = right.error && left.aggregateId = right.aggregateId &&
    pairwise (sameEvent system) left.events right.events &&
    pairwise ProjectionFailure.same left.failures right.failures

/-- Equality: of contents for events, results and failures, of identity for other
objects. -/
def isEqual (system : System scripted) : Binding → Binding → Bool
  | .event left, .event right => sameEvent system left right
  | .result left, .result right => sameResult system left right
  | .failure left, .failure right => left.same right
  | left, right => left.isSame right

def literal? (system : System scripted) : Binding → Option String
  | .parameter ref => some (system.parameters.get ref).literal
  | .fault ref => some (system.faults.get ref).literal
  | .event ref => some (LiveEvent.contentIn system ref).literal
  | .definition ref => some (system.definitions.get ref).literal
  | .command ref => some (Command.literalIn system ref)
  | .failure value => some value.literal
  | _ => none

end EventSourcing.Testing.Binding
