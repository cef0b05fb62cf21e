import EventSourcing.Store.Basic

/-!
# Aggregates

An aggregate receives commands and the events of its history, and publishes new
events to the store it was last bound to. What it was handed is recorded before
the domain's code sees it.
-/

set_option autoImplicit false

namespace EventSourcing.Aggregate

variable {D : Domain}

def create (id : String) (script : Option D.Script) : Act D (Ref .aggregate) :=
  fun system =>
    let aggregate : Aggregate D := { id, publisher := none, seen := [], handled := [], script }
    (.ok system.aggregates.nextRef,
      { system with aggregates := system.aggregates.push aggregate })

def change (ref : Ref .aggregate) (edit : Aggregate D → Aggregate D) : Act D Unit :=
  Act.update fun system =>
    { system with aggregates := system.aggregates.set ref (edit (system.aggregates.get ref)) }

def publishWith (aggregate : Ref .aggregate) (publisher : Ref .store) : Act D Unit :=
  change aggregate fun known => { known with publisher := some publisher }

def handleEvent (handlers : Handlers D) (aggregate : Ref .aggregate) (event : Ref .event) :
    Act D Unit := do
  Act.noteCall (.foldEvent aggregate event)
  change aggregate fun known => { known with seen := known.seen ++ [event] }
  match ← Act.read fun system => (system.aggregates.get aggregate).script with
  | none => pure ()
  | some script => handlers.onEvent script aggregate event

def handleCommand (handlers : Handlers D) (aggregate : Ref .aggregate)
    (command : Ref .command) : Act D Unit := do
  Act.noteCall (.handleCommand aggregate command)
  change aggregate fun known => { known with handled := known.handled ++ [command] }
  match ← Act.read fun system => (system.aggregates.get aggregate).script with
  | none => pure ()
  | some script => handlers.onCommand script aggregate command

/-- Publishes an event; an aggregate that was never bound cannot. -/
def publish (aggregate : Ref .aggregate) (event : Ref .event) : Act D Unit := do
  match ← Act.read fun system => (system.aggregates.get aggregate).publisher with
  | none => Act.throw (.lacksAttribute "NoneType" "publish_event")
  | some publisher => MemoryStore.publish publisher event

end EventSourcing.Aggregate
