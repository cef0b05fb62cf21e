import EventSourcing.Application.Basic
import EventSourcing.Proofs.Command.Acknowledging
import EventSourcing.Proofs.Store.MemoryLaws

/-!
# Handling a command

What an application does until the events of a command are stored. Between the calls of
the domain's code it only moves aside of stores, projections and seals: it reads clocks,
stamps events, binds a receiver to a new store and keeps records. `Handling` holds of the
systems that are reached in this way, so a relation that covers these moves and is kept by
the domain's code relates all of them to the first one.
-/

set_option autoImplicit false

namespace EventSourcing

variable {D : Domain}

def Call.isProjection (ref : Ref .application) : Call → Bool
  | .project application _ _ => application = ref
  | _ => false

namespace Command

variable {handlers : Handlers D} {command : Ref .command} {system : System D}

theorem resolveReceiver_of_receiver {aggregate : Ref .aggregate}
    (receiver : (system.commands.get command).receiver = some aggregate) :
    resolveReceiver handlers command system = (.ok (some aggregate), system) := by
  simp only [resolveReceiver, bind, Act.bind, Act.read, receiver]
  rfl

theorem resolveReceiver_of_no_factory
    (receiver : (system.commands.get command).receiver = none)
    (factory : (system.commands.get command).factory = none) :
    resolveReceiver handlers command system = Act.throw
      (.definition (.text (system.commands.get command).name) (.text "no target registered"))
      system := by
  simp only [resolveReceiver, bind, Act.bind, Act.read, receiver, factory]

theorem resolveReceiver_of_factory {factory : D.Factory}
    (receiver : (system.commands.get command).receiver = none)
    (known : (system.commands.get command).factory = some factory) :
    resolveReceiver handlers command system =
      (handlers.construct factory command >>= fun aggregate =>
        change command (fun known => { known with receiver := aggregate }) >>= fun _ =>
          pure aggregate) system := by
  simp only [resolveReceiver, bind, Act.bind, Act.read, receiver, known]

theorem receiver_of_resolved {aggregate : Ref .aggregate} {after : System D}
    (ran : resolveReceiver handlers command system = (.ok (some aggregate), after)) :
    (after.commands.get command).receiver = some aggregate := by
  cases receiver : (system.commands.get command).receiver with
  | some known =>
    rw [resolveReceiver_of_receiver receiver] at ran
    cases ran
    exact receiver
  | none =>
    cases factory : (system.commands.get command).factory with
    | none =>
      rw [resolveReceiver_of_no_factory receiver factory] at ran
      cases ran
    | some made =>
      rw [resolveReceiver_of_factory receiver factory] at ran
      obtain ⟨found, middle, -, rest⟩ := Act.bind_eq_ok ran
      cases rest
      refine (congrArg Command.receiver (Table.get_set _ _ _ _)).trans ?_
      rw [if_pos rfl]

end Command

namespace Application

def projectionCalls (ref : Ref .application) (system : System D) : List Call :=
  system.calls.toList.filter (Call.isProjection ref)

theorem projectionCalls_push {ref : Ref .application} {call : Call}
    (other : call.isProjection ref = false) {before after : System D}
    (calls : after.calls = before.calls.push call) :
    projectionCalls ref after = projectionCalls ref before := by
  rw [projectionCalls, calls, Array.toList_push, List.filter_append,
    List.filter_cons_of_neg (by simp [other])]
  exact List.append_nil _

def Restamped (before after : LiveEvent) : Prop :=
  after = { before with occurredOn := after.occurredOn }

theorem Restamped.isSealed {before after : LiveEvent} (stamped : Restamped before after) :
    after.isSealed = before.isSealed := by
  rw [stamped]
  rfl

/-- Whether an event can be sealed does not depend on when it occurred. -/
theorem closable_iff_of_restamped {before after : System D} {event : Ref .event}
    (stamped : Restamped (before.events.get event) (after.events.get event))
    (mappings : after.mappings = before.mappings) :
    LiveEvent.Closable after event ↔ LiveEvent.Closable before event := by
  have payload : (LiveEvent.contentIn after event).payload =
      (LiveEvent.contentIn before event).payload := by
    rw [LiveEvent.contentIn, stamped]
    simp only [LiveEvent.contentIn, LiveEvent.data, mappings]
  constructor
  · rintro ⟨closes, present, entries⟩
    rw [stamped] at closes present
    rw [payload] at entries
    exact ⟨closes, present, entries⟩
  · rintro ⟨closes, present, entries⟩
    refine ⟨?_, ?_, ?_⟩
    · rw [stamped]
      exact closes
    · rw [stamped]
      exact present
    · rw [payload]
      exact entries

/-! ## Single changes -/

/-- A relation that covers every single change which an application makes by itself until
events are stored, and the steps made of them. -/
class Discreet (relation : System D → System D → Prop) : Prop extends Act.Frame relation where
  newFault : ∀ fault, Act.Keeps relation (Act.newFault fault)
  logRecord : ∀ logger level message, Act.Keeps relation (Act.logRecord logger level message)
  noteCall : ∀ call, (∀ ref, Call.isProjection ref call = false) →
    Act.Keeps relation (Act.noteCall call)
  ticked : ∀ clock system, relation system (LiveEvent.ticked system clock)
  newParameter : ∀ parameter, Act.Keeps relation (newParameter parameter)
  changeCommand : ∀ command edit, (∀ known, (edit known).factory = known.factory) →
    Act.Keeps relation (Command.change command edit)
  changeAggregate : ∀ aggregate edit, (∀ known, (edit known).id = known.id) →
    (∀ known, (edit known).script = known.script) →
    (∀ known, (edit known).publisher = known.publisher) →
    Act.Keeps relation (Aggregate.change aggregate edit)
  restamp : ∀ event moment system, (system.events.get event).isSealed = false →
    relation system (LiveEvent.changed system event (LiveEvent.occurredAt moment))
  publishWith : ∀ receiver (system : System D), relation system
    (Aggregate.publishWith receiver system.stores.nextRef
      { system with stores := system.stores.push (.memory []) }).2

/-! ## Steps made of single changes -/

section Stamping

variable {relation : System D → System D → Prop} [Act.Frame relation] {clock : Ref .clock}

theorem keeps_stampEach_of_steps {events : List (Ref .event)}
    (making : ∀ fault, Act.Keeps relation (Act.newFault fault))
    (ticking : ∀ system, relation system (LiveEvent.ticked system clock))
    (logging : ∀ logger level message, Act.Keeps relation (Act.logRecord logger level message))
    (restamping : ∀ event ∈ events, ∀ moment system, (system.events.get event).isSealed = false →
      relation system (LiveEvent.changed system event (LiveEvent.occurredAt moment)))
    (logger : String) : Act.Keeps relation (stampEach logger clock events) := by
  refine Act.keeps_forEach fun event member => ?_
  refine (LiveEvent.keeps_occur making ticking (restamping event member)).bind fun _ => ?_
  exact (Act.keeps_read _).bind fun content => logging logger .info _

end Stamping

section Changes

variable {relation : System D → System D → Prop} [Discreet relation]

theorem keeps_acknowledge (command : Ref .command) (clock : Ref .clock) :
    Act.Keeps relation (Command.acknowledge command clock) :=
  Command.keeps_acknowledge_of_steps Discreet.newFault (Discreet.ticked clock)
    Discreet.newParameter fun _ => Discreet.changeCommand command _ fun _ => rfl

theorem keeps_stampEach (logger : String) (clock : Ref .clock) (events : List (Ref .event)) :
    Act.Keeps relation (stampEach (D := D) logger clock events) :=
  keeps_stampEach_of_steps Discreet.newFault (Discreet.ticked clock) Discreet.logRecord
    (fun event _ moment system => Discreet.restamp event moment system) logger

end Changes

/-! ## Moves aside -/

/-- What an application changes by itself until events are stored: no store that exists, no
projection is called, and of events only the time at which they occurred. An aggregate is
bound to new stores only. -/
structure Aside (ref : Ref .application) (before after : System D) : Prop where
  applications : after.applications = before.applications
  mappings : after.mappings = before.mappings
  domain : after.domain = before.domain
  kept : ∀ store, store.index < before.stores.nextRef.index →
    after.stores.get store = before.stores.get store
  made : before.stores.nextRef.index ≤ after.stores.nextRef.index
  projected : projectionCalls ref after = projectionCalls ref before
  events : ∀ event, Restamped (before.events.get event) (after.events.get event)
  factory : ∀ command, (after.commands.get command).factory = (before.commands.get command).factory
  script : ∀ aggregate,
    (after.aggregates.get aggregate).script = (before.aggregates.get aggregate).script
  publisher : ∀ aggregate store, (after.aggregates.get aggregate).publisher = some store →
    (before.aggregates.get aggregate).publisher = some store ∨
      before.stores.nextRef.index ≤ store.index

theorem Aside.refl (ref : Ref .application) (system : System D) : Aside ref system system :=
  ⟨rfl, rfl, rfl, fun _ _ => rfl, Nat.le_refl _, rfl, fun _ => rfl, fun _ => rfl, fun _ => rfl,
    fun _ _ => .inl⟩

theorem Aside.trans {ref : Ref .application} {before middle after : System D}
    (first : Aside ref before middle) (second : Aside ref middle after) :
    Aside ref before after where
  applications := second.applications.trans first.applications
  mappings := second.mappings.trans first.mappings
  domain := second.domain.trans first.domain
  kept store there := by
    rw [second.kept store (Nat.lt_of_lt_of_le there first.made), first.kept store there]
  made := Nat.le_trans first.made second.made
  projected := second.projected.trans first.projected
  events event := by
    have stamped := second.events event
    rw [first.events event] at stamped
    exact stamped
  factory command := (second.factory command).trans (first.factory command)
  script aggregate := (second.script aggregate).trans (first.script aggregate)
  publisher aggregate store bound := by
    rcases second.publisher aggregate store bound with known | new
    · exact first.publisher aggregate store known
    · exact .inr (Nat.le_trans first.made new)

instance (ref : Ref .application) : Act.Frame (Aside (D := D) ref) where
  refl := Aside.refl ref
  trans := Aside.trans

section Moves

variable (ref : Ref .application)

theorem aside_newFault (fault : Fault) : Act.Keeps (Aside (D := D) ref) (Act.newFault fault) :=
  fun system => { Aside.refl ref system with }

private theorem aside_noteCall {call : Call} (other : call.isProjection ref = false) :
    Act.Keeps (Aside (D := D) ref) (Act.noteCall call) := by
  intro system
  exact { Aside.refl ref system with projected := projectionCalls_push other rfl }

private theorem aside_changeCommand (command : Ref .command) {edit : Command D → Command D}
    (factory : ∀ known, (edit known).factory = known.factory) :
    Act.Keeps (Aside ref) (Command.change command edit) := by
  intro system
  refine { Aside.refl ref system with factory := fun other => ?_ }
  show ((system.commands.set command _).get other).factory = _
  rw [Table.get_set]
  split
  · rename_i same
    rw [factory, same]
  · rfl

private theorem aside_changeAggregate (aggregate : Ref .aggregate)
    {edit : Aggregate D → Aggregate D}
    (script : ∀ known, (edit known).script = known.script)
    (publisher : ∀ known, (edit known).publisher = known.publisher) :
    Act.Keeps (Aside ref) (Aggregate.change aggregate edit) := by
  intro system
  have shown (other : Ref .aggregate) :
      (system.aggregates.set aggregate (edit (system.aggregates.get aggregate))).get other =
        if aggregate = other then edit (system.aggregates.get other)
        else system.aggregates.get other := by
    rw [Table.get_set]
    split
    · rename_i same
      rw [same]
    · rfl
  refine { Aside.refl ref system with script := fun other => ?_, publisher := ?_ }
  · refine (congrArg Aggregate.script (shown other)).trans ?_
    split
    · exact script _
    · rfl
  · intro other store bound
    left
    have same := congrArg Aggregate.publisher (shown other)
    rw [← bound]
    refine Eq.trans ?_ same.symm
    split
    · exact (publisher _).symm
    · rfl

private theorem aside_restamp (event : Ref .event) (moment : Moment) (system : System D) :
    Aside ref system (LiveEvent.changed system event (LiveEvent.occurredAt moment)) := by
  refine { Aside.refl ref system with events := fun other => ?_ }
  rw [LiveEvent.get_changed]
  split
  · rename_i same
    rw [same]
    rfl
  · rfl

private theorem aside_publishWith (receiver : Ref .aggregate) (system : System D) :
    Aside ref system
      (Aggregate.publishWith receiver system.stores.nextRef
        { system with stores := system.stores.push (.memory []) }).2 := by
  have shown (other : Ref .aggregate) :
      (system.aggregates.set receiver { system.aggregates.get receiver with
        publisher := some system.stores.nextRef }).get other =
        if receiver = other then
          { system.aggregates.get other with publisher := some system.stores.nextRef }
        else system.aggregates.get other := by
    rw [Table.get_set]
    split
    · rename_i same
      rw [same]
    · rfl
  refine { Aside.refl ref system with kept := ?_, made := ?_, script := ?_, publisher := ?_ }
  · intro store there
    refine (Table.get_push _ _ _).trans (if_neg ?_)
    rintro rfl
    exact Nat.lt_irrefl _ there
  · exact Nat.le_of_lt (Table.nextRef_push _ _ ▸ Nat.lt_succ_self _)
  · intro other
    refine (congrArg Aggregate.script (shown other)).trans ?_
    split <;> rfl
  · intro other store bound
    have same := (congrArg Aggregate.publisher (shown other)).symm.trans bound
    split at same
    · cases same
      exact .inr (Nat.le_refl _)
    · exact .inl same

instance : Discreet (Aside (D := D) ref) where
  newFault := aside_newFault ref
  logRecord _ _ _ system := { Aside.refl ref system with }
  noteCall _ other := aside_noteCall ref (other ref)
  ticked _ system := { Aside.refl ref system with }
  newParameter _ system := { Aside.refl ref system with }
  changeCommand command _ factory := aside_changeCommand ref command factory
  changeAggregate aggregate _ _ script publisher :=
    aside_changeAggregate ref aggregate script publisher
  restamp event moment system _ := aside_restamp ref event moment system
  publishWith := aside_publishWith ref

/-- What covers the moves aside covers every single change. -/
theorem Discreet.of_aside {relation : System D → System D → Prop} [Act.Frame relation]
    (asides : ∀ {before after}, Aside ref before after → relation before after) :
    Discreet relation where
  newFault fault system := asides (Discreet.newFault fault system)
  logRecord logger level message system := asides (Discreet.logRecord logger level message system)
  noteCall call other system := asides (Discreet.noteCall call other system)
  ticked clock system := asides (Discreet.ticked clock system)
  newParameter parameter system := asides (Discreet.newParameter parameter system)
  changeCommand command edit factory system :=
    asides (Discreet.changeCommand command edit factory system)
  changeAggregate aggregate edit id script publisher system :=
    asides (Discreet.changeAggregate aggregate edit id script publisher system)
  restamp event moment system unsealed := asides (Discreet.restamp event moment system unsealed)
  publishWith receiver system := asides (Discreet.publishWith receiver system)

end Moves

/-! ## Calls of the domain's code -/

/-- An aggregate is the one that is found for a command. -/
def Receives (handlers : Handlers D) (ref : Ref .application) (command : Ref .command)
    (start : System D) (aggregate : Ref .aggregate) : Prop :=
  ∃ acknowledged found,
    Command.acknowledge command (start.applications.get ref).clock start =
      (.ok (), acknowledged) ∧
    Command.resolveReceiver handlers command acknowledged = (.ok (some aggregate), found)

/-- A call of the domain's code that a command leads to before its events are stored: its
factory is asked for the receiver, and the receiver's script is handed an event of the
history or the command. -/
inductive Handles (handlers : Handlers D) (ref : Ref .application) (command : Ref .command)
    (start : System D) : System D → System D → Prop
  | construct {system : System D} {factory : D.Factory} :
      (system.commands.get command).factory = some factory →
      Handles handlers ref command start system (handlers.construct factory command system).2
  | onEvent {system : System D} {aggregate : Ref .aggregate} {script : D.Script}
      (event : Ref .event) :
      Receives handlers ref command start aggregate →
      (system.aggregates.get aggregate).script = some script →
      Handles handlers ref command start system
        (handlers.onEvent script aggregate event system).2
  | onCommand {system : System D} {aggregate : Ref .aggregate} {script : D.Script} :
      (system.commands.get command).receiver = some aggregate →
      (system.aggregates.get aggregate).script = some script →
      Handles handlers ref command start system
        (handlers.onCommand script aggregate command system).2

/-- The systems that are reached from a first one until the events of a command are
stored. -/
inductive Handling (handlers : Handlers D) (ref : Ref .application) (command : Ref .command)
    (start : System D) : System D → Prop
  | start : Handling handlers ref command start start
  | aside {before after : System D} :
      Handling handlers ref command start before → Aside ref before after →
      Handling handlers ref command start after
  | handles {before after : System D} :
      Handling handlers ref command start before →
      Handles handlers ref command start before after →
      Handling handlers ref command start after

/-- Every call of the domain's code on a system that is reached leaves it related to the
system before. -/
def Leaves (handlers : Handlers D) (ref : Ref .application) (command : Ref .command)
    (start : System D) (relation : System D → System D → Prop) : Prop :=
  ∀ before after, Handling handlers ref command start before →
    Handles handlers ref command start before after → relation before after

section Reaching

variable {handlers : Handlers D} {ref : Ref .application} {command : Ref .command}
  {start : System D}

/-- What covers the moves aside and is kept by the domain's code relates every system that
is reached to the first one. -/
theorem Handling.relates {relation : System D → System D → Prop} [Act.Frame relation]
    (asides : ∀ before after, Aside ref before after → relation before after)
    (leaves : Leaves handlers ref command start relation) {system : System D}
    (reached : Handling handlers ref command start system) : relation start system := by
  induction reached with
  | start => exact Act.Frame.refl start
  | aside _ move ih => exact Act.Frame.trans ih (asides _ _ move)
  | handles known call ih => exact Act.Frame.trans ih (leaves _ _ known call)

end Reaching

end Application

end EventSourcing
