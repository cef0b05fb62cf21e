import EventSourcing.Proofs.Application.Course
import EventSourcing.Proofs.Application.Reporting

/-!
# What is kept while a command is sent

What an application does by itself until events are stored keeps every log, in memory and on
disk, and every closed event, and calls no projection. After that only projections are called:
`Watching` holds of the systems in which they are.
-/

set_option autoImplicit false

namespace EventSourcing.Application

open LiveEvent (KeepsClosed keepsClosed_of_events keepsClosed_changed)

variable {D : Domain}

/-! ## Moves of an application -/

/-- What an application changes by itself until events are stored, whatever its store is: it
makes new stores but keeps those that exist and the files, it keeps closed events and the ids
of aggregates, and it calls no projection. -/
structure Moves (before after : System D) : Prop where
  applications : after.applications = before.applications
  files : after.files = before.files
  kept : ∀ store, store.index < before.stores.nextRef.index →
    after.stores.get store = before.stores.get store
  made : before.stores.nextRef.index ≤ after.stores.nextRef.index
  closed : KeepsClosed before after
  projected : ∀ ref, projectionCalls ref after = projectionCalls ref before
  id : ∀ aggregate, (after.aggregates.get aggregate).id = (before.aggregates.get aggregate).id

private theorem Moves.of_aside {before after : System D} (aside : ∀ ref, Aside ref before after)
    (files : after.files = before.files) (closed : KeepsClosed before after)
    (id : ∀ aggregate,
      (after.aggregates.get aggregate).id = (before.aggregates.get aggregate).id) :
    Moves before after where
  applications := (aside ⟨0⟩).applications
  files := files
  kept := (aside ⟨0⟩).kept
  made := (aside ⟨0⟩).made
  closed := closed
  projected ref := (aside ref).projected
  id := id

private theorem id_set {system : System D} {aggregate : Ref .aggregate} {known : Aggregate D}
    (same : known.id = (system.aggregates.get aggregate).id) (other : Ref .aggregate) :
    ((system.aggregates.set aggregate known).get other).id =
      (system.aggregates.get other).id := by
  rw [Table.get_set]
  split
  · rename_i equal
    rw [← equal, same]
  · rfl

instance : Discreet (Moves (D := D)) where
  refl system := .of_aside (fun ref => Act.Frame.refl system) rfl (Act.Frame.refl system)
    fun _ => rfl
  trans first second :=
    { applications := second.applications.trans first.applications
      files := second.files.trans first.files
      kept := fun store there => by
        rw [second.kept store (Nat.lt_of_lt_of_le there first.made), first.kept store there]
      made := Nat.le_trans first.made second.made
      closed := Act.Frame.trans first.closed second.closed
      projected := fun ref => (second.projected ref).trans (first.projected ref)
      id := fun aggregate => (second.id aggregate).trans (first.id aggregate) }
  newFault fault system := .of_aside (fun ref => Discreet.newFault fault system) rfl
    (keepsClosed_of_events rfl) fun _ => rfl
  logRecord logger level message system :=
    .of_aside (fun ref => Discreet.logRecord logger level message system) rfl
      (keepsClosed_of_events rfl) fun _ => rfl
  noteCall call other system := .of_aside (fun ref => Discreet.noteCall call other system) rfl
    (keepsClosed_of_events rfl) fun _ => rfl
  ticked clock system := .of_aside (fun ref => Discreet.ticked clock system) rfl
    (keepsClosed_of_events rfl) fun _ => rfl
  newParameter parameter system :=
    .of_aside (fun ref => Discreet.newParameter parameter system) rfl
      (keepsClosed_of_events rfl) fun _ => rfl
  changeCommand command edit factory system :=
    .of_aside (fun ref => Discreet.changeCommand command edit factory system) rfl
      (keepsClosed_of_events rfl) fun _ => rfl
  changeAggregate aggregate edit id script publisher system :=
    .of_aside (fun ref => Discreet.changeAggregate aggregate edit id script publisher system) rfl
      (keepsClosed_of_events rfl) (id_set (id _))
  restamp event moment system unsealed :=
    .of_aside (fun ref => Discreet.restamp event moment system unsealed) rfl
      (keepsClosed_changed unsealed _) fun _ => rfl
  publishWith receiver system :=
    .of_aside (fun ref => Discreet.publishWith receiver system) rfl (keepsClosed_of_events rfl)
      (id_set rfl)

theorem Moves.of_offers {store : Store D} {before given : System D} {event : Ref .event}
    (offers : Store.Offers store before event given) : Moves before given := by
  have closed := offers.keepsClosed
  rw [offers.same] at closed ⊢
  exact ⟨rfl, rfl, fun _ _ => rfl, Nat.le_refl _, closed, fun _ => rfl, fun _ => rfl⟩

theorem Moves.spares {before after : System D} (moves : Moves before after)
    (ref : Ref .application) : Spares ref before after :=
  .of_applications moves.applications moves.made moves.kept

/-! ## Systems in which projections are called -/

/-- The systems in which an application calls projections, from a first one on: an event may
be made for them, and each of those registered may be handed an event. -/
inductive Watching (handlers : Handlers D) (ref : Ref .application) (start : System D) :
    System D → Prop
  | start : Watching handlers ref start start
  | noted {system : System D} (log : Array LogRecord) (calls : Array Call) :
      Watching handlers ref start system →
      Watching handlers ref start { system with log, calls }
  | faulted {system : System D} (fault : Fault) : Watching handlers ref start system →
      Watching handlers ref start { system with faults := system.faults.push fault }
  | offered {store : Store D} {before given : System D} {event : Ref .event} :
      Watching handlers ref start before → Store.Offers store before event given →
      Watching handlers ref start given
  | projects {before after : System D} :
      Watching handlers ref start before → Projects handlers ref before after →
      Watching handlers ref start after

/-- In these systems projections end, with a value or a fault, and leave a system that is
related to the one before. -/
structure Observes (handlers : Handlers D) (ref : Ref .application) (start : System D)
    (relation : System D → System D → Prop) : Prop where
  keeps : ∀ before after, Watching handlers ref start before →
    Projects handlers ref before after → relation before after
  ends : ∀ {system name projection event halt}, Watching handlers ref start system →
    (name, projection) ∈ (system.applications.get ref).projections →
    (handlers.onProject projection event system).1 = .error halt → ∃ fault, halt = .raised fault

section Observing

variable {handlers : Handlers D} {ref : Ref .application} {start system : System D}
  {relation : System D → System D → Prop} [Act.Frame relation]

private theorem Observes.passes (observes : Observes handlers ref start relation)
    (spares : ∀ {before after}, relation before after → Spares ref before after)
    (notes : ∀ (system : System D) log calls, relation system { system with log, calls })
    (event : Ref .event) : Passes handlers ref event fun rest system =>
      (∀ entry ∈ rest, entry ∈ (system.applications.get ref).projections) ∧
        Watching handlers ref start system ∧ relation start system := by
  constructor
  · intro rest system log ⟨registered, watching, related⟩
    exact ⟨registered, watching.noted log _, Act.Frame.trans related (notes system log _)⟩
  · intro name projection rest system ⟨registered, watching, related⟩ given
    have watchingGiven : Watching handlers ref start given := watching.noted _ _
    have member : (name, projection) ∈ (given.applications.get ref).projections :=
      registered _ List.mem_cons_self
    have call : Projects handlers ref given (handlers.onProject projection event given).2 :=
      .onProject event member
    have called := observes.keeps _ _ watchingGiven call
    refine ⟨fun halt => observes.ends watchingGiven member, ?_, watchingGiven.projects call, ?_⟩
    · exact fun entry inside =>
        (spares called).projections entry (registered entry (.tail _ inside))
    · exact Act.Frame.trans related (Act.Frame.trans (notes system _ _) called)

/-- Events are reported, whatever projections raise, and the system is as the projections leave
it. -/
theorem Observes.report_run (observes : Observes handlers ref start relation)
    (spares : ∀ {before after}, relation before after → Spares ref before after)
    (notes : ∀ (system : System D) log calls, relation system { system with log, calls })
    (command : Ref .command) (receiver : Ref .aggregate) (events : List (Ref .event)) :
    ∃ failures after, report handlers ref command receiver events start =
        (.ok (.success (after.aggregates.get receiver).id events failures), after) ∧
      relation start after := by
  let holds (_ : List (Ref .event)) (system : System D) : Prop :=
    Watching handlers ref start system ∧ relation start system
  have here : holds events start := ⟨.start, Act.Frame.refl start⟩
  obtain ⟨failures, middle, ran, -, related⟩ := projectAll_run
    (fun {event _ system} known => by
      obtain ⟨failures, after, ran, -, kept⟩ := projectEach_run
        (observes.passes spares notes event) (system.applications.get ref).logger
        ⟨fun _ member => member, known⟩
      exact ⟨failures, after, ran, kept⟩) here
  obtain ⟨log, reported⟩ := report_of_projected command receiver ran
  exact ⟨failures, _, reported, Act.Frame.trans related (notes middle log middle.calls)⟩

end Observing

end EventSourcing.Application
