import EventSourcing.Proofs.Application.Course
import EventSourcing.Proofs.Application.Reporting

/-!
# Code that only publishes

An aggregate publishes to the store that it is bound to, and an application binds the
receiver of a command to a new one. Hence code that does nothing but publish is apart from
an application to whose store no aggregate is bound. `Domain.publishing` is a domain of such
code.
-/

set_option autoImplicit false

namespace EventSourcing

variable {D : Domain}

namespace Application

structure Unbound (ref : Ref .application) (system : System D) : Prop where
  made : (system.applications.get ref).store.index < system.stores.nextRef.index
  publisher : ∀ aggregate,
    (system.aggregates.get aggregate).publisher ≠ some (system.applications.get ref).store

/-- Aggregates that were not made are bound to no store. -/
theorem unbound_of_all {ref : Ref .application} {system : System D}
    (made : (system.applications.get ref).store.index < system.stores.nextRef.index)
    (others : system.aggregates.items.all fun aggregate =>
      aggregate.publisher ≠ some (system.applications.get ref).store) : Unbound ref system := by
  have elsewhere : ∀ aggregate ∈ system.aggregates.items,
      aggregate.publisher ≠ some (system.applications.get ref).store :=
    fun aggregate member => of_decide_eq_true (Array.all_eq_true'.mp others aggregate member)
  refine ⟨made, Table.get_of_all elsewhere ?_⟩
  intro bound
  cases bound

/-- No aggregate comes to publish to the application's store, and the store is spared as long
as none does. -/
def Shuns (ref : Ref .application) (before after : System D) : Prop :=
  Unbound ref before → Unbound ref after ∧ Spares ref before after

instance (ref : Ref .application) : Act.Frame (Shuns (D := D) ref) :=
  inferInstanceAs (Act.Frame (Act.Under (Unbound ref) (Spares ref)))

theorem Aside.shuns {ref : Ref .application} {before after : System D}
    (aside : Aside ref before after) : Shuns ref before after := by
  intro unbound
  refine ⟨⟨?_, ?_⟩, aside.spares⟩
  · rw [aside.applications]
    exact Nat.lt_of_lt_of_le unbound.made aside.made
  · intro aggregate bound
    rw [aside.applications] at bound
    rcases aside.publisher aggregate _ bound with known | new
    · exact unbound.publisher aggregate known
    · exact Nat.not_le_of_lt unbound.made new

instance (ref : Ref .application) : Discreet (Shuns (D := D) ref) :=
  .of_aside ref Aside.shuns

theorem shuns_publish (ref : Ref .application) (aggregate : Ref .aggregate)
    (event : Ref .event) : Act.Keeps (Shuns (D := D) ref) (Aggregate.publish aggregate event) := by
  intro system unbound
  have elsewhere := unbound.publisher aggregate
  cases publisher : (system.aggregates.get aggregate).publisher with
  | none =>
    have refused : Aggregate.publish aggregate event system =
        Act.throw (.lacksAttribute "NoneType" "publish_event") system := by
      simp only [Aggregate.publish, bind, Act.bind, Act.read, publisher]
    rw [refused]
    exact (Aside.shuns (aside_newFault ref _ system)) unbound
  | some store =>
    rw [publisher] at elsewhere
    have ran : Aggregate.publish aggregate event system =
        MemoryStore.publish store event system := by
      simp only [Aggregate.publish, bind, Act.bind, Act.read, publisher]
    have grows := Table.nextRef_le_set system.stores store
      (.memory (MemoryStore.eventsIn system store ++ [event]))
    have made := Nat.lt_of_lt_of_le unbound.made grows
    rw [ran]
    refine ⟨⟨made, unbound.publisher⟩, rfl, rfl, fun _ member => member, fun _ => made, fun _ => ?_⟩
    refine (Table.get_set _ _ _ _).trans (if_neg ?_)
    rintro rfl
    exact elsewhere rfl

/-- Where code shuns the application's store, no aggregate is bound to the store when the code
is called for a command. -/
theorem Serves.unbound {handlers : Handlers D} {ref : Ref .application} {command : Ref .command}
    {receiver : Ref .aggregate} {start found before after : System D}
    (serves : Serves handlers ref command receiver found before after)
    (finds : Finds handlers ref command start receiver found) (unbound : Unbound ref start)
    (native : ∀ description,
      start.stores.get (start.applications.get ref).store ≠ .foreign description)
    (constructs : ∀ factory, Act.Keeps (Shuns ref) (handlers.construct factory command))
    (served : ∀ {before after}, Serves handlers ref command receiver found before after →
      Shuns ref before after) : Unbound ref before := by
  have moved (middle last : System D) (known : Shuns ref start middle)
      (shuns : Shuns ref middle last) : Shuns ref start last :=
    Act.Frame.trans known shuns
  have known : Shuns ref start found :=
    finds.lasts moved (fun _ _ _ known => moved _ _ known (constructs _ _)) (Act.Frame.refl start)
  have lasts : Lasts handlers ref command receiver found (Shuns ref) (Shuns ref start) := by
    refine ⟨?_, moved, fun offers => ?_, fun _ _ known serves => moved _ _ known (served serves)⟩
    · rw [(known unbound).2.store, (known unbound).2.held unbound.made]
      exact native
    · rw [offers.same]
      exact fun unbound => ⟨⟨unbound.made, unbound.publisher⟩, .of_stores rfl rfl⟩
  exact (lasts.serves known serves unbound).1

end Application

theorem Aggregate.keeps_publish {relation : System D → System D → Prop} [Act.Frame relation]
    (making : ∀ fault, Act.Keeps relation (Act.newFault fault))
    (adding : ∀ store event, Act.Keeps relation (MemoryStore.publish store event))
    (aggregate : Ref .aggregate) (event : Ref .event) :
    Act.Keeps relation (publish aggregate event) := by
  refine (Act.keeps_read _).bind fun publisher => ?_
  split
  · exact Act.keeps_throw making _
  · exact adding _ event

/-- A domain whose aggregates publish events that exist already, and whose projections do
nothing or raise a fault. Receivers are named by the command. -/
def Domain.publishing : Domain :=
  { State := Unit, Factory := Ref .aggregate, Script := List (Ref .event)
    Projection := Option Fault, Store := Empty, faultNamed := fun _ _ => none }

def Handlers.publishing : Handlers Domain.publishing where
  construct factory _ := pure (some factory)
  onEvent _ _ _ := pure ()
  onCommand script aggregate _ := Act.forEach (Aggregate.publish aggregate) script
  onProject projection _ :=
    match projection with
    | none => pure ()
    | some fault => Act.throw fault
  storeForeign := nofun
  replayForeign := nofun

namespace Application

variable {ref : Ref .application} {command : Ref .command} {start : System Domain.publishing}

theorem leaves_publishing {relation : System Domain.publishing → System Domain.publishing → Prop}
    [Act.Frame relation]
    (keeps : ∀ aggregate event, Act.Keeps relation (Aggregate.publish aggregate event)) :
    Leaves Handlers.publishing ref command start relation := by
  intro before after _ called
  cases called with
  | construct => exact Act.Frame.refl before
  | onEvent => exact Act.Frame.refl before
  | onCommand => exact Act.keeps_forEach (fun event _ => keeps _ event) before

theorem keeps_onProject {relation : System Domain.publishing → System Domain.publishing → Prop}
    [Act.Frame relation] (making : ∀ fault, Act.Keeps relation (Act.newFault fault))
    (projection : Option Fault) (event : Ref .event) :
    Act.Keeps relation (Handlers.publishing.onProject projection event) := by
  cases projection with
  | none => exact Act.keeps_pure ()
  | some fault => exact Act.keeps_throw making fault

theorem onProject_publishing {projection : Option Fault} {event : Ref .event}
    {system : System Domain.publishing} {halt : Halt}
    (raised : (Handlers.publishing.onProject projection event system).1 = .error halt) :
    ∃ fault, halt = .raised fault := by
  cases projection with
  | none => cases raised
  | some fault =>
    cases raised
    exact ⟨_, rfl⟩

/-- Where no aggregate is bound to the application's store, the code is apart from it. -/
theorem apart_publishing (unbound : Unbound ref start) :
    Apart Handlers.publishing ref command start := by
  have shuns : Leaves Handlers.publishing ref command start (Shuns ref) :=
    leaves_publishing (shuns_publish ref)
  refine ⟨?_, ?_, ?_, ?_⟩
  · intro before after reached called
    have known := reached.relates (fun _ _ => Aside.shuns) shuns unbound
    exact (shuns before after reached called known.1).2
  · rintro before after _ ⟨event, -⟩
    exact keeps_onProject (fun fault system => (aside_newFault ref fault system).spares) _ _ before
  · rintro before after _ ⟨event, -⟩
    have making (fault : Fault) :
        Act.Keeps (StaySealed (D := Domain.publishing)) (Act.newFault fault) :=
      fun system event isSealed => ⟨isSealed, rfl⟩
    exact keeps_onProject making _ _ before
  · exact fun _ _ _ _ _ _ _ => onProject_publishing

end Application

end EventSourcing
