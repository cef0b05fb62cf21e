import EventSourcing.Proofs.Application.Course

/-!
# What a receiver is handed

Every event that a receiver is handed when its history is replayed comes behind those that it
was handed before, also when the replay stops half-way. Nothing is compared: a receiver that is
given its history again is handed the same events again. Over a store in memory a replay that
ends hands over the events of the log that match the receiver's id, in order.
-/

set_option autoImplicit false

namespace EventSourcing

variable {D : Domain}

/-- A list that every call extends, however it ends, and nothing else, collects what the calls
add in the order of the events. -/
theorem Store.Hands.gathers {State Item : Type} {offers : System D → Ref .event → System D → Prop}
    {step : State → Ref .event → Act D State} {state : State} {system : System D}
    {handed : List (System D × Ref .event)} {outcome : Except Halt State × System D}
    {view : System D → List Item} {added : Ref .event → List Item}
    (hands : Hands offers step state system handed outcome)
    (offered : ∀ {before event given}, offers before event given → view given = view before)
    (called : ∀ pair ∈ handed, ∀ state,
      view (step state pair.2 pair.1).2 = view pair.1 ++ added pair.2)
    (making : ∀ fault, Act.Keeps (Act.Same view) (Act.newFault fault)) :
    view outcome.2 = view system ++ handed.flatMap fun pair => added pair.2 := by
  induction hands with
  | done | exhausted => exact (List.append_nil _).symm
  | @stops state system fault => exact (making fault system).trans (List.append_nil _).symm
  | @takes state next before given middle event handed outcome offer ran _ ih =>
      have here := called (given, event) List.mem_cons_self state
      rw [ran] at here
      rw [ih fun pair member => called pair (.tail _ member), here, offered offer,
        List.append_assoc, List.flatMap_cons]
  | @raises state before given after event halt offer ran =>
      have here := called (given, event) List.mem_cons_self state
      rw [ran, offered offer] at here
      rw [here, List.flatMap_singleton]

namespace Application

open LiveEvent (Closed KeepsClosed contentIn)

section Handing

variable {handlers : Handlers D} {ref : Ref .application} {command : Ref .command}
  {receiver : Ref .aggregate} {found : System D} {held : List (Ref .event)}
  {pairs : List (System D × Ref .event)}

/-- The history of a receiver, as it is replayed to it. -/
abbrev Rehydrates (handlers : Handlers D) (ref : Ref .application)
    (receiver : Ref .aggregate) (found : System D) (pairs : List (System D × Ref .event)) : Prop :=
  Store.Replayed (found.stores.get (found.applications.get ref).store)
    (found.aggregates.get receiver).id
    (fun _ event => Aggregate.handleEvent handlers receiver event) () found pairs
    (rehydrate handlers (found.applications.get ref).store receiver found)

theorem seen_handed (aggregate : Ref .aggregate) (event : Ref .event) (system : System D) :
    ((Aggregate.handed aggregate event system).aggregates.get aggregate).seen =
      (system.aggregates.get aggregate).seen ++ [event] := by
  refine (congrArg Aggregate.seen (Table.get_set _ _ _ _)).trans ?_
  rw [if_pos rfl]

theorem seen_handed_of_ne {aggregate other : Ref .aggregate} (different : aggregate ≠ other)
    (event : Ref .event) (system : System D) :
    ((Aggregate.handed aggregate event system).aggregates.get other).seen =
      (system.aggregates.get other).seen := by
  refine (congrArg Aggregate.seen (Table.get_set _ _ _ _)).trans ?_
  rw [if_neg different]

/-- A receiver has been handed the events of its history behind those before, whether or not it
was given all of it. -/
theorem seen_of_rehydrates
    (served : ∀ before after, Serves handlers ref command receiver found before after →
      (after.aggregates.get receiver).seen = (before.aggregates.get receiver).seen)
    (rehydrates : Rehydrates handlers ref receiver found pairs) :
    ((rehydrate handlers (found.applications.get ref).store receiver
        found).2.aggregates.get receiver).seen =
      (found.aggregates.get receiver).seen ++ pairs.map Prod.snd := by
  let seen (system : System D) : List (Ref .event) := (system.aggregates.get receiver).seen
  let added (event : Ref .event) : List (Ref .event) := [event]
  have called (pair : System D × Ref .event) (member : pair ∈ pairs) (_ : Unit) :
      seen (Aggregate.handleEvent handlers receiver pair.2 pair.1).2 =
        seen pair.1 ++ added pair.2 := by
    obtain ⟨given, event⟩ := pair
    have noted := seen_handed receiver event given
    cases script : ((Aggregate.handed receiver event given).aggregates.get receiver).script with
    | none =>
      rw [Aggregate.handleEvent_of_no_script script]
      exact noted
    | some description =>
      rw [Aggregate.handleEvent_of_script script]
      exact (served _ _ (.onEvent rehydrates member script)).trans noted
  have offered {before given : System D} {event : Ref .event}
      (offers : Store.Offers (found.stores.get (found.applications.get ref).store) before event
        given) : seen given = seen before := by
    rw [offers.same]
  rw [List.map_eq_flatMap]
  exact rehydrates.hands.gathers offered called fun _ _ => rfl

/-- No call while a receiver is given its history changes what closed events show. -/
theorem contents_stay
    (served : ∀ before after, Serves handlers ref command receiver found before after →
      KeepsClosed before after)
    (closed : ∀ event ∈ held, Closed found event)
    (rehydrates : Rehydrates handlers ref receiver found pairs) :
    ∀ pair ∈ pairs, ∀ event ∈ held,
      contentIn (Aggregate.handleEvent handlers receiver pair.2 pair.1).2 event =
        contentIn pair.1 event := by
  have handed (event : Ref .event) (system : System D) :
      KeepsClosed system (Aggregate.handed receiver event system) :=
    LiveEvent.keepsClosed_of_events rfl
  have called (pair : System D × Ref .event) (member : pair ∈ pairs) :
      KeepsClosed pair.1 (Aggregate.handleEvent handlers receiver pair.2 pair.1).2 :=
    handleEvent_relates handed served rehydrates member
  have related := rehydrates.hands.relates Store.Offers.keepsClosed
    (fun pair member _ => called pair member)
    fun fault system => LiveEvent.keepsClosed_of_events rfl
  intro pair member event inside
  have closed := (related.2 pair member).1.closed (closed event inside)
  exact (called pair member).contentIn_eq closed

/-- The history that a receiver is given of a store in memory is what the store holds for its
id, if it is given all of it. -/
theorem handed_of_held
    (memory : found.stores.get (found.applications.get ref).store = .memory held)
    (closed : ∀ event ∈ held, Closed found event)
    (served : ∀ before after, Serves handlers ref command receiver found before after →
      KeepsClosed before after)
    (rehydrates : Rehydrates handlers ref receiver found pairs)
    (ended : (rehydrate handlers (found.applications.get ref).store receiver found).1 = .ok ()) :
    pairs.map Prod.snd = held.filter fun event =>
      (contentIn found event).matchesStream (found.aggregates.get receiver).id := by
  have stays := contents_stay served closed rehydrates
  exact (rehydrates.held held memory).all
    (fun pair member _ event inside => by rw [stays pair member event inside]) () ended

end Handing

section Accepting

variable {handlers : Handlers D} {ref : Ref .application} {command : Ref .command}
  {receiver aggregate : Ref .aggregate} {start found given : System D}

theorem Finds.known (finds : Finds handlers ref command start receiver found) :
    (found.commands.get command).receiver = some receiver := by
  obtain ⟨acknowledged, -, resolves⟩ := finds
  exact Command.receiver_of_resolved resolves

/-- The aggregate that is handed a command is the receiver that was found for it, as it is after
it was given its history, if no code puts another one in its place. -/
theorem Accepts.receiver_eq (finds : Finds handlers ref command start receiver found)
    (native : ∀ description,
      found.stores.get (found.applications.get ref).store ≠ .foreign description)
    (served : ∀ before after, Serves handlers ref command receiver found before after →
      (after.commands.get command).receiver = (before.commands.get command).receiver)
    (accepts : Accepts handlers ref command receiver found aggregate given) :
    aggregate = receiver ∧
      ∃ rehydrated, Opens handlers ref command receiver found rehydrated given := by
  obtain ⟨rehydrated, about, opens, -, resolved⟩ := accepts
  have related : Act.Same (fun system : System D => (system.commands.get command).receiver) found
      (rehydrate handlers (found.applications.get ref).store receiver found).2 :=
    rehydrate_relates native (fun offers => by rw [offers.same]; rfl) (fun _ _ => rfl)
      (fun _ _ => rfl) served
  rw [opens.rehydrates] at related
  have still : (about.commands.get command).receiver = some receiver := by
    rw [opens.opens]
    exact related.trans finds.known
  rw [Command.resolveReceiver_of_receiver still] at resolved
  cases resolved
  exact ⟨rfl, rehydrated, opens⟩

theorem Opens.seen_eq {rehydrated about : System D}
    (opens : Opens handlers ref command receiver found rehydrated about)
    (aggregate : Ref .aggregate) :
    (about.aggregates.get aggregate).seen = (rehydrated.aggregates.get aggregate).seen := by
  rw [opens.opens]
  refine (congrArg Aggregate.seen (Table.get_set _ _ _ _)).trans ?_
  split
  · rename_i same
    rw [← same]
  · rfl

end Accepting

end Application

end EventSourcing
