import EventSourcing.Proofs.Application.Keeping
import EventSourcing.Proofs.Store.Listing

/-!
# Handing the log to projections

An application hands events to its projections in two ways: one after another when they were
stored, and all of the log when it is rebuilt. Either way every projection is handed every
event once, in order, whatever the projections raise, as long as they leave the application and
its log alone.
-/

set_option autoImplicit false

namespace EventSourcing

variable {D : Domain}

/-- The event that a call hands to the projection of a name. -/
def Call.eventFor (name : String) : Call → Option (Ref .event)
  | .project _ projection event => if projection = name then some event else none
  | _ => none

namespace Application

/-- The events that the application handed to its projection of a name. -/
def received (ref : Ref .application) (name : String) (system : System D) : List (Ref .event) :=
  (projectionCalls ref system).filterMap (Call.eventFor name)

/-- The calls that hand an event to every projection. -/
def handings (ref : Ref .application) (entries : List (String × D.Projection))
    (event : Ref .event) : List Call :=
  entries.map fun entry => .project ref entry.1 event

private theorem filterMap_handings {ref : Ref .application} {entries : List (String × D.Projection)}
    {name : String} (event : Ref .event) (distinct : (entries.map Prod.fst).Nodup)
    (registered : name ∈ entries.map Prod.fst) :
    (handings ref entries event).filterMap (Call.eventFor name) = [event] := by
  have other {entries : List (String × D.Projection)} (missing : name ∉ entries.map Prod.fst) :
      (handings ref entries event).filterMap (Call.eventFor name) = [] := by
    refine List.filterMap_eq_nil_iff.mpr fun call member => ?_
    obtain ⟨entry, inside, rfl⟩ := List.mem_map.mp member
    refine if_neg ?_
    rintro rfl
    exact missing (List.mem_map_of_mem inside)
  induction entries with
  | nil => cases registered
  | cons entry entries ih =>
    rw [List.map_cons, List.nodup_cons] at distinct
    have rest : handings ref (entry :: entries) event =
        .project ref entry.1 event :: handings ref entries event := rfl
    rw [rest]
    by_cases own : entry.1 = name
    · have shown : Call.eventFor name (.project ref entry.1 event) = some event := if_pos own
      rw [List.filterMap_cons_some shown, other (own ▸ distinct.1)]
    · have shown : Call.eventFor name (.project ref entry.1 event) = none := if_neg own
      rw [List.filterMap_cons_none shown]
      refine ih distinct.2 ?_
      rw [List.map_cons, List.mem_cons] at registered
      exact registered.resolve_left (Ne.symm own)

/-- Of calls that hand events to every projection, each projection gets every event once. -/
theorem filterMap_flatMap_handings {ref : Ref .application}
    {entries : List (String × D.Projection)} {name : String} (events : List (Ref .event))
    (distinct : (entries.map Prod.fst).Nodup) (registered : name ∈ entries.map Prod.fst) :
    (events.flatMap (handings ref entries)).filterMap (Call.eventFor name) = events := by
  induction events with
  | nil => rfl
  | cons event events ih =>
    rw [List.flatMap_cons, List.filterMap_append, filterMap_handings event distinct registered, ih]
    rfl

theorem projectionCalls_project (ref : Ref .application) (name : String) (event : Ref .event)
    (system : System D) :
    projectionCalls ref { system with calls := system.calls.push (.project ref name event) } =
      projectionCalls ref system ++ [.project ref name event] := by
  rw [projectionCalls, Array.toList_push, List.filter_append]
  refine congrArg _ ?_
  rw [List.filter_cons_of_pos (by simp [Call.isProjection])]
  rfl

/-! ## What projections leave alone -/

/-- The application, its projections and its log are left alone. -/
structure Steady (ref : Ref .application) (before after : System D) : Prop where
  spares : Spares ref before after
  projections : (after.applications.get ref).projections =
    (before.applications.get ref).projections
  logged : (before.applications.get ref).store.index < before.stores.nextRef.index →
    Store.FileStays (before.stores.get (before.applications.get ref).store) before after

/-- The log that a later step leaves alone is the one that there was at first. -/
theorem Steady.fileStays {ref : Ref .application} {start before after : System D}
    (known : Steady ref start before)
    (made : (start.applications.get ref).store.index < start.stores.nextRef.index)
    (steady : Steady ref before after) :
    Store.FileStays (start.stores.get (start.applications.get ref).store) before after := by
  have madeBefore := known.spares.made made
  rw [← known.spares.store] at madeBefore
  have stays := steady.logged madeBefore
  rwa [known.spares.store, known.spares.held made] at stays

instance (ref : Ref .application) : Act.Frame (Steady (D := D) ref) where
  refl system := ⟨Act.Frame.refl system, rfl, fun _ => Act.Frame.refl system⟩
  trans first second := ⟨Act.Frame.trans first.spares second.spares,
    second.projections.trans first.projections,
    fun made => Act.Frame.trans (first.logged made) (first.fileStays made second)⟩

/-- Nothing is handed to a projection either. -/
abbrev Quiet (ref : Ref .application) : System D → System D → Prop :=
  Act.Both (Steady ref) (Act.Same (projectionCalls ref))

theorem Moves.steady {before after : System D} (moves : Moves before after)
    (ref : Ref .application) : Steady ref before after := by
  refine ⟨moves.spares ref, by rw [moves.applications], fun _ path clock disk => ?_⟩
  refine ⟨?_, moves.closed⟩
  rw [disk]
  intro octets there
  rw [moves.files]
  exact there

theorem Moves.quiet {before after : System D} (moves : Moves before after)
    (ref : Ref .application) : Quiet ref before after :=
  ⟨moves.steady ref, moves.projected ref⟩

theorem quiet_newFault (ref : Ref .application) (fault : Fault) :
    Act.Keeps (Quiet (D := D) ref) (Act.newFault fault) := by
  intro system
  have moves : Moves system _ := Discreet.newFault fault system
  exact moves.quiet ref

theorem Steady.noted (ref : Ref .application) (system : System D) (log : Array LogRecord)
    (calls : Array Call) : Steady ref system { system with log, calls } := by
  refine ⟨.of_stores rfl rfl, rfl, ?_⟩
  intro _ path clock disk
  rw [disk]
  exact ⟨fun _ there => there, fun _ _ => rfl⟩

section Handing

variable {handlers : Handlers D} {ref : Ref .application} {start system : System D}

/-- An event is handed to every projection, and the application and its log stay as they are. -/
theorem project_run (observes : Observes handlers ref start (Quiet ref))
    (watching : Watching handlers ref start system) (event : Ref .event) :
    ∃ failures after, project handlers ref event system = (.ok failures, after) ∧
      Watching handlers ref start after ∧ Steady ref system after ∧
      projectionCalls ref after = projectionCalls ref system ++
        handings ref (system.applications.get ref).projections event := by
  let entries := (system.applications.get ref).projections
  let holds (rest : List (String × D.Projection)) (middle : System D) : Prop :=
    (Watching handlers ref start middle ∧ Steady ref system middle) ∧
      (∀ entry ∈ rest, entry ∈ entries) ∧
      projectionCalls ref middle ++ handings ref rest event =
        projectionCalls ref system ++ handings ref entries event
  have passes : Passes handlers ref event holds := by
    constructor
    · intro rest middle log ⟨⟨watching, steady⟩, calls⟩
      have noted := Steady.noted ref middle log middle.calls
      exact ⟨⟨watching.noted log _, Act.Frame.trans steady noted⟩, calls⟩
    · intro name projection rest middle ⟨⟨watching, steady⟩, registered, calls⟩ given
      have noted := Steady.noted ref middle middle.log given.calls
      have watchingGiven : Watching handlers ref start given := watching.noted _ _
      have steadyGiven : Steady ref system given := Act.Frame.trans steady noted
      have member : (name, projection) ∈ (given.applications.get ref).projections := by
        rw [steadyGiven.projections]
        exact registered _ List.mem_cons_self
      have call : Projects handlers ref given (handlers.onProject projection event given).2 :=
        .onProject event member
      obtain ⟨called, same⟩ := observes.keeps _ _ watchingGiven call
      refine ⟨fun halt => observes.ends watchingGiven member,
        ⟨watchingGiven.projects call, Act.Frame.trans steadyGiven called⟩,
        fun entry inside => registered entry (.tail _ inside), ?_⟩
      have noting := projectionCalls_project ref name event middle
      rw [show projectionCalls ref _ = projectionCalls ref given from same, noting,
        List.append_assoc]
      exact calls
  have here : holds entries system :=
    ⟨⟨watching, Act.Frame.refl system⟩, fun _ member => member, rfl⟩
  obtain ⟨failures, after, ran, ⟨watchingAfter, steady⟩, -, calls⟩ :=
    projectEach_run passes (system.applications.get ref).logger here
  refine ⟨failures, after, ran, watchingAfter, steady, ?_⟩
  rw [← calls]
  exact (List.append_nil _).symm

/-- Events that are reported are handed to every projection, one after another. -/
theorem report_hands (observes : Observes handlers ref start (Quiet ref))
    (command : Ref .command) (receiver : Ref .aggregate) (events : List (Ref .event)) :
    ∃ result after, report handlers ref command receiver events start = (.ok result, after) ∧
      Steady ref start after ∧
      projectionCalls ref after = projectionCalls ref start ++
        events.flatMap (handings ref (start.applications.get ref).projections) := by
  let entries := (start.applications.get ref).projections
  let holds (rest : List (Ref .event)) (middle : System D) : Prop :=
    (Watching handlers ref start middle ∧ Steady ref start middle) ∧
      projectionCalls ref middle ++ rest.flatMap (handings ref entries) =
        projectionCalls ref start ++ events.flatMap (handings ref entries)
  have here : holds events start := ⟨⟨.start, Act.Frame.refl start⟩, rfl⟩
  have each {event : Ref .event} {rest : List (Ref .event)} {middle : System D}
      (known : holds (event :: rest) middle) :
      ∃ failures after, project handlers ref event middle = (.ok failures, after) ∧
        holds rest after := by
    obtain ⟨⟨watching, steady⟩, calls⟩ := known
    obtain ⟨failures, after, ran, watchingAfter, steadyAfter, handed⟩ :=
      project_run observes watching event
    refine ⟨failures, after, ran, ⟨watchingAfter, Act.Frame.trans steady steadyAfter⟩, ?_⟩
    rw [steady.projections] at handed
    rw [handed, List.append_assoc]
    exact calls
  obtain ⟨failures, middle, ran, ⟨-, steady⟩, calls⟩ := projectAll_run each here
  obtain ⟨log, reported⟩ := report_of_projected command receiver ran
  refine ⟨_, _, reported, Act.Frame.trans steady (Steady.noted ref middle log middle.calls), ?_⟩
  rw [← calls]
  exact (List.append_nil _).symm

/-- Rebuilding takes one event of the log after another. -/
private theorem initStep_run (observes : Observes handlers ref start (Quiet ref))
    (watching : Watching handlers ref start system) (result : ReplayResult) (event : Ref .event) :
    ∃ next after, initStep handlers ref result event system = (.ok next, after) ∧
      Watching handlers ref start after ∧ Steady ref system after ∧
      projectionCalls ref after = projectionCalls ref system ++
        handings ref (system.applications.get ref).projections event := by
  obtain ⟨failures, after, ran, handed⟩ := project_run observes watching event
  have counted : ∃ next, initStep handlers ref result event system = (.ok next, after) := by
    rw [initStep, Act.bind_of_ok ran]
    exact ⟨_, rfl⟩
  obtain ⟨next, stepped⟩ := counted
  exact ⟨next, after, stepped, handed⟩

/-- What is known of the calls while an application is rebuilt. -/
private abbrev Rebuilds (handlers : Handlers D) (ref : Ref .application) (start : System D) :
    System D → System D → Prop :=
  Act.Under (Watching handlers ref start) (Steady ref)

private theorem init_relates {handed : List (System D × Ref .event)}
    {outcome : Except Halt ReplayResult × System D}
    (observes : Observes handlers ref start (Quiet ref)) {store : Store D}
    (hands : Store.Hands (Store.Offers store) (initStep handlers ref) {} start handed outcome) :
    Steady ref start outcome.2 ∧ ∀ pair ∈ handed, Watching handlers ref start pair.1 ∧
      Steady ref start pair.1 ∧ Steady ref pair.1 outcome.2 := by
  have offered {before given : System D} {event : Ref .event}
      (offers : Store.Offers store before event given) :
      Rebuilds handlers ref start before given :=
    fun watching => ⟨watching.offered offers, (Moves.of_offers offers).steady ref⟩
  have called (pair : System D × Ref .event) (_ : pair ∈ handed) (result : ReplayResult) :
      Rebuilds handlers ref start pair.1 (initStep handlers ref result pair.2 pair.1).2 := by
    intro watching
    obtain ⟨next, after, ran, watchingAfter, steady, -⟩ :=
      initStep_run observes watching result pair.2
    rw [ran]
    exact ⟨watchingAfter, steady⟩
  have making (fault : Fault) :
      Act.Keeps (Rebuilds handlers ref start) (Act.newFault fault) := by
    intro system watching
    exact ⟨watching.faulted fault, (quiet_newFault ref fault system).1⟩
  obtain ⟨last, each⟩ := hands.relates offered called making
  refine ⟨(last .start).2, fun pair member => ?_⟩
  obtain ⟨reached, rest⟩ := each pair member
  obtain ⟨watching, steady⟩ := reached .start
  exact ⟨watching, steady, (rest watching).2⟩

theorem init_of_replayed {result : ReplayResult} {after : System D}
    (replayed : Store.replay handlers (start.applications.get ref).store Event.allStreams {}
      (initStep handlers ref) start = (.ok result, after)) :
    ∃ log, init handlers ref start = (.ok result, { after with log }) := by
  rw [init, Act.bind_of_ok (Act.read_run _ _), Act.bind_of_ok replayed]
  exact ⟨_, rfl⟩

/-- Rebuilding an application ends, whatever projections raise, and hands every event of the log
to every projection. -/
theorem init_run
    (made : (start.applications.get ref).store.index < start.stores.nextRef.index)
    (readable : Store.Readable start (start.stores.get (start.applications.get ref).store))
    (observes : Observes handlers ref start (Quiet ref)) :
    ∃ result after events, init handlers ref start = (.ok result, after) ∧
      Steady ref start after ∧
      Store.Lists after events (start.stores.get (start.applications.get ref).store) ∧
      projectionCalls ref after = projectionCalls ref start ++
        events.flatMap (handings ref (start.applications.get ref).projections) := by
  let outcome := Store.replay handlers (start.applications.get ref).store Event.allStreams {}
    (initStep handlers ref) start
  obtain ⟨handed, replayed⟩ := Store.replay_replayed handlers readable.native Event.allStreams {}
    (initStep handlers ref)
  obtain ⟨steady, each⟩ := init_relates observes replayed.hands
  have stays (pair : System D × Ref .event) (member : pair ∈ handed) (result : ReplayResult) :
      Store.FileStays (start.stores.get (start.applications.get ref).store) pair.1
        (initStep handlers ref result pair.2 pair.1).2 := by
    obtain ⟨next, after, ran, -, later, -⟩ :=
      initStep_run observes (each pair member).1 result pair.2
    rw [ran]
    exact (each pair member).2.1.fileStays made later
  obtain ⟨result, ended⟩ := replayed.ends readable stays fun pair member result => by
    obtain ⟨next, after, ran, -⟩ := initStep_run observes (each pair member).1 result pair.2
    exact ⟨next, congrArg Prod.fst ran⟩
  have lists := replayed.lists readable stays
    (fun pair member => (each pair member).2.1.fileStays made (each pair member).2.2)
    (steady.logged made) ended
  have handing (pair : System D × Ref .event) (member : pair ∈ handed)
      (result next : ReplayResult) (after : System D)
      (stepped : initStep handlers ref result pair.2 pair.1 = (.ok next, after)) :
      projectionCalls ref after = projectionCalls ref pair.1 ++
        handings ref (start.applications.get ref).projections pair.2 := by
    obtain ⟨_, _, ran, -, -, calls⟩ := initStep_run observes (each pair member).1 result pair.2
    cases stepped.symm.trans ran
    rw [calls, (each pair member).2.1.projections]
  have calls := replayed.hands.accumulates
    (fun offers => (Moves.of_offers offers).projected ref) handing ended
  rw [← List.flatMap_map] at calls
  obtain ⟨log, ran⟩ := init_of_replayed (Act.run_of_answer ended)
  have noted := Steady.noted ref outcome.2 log outcome.2.calls
  refine ⟨result, _, handed.map Prod.snd, ran, Act.Frame.trans steady noted, ?_, calls⟩
  exact lists.stays (steady.fileStays made noted)

end Handing

end Application

end EventSourcing
