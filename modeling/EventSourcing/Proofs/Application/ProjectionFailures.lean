import EventSourcing.Proofs.Application.EarliestFailure
import EventSourcing.Proofs.Application.Rebuilding

/-!
# Projections that fail

Whatever projections raise, each of them is handed every event that was stored, in order, and
what is reported is one failure for each call that raised a fault. Neither the log nor the rest of
the answer tells which calls those were: two runs that differ only in what projections raise go
along call by call, and a view of the system on which the faults have no influence is the same in
both after every call.
-/

set_option autoImplicit false

namespace EventSourcing.Application

open LiveEvent (contentIn)

variable {D : Domain}

/-- The event that is handed over and the entry of the projection that it is handed to. -/
def Dispatch.pair (dispatch : Dispatch D) : Ref .event × String × D.Projection :=
  (dispatch.event, dispatch.name, dispatch.projection)

/-! ## One run -/

/-- What is reached from a system while events are handed over: the application still has its
projections and its log. -/
structure Handing (handlers : Handlers D) (ref : Ref .application) (start system : System D) :
    Prop where
  watching : Watching handlers ref start system
  steady : Steady ref start system

section Handing

variable {handlers : Handlers D} {ref : Ref .application} {start system after : System D}
  {event : Ref .event} {events : List (Ref .event)} {entry : String × D.Projection}
  {entries : List (String × D.Projection)} {dispatches : List (Dispatch D)}

theorem Handing.refl (handlers : Handlers D) (ref : Ref .application) (start : System D) :
    Handing handlers ref start start :=
  ⟨.start, Act.Frame.refl start⟩

/-- One call leads on to such a system, whether it raises or not. -/
theorem Handing.dispatched (observes : Observes handlers ref start (Quiet ref))
    (handing : Handing handlers ref start system)
    (registered : entry ∈ (start.applications.get ref).projections) (event : Ref .event)
    (before further : Array LogRecord) :
    let dispatch := dispatchTo ref event entry before system
    Watching handlers ref start dispatch.given ∧
      Handing handlers ref start { (dispatch.outcome handlers).2 with log := further } := by
  intro dispatch
  have watchingGiven : Watching handlers ref start dispatch.given := handing.watching.noted before _
  have noted : Steady ref system dispatch.given := Steady.noted ref system before _
  have steadyGiven : Steady ref start dispatch.given := Act.Frame.trans handing.steady noted
  have member : (entry.1, entry.2) ∈ (dispatch.given.applications.get ref).projections := by
    rw [steadyGiven.projections]
    exact registered
  have call : Projects handlers ref dispatch.given (dispatch.outcome handlers).2 :=
    .onProject event member
  obtain ⟨called, -⟩ := observes.keeps _ _ watchingGiven call
  have left := Steady.noted ref (dispatch.outcome handlers).2 further
    (dispatch.outcome handlers).2.calls
  exact ⟨watchingGiven, (watchingGiven.projects call).noted further _,
    Act.Frame.trans steadyGiven (Act.Frame.trans called left)⟩

theorem DispatchesEach.handing (observes : Observes handlers ref start (Quiet ref))
    (course : DispatchesEach handlers ref event entries system dispatches after)
    (handing : Handing handlers ref start system)
    (registered : ∀ entry ∈ entries, entry ∈ (start.applications.get ref).projections) :
    Handing handlers ref start after := by
  induction course with
  | done => exact handing
  | next before further made _ _ ih =>
    obtain ⟨-, next⟩ :=
      handing.dispatched observes (registered _ List.mem_cons_self) event before further
    rw [made] at ih
    exact ih next fun entry member => registered entry (.tail _ member)

theorem DispatchesEach.pairs
    (course : DispatchesEach handlers ref event entries system dispatches after) :
    dispatches.map Dispatch.pair = entries.map fun entry => (event, entry) := by
  induction course with
  | done => rfl
  | next _ _ made _ _ ih =>
    rw [List.map_cons, List.map_cons, ih, made]
    rfl

/-- The calls are made for one event after another, and for each of them in the order in which
the projections were registered. -/
theorem Dispatches.pairs (observes : Observes handlers ref start (Quiet ref))
    (course : Dispatches handlers ref events system dispatches after)
    (handing : Handing handlers ref start system) :
    dispatches.map Dispatch.pair = events.flatMap fun event =>
      (start.applications.get ref).projections.map fun entry => (event, entry) := by
  induction course with
  | done => rfl
  | next first _ ih =>
    have entries := handing.steady.projections
    have next := first.handing observes handing (by simp [entries])
    rw [List.map_append, List.flatMap_cons, first.pairs, entries, ih next]

end Handing

/-- Every event was handed to every projection that was registered when the events were stored:
the calls in the order of the events and then of the registration, and to each name the events
in their order. -/
structure HandsAll (handlers : Handlers D) (ref : Ref .application) (events : List (Ref .event))
    (stored : System D) (dispatches : List (Dispatch D)) (after : System D) : Prop where
  course : Dispatches handlers ref events stored dispatches after
  pairs : dispatches.map Dispatch.pair = events.flatMap fun event =>
    (stored.applications.get ref).projections.map fun entry => (event, entry)
  received : ∀ name ∈ (stored.applications.get ref).projections.map Prod.fst,
    received ref name after = received ref name stored ++ events

section Reporting

variable {handlers : Handlers D} {ref : Ref .application} {command : Ref .command}
  {receiver : Ref .aggregate} {start found stored : System D} {events : List (Ref .event)}

/-- Stored events are reported once all of them were handed to all projections. -/
theorem report_hands_all
    (distinct : ((stored.applications.get ref).projections.map Prod.fst).Nodup)
    (observes : Observes handlers ref stored (Quiet ref)) (command : Ref .command)
    (receiver : Ref .aggregate) (events : List (Ref .event)) :
    ∃ dispatches after log, HandsAll handlers ref events stored dispatches after ∧
      Steady ref stored after ∧
      report handlers ref command receiver events stored =
        (.ok (reportOf handlers receiver events dispatches after), { after with log }) := by
  obtain ⟨result, last, reported, steady, calls⟩ := report_hands observes command receiver events
  rcases report_cases handlers ref command receiver events stored with
    ⟨dispatches, after, log, course, answered⟩ | ⟨_, halt, after, _, _, halted⟩
  · cases reported.symm.trans answered
    have pairs := course.pairs observes (.refl handlers ref stored)
    have noted := Steady.noted ref ({ after with log } : System D) after.log after.calls
    refine ⟨dispatches, after, log, ⟨course, pairs, fun name member => ?_⟩,
      Act.Frame.trans steady noted, answered⟩
    have same : received ref name after = received ref name { after with log } := rfl
    rw [same, received, calls, List.filterMap_append,
      filterMap_flatMap_handings events distinct member, received]
  · cases reported.symm.trans halted

/-- Until the events are stored nothing that is done depends on the code of projections. -/
theorem Completes.withProjections
    (completes : Completes handlers ref command receiver found events stored)
    (changed : D.Projection → Ref .event → Act D Unit) :
    Completes { handlers with onProject := changed } ref command receiver found events stored := by
  obtain ⟨ended, ⟨rehydrated, about, ⟨rehydrates, opens⟩, executes, published⟩, committed⟩ :=
    completes
  exact ⟨ended, ⟨rehydrated, about, ⟨rehydrates, opens⟩, executes, published⟩, committed⟩

end Reporting

/-! ## Two runs -/

/-- What the faults of projections must not show in: the contents of events, the id of an
aggregate, and a view of the domain's own state. -/
def exposed {View : Type} (listed : List (Ref .event)) (receiver : Ref .aggregate)
    (kept : D.State → View) (system : System D) : List Event × String × View :=
  (listed.map (contentIn system), (system.aggregates.get receiver).id, kept system.domain)

/-- Projections that are handed events in two ways, which differ at most in what is raised and in
what a view does not show. -/
def DifferInFaults {View : Type} (handlers other : Handlers D) (ref : Ref .application)
    (start : System D) (view : System D → View) : Prop :=
  ∀ {left right name projection} (event : Ref .event),
    Watching handlers ref start left → Watching other ref start right →
    (name, projection) ∈ (start.applications.get ref).projections → view left = view right →
    view (handlers.onProject projection event left).2 =
      view (other.onProject projection event right).2

/-- Systems that two runs have come to after the same calls. -/
structure Alike {View : Type} (handlers other : Handlers D) (ref : Ref .application)
    (start : System D) (view : System D → View) (left right : System D) : Prop where
  handing : Handing handlers ref start left
  handingOther : Handing other ref start right
  same : view left = view right

section Alike

variable {View : Type} {view : System D → View} {handlers other : Handlers D}
  {ref : Ref .application} {start left right after last : System D} {event : Ref .event}
  {events : List (Ref .event)} {entries : List (String × D.Projection)}
  {dispatches others : List (Dispatch D)}

/-- Two runs stay alike over one call, although it may raise a fault in one of them only. -/
theorem Alike.dispatched (observes : Observes handlers ref start (Quiet ref))
    (observesOther : Observes other ref start (Quiet ref))
    (differ : DifferInFaults handlers other ref start view)
    (notes : ∀ (system : System D) log calls, view { system with log, calls } = view system)
    (alike : Alike handlers other ref start view left right) {entry : String × D.Projection}
    (registered : entry ∈ (start.applications.get ref).projections) (event : Ref .event)
    (before further beforeOther furtherOther : Array LogRecord) :
    Alike handlers other ref start view
      { ((dispatchTo ref event entry before left).outcome handlers).2 with log := further }
      { ((dispatchTo ref event entry beforeOther right).outcome other).2 with
        log := furtherOther } := by
  obtain ⟨watching, handing⟩ :=
    alike.handing.dispatched observes registered event before further
  obtain ⟨watchingOther, handingOther⟩ :=
    alike.handingOther.dispatched observesOther registered event beforeOther furtherOther
  refine ⟨handing, handingOther, ?_⟩
  have given : view (dispatchTo ref event entry before left).given =
      view (dispatchTo ref event entry beforeOther right).given :=
    (notes left before _).trans (alike.same.trans (notes right beforeOther _).symm)
  have called := differ event watching watchingOther registered given
  exact (notes _ further _).trans (called.trans (notes _ furtherOther _).symm)

theorem DispatchesEach.alike (observes : Observes handlers ref start (Quiet ref))
    (observesOther : Observes other ref start (Quiet ref))
    (differ : DifferInFaults handlers other ref start view)
    (notes : ∀ (system : System D) log calls, view { system with log, calls } = view system)
    (registered : ∀ entry ∈ entries, entry ∈ (start.applications.get ref).projections)
    (course : DispatchesEach handlers ref event entries left dispatches after)
    (again : DispatchesEach other ref event entries right others last)
    (alike : Alike handlers other ref start view left right) :
    Alike handlers other ref start view after last := by
  induction course generalizing right others with
  | done =>
    cases again
    exact alike
  | next before further made _ _ ih =>
    cases again with
    | next beforeOther furtherOther madeOther _ rest =>
      have next := alike.dispatched observes observesOther differ notes
        (registered _ List.mem_cons_self) event before further beforeOther furtherOther
      rw [← made, ← madeOther] at next
      exact ih (fun entry member => registered entry (.tail _ member)) rest next

/-- Two runs over the same events stay alike. -/
theorem Dispatches.alike (observes : Observes handlers ref start (Quiet ref))
    (observesOther : Observes other ref start (Quiet ref))
    (differ : DifferInFaults handlers other ref start view)
    (notes : ∀ (system : System D) log calls, view { system with log, calls } = view system)
    (course : Dispatches handlers ref events left dispatches after)
    (again : Dispatches other ref events right others last)
    (alike : Alike handlers other ref start view left right) :
    Alike handlers other ref start view after last := by
  induction course generalizing right others with
  | done =>
    cases again
    exact alike
  | next first _ ih =>
    cases again with
    | next firstOther rest =>
      rw [alike.handing.steady.projections] at first
      rw [alike.handingOther.steady.projections] at firstOther
      have next := first.alike observes observesOther differ notes (fun _ member => member)
        firstOther alike
      exact ih rest next

end Alike

/-- Two systems in which a command with these events was answered have the same log, and whoever
sent the command or watches its events sees the same. -/
structure SameOutcome {View : Type} (ref : Ref .application) (receiver : Ref .aggregate)
    (events : List (Ref .event)) (kept : D.State → View) (stored left right : System D) :
    Prop where
  store : let store := (stored.applications.get ref).store
    right.stores.get store = left.stores.get store
  file : ∀ path clock octets,
    stored.stores.get (stored.applications.get ref).store = .disk path clock →
    stored.files.HasFile path octets →
    left.files.HasFile path octets ∧ right.files.HasFile path octets
  contents : ∀ event ∈ MemoryStore.eventsIn stored (stored.applications.get ref).store ++ events,
    contentIn right event = contentIn left event
  id : (right.aggregates.get receiver).id = (left.aggregates.get receiver).id
  domain : kept right.domain = kept left.domain
  received : ∀ name ∈ (stored.applications.get ref).projections.map Prod.fst,
    received ref name right = received ref name left

/-- A command whose events were stored is answered, whatever its projections raise, as long as
these leave the application and its log alone. Every projection has received every event in
order, and the failures reported are those of the calls that raised, in the order of the events
and then of the registration. If projections raise other faults or at other events, the answer
has the same events and the same id, the log is the same, and each projection has received the
same. -/
theorem send_isolates_projections {handlers : Handlers D} {ref : Ref .application}
    {command : Ref .command} {receiver : Ref .aggregate} {start found stored : System D}
    {events : List (Ref .event)} (finds : Finds handlers ref command start receiver found)
    (completes : Completes handlers ref command receiver found events stored)
    (made : (stored.applications.get ref).store.index < stored.stores.nextRef.index)
    (distinct : ((stored.applications.get ref).projections.map Prod.fst).Nodup)
    (observes : Observes handlers ref stored (Quiet ref)) :
    ∃ dispatches after log, HandsAll handlers ref events stored dispatches after ∧
      send handlers ref command start =
        (.ok (reportOf handlers receiver events dispatches after), { after with log }) ∧
      ∀ {View : Type} (changed : D.Projection → Ref .event → Act D Unit) (kept : D.State → View),
        let other := { handlers with onProject := changed }
        let listed := MemoryStore.eventsIn stored (stored.applications.get ref).store ++ events
        Observes other ref stored (Quiet ref) →
        DifferInFaults handlers other ref stored (exposed listed receiver kept) →
        ∃ others last log, HandsAll other ref events stored others last ∧
          send other ref command start =
            (.ok (reportOf other receiver events others last), { last with log }) ∧
          SameOutcome ref receiver events kept stored after last := by
  obtain ⟨dispatches, after, log, hands, steady, reported⟩ :=
    report_hands_all distinct observes command receiver events
  refine ⟨dispatches, after, log, hands, ?_, ?_⟩
  · rw [finds.send_eq, completes.deliver_eq, reported]
  · intro View changed kept other listed observesOther differ
    have findsOther : Finds other ref command start receiver found := finds
    have completesOther := completes.withProjections changed
    obtain ⟨others, last, logOther, handsOther, steadyOther, reportedOther⟩ :=
      report_hands_all distinct observesOther command receiver events
    refine ⟨others, last, logOther, handsOther, ?_, ?_⟩
    · rw [findsOther.send_eq, completesOther.deliver_eq, reportedOther]
    · have alike : Alike handlers other ref stored (exposed listed receiver kept) stored stored :=
        ⟨.refl handlers ref stored, .refl other ref stored, rfl⟩
      have same := (hands.course.alike observes observesOther differ (fun _ _ _ => rfl)
        handsOther.course alike).same
      rw [exposed, exposed, Prod.mk.injEq, Prod.mk.injEq] at same
      obtain ⟨contents, id, domain⟩ := same
      refine
        { store := (steadyOther.spares.held made).trans (steady.spares.held made).symm
          file := fun path clock octets disk there => ?_
          contents := fun event member => (List.map_inj_left.mp contents event member).symm
          id := id.symm
          domain := domain.symm
          received := fun name member => ?_ }
      · have stays := (steady.logged made path clock disk).1
        have staysOther := (steadyOther.logged made path clock disk).1
        rw [disk] at stays staysOther
        exact ⟨stays octets there, staysOther octets there⟩
      · rw [hands.received name member, handsOther.received name member]

/-- An application with a projection that raises and one that does not, and a command whose
receiver publishes two events. -/
def watchedTwo : System Domain.publishing :=
  (register ⟨0⟩ "copies" (some none) (publishingTwo (.mapping []))).2

/-- Code whose projections raise at the first event only. -/
def raisingAtFirst : Handlers Domain.publishing :=
  { Handlers.publishing with
    onProject := fun projection event =>
      if event = ⟨0⟩ then Handlers.publishing.onProject projection event else pure () }

section Raising

variable {ref : Ref .application} {start : System Domain.publishing}

private theorem observes_publishing : Observes Handlers.publishing ref start (Quiet ref) := by
  constructor
  · intro before after _ call
    cases call with
    | onProject event => exact keeps_onProject (quiet_newFault ref) _ event before
  · exact fun _ _ => onProject_publishing

private theorem raisingAtFirst_cases (projection : Domain.publishing.Projection)
    (event : Ref .event) (system : System Domain.publishing) :
    raisingAtFirst.onProject projection event system =
        Handlers.publishing.onProject projection event system ∨
      raisingAtFirst.onProject projection event system = (.ok (), system) := by
  by_cases first : event = ⟨0⟩
  · exact .inl (congrFun (if_pos first) system)
  · exact .inr (congrFun (if_neg first) system)

theorem observes_raisingAtFirst : Observes raisingAtFirst ref start (Quiet ref) := by
  constructor
  · intro before after _ call
    cases call with
    | @onProject _ projection event =>
      rcases raisingAtFirst_cases projection event before with same | same
      · rw [same]
        exact keeps_onProject (quiet_newFault ref) projection event before
      · rw [same]
        exact Act.Frame.refl before
  · intro system name projection event halt _ _ raised
    rcases raisingAtFirst_cases projection event system with same | same
    · rw [same] at raised
      exact onProject_publishing raised
    · rw [same] at raised
      cases raised

/-- A fault that is raised shows neither in an event nor in an aggregate. -/
private theorem differInFaults_publishing (listed : List (Ref .event))
    (receiver : Ref .aggregate) : DifferInFaults Handlers.publishing raisingAtFirst ref start
      (exposed listed receiver fun _ => ()) := by
  have unseen (projection : Domain.publishing.Projection) (event : Ref .event)
      (system : System Domain.publishing) :
      exposed listed receiver (fun _ => ())
          (Handlers.publishing.onProject projection event system).2 =
        exposed listed receiver (fun _ => ()) system := by
    cases projection <;> rfl
  intro left right name projection event _ _ _ same
  rw [unseen, same]
  rcases raisingAtFirst_cases projection event right with again | again
  · rw [again, unseen]
  · rw [again]

end Raising

/-- One projection raises at both events, or at the first of them only: then there are two failures
or one, and the events and what the projections receive are the same. -/
theorem send_isolates_projections_watchedTwo :
    ∃ result last otherResult otherLast,
      send Handlers.publishing ⟨0⟩ ⟨0⟩ watchedTwo = (.ok result, last) ∧
      send raisingAtFirst ⟨0⟩ ⟨0⟩ watchedTwo = (.ok otherResult, otherLast) ∧
      result.failures.length = 2 ∧ otherResult.failures.length = 1 ∧
      otherResult.events = result.events ∧ otherResult.aggregateId = result.aggregateId ∧
      ∀ name ∈ ["raises", "copies"],
        received ⟨0⟩ name last = [⟨0⟩, ⟨1⟩] ∧ received ⟨0⟩ name otherLast = [⟨0⟩, ⟨1⟩] := by
  let found := foundFrom Handlers.publishing ⟨0⟩ ⟨0⟩ watchedTwo
  have finds : Finds Handlers.publishing ⟨0⟩ ⟨0⟩ watchedTwo ⟨0⟩ found :=
    ⟨_, Act.run_of_answer (by decide +kernel), Act.run_of_answer (by decide +kernel)⟩
  have opens : Opens Handlers.publishing ⟨0⟩ ⟨0⟩ ⟨0⟩ found _ _ :=
    ⟨Act.run_of_answer (by decide +kernel), rfl⟩
  have executes : Executes Handlers.publishing ⟨0⟩ ⟨0⟩ ⟨0⟩ found _ [⟨0⟩, ⟨1⟩] :=
    ⟨_, _, opens, Act.run_of_answer (by decide +kernel), by decide +kernel⟩
  obtain ⟨stored, completes, made, names, unhanded⟩ : ∃ stored,
      Completes Handlers.publishing ⟨0⟩ ⟨0⟩ ⟨0⟩ found [⟨0⟩, ⟨1⟩] stored ∧
      (stored.applications.get ⟨0⟩).store.index < stored.stores.nextRef.index ∧
      (stored.applications.get ⟨0⟩).projections.map Prod.fst = ["raises", "copies"] ∧
      projectionCalls ⟨0⟩ stored = [] :=
    ⟨_, ⟨_, executes, Act.run_of_answer (by decide +kernel)⟩, by decide +kernel, by decide +kernel,
      by decide +kernel⟩
  obtain ⟨dispatches, after, log, hands, answered, changing⟩ :=
    send_isolates_projections finds completes made (by rw [names]; decide) observes_publishing
  obtain ⟨others, last, logOther, handsOther, answeredOther, same⟩ :=
    changing raisingAtFirst.onProject (fun _ => ()) observes_raisingAtFirst
      (differInFaults_publishing _ ⟨0⟩)
  have failures : (send Handlers.publishing ⟨0⟩ ⟨0⟩ watchedTwo).1.toOption.map
      (·.failures.length) = some 2 := by
    decide +kernel
  have failuresOther : (send raisingAtFirst ⟨0⟩ ⟨0⟩ watchedTwo).1.toOption.map
      (·.failures.length) = some 1 := by
    decide +kernel
  have answeredFirst : send raisingAtFirst ⟨0⟩ ⟨0⟩ watchedTwo = _ := answeredOther
  rw [answered] at failures
  rw [answeredFirst] at failuresOther
  refine ⟨_, _, _, _, answered, answeredFirst, Option.some.inj failures,
    Option.some.inj failuresOther, rfl, same.id, fun name registered => ?_⟩
  have handed := hands.received name (names ▸ registered)
  have handedOther := handsOther.received name (names ▸ registered)
  have before : received ⟨0⟩ name stored = [] := by
    rw [received, unhanded]
    rfl
  rw [before] at handed handedOther
  exact ⟨handed, handedOther⟩

end EventSourcing.Application
