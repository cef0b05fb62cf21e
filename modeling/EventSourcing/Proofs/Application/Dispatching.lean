import EventSourcing.Proofs.Application.Reporting

/-!
# Events handed to projections, one by one

Once the events of a command are stored, each of them is handed to every projection that is
registered when its turn comes. A `Dispatch` is one such call, with the system in which it is
made; `Dispatches` lists the calls that a batch leads to, in order. A batch that comes to an end
is reported by the faults of its calls alone, and it ends unless the code of a projection does
not.
-/

set_option autoImplicit false

namespace EventSourcing.Application

variable {D : Domain}

/-- A projection that is handed an event, in the system given. -/
structure Dispatch (D : Domain) where
  name : String
  projection : D.Projection
  event : Ref .event
  given : System D

namespace Dispatch

variable (handlers : Handlers D) (dispatch : Dispatch D)

def outcome : Except Halt Unit × System D :=
  handlers.onProject dispatch.projection dispatch.event dispatch.given

def raised? : Option (Ref .fault) :=
  match (dispatch.outcome handlers).1 with
  | .error (.raised fault) => some fault
  | _ => none

/-- What is reported about a fault, read in the system that the projection left. -/
def failure? : Option ProjectionFailure :=
  (dispatch.raised? handlers).map fun fault =>
    let after := (dispatch.outcome handlers).2
    let cause := after.faults.get fault
    { projection := dispatch.name, eventName := (LiveEvent.contentIn after dispatch.event).name
      error := cause.message, errorType := cause.className, exception := some fault }

/-- The projection returned or raised a fault. -/
def Ends : Prop :=
  ∀ halt, (dispatch.outcome handlers).1 = .error halt → ∃ fault, halt = .raised fault

theorem exception_failure? :
    (dispatch.failure? handlers).bind ProjectionFailure.exception = dispatch.raised? handlers := by
  rw [failure?]
  cases dispatch.raised? handlers with
  | none => rfl
  | some fault => rfl

/-- The first fault that is reported is the first one that was raised. -/
theorem findSome?_exception (dispatches : List (Dispatch D)) :
    (dispatches.filterMap (failure? handlers)).findSome? ProjectionFailure.exception =
      dispatches.findSome? (raised? handlers) := by
  induction dispatches with
  | nil => rfl
  | cons dispatch dispatches ih =>
    have exception := exception_failure? handlers dispatch
    rw [List.findSome?_cons, ← exception]
    cases failed : dispatch.failure? handlers with
    | none => rw [List.filterMap_cons_none failed, ih, Option.bind_none]
    | some failure =>
      rw [List.filterMap_cons_some failed, List.findSome?_cons, ih, Option.bind_some]

theorem filterMap_failure?_cons (dispatches : List (Dispatch D)) :
    (dispatch :: dispatches).filterMap (failure? handlers) =
      (dispatch.failure? handlers).toList ++ dispatches.filterMap (failure? handlers) := by
  cases failed : dispatch.failure? handlers with
  | none => rw [List.filterMap_cons_none failed]; rfl
  | some failure => rw [List.filterMap_cons_some failed]; rfl

theorem filterMap_failure?_eq_nil {dispatches : List (Dispatch D)} :
    dispatches.filterMap (failure? handlers) = [] ↔
      ∀ dispatch ∈ dispatches, dispatch.raised? handlers = none := by
  simp only [List.filterMap_eq_nil_iff, failure?, Option.map_eq_none_iff]

end Dispatch

section Courses

variable (handlers : Handlers D) (ref : Ref .application)

/-- The call of a projection, once it was recorded. -/
def dispatchTo (event : Ref .event) (entry : String × D.Projection) (log : Array LogRecord)
    (system : System D) : Dispatch D :=
  { name := entry.1, projection := entry.2, event
    given := { system with log, calls := system.calls.push (.project ref entry.1 event) } }

/-- The calls by which an event is handed to projections. Before and after each of them only
the log may grow. -/
inductive DispatchesEach (event : Ref .event) :
    List (String × D.Projection) → System D → List (Dispatch D) → System D → Prop
  | done {system : System D} : DispatchesEach event [] system [] system
  | next {entry : String × D.Projection} {entries : List (String × D.Projection)}
      {system after : System D} {dispatch : Dispatch D} {dispatches : List (Dispatch D)}
      (before further : Array LogRecord) :
      dispatch = dispatchTo ref event entry before system →
      dispatch.Ends handlers →
      DispatchesEach event entries { (dispatch.outcome handlers).2 with log := further }
        dispatches after →
      DispatchesEach event (entry :: entries) system (dispatch :: dispatches) after

/-- The calls by which events are handed over, each to the projections that are registered by
then. -/
inductive Dispatches : List (Ref .event) → System D → List (Dispatch D) → System D → Prop
  | done {system : System D} : Dispatches [] system [] system
  | next {event : Ref .event} {events : List (Ref .event)} {system middle after : System D}
      {first rest : List (Dispatch D)} :
      DispatchesEach handlers ref event (system.applications.get ref).projections system first
        middle →
      Dispatches events middle rest after →
      Dispatches (event :: events) system (first ++ rest) after

/-- How handing over ends: with the failures of its calls, or within a call that does not end. -/
inductive Reports (course : List (Dispatch D) → System D → Prop) :
    Except Halt (List ProjectionFailure) × System D → Prop
  | ended {dispatches : List (Dispatch D)} {after : System D} : course dispatches after →
      Reports course (.ok (dispatches.filterMap (Dispatch.failure? handlers)), after)
  | unended {dispatch : Dispatch D} {halt : Halt} {after : System D} :
      dispatch.outcome handlers = (.error halt, after) → (∀ fault, halt ≠ .raised fault) →
      Reports course (.error halt, after)

end Courses

section Projecting

variable {handlers : Handlers D} {ref : Ref .application} {event : Ref .event}
  {events : List (Ref .event)} {entries : List (String × D.Projection)} {system after : System D}

/-- How one call ends: the application goes on after a call that does, whatever it raised. -/
private theorem projectTo_cases (handlers : Handlers D) (ref : Ref .application)
    (logger : String) (event : Ref .event) (entry : String × D.Projection) (system : System D) :
    ∃ before, let dispatch := dispatchTo ref event entry before system
      (dispatch.Ends handlers ∧ ∃ further, projectTo handlers ref logger event entry.1 entry.2
        system = (.ok (dispatch.failure? handlers),
          { (dispatch.outcome handlers).2 with log := further })) ∨
      ∃ halt after, dispatch.outcome handlers = (.error halt, after) ∧
        (∀ fault, halt ≠ .raised fault) ∧
        projectTo handlers ref logger event entry.1 entry.2 system = (.error halt, after) := by
  let shown := (LiveEvent.contentIn system event).name.plain
  let log := system.log.push ⟨logger, .info, s!"PROJECT {shown} TO {entry.1}"⟩
  let dispatch := dispatchTo ref event entry log system
  refine ⟨log, ?_⟩
  rcases ran : handlers.onProject entry.2 event dispatch.given with ⟨halt | result, after⟩
  · have outcome : dispatch.outcome handlers = (.error halt, after) := ran
    cases halt with
    | raised fault =>
      refine .inl ⟨fun halt halted => ⟨fault, ?_⟩, ?_⟩
      · exact (Except.error.inj ((congrArg Prod.fst outcome).symm.trans halted)).symm
      · let content := LiveEvent.contentIn after event
        refine ⟨after.log.push ⟨logger, .error,
          s!"Projection failed: {entry.1} for {content.name.plain} " ++
            s!"(stream: {content.streamId.plain}): {(after.faults.get fault).message}"⟩, ?_⟩
        rw [Dispatch.failure?, Dispatch.raised?, outcome]
        show (Act.attempt (handlers.onProject entry.2 event) >>= _) dispatch.given = _
        rw [Act.bind_of_ok (Act.attempt_of_raised ran)]
        rfl
    | exhausted | unbound =>
      have attempted := Act.attempt_of_unraised ran fun fault => nofun
      refine .inr ⟨_, after, outcome, fun fault => nofun, ?_⟩
      show (Act.attempt (handlers.onProject entry.2 event) >>= _) dispatch.given = _
      rw [Act.bind_of_error attempted]
  · have outcome : dispatch.outcome handlers = (.ok result, after) := ran
    refine .inl ⟨fun halt halted => ?_, after.log, ?_⟩
    · exact nomatch (congrArg Prod.fst outcome).symm.trans halted
    · rw [Dispatch.failure?, Dispatch.raised?, outcome]
      show (Act.attempt (handlers.onProject entry.2 event) >>= _) dispatch.given = _
      rw [Act.bind_of_ok (Act.attempt_of_ok ran)]
      rfl

theorem projectEach_reports (handlers : Handlers D) (ref : Ref .application) (logger : String)
    (event : Ref .event) (entries : List (String × D.Projection)) (system : System D) :
    Reports handlers (DispatchesEach handlers ref event entries system)
      (projectEach handlers ref logger event entries system) := by
  induction entries generalizing system with
  | nil =>
    have here : DispatchesEach handlers ref event [] system [] system := .done
    exact .ended here
  | cons entry entries ih =>
    obtain ⟨before, ended | unended⟩ := projectTo_cases handlers ref logger event entry system
    · obtain ⟨ends, further, ran⟩ := ended
      let dispatch := dispatchTo ref event entry before system
      have rest := ih { (dispatch.outcome handlers).2 with log := further }
      rw [projectEach, Act.bind_of_ok ran]
      rcases shown : projectEach handlers ref logger event entries
        { (dispatch.outcome handlers).2 with log := further } with ⟨answer, after⟩
      rw [shown] at rest
      cases rest with
      | @ended dispatches _ course =>
        rw [Act.bind_of_ok shown, ← Dispatch.filterMap_failure?_cons]
        exact .ended (.next before further rfl ends course)
      | unended outcome unlike =>
        rw [Act.bind_of_error shown]
        exact .unended outcome unlike
    · obtain ⟨halt, after, outcome, unlike, ran⟩ := unended
      rw [projectEach, Act.bind_of_error ran]
      exact .unended outcome unlike

theorem projectAll_reports (handlers : Handlers D) (ref : Ref .application)
    (events : List (Ref .event)) (system : System D) :
    Reports handlers (Dispatches handlers ref events system)
      (projectAll handlers ref events system) := by
  induction events generalizing system with
  | nil =>
    have here : Dispatches handlers ref [] system [] system := .done
    exact .ended here
  | cons event events ih =>
    let application := system.applications.get ref
    have each := projectEach_reports handlers ref application.logger event application.projections
      system
    have projects : project handlers ref event system =
        projectEach handlers ref application.logger event application.projections system := rfl
    rw [← projects] at each
    rcases first : project handlers ref event system with ⟨answer, middle⟩
    rw [first] at each
    cases each with
    | unended outcome unlike =>
      rw [projectAll, Act.bind_of_error first]
      exact .unended outcome unlike
    | @ended before _ course =>
      have rest := ih middle
      rcases further : projectAll handlers ref events middle with ⟨answer, after⟩
      rw [further] at rest
      rw [projectAll, Act.bind_of_ok first]
      cases rest with
      | unended outcome unlike =>
        rw [Act.bind_of_error further]
        exact .unended outcome unlike
      | @ended dispatches _ courses =>
        rw [Act.bind_of_ok further, ← List.filterMap_append]
        exact .ended (.next course courses)

/-- What the sender is told once its events were handed over. -/
def reportOf (handlers : Handlers D) (receiver : Ref .aggregate) (events : List (Ref .event))
    (dispatches : List (Dispatch D)) (after : System D) : CommandResult :=
  { error := dispatches.findSome? (Dispatch.raised? handlers)
    aggregateId := (after.aggregates.get receiver).id
    events
    failures := dispatches.filterMap (Dispatch.failure? handlers) }

/-- A report says what its calls raised, and only a call that does not end prevents it. -/
theorem report_cases (handlers : Handlers D) (ref : Ref .application) (command : Ref .command)
    (receiver : Ref .aggregate) (events : List (Ref .event)) (system : System D) :
    (∃ dispatches after log, Dispatches handlers ref events system dispatches after ∧
      report handlers ref command receiver events system =
        (.ok (reportOf handlers receiver events dispatches after), { after with log })) ∨
    ∃ dispatch halt after, Dispatch.outcome handlers dispatch = (.error halt, after) ∧
      (∀ fault, halt ≠ .raised fault) ∧
      report handlers ref command receiver events system = (.error halt, after) := by
  have reports := projectAll_reports handlers ref events system
  rcases ran : projectAll handlers ref events system with ⟨answer, after⟩
  rw [ran] at reports
  cases reports with
  | @unended dispatch halt _ outcome unlike =>
    refine .inr ⟨dispatch, halt, after, outcome, unlike, ?_⟩
    rw [report, Act.bind_of_ok (Act.read_run _ _), Act.bind_of_error ran]
  | @ended dispatches _ course =>
    obtain ⟨log, reported⟩ := report_of_projected command receiver ran
    refine .inl ⟨dispatches, after, log, course, ?_⟩
    rw [reported, CommandResult.success, Dispatch.findSome?_exception, reportOf]

end Projecting

/-! ## What is kept while events are handed over -/

section Keeping

variable {handlers : Handlers D} {ref : Ref .application} {event : Ref .event}
  {events : List (Ref .event)} {entries : List (String × D.Projection)} {system after : System D}
  {dispatches : List (Dispatch D)} {relation : System D → System D → Prop} [Act.Frame relation]

private theorem DispatchesEach.relates
    (notes : ∀ (system : System D) log calls, relation system { system with log, calls })
    (course : DispatchesEach handlers ref event entries system dispatches after)
    (keeps : ∀ dispatch ∈ dispatches, relation dispatch.given (dispatch.outcome handlers).2) :
    relation system after := by
  induction course with
  | done => exact Act.Frame.refl _
  | @next entry entries system after dispatch dispatches before further made _ _ ih =>
    have called := keeps dispatch List.mem_cons_self
    have given : relation system dispatch.given := by
      rw [made]
      exact notes system before _
    have left := notes (dispatch.outcome handlers).2 further (dispatch.outcome handlers).2.calls
    have rest := ih fun other member => keeps other (.tail _ member)
    exact Act.Frame.trans given (Act.Frame.trans called (Act.Frame.trans left rest))

/-- What every call keeps, and records do not matter to, is kept by the whole batch. -/
theorem Dispatches.relates
    (notes : ∀ (system : System D) log calls, relation system { system with log, calls })
    (course : Dispatches handlers ref events system dispatches after)
    (keeps : ∀ dispatch ∈ dispatches, relation dispatch.given (dispatch.outcome handlers).2) :
    relation system after := by
  induction course with
  | done => exact Act.Frame.refl _
  | next first _ ih =>
    have each := first.relates notes fun dispatch member =>
      keeps dispatch (List.mem_append_left _ member)
    have rest := ih fun dispatch member => keeps dispatch (List.mem_append_right _ member)
    exact Act.Frame.trans each rest

end Keeping

end EventSourcing.Application
