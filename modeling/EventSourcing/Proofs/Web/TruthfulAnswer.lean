import EventSourcing.Proofs.Application.EarliestFailure
import EventSourcing.Proofs.Application.OwnHistory
import EventSourcing.Proofs.Command.Filling
import EventSourcing.Proofs.Web.Envelopes

/-!
# Answers tell what was stored

A request that posts a command is answered by what became of the store in memory of the
application. Either its events were appended, and the answer names them and their receiver,
whatever the projections raised; or nothing was appended and no projection was called, and the
answer tells the fault that stopped the command. A request by any other method changes nothing.
-/

set_option autoImplicit false

namespace EventSourcing.Application

variable {D : Domain}

/-! ## A store in memory that nothing was added to -/

/-- The store of an application holds what it held, and no projection of it was called. -/
structure Rests (ref : Ref .application) (store : Ref .store) (held : List (Ref .event))
    (called : List Call) (system : System D) : Prop where
  same : (system.applications.get ref).store = store
  made : store.index < system.stores.nextRef.index
  held : system.stores.get store = .memory held
  uncalled : projectionCalls ref system = called

/-- The code that a command leads to before its events are stored leaves the store alone and
sends nothing that would call a projection. -/
def KeepsAway (handlers : Handlers D) (ref : Ref .application) (command : Ref .command)
    (start : System D) : Prop :=
  ∀ before after, Calls handlers ref command start before after →
    Spares ref before after ∧ projectionCalls ref after = projectionCalls ref before

section Resting

variable {handlers : Handlers D} {ref : Ref .application} {command : Ref .command}
  {receiver : Ref .aggregate} {store : Ref .store} {held events : List (Ref .event)}
  {called : List Call} {start found ended after before stored : System D} {halt : Halt}

private theorem Rests.moved (before after : System D) (rests : Rests ref store held called before)
    (moves : Moves before after) : Rests ref store held called after where
  same := by
    rw [moves.applications]
    exact rests.same
  made := Nat.lt_of_lt_of_le rests.made moves.made
  held := (moves.kept store rests.made).trans rests.held
  uncalled := (moves.projected ref).trans rests.uncalled

private theorem Rests.spared (rests : Rests ref store held called before)
    (spares : Spares ref before after) :
    (after.applications.get ref).store = store ∧ store.index < after.stores.nextRef.index ∧
      after.stores.get store = .memory held := by
  obtain ⟨rfl, made, known, -⟩ := rests
  exact ⟨spares.store, spares.made made, (spares.held made).trans known⟩

private theorem Rests.calls (away : KeepsAway handlers ref command start)
    (calls : Calls handlers ref command start before after)
    (rests : Rests ref store held called before) : Rests ref store held called after := by
  obtain ⟨spares, uncalled⟩ := away before after calls
  obtain ⟨same, made, known⟩ := rests.spared spares
  exact ⟨same, made, known, uncalled.trans rests.uncalled⟩

private theorem Rests.lasts (away : KeepsAway handlers ref command start)
    (finds : Finds handlers ref command start receiver found)
    (rests : Rests ref store held called found) :
    Lasts handlers ref command receiver found Moves (Rests ref store held called) where
  native description := by
    rw [rests.same, rests.held]
    nofun
  moved := Rests.moved
  offered := Moves.of_offers
  served before after rests serves := rests.calls away (.serves finds serves)

private theorem Rests.atFound (away : KeepsAway handlers ref command start)
    (rests : Rests ref store held called start)
    (finds : Finds handlers ref command start receiver found) :
    Rests ref store held called found :=
  finds.lasts Rests.moved (fun acknowledges none made rests =>
    rests.calls away (.construct acknowledges none made)) rests

private theorem Rests.executes (lasts : Lasts handlers ref command receiver found Moves
      (Rests ref store held called))
    (rests : Rests ref store held called found)
    (executes : Executes handlers ref command receiver found ended events) :
    Rests ref store held called ended := by
  obtain ⟨rehydrated, about, opens, ran, -⟩ := executes
  have kept := lasts.execute rests opens
  rwa [ran] at kept

private theorem Rests.stamps {logger : String} {clock : Ref .clock} {answer : Except Halt Unit}
    (rests : Rests ref store held called before)
    (ran : stampEach logger clock events before = (answer, after)) :
    Rests ref store held called after := by
  have moves : Moves before _ := keeps_stampEach logger clock events before
  rw [ran] at moves
  exact rests.moved _ _ moves

/-- Storing open events in memory adds them to those held, or changes nothing in the store. -/
private theorem Rests.appends {answer : Except Halt Unit}
    (rests : Rests ref store held called before)
    (unsealed : ∀ event ∈ events, (before.events.get event).isSealed = false)
    (ran : Store.append handlers store events before = (answer, after)) :
    Rests ref store (match answer with | .ok () => held ++ events | .error _ => held) called
      after := by
  have uncalled (call : projectionCalls ref after = projectionCalls ref before) :
      projectionCalls ref after = called := call.trans rests.uncalled
  have noted : Call.isProjection ref (.storeEvents store events) = false := rfl
  rcases MemoryStore.append_cases handlers rests.held unsealed with
    ⟨known, appended, -, -⟩ | ⟨known, fault, faults, refused, -⟩
  · rw [appended] at ran
    cases ran
    refine ⟨rests.same, ?_, MemoryStore.get_storing rests.held events known, uncalled ?_⟩
    · show store.index < (before.stores.set store _).nextRef.index
      rw [Table.nextRef_set _ rests.made]
      exact rests.made
    · exact projectionCalls_push noted rfl
  · rw [refused] at ran
    cases ran
    exact ⟨rests.same, rests.made, rests.held, uncalled (projectionCalls_push noted rfl)⟩

/-- A command that stops has left the store and the projections alone. -/
private theorem Stops.rests (away : KeepsAway handlers ref command start)
    (finds : Finds handlers ref command start receiver found)
    (rests : Rests ref store held called found)
    (stops : Stops handlers ref command receiver found halt after) :
    Rests ref store held called after := by
  have lasts := Rests.lasts away finds rests
  cases stops with
  | replaying unread =>
    have kept := lasts.rehydrate rests
    rwa [unread] at kept
  | executing opens refused =>
    have kept := lasts.execute rests opens
    rwa [refused] at kept
  | @stamping ended stamped _ first rest event _ executes passed stopped =>
    have kept := (Rests.executes lasts rests executes).stamps passed
    have moves : Moves stamped _ :=
      LiveEvent.keeps_occur Discreet.newFault (Discreet.ticked (found.applications.get ref).clock)
        (fun moment system => Discreet.restamp event moment system) stamped
    rw [stopped] at moves
    exact kept.moved _ _ moves
  | storing executes stamps refused =>
    have kept := (Rests.executes lasts rests executes).stamps stamps
    have stamped := stampEach_eq_ok stamps
    rw [rests.same] at refused
    refine kept.appends (fun event member => ?_) refused
    rw [stamped.isSealed_eq]
    exact stamped.unsealed event member

/-- A command that completes has added its events to the store, and called no projection yet. -/
private theorem Completes.rests (away : KeepsAway handlers ref command start)
    (finds : Finds handlers ref command start receiver found)
    (rests : Rests ref store held called found)
    (completes : Completes handlers ref command receiver found events stored) :
    Rests ref store (held ++ events) called stored := by
  obtain ⟨ended, executes, committed⟩ := completes
  obtain ⟨_, stamped, stamps, appended⟩ := Act.bind_eq_ok committed
  have kept := (Rests.executes (Rests.lasts away finds rests) rests executes).stamps stamps
  have opened := stampEach_eq_ok stamps
  rw [rests.same] at appended
  refine kept.appends (fun event member => ?_) appended
  rw [opened.isSealed_eq]
  exact opened.unsealed event member

end Resting

/-! ## The two kinds of answers -/

section Telling

variable (handlers : Handlers D) (ref : Ref .application) (command : Ref .command)
  (receiver : Ref .aggregate) (found : System D)

/-- The events of a command were appended to the store and handed to the projections. The answer
tells the receiver's id and the events' names; it is a success if no projection raised, and
otherwise names the failures, under the message of the first fault. -/
def TellsStored (held : List (Ref .event)) (response : Response) (after : System D) : Prop :=
  ∃ events stored dispatches projected names log,
    Completes handlers ref command receiver found events stored ∧
    Dispatches handlers ref events stored dispatches projected ∧
    after = { projected with log } ∧
    after.stores.get (after.applications.get ref).store = .memory (held ++ events) ∧
    events.map (fun event => (LiveEvent.contentIn after event).name) = names.map .text ∧
    (response.status = 200 ↔ ∀ dispatch ∈ dispatches, dispatch.raised? handlers = none) ∧
    (response = .ofJson 200 (Envelope.successJson
        (Envelope.storedMembers (after.aggregates.get receiver).id names)) ∨
      ∃ fault failures, dispatches.findSome? (Dispatch.raised? handlers) = some fault ∧
        response = .ofJson 500 (Envelope.failureJson "PROJECTION_FAILED"
          (after.faults.get fault).message
          (Envelope.failedMembers (after.aggregates.get receiver).id names failures)))

/-- A stage failed before the events were stored, so that the store is as it was and no projection
was called. The answer tells the fields of a validation error, and of another fault its
message. -/
def TellsRefused (start : System D) (held : List (Ref .event)) (response : Response)
    (after : System D) : Prop :=
  ∃ fault stopped log, Stops handlers ref command receiver found (.raised fault) stopped ∧
    after = { stopped with log } ∧
    after.stores.get (after.applications.get ref).store = .memory held ∧
    projectionCalls ref after = projectionCalls ref start ∧
    ((∃ errors, stopped.faults.get fault = .validation errors ∧
      response = .ofJson 400 (Envelope.failureJson "VALIDATION_FAILED"
        (Fault.validation errors).message (Envelope.errorMembers errors))) ∨
    (∀ errors, stopped.faults.get fault ≠ .validation errors) ∧
      response = .ofJson 500 (Envelope.failureJson "COMMAND_FAILED"
        (stopped.faults.get fault).message []))

/-- Projections leave the store alone, and the events that are stored have texts as their names
when the sender is answered. -/
structure ShowsEvents : Prop where
  spares : ∀ {events stored dispatches after},
    Completes handlers ref command receiver found events stored →
    Dispatches handlers ref events stored dispatches after →
    ∀ dispatch ∈ dispatches, Spares ref dispatch.given (dispatch.outcome handlers).2
  named : ∀ {events stored dispatches after},
    Completes handlers ref command receiver found events stored →
    Dispatches handlers ref events stored dispatches after →
    ∀ event ∈ events, ∃ name, (LiveEvent.contentIn after event).name = .text name

end Telling

section Answering

variable {handlers : Handlers D} {ref : Ref .application} {command : Ref .command}
  {receiver : Ref .aggregate} {store : Ref .store} {held events : List (Ref .event)}
  {start found after stored : System D} {response : Response}

private theorem tellsRefused (away : KeepsAway handlers ref command start)
    (finds : Finds handlers ref command start receiver found)
    (rests : Rests ref store held (projectionCalls ref start) found)
    {fault : Ref .fault} {stopped : System D} {log : Array LogRecord}
    (stops : Stops handlers ref command receiver found (.raised fault) stopped)
    (ran : Response.ofResult (.failure fault) { stopped with log } = (.ok response, after)) :
    TellsRefused handlers ref command receiver found start held response after := by
  have kept := stops.rests away finds rests
  have known : stopped.stores.get (stopped.applications.get ref).store = .memory held := by
    rw [kept.same]
    exact kept.held
  by_cases invalid : ∃ errors, stopped.faults.get fault = .validation errors
  · obtain ⟨errors, validation⟩ := invalid
    have told : Response.ofResult (.failure fault) { stopped with log } = _ :=
      Response.ofResult_of_validation validation
    cases told.symm.trans ran
    exact ⟨fault, stopped, log, stops, rfl, known, kept.uncalled, .inl ⟨errors, validation, rfl⟩⟩
  · have unlike (errors : FieldErrors) : stopped.faults.get fault ≠ .validation errors :=
      fun same => invalid ⟨errors, same⟩
    have told : Response.ofResult (.failure fault) { stopped with log } = _ :=
      Response.ofResult_of_other unlike
    cases told.symm.trans ran
    exact ⟨fault, stopped, log, stops, rfl, known, kept.uncalled, .inr ⟨unlike, rfl⟩⟩

private theorem tellsStored (away : KeepsAway handlers ref command start)
    (finds : Finds handlers ref command start receiver found)
    (rests : Rests ref store held (projectionCalls ref start) found)
    (shows : ShowsEvents handlers ref command receiver found)
    {dispatches : List (Dispatch D)} {projected : System D} {log : Array LogRecord}
    (completes : Completes handlers ref command receiver found events stored)
    (course : Dispatches handlers ref events stored dispatches projected)
    (ran : Response.ofResult (reportOf handlers receiver events dispatches projected)
      { projected with log } = (.ok response, after)) :
    TellsStored handlers ref command receiver found held response after := by
  have spares : Spares ref stored projected :=
    course.relates (fun system log calls => .of_stores rfl rfl) (shows.spares completes course)
  obtain ⟨same, -, known⟩ := (completes.rests away finds rests).spared spares
  rw [← same] at known
  obtain ⟨names, named⟩ := Response.exists_names (shows.named completes course)
  obtain ⟨last, noted⟩ : ∃ last : System D, last = { projected with log } := ⟨_, rfl⟩
  have namedLast : events.map (fun event => (LiveEvent.contentIn last event).name) =
      names.map .text := by
    rw [noted]
    exact named
  rw [← noted, reportOf] at ran
  have raised : dispatches.findSome? (Dispatch.raised? handlers) = none ↔
      ∀ dispatch ∈ dispatches, dispatch.raised? handlers = none :=
    List.findSome?_eq_none_iff
  have failed : dispatches.filterMap (Dispatch.failure? handlers) = [] ↔
      ∀ dispatch ∈ dispatches, dispatch.raised? handlers = none :=
    Dispatch.filterMap_failure?_eq_nil handlers
  cases first : dispatches.findSome? (Dispatch.raised? handlers) with
  | none =>
    have quiet := raised.mp first
    rw [first, failed.mpr quiet, Response.ofResult_of_stored namedLast] at ran
    cases ran
    rw [noted]
    exact ⟨events, stored, dispatches, projected, names, log, completes, course, rfl, known, named,
      iff_of_true rfl quiet, .inl rfl⟩
  | some fault =>
    have loud : ¬ ∀ dispatch ∈ dispatches, dispatch.raised? handlers = none := by
      intro quiet
      cases first.symm.trans (raised.mpr quiet)
    have unlike : 500 ≠ 200 := by decide
    rw [first] at ran
    obtain ⟨rfl, failures, -, rfl⟩ :=
      Response.ofResult_of_failures namedLast (fun none => loud (failed.mp none)) ran
    rw [noted]
    exact ⟨events, stored, dispatches, projected, names, log, completes, course, rfl, known, named,
      iff_of_false unlike loud, .inr ⟨fault, failures, first, rfl⟩⟩

/-- The answer to a result tells what became of the command. -/
private theorem tells_of_ran {answered : System D} {result : CommandResult}
    (away : KeepsAway handlers ref command start)
    (shows : ∀ receiver found, Finds handlers ref command start receiver found →
      ShowsEvents handlers ref command receiver found)
    (rests : Rests ref store held (projectionCalls ref start) start)
    (sent : send handlers ref command start = (.ok result, answered))
    (ran : Response.ofResult result answered = (.ok response, after)) :
    ∃ receiver found, Finds handlers ref command start receiver found ∧
      (TellsStored handlers ref command receiver found held response after ∨
        TellsRefused handlers ref command receiver found start held response after) := by
  rcases unanswered_or_finds handlers ref command start with
    ⟨halt, stopped, unanswered⟩ | ⟨receiver, found, finds⟩
  · rw [unanswered.send_eq] at sent
    cases sent
  refine ⟨receiver, found, finds, ?_⟩
  have reached := rests.atFound away finds
  rw [finds.send_eq] at sent
  rcases stops_or_completes handlers ref command receiver found with
    ⟨halt, stopped, stops⟩ | ⟨events, stored, completes⟩
  · obtain ⟨log, refused⟩ := stops.deliver_eq
    rw [refused] at sent
    cases halt with
    | raised fault =>
      cases sent
      exact .inr (tellsRefused away finds reached stops ran)
    | exhausted | unbound => cases sent
  · rw [completes.deliver_eq] at sent
    rcases report_cases handlers ref command receiver events stored with
      ⟨dispatches, projected, log, course, reported⟩ | ⟨dispatch, halt, stopped, -, -, reported⟩
    · cases reported.symm.trans sent
      exact .inl (tellsStored away finds reached (shows receiver found finds) completes course ran)
    · cases reported.symm.trans sent

end Answering

/-- A request that posts a command is answered by the truth about the store: it tells the events
that were appended, whatever the projections raised, or else the fault that stopped the command,
and then nothing was appended and no projection called. Another request is not allowed, and
changes nothing. -/
theorem view_answers_truthfully (handlers : Handlers D) {ref : Ref .application}
    {definition : Ref .definition} {body query : List (String × String)} {start : System D}
    {held : List (Ref .event)}
    (holds : start.stores.get (start.applications.get ref).store = .memory held)
    (made : (start.applications.get ref).store.index < start.stores.nextRef.index)
    (away : ∀ command filled,
      Command.ofForm definition (.request body query) start = (.ok command, filled) →
      KeepsAway handlers ref command filled)
    (shows : ∀ command filled receiver found,
      Command.ofForm definition (.request body query) start = (.ok command, filled) →
      Finds handlers ref command filled receiver found →
      ShowsEvents handlers ref command receiver found) (method : String) :
    (method ≠ "POST" → View.call handlers ref definition method body query start =
      (.ok { status := 405, contentType := "text/html; charset=utf-8", allow := some "POST"
             body := "" }, start)) ∧
    (method = "POST" → ∀ response after,
      View.call handlers ref definition method body query start = (.ok response, after) →
      ∃ command filled receiver found,
        Command.ofForm definition (.request body query) start = (.ok command, filled) ∧
        Finds handlers ref command filled receiver found ∧
        (TellsStored handlers ref command receiver found held response after ∨
          TellsRefused handlers ref command receiver found start held response after)) := by
  constructor
  · intro other
    rw [View.call, View.method, if_neg other]
    rfl
  · rintro rfl response after answered
    rw [View.call, View.method, if_pos rfl] at answered
    obtain ⟨command, filled, formed, answered⟩ := Act.bind_eq_ok answered
    obtain ⟨result, sent, sends, told⟩ := Act.bind_eq_ok answered
    -- Making the command touches neither the store nor the record of calls.
    have left := Command.ofForm_leaves definition (.request body query) start
    rw [formed] at left
    obtain ⟨applications, stores, calls⟩ := Prod.mk.inj left |>.imp_right Prod.mk.inj
    have uncalled : projectionCalls ref filled = projectionCalls ref start := by
      rw [projectionCalls, calls, projectionCalls]
    have rests : Rests ref (start.applications.get ref).store held (projectionCalls ref filled)
        filled := by
      refine ⟨?_, ?_, ?_, rfl⟩
      · rw [applications]
      · rw [stores]
        exact made
      · rw [stores]
        exact holds
    obtain ⟨receiver, found, finds, tells⟩ :=
      tells_of_ran (away command filled formed) (fun receiver found => shows _ _ _ _ formed) rests
        sends told
    refine ⟨command, filled, receiver, found, formed, finds, tells.imp_right ?_⟩
    rintro ⟨fault, stopped, log, stops, rfl, stored, same, refused⟩
    exact ⟨fault, stopped, log, stops, rfl, stored, same.trans uncalled, refused⟩

/-- An application over an empty store, with a projection that raises a validation error, and a
definition whose receiver publishes two events. -/
def posting : System Domain.publishing :=
  { publishingTwo (.mapping []) with
    parameters := ⟨#[.identifier ""]⟩
    definitions := ⟨#[{
      name := "add", fields := [("id", ⟨0⟩)], idField := "id", factory := some ⟨0⟩ }]⟩
    applications := ⟨#[{
      name := .text "app", store := ⟨0⟩, clock := ⟨0⟩, logger := "app"
      projections := [("raises", some (.validation [("id", ["wrong"])]))] }]⟩ }

section Posting

variable {ref : Ref .application} {command : Ref .command} {receiver : Ref .aggregate}
  {filled found : System Domain.publishing}

private theorem keepsAway_publishing {held : List (Ref .event)} (unbound : Unbound ref filled)
    (holds : filled.stores.get (filled.applications.get ref).store = .memory held) :
    KeepsAway Handlers.publishing ref command filled := by
  intro before after calls
  refine ⟨(undisturbed_publishing unbound holds calls).spares, ?_⟩
  cases calls with
  | construct => rfl
  | serves finds serves =>
    have publishes (aggregate : Ref .aggregate) (event : Ref .event) :
        Act.Keeps (Act.Same (projectionCalls ref))
          (Aggregate.publish (D := Domain.publishing) aggregate event) :=
      Aggregate.keeps_publish (fun _ _ => rfl) (fun _ _ _ => rfl) aggregate event
    exact serves_publishing publishes serves

/-- The command that a request makes has the place behind those that exist. -/
private theorem formed_posting
    (formed : Command.ofForm ⟨0⟩ (.request [("id", "x")] []) posting = (.ok command, filled)) :
    command = ⟨1⟩ ∧ (Command.ofForm ⟨0⟩ (.request [("id", "x")] []) posting).2 = filled := by
  have known : (Command.ofForm ⟨0⟩ (.request [("id", "x")] []) posting).1 = .ok ⟨1⟩ := by
    decide +kernel
  rw [formed] at known
  rw [formed]
  exact ⟨Except.ok.inj known, rfl⟩

private theorem eq_text_of_text? {datum : Datum} {name : String} (shown : datum.text? = some name) :
    datum = .text name := by
  cases datum with
  | text value => exact congrArg Datum.text (Option.some.inj shown)
  | _ => cases shown

/-- The two events that are stored have names, and projections leave them alone. -/
private theorem showsEvents_posting
    (same : (Command.ofForm ⟨0⟩ (.request [("id", "x")] []) posting).2 = filled)
    (finds : Finds Handlers.publishing ⟨0⟩ ⟨1⟩ filled receiver found) :
    ShowsEvents Handlers.publishing ⟨0⟩ ⟨1⟩ receiver found := by
  have raises {relation : System Domain.publishing → System Domain.publishing → Prop}
      [Act.Frame relation] (making : ∀ fault, Act.Keeps relation (Act.newFault fault))
      (dispatch : Dispatch Domain.publishing) :
      relation dispatch.given (dispatch.outcome Handlers.publishing).2 :=
    keeps_onProject making dispatch.projection dispatch.event dispatch.given
  constructor
  · intro events stored dispatches after _ _ dispatch _
    exact raises (fun fault system => (aside_newFault ⟨0⟩ fault system).spares) dispatch
  · intro events stored dispatches after completes course event member
    let shown (system : System Domain.publishing) := system.events
    have unchanged : Act.Same shown stored after :=
      course.relates (fun _ _ _ => rfl) fun dispatch _ => raises (fun _ _ => rfl) dispatch
    have unchanged : after.events = stored.events := unchanged
    obtain ⟨ended, executes, committed⟩ := completes
    obtain rfl := same
    obtain rfl := finds.found_eq
    obtain rfl : ⟨0⟩ = receiver := by
      refine Option.some.inj (Eq.trans ?_ finds.receiver_eq)
      decide +kernel
    obtain ⟨rfl, rfl⟩ : ended = _ ∧ events = [⟨0⟩, ⟨1⟩] :=
      executes.unique ⟨_, _, ⟨Act.run_of_answer (by decide +kernel), rfl⟩,
        Act.run_of_answer (by decide +kernel), by decide +kernel⟩
    obtain rfl := congrArg Prod.snd committed
    refine ⟨"added", eq_text_of_text? ?_⟩
    show (after.events.get event).name.text? = some "added"
    rw [unchanged]
    rcases List.mem_cons.mp member with rfl | member
    · decide +kernel
    · rw [List.mem_singleton.mp member]
      decide +kernel

end Posting

/-- Although the projection raises a validation error, the answer tells the two events that were
stored. -/
theorem view_answers_truthfully_posted :
    let answer := View.call Handlers.publishing ⟨0⟩ ⟨0⟩ "POST" [("id", "x")] [] posting
    ∃ response after command receiver found, answer = (.ok response, after) ∧
      response.status = 500 ∧
      MemoryStore.eventsIn after (after.applications.get ⟨0⟩).store = [⟨0⟩, ⟨1⟩] ∧
      TellsStored Handlers.publishing ⟨0⟩ command receiver found [] response after := by
  intro answer
  have status : answer.1.toOption.map (·.status) = some 500 := by
    decide +kernel
  have stored : MemoryStore.eventsIn answer.2 (answer.2.applications.get ⟨0⟩).store =
      [⟨0⟩, ⟨1⟩] := by
    decide +kernel
  rcases answered : answer with ⟨halt | response, after⟩
  · rw [answered] at status
    cases status
  rw [answered] at status stored
  have unbound (filled : System Domain.publishing)
      (same : (Command.ofForm ⟨0⟩ (.request [("id", "x")] []) posting).2 = filled) :
      Unbound ⟨0⟩ filled := by
    subst same
    exact unbound_of_all (by decide +kernel) (by decide +kernel)
  have away (command : Ref .command) (filled : System Domain.publishing)
      (formed : Command.ofForm ⟨0⟩ (.request [("id", "x")] []) posting = (.ok command, filled)) :
      KeepsAway Handlers.publishing ⟨0⟩ command filled := by
    obtain ⟨rfl, same⟩ := formed_posting formed
    exact keepsAway_publishing (unbound filled same) (by subst same; rfl)
  have holds : posting.stores.get (posting.applications.get ⟨0⟩).store = .memory [] := rfl
  have made : (posting.applications.get ⟨0⟩).store.index < posting.stores.nextRef.index :=
    Nat.zero_lt_one
  obtain ⟨-, posts⟩ := view_answers_truthfully Handlers.publishing holds made away
    (fun command filled receiver found formed finds => by
      obtain ⟨rfl, same⟩ := formed_posting formed
      exact showsEvents_posting same finds) "POST"
  obtain ⟨command, filled, receiver, found, formed, finds, tells⟩ :=
    posts rfl response after answered
  refine ⟨response, after, command, receiver, found, rfl, Option.some.inj status, stored, ?_⟩
  rcases tells with tells | ⟨fault, stopped, log, -, -, empty, -⟩
  · exact tells
  · rw [MemoryStore.eventsIn, empty] at stored
    cases stored

end EventSourcing.Application
