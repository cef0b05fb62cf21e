import EventSourcing.Proofs.Application.AllOrNothing
import EventSourcing.Proofs.Application.Dispatching
import EventSourcing.Proofs.Application.Outcome

/-!
# The first stage that fails

A command goes through its stages in one order: it is acknowledged and its receiver found, the
receiver is given its history, the command is executed, the events that it published are stamped
one after another and stored, and every event is handed to the projections. `Unanswered` names
what is raised to the sender before there is a receiver, and `Stops` the first later stage that
fails, with the system in which it leaves off. The sender is answered by the very fault of that
stage, and nothing but the log differs from the system that the stage left: no later stage was
begun.
-/

set_option autoImplicit false

namespace EventSourcing.Application

variable {D : Domain}

section Stages

variable (handlers : Handlers D) (ref : Ref .application) (command : Ref .command)

/-- What keeps a command from being answered. Clocks show moments with an offset and factories
answer an aggregate; where they do not, the reading cannot name the command, or there is nothing
that could have an id. -/
inductive Unanswered (start : System D) : Halt → System D → Prop
  | reading {halt : Halt} {after : System D} :
      LiveEvent.now (start.applications.get ref).clock start = (.error halt, after) →
      Unanswered start halt after
  | offset {moment : Moment} {fault : Ref .fault} {after : System D} :
      LiveEvent.nextReading start (start.applications.get ref).clock = .ok moment →
      moment.unixNanoseconds? = none →
      Command.acknowledge command (start.applications.get ref).clock start =
        (.error (.raised fault), after) →
      after.faults.get fault = .mixedMoments →
      Unanswered start (.raised fault) after
  | target {acknowledged : System D} :
      Command.acknowledge command (start.applications.get ref).clock start =
        (.ok (), acknowledged) →
      (acknowledged.commands.get command).receiver = none →
      (acknowledged.commands.get command).factory = none →
      Unanswered start (.raised acknowledged.faults.nextRef) { acknowledged with
        faults := acknowledged.faults.push (.definition
          (.text (acknowledged.commands.get command).name) (.text "no target registered")) }
  | factory {acknowledged after : System D} {factory : D.Factory} {halt : Halt} :
      Command.acknowledge command (start.applications.get ref).clock start =
        (.ok (), acknowledged) →
      (acknowledged.commands.get command).receiver = none →
      (acknowledged.commands.get command).factory = some factory →
      handlers.construct factory command acknowledged = (.error halt, after) →
      Unanswered start halt after
  | missing {acknowledged found : System D} :
      Command.acknowledge command (start.applications.get ref).clock start =
        (.ok (), acknowledged) →
      Command.resolveReceiver handlers command acknowledged = (.ok none, found) →
      Unanswered start (.raised found.faults.nextRef)
        { found with faults := found.faults.push (.lacksAttribute "NoneType" "id") }

/-- The first stage that fails once a receiver was found, and the system in which it leaves
off. -/
inductive Stops (receiver : Ref .aggregate) (found : System D) : Halt → System D → Prop
  | replaying {halt : Halt} {after : System D} :
      rehydrate handlers (found.applications.get ref).store receiver found =
        (.error halt, after) →
      Stops receiver found halt after
  | executing {rehydrated about after : System D} {halt : Halt} :
      Opens handlers ref command receiver found rehydrated about →
      Command.execute handlers command about = (.error halt, after) →
      Stops receiver found halt after
  | stamping {ended stamped after : System D} {first rest : List (Ref .event)}
      {event : Ref .event} {halt : Halt} :
      Executes handlers ref command receiver found ended (first ++ event :: rest) →
      stampEach (found.applications.get ref).logger (found.applications.get ref).clock first
        ended = (.ok (), stamped) →
      LiveEvent.occur event (found.applications.get ref).clock stamped = (.error halt, after) →
      Stops receiver found halt after
  | storing {ended stamped after : System D} {events : List (Ref .event)} {halt : Halt} :
      Executes handlers ref command receiver found ended events →
      stampEach (found.applications.get ref).logger (found.applications.get ref).clock events
        ended = (.ok (), stamped) →
      Store.append handlers (found.applications.get ref).store events stamped =
        (.error halt, after) →
      Stops receiver found halt after

/-- No stage failed, and the events are stored. -/
def Completes (receiver : Ref .aggregate) (found : System D) (events : List (Ref .event))
    (stored : System D) : Prop :=
  ∃ ended, Executes handlers ref command receiver found ended events ∧
    commit handlers (found.applications.get ref) events ended = (.ok (), stored)

end Stages

section Stopping

variable {handlers : Handlers D} {ref : Ref .application} {command : Ref .command}
  {receiver : Ref .aggregate} {start found ended after stored : System D}
  {events : List (Ref .event)} {halt : Halt}

/-- Stamping stops at the first event that is not stamped. -/
private theorem stampEach_eq_error {logger : String} {clock : Ref .clock} {system : System D}
    (ran : stampEach logger clock events system = (.error halt, after)) :
    ∃ first event rest stamped, events = first ++ event :: rest ∧
      stampEach logger clock first system = (.ok (), stamped) ∧
      LiveEvent.occur event clock stamped = (.error halt, after) := by
  obtain ⟨first, event, rest, stamped, rfl, passed, stopped⟩ := Act.forEach_eq_error ran
  refine ⟨first, event, rest, stamped, rfl, passed, ?_⟩
  rcases shown : LiveEvent.occur event clock stamped with ⟨other | _, middle⟩
  · rw [Act.bind_of_error shown] at stopped
    exact stopped
  · rw [Act.bind_of_ok shown] at stopped
    cases stopped

/-- Events that are not stored are answered by what stopped them. -/
private theorem conclude_of_uncommitted {application : Application D}
    (ran : commit handlers application events ended = (.error halt, after)) :
    ∃ log, conclude handlers ref command application receiver events ended =
      (refusal halt, { after with log }) := by
  cases halt with
  | raised fault =>
    obtain ⟨message, concluded⟩ := conclude_of_raised ran
    exact ⟨_, concluded⟩
  | exhausted | unbound =>
    rw [conclude, Act.bind_of_error (Act.attempt_of_unraised ran (by simp))]
    exact ⟨after.log, rfl⟩

private theorem commit_of_unstamped {application : Application D} {system stamped : System D}
    {first : List (Ref .event)} {event : Ref .event} (rest : List (Ref .event))
    (passed : stampEach application.logger application.clock first system = (.ok (), stamped))
    (stopped : LiveEvent.occur event application.clock stamped = (.error halt, after)) :
    commit handlers application (first ++ event :: rest) system = (.error halt, after) := by
  rw [commit]
  apply Act.bind_of_error
  exact Act.forEach_of_error passed (Act.bind_of_error stopped)

theorem commit_eq_error {application : Application D}
    (ran : commit handlers application events ended = (.error halt, after)) :
    (∃ first event rest stamped, events = first ++ event :: rest ∧
      stampEach application.logger application.clock first ended = (.ok (), stamped) ∧
      LiveEvent.occur event application.clock stamped = (.error halt, after)) ∨
    ∃ stamped,
      stampEach application.logger application.clock events ended = (.ok (), stamped) ∧
      Store.append handlers application.store events stamped = (.error halt, after) := by
  rcases shown : stampEach application.logger application.clock events ended with
    ⟨other | _, stamped⟩
  · rw [commit, Act.bind_of_error shown] at ran
    cases ran
    exact .inl (stampEach_eq_error shown)
  · rw [commit, Act.bind_of_ok shown] at ran
    exact .inr ⟨stamped, rfl, ran⟩

/-- A command that stops is answered by what stopped it, and nothing else is done for it. -/
theorem Stops.deliver_eq (stops : Stops handlers ref command receiver found halt after) :
    ∃ log, deliver handlers ref command receiver found = (refusal halt, { after with log }) := by
  cases stops with
  | replaying unread => exact deliver_of_unread unread
  | executing opens refused => exact opens.deliver_of_error refused
  | stamping executes passed stopped =>
    rw [executes.deliver_eq]
    exact conclude_of_uncommitted (commit_of_unstamped _ passed stopped)
  | storing executes stamps refused =>
    have uncommitted : commit handlers (found.applications.get ref) _ _ = (.error halt, after) :=
      (Act.bind_of_ok stamps).trans refused
    rw [executes.deliver_eq]
    exact conclude_of_uncommitted uncommitted

/-- Once there is a receiver, some first stage fails or the events are stored. -/
theorem stops_or_completes (handlers : Handlers D) (ref : Ref .application)
    (command : Ref .command) (receiver : Ref .aggregate) (found : System D) :
    (∃ halt after, Stops handlers ref command receiver found halt after) ∨
      ∃ events stored, Completes handlers ref command receiver found events stored := by
  rcases rehydrates : rehydrate handlers (found.applications.get ref).store receiver found with
    ⟨halt | _, rehydrated⟩
  · exact .inl ⟨halt, rehydrated, .replaying rehydrates⟩
  have opens : Opens handlers ref command receiver found rehydrated _ := ⟨rehydrates, rfl⟩
  rcases handled : Command.execute handlers command
      (opened (found.applications.get ref).logger command receiver rehydrated) with
    ⟨halt | _, ended⟩
  · exact .inl ⟨halt, ended, .executing opens handled⟩
  obtain ⟨events, published⟩ :
      ∃ events, MemoryStore.eventsIn ended rehydrated.stores.nextRef = events := ⟨_, rfl⟩
  have executes : Executes handlers ref command receiver found ended events :=
    ⟨rehydrated, _, opens, handled, published⟩
  rcases committed : commit handlers (found.applications.get ref) events ended with
    ⟨halt | _, stored⟩
  · rcases commit_eq_error committed with ⟨first, event, rest, stamped, same, passed, stopped⟩ |
      ⟨stamped, stamps, refused⟩
    · rw [same] at executes
      exact .inl ⟨halt, stored, .stamping executes passed stopped⟩
    · exact .inl ⟨halt, stored, .storing executes stamps refused⟩
  · exact .inr ⟨_, stored, ended, executes, committed⟩

theorem Completes.deliver_eq
    (completes : Completes handlers ref command receiver found events stored) :
    deliver handlers ref command receiver found =
      report handlers ref command receiver events stored := by
  obtain ⟨ended, executes, committed⟩ := completes
  rw [executes.deliver_eq, conclude_of_stored committed]

theorem Unanswered.send_eq (unanswered : Unanswered handlers ref command start halt after) :
    send handlers ref command start = (.error halt, after) := by
  rw [send, Act.bind_of_ok (Act.read_run _ _)]
  cases unanswered with
  | reading read => exact Act.bind_of_error (Act.bind_of_error read)
  | offset _ _ acknowledges _ => exact Act.bind_of_error acknowledges
  | target acknowledges none undeclared =>
    rw [Act.bind_of_ok acknowledges]
    exact Act.bind_of_error (Command.resolveReceiver_of_no_factory none undeclared)
  | factory acknowledges none known constructs =>
    rw [Act.bind_of_ok acknowledges]
    apply Act.bind_of_error
    rw [Command.resolveReceiver_of_factory none known]
    exact Act.bind_of_error constructs
  | missing acknowledges resolves =>
    rw [Act.bind_of_ok acknowledges, Act.bind_of_ok resolves]
    rfl

/-- A command without a receiver is one that cannot be answered. -/
theorem unanswered_or_finds (handlers : Handlers D) (ref : Ref .application)
    (command : Ref .command) (start : System D) :
    (∃ halt after, Unanswered handlers ref command start halt after) ∨
      ∃ receiver found, Finds handlers ref command start receiver found := by
  rcases acknowledges : Command.acknowledge command (start.applications.get ref).clock start with
    ⟨halt | _, acknowledged⟩
  · left
    rcases Command.acknowledge_eq_error acknowledges with
      read | ⟨moment, fault, reading, naive, rfl, mixed⟩
    · exact ⟨halt, acknowledged, .reading read⟩
    · exact ⟨_, acknowledged, .offset reading naive acknowledges mixed⟩
  rcases resolves : Command.resolveReceiver handlers command acknowledged with
    ⟨halt | receiver, found⟩
  · left
    cases known : (acknowledged.commands.get command).receiver with
    | some aggregate =>
      rw [Command.resolveReceiver_of_receiver known] at resolves
      cases resolves
    | none =>
      cases factory : (acknowledged.commands.get command).factory with
      | none => exact ⟨_, _, .target acknowledges known factory⟩
      | some made =>
        rw [Command.resolveReceiver_of_factory known factory] at resolves
        rcases constructs : handlers.construct made command acknowledged with
          ⟨other | aggregate, after⟩
        · exact ⟨_, _, .factory acknowledges known factory constructs⟩
        · rw [Act.bind_of_ok constructs] at resolves
          cases resolves
  · cases receiver with
    | none => exact .inl ⟨_, _, .missing acknowledges resolves⟩
    | some receiver => exact .inr ⟨receiver, found, acknowledged, acknowledges, resolves⟩

end Stopping

/-- Sending a command raises what keeps it from being answered, and nothing else: a failed reading
of the clock, a missing target and a failed factory. A command with a receiver is answered once.
Where a stage fails, the answer has the very fault of the first one that does and is empty
otherwise, and the system is the one that this stage left, but for the log. Where none fails, the
answer has the receiver's id, the events, and what the projections raised, first of all the first
such fault. Whatever the domain's code does, the command takes one of these courses; only code
that does not come to an end leaves it without an answer. -/
theorem send_answers_earliest_failure (handlers : Handlers D) (ref : Ref .application)
    (command : Ref .command) (start : System D) :
    (∀ halt after, Unanswered handlers ref command start halt after →
      send handlers ref command start = (.error halt, after)) ∧
    (∀ receiver found, Finds handlers ref command start receiver found →
      (∀ fault after, Stops handlers ref command receiver found (.raised fault) after →
        ∃ log, send handlers ref command start =
          (.ok { error := some fault, aggregateId := "", events := [], failures := [] },
            { after with log })) ∧
      (∀ halt after, Stops handlers ref command receiver found halt after →
        (∀ fault, halt ≠ .raised fault) →
        ∃ log, send handlers ref command start = (.error halt, { after with log })) ∧
      (∀ events stored, Completes handlers ref command receiver found events stored →
        (∃ dispatches after log, Dispatches handlers ref events stored dispatches after ∧
          send handlers ref command start =
            (.ok {
              error := dispatches.findSome? (Dispatch.raised? handlers)
              aggregateId := (after.aggregates.get receiver).id
              events := events
              failures := dispatches.filterMap (Dispatch.failure? handlers) },
              { after with log })) ∨
        ∃ dispatch halt after, Dispatch.outcome handlers dispatch = (.error halt, after) ∧
          (∀ fault, halt ≠ .raised fault) ∧
          send handlers ref command start = (.error halt, after))) ∧
    ((∃ halt after, Unanswered handlers ref command start halt after) ∨
      ∃ receiver found, Finds handlers ref command start receiver found ∧
        ((∃ halt after, Stops handlers ref command receiver found halt after) ∨
          ∃ events stored, Completes handlers ref command receiver found events stored)) := by
  refine ⟨fun halt after => Unanswered.send_eq, ?_, ?_⟩
  · intro receiver found finds
    refine ⟨?_, ?_, ?_⟩
    · intro fault after stops
      obtain ⟨log, answered⟩ := stops.deliver_eq
      exact ⟨log, finds.send_eq.trans answered⟩
    · intro halt after stops unlike
      obtain ⟨log, answered⟩ := stops.deliver_eq
      refine ⟨log, finds.send_eq.trans ?_⟩
      cases halt with
      | raised fault => exact absurd rfl (unlike fault)
      | exhausted | unbound => exact answered
    · intro events stored completes
      rw [finds.send_eq, completes.deliver_eq]
      exact report_cases handlers ref command receiver events stored
  · rcases unanswered_or_finds handlers ref command start with unanswered | ⟨receiver, found, finds⟩
    · exact .inl unanswered
    · exact .inr ⟨receiver, found, finds, stops_or_completes handlers ref command receiver found⟩

/-- Two events are stamped, but the second cannot be sealed: the sender is answered by that fault,
and the projection that would have raised is not called. -/
theorem send_answers_earliest_failure_unsealable :
    let start := publishingTwo (.int 5)
    let found := foundFrom Handlers.publishing ⟨0⟩ ⟨0⟩ start
    ∃ fault after log,
      Stops Handlers.publishing ⟨0⟩ ⟨0⟩ ⟨0⟩ found (.raised fault) after ∧
      send Handlers.publishing ⟨0⟩ ⟨0⟩ start =
        (.ok { error := some fault, aggregateId := "", events := [], failures := [] },
          { after with log }) ∧
      projectionCalls ⟨0⟩ after = [] := by
  intro start found
  have finds : Finds Handlers.publishing ⟨0⟩ ⟨0⟩ start ⟨0⟩ found :=
    ⟨_, Act.run_of_answer (by decide +kernel), Act.run_of_answer (by decide +kernel)⟩
  have opens : Opens Handlers.publishing ⟨0⟩ ⟨0⟩ ⟨0⟩ found _ _ :=
    ⟨Act.run_of_answer (by decide +kernel), rfl⟩
  have executes : Executes Handlers.publishing ⟨0⟩ ⟨0⟩ ⟨0⟩ found _ [⟨0⟩, ⟨1⟩] :=
    ⟨_, _, opens, Act.run_of_answer (by decide +kernel), by decide +kernel⟩
  have stops : Stops Handlers.publishing ⟨0⟩ ⟨0⟩ ⟨0⟩ found (.raised ⟨1⟩) _ :=
    .storing executes (Act.run_of_answer (by decide +kernel))
      (Act.run_of_answer (by decide +kernel))
  obtain ⟨-, answers, -⟩ := send_answers_earliest_failure Handlers.publishing ⟨0⟩ ⟨0⟩ start
  obtain ⟨log, answered⟩ := (answers ⟨0⟩ found finds).1 ⟨1⟩ _ stops
  exact ⟨⟨1⟩, _, log, stops, answered, by decide +kernel⟩

end EventSourcing.Application
