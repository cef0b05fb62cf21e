import EventSourcing.Proofs.Application.Course

/-!
# How the sending of a command ends

What the result of a command says about its course. A command that has come to an end either
has failed before its events were stored, or they were stored and reported, and then the result
names the receiver and the events. Going the other way, a command whose events are known when
it was executed goes on with its last step, and the systems that a command comes to are functions
of the first one.
-/

set_option autoImplicit false

namespace EventSourcing.Application

variable {D : Domain} {handlers : Handlers D} {ref : Ref .application} {command : Ref .command}
  {receiver : Ref .aggregate} {start found ended after : System D} {events : List (Ref .event)}
  {result : CommandResult}

section Stages

variable (handlers : Handlers D) (ref : Ref .application) (command : Ref .command)
  (receiver : Ref .aggregate) (start : System D)

/-- The system in which the receiver of a command is found, if one is. -/
def foundFrom : System D :=
  let acknowledged := (Command.acknowledge command (start.applications.get ref).clock start).2
  (Command.resolveReceiver handlers command acknowledged).2

/-- The system in which the receiver has its history, if it can be given one. -/
def rehydratedFrom : System D :=
  let found := foundFrom handlers ref command start
  (rehydrate handlers (found.applications.get ref).store receiver found).2

/-- The system in which the command is about to be executed. -/
def aboutFrom : System D :=
  let application := (foundFrom handlers ref command start).applications.get ref
  opened application.logger command receiver (rehydratedFrom handlers ref command receiver start)

end Stages

theorem Finds.found_eq (finds : Finds handlers ref command start receiver found) :
    foundFrom handlers ref command start = found := by
  obtain ⟨acknowledged, acknowledges, resolves⟩ := finds
  obtain rfl : _ = acknowledged := congrArg Prod.snd acknowledges
  exact congrArg Prod.snd resolves

/-- What is known for a command when its receiver is found is the receiver. -/
theorem Finds.receiver_eq (finds : Finds handlers ref command start receiver found) :
    ((foundFrom handlers ref command start).commands.get command).receiver = some receiver := by
  rw [finds.found_eq]
  obtain ⟨acknowledged, -, resolves⟩ := finds
  exact Command.receiver_of_resolved resolves

theorem Opens.systems_eq {rehydrated about : System D}
    (finds : Finds handlers ref command start receiver found)
    (opens : Opens handlers ref command receiver found rehydrated about) :
    rehydratedFrom handlers ref command receiver start = rehydrated ∧
      aboutFrom handlers ref command receiver start = about := by
  obtain ⟨rehydrates, rfl⟩ := opens
  have same : rehydratedFrom handlers ref command receiver start = rehydrated := by
    rw [rehydratedFrom, finds.found_eq]
    exact congrArg Prod.snd rehydrates
  refine ⟨same, ?_⟩
  rw [aboutFrom, finds.found_eq, same]

theorem Finds.send_eq (finds : Finds handlers ref command start receiver found) :
    send handlers ref command start = deliver handlers ref command receiver found := by
  obtain ⟨acknowledged, acknowledges, resolves⟩ := finds
  rw [send, Act.bind_of_ok (Act.read_run _ _), Act.bind_of_ok acknowledges,
    Act.bind_of_ok resolves]

/-- What is left to do once a command was executed. -/
private def finish (handlers : Handlers D) (ref : Ref .application) (command : Ref .command)
    (application : Application D) (receiver : Ref .aggregate) (transaction : Ref .store) :
    Except (Ref .fault) Unit → Act D CommandResult
  | .error fault => do
    let message ← Act.messageOf fault
    Act.logRecord application.logger .info s!"DENY {message}"
    return .failure fault
  | .ok () => do
    conclude handlers ref command application receiver (← MemoryStore.events transaction)

private theorem Opens.deliver_eq {rehydrated about : System D}
    (opens : Opens handlers ref command receiver found rehydrated about) :
    deliver handlers ref command receiver found =
      (Act.attempt (Command.execute handlers command) >>=
        finish handlers ref command (found.applications.get ref) receiver
          rehydrated.stores.nextRef) about := by
  obtain ⟨rehydrates, rfl⟩ := opens
  rw [deliver, Act.bind_of_ok (Act.read_run _ _), Act.bind_of_ok (Act.attempt_of_ok rehydrates)]
  rfl

theorem Executes.deliver_eq
    (executes : Executes handlers ref command receiver found ended events) :
    deliver handlers ref command receiver found =
      conclude handlers ref command (found.applications.get ref) receiver events ended := by
  obtain ⟨rehydrated, about, opens, handled, rfl⟩ := executes
  rw [opens.deliver_eq, Act.bind_of_ok (Act.attempt_of_ok handled)]
  rfl

/-- The answer to a command that stopped: a fault is reported. -/
def refusal : Halt → Except Halt CommandResult
  | .raised fault => .ok (.failure fault)
  | other => .error other

private theorem failure_of_refusal {halt : Halt} (answered : refusal halt = .ok result) :
    ∃ fault, result = .failure fault := by
  cases halt with
  | raised fault =>
      cases answered
      exact ⟨fault, rfl⟩
  | exhausted | unbound => cases answered

/-- A command whose receiver cannot be given its history is answered by what stopped it. -/
theorem deliver_of_unread {halt : Halt}
    (ran : rehydrate handlers (found.applications.get ref).store receiver found =
      (.error halt, after)) :
    ∃ log, deliver handlers ref command receiver found = (refusal halt, { after with log }) := by
  rw [deliver, Act.bind_of_ok (Act.read_run _ _)]
  cases halt with
  | raised fault =>
      rw [Act.bind_of_ok (Act.attempt_of_raised ran)]
      exact ⟨_, rfl⟩
  | exhausted | unbound =>
      rw [Act.bind_of_error (Act.attempt_of_unraised ran (by simp))]
      exact ⟨after.log, rfl⟩

/-- A command that is not executed is answered by what stopped it. -/
theorem Opens.deliver_of_error {rehydrated about : System D} {halt : Halt}
    (opens : Opens handlers ref command receiver found rehydrated about)
    (ran : Command.execute handlers command about = (.error halt, after)) :
    ∃ log, deliver handlers ref command receiver found = (refusal halt, { after with log }) := by
  rw [opens.deliver_eq]
  cases halt with
  | raised fault =>
      rw [Act.bind_of_ok (Act.attempt_of_raised ran)]
      exact ⟨_, rfl⟩
  | exhausted | unbound =>
      rw [Act.bind_of_error (Act.attempt_of_unraised ran (by simp))]
      exact ⟨after.log, rfl⟩

/-- A report names the receiver, by the id that it has in the end, and the events. -/
theorem report_eq_ok
    (ran : report handlers ref command receiver events start = (.ok result, after)) :
    ∃ failures, result = .success (after.aggregates.get receiver).id events failures := by
  obtain ⟨application, _, read, ran⟩ := Act.bind_eq_ok ran
  obtain ⟨failures, projected, projects, ran⟩ := Act.bind_eq_ok ran
  cases none : failures.isEmpty with
  | true =>
      rw [none] at ran
      cases ran
      exact ⟨failures, rfl⟩
  | false =>
      rw [none] at ran
      cases ran
      exact ⟨failures, rfl⟩

theorem conclude_eq_ok {application : Application D}
    (ran : conclude handlers ref command application receiver events ended = (.ok result, after)) :
    (∃ fault, result = .failure fault) ∨
      ∃ stored, commit handlers application events ended = (.ok (), stored) ∧
        report handlers ref command receiver events stored = (.ok result, after) := by
  rcases committed : commit handlers application events ended with ⟨halt | _, stored⟩
  · refine .inl (conclude_of_error (motive := fun outcome => outcome = (.ok result, after) → _)
      committed ?_ ?_ ran)
    · rintro halt ⟨⟩
    · rintro fault message ⟨⟩
      exact ⟨fault, rfl⟩
  · rw [conclude_of_stored committed] at ran
    exact .inr ⟨stored, rfl, ran⟩

theorem deliver_eq_ok (ran : deliver handlers ref command receiver found = (.ok result, after)) :
    (∃ fault, result = .failure fault) ∨
      ∃ ended events, Executes handlers ref command receiver found ended events ∧
        conclude handlers ref command (found.applications.get ref) receiver events ended =
          (.ok result, after) := by
  rcases rehydrates : rehydrate handlers (found.applications.get ref).store receiver found with
    ⟨halt | _, rehydrated⟩
  · obtain ⟨log, answered⟩ : ∃ log, deliver handlers ref command receiver found =
        (refusal halt, { rehydrated with log }) := deliver_of_unread rehydrates
    exact .inl (failure_of_refusal ((Prod.mk.inj (answered.symm.trans ran)).1))
  have opens : Opens handlers ref command receiver found rehydrated _ := ⟨rehydrates, rfl⟩
  rcases handled : Command.execute handlers command
      (opened (found.applications.get ref).logger command receiver rehydrated) with
    ⟨halt | _, ended⟩
  · obtain ⟨log, answered⟩ := opens.deliver_of_error handled
    exact .inl (failure_of_refusal ((Prod.mk.inj (answered.symm.trans ran)).1))
  · have executes : Executes handlers ref command receiver found ended _ :=
      ⟨rehydrated, _, opens, handled, rfl⟩
    rw [executes.deliver_eq] at ran
    exact .inr ⟨ended, _, executes, ran⟩

/-- A command that has come to an end has failed, or its events were stored and reported. -/
theorem send_eq_ok (ran : send handlers ref command start = (.ok result, after)) :
    (∃ fault, result = .failure fault) ∨
      ∃ receiver found ended events stored, Finds handlers ref command start receiver found ∧
        Executes handlers ref command receiver found ended events ∧
        commit handlers (found.applications.get ref) events ended = (.ok (), stored) ∧
        report handlers ref command receiver events stored = (.ok result, after) := by
  obtain ⟨application, _, read, ran⟩ := Act.bind_eq_ok ran
  cases read
  obtain ⟨_, acknowledged, acknowledges, ran⟩ := Act.bind_eq_ok ran
  obtain ⟨found, system, resolves, ran⟩ := Act.bind_eq_ok ran
  cases found with
  | none => cases ran
  | some receiver =>
      rcases deliver_eq_ok ran with failed | ⟨ended, events, executes, concluded⟩
      · exact .inl failed
      rcases conclude_eq_ok concluded with failed | ⟨stored, committed, reported⟩
      · exact .inl failed
      · exact .inr ⟨receiver, system, ended, events, stored, ⟨acknowledged, acknowledges, resolves⟩,
          executes, committed, reported⟩

end EventSourcing.Application
