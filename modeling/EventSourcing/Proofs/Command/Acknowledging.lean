import EventSourcing.Command.Basic
import EventSourcing.Proofs.Event.Sealing

/-!
# Acknowledging a command

A command is acknowledged by a reading of a clock and by new parameters in its own fields.
What covers these three steps, and the making of faults, covers acknowledging as a whole,
however it ends.
-/

set_option autoImplicit false

namespace EventSourcing

variable {D : Domain} {relation : System D → System D → Prop} [Act.Frame relation]

namespace Command

/-- A command as it is with other fields. -/
def refielded (edit : List (String × Ref .parameter) → List (String × Ref .parameter))
    (command : Command D) : Command D :=
  { command with fields := edit command.fields }

theorem keeps_putField_of_fields {command : Ref .command}
    (adding : ∀ parameter, Act.Keeps relation (newParameter parameter))
    (refielding : ∀ edit, Act.Keeps relation (change command (refielded edit)))
    (name : String) (parameter : Parameter) :
    Act.Keeps relation (putField command name parameter) :=
  (adding parameter).bind fun ref => refielding (putNamed name ref)

/-- What is left to do once the clock was read. -/
private def acknowledgeAt (command : Ref .command) (now : Moment) : Act D Unit := do
  putField command nowField (.time (some now))
  if (← aggregateId command) = "" then
    let nanoseconds ← Act.ofExcept (unixNanoseconds now)
    let idField ← Act.read fun system => (system.commands.get command).idField
    putField command idField (.exactly (String.ofList (DecimalText.ofInt nanoseconds)))

private theorem acknowledge_eq (command : Ref .command) (clock : Ref .clock) :
    acknowledge (D := D) command clock =
      LiveEvent.now clock >>= fun now => acknowledgeAt command now :=
  rfl

private theorem keeps_acknowledgeAt {command : Ref .command}
    (making : ∀ fault, Act.Keeps relation (Act.newFault fault))
    (adding : ∀ parameter, Act.Keeps relation (newParameter parameter))
    (refielding : ∀ edit, Act.Keeps relation (change command (refielded edit))) (now : Moment) :
    Act.Keeps relation (acknowledgeAt command now) := by
  have putting := keeps_putField_of_fields adding refielding
  refine (putting nowField _).bind fun _ => (Act.keeps_read _).bind fun id => ?_
  split
  · refine (Act.keeps_ofExcept making _).bind fun nanoseconds => ?_
    exact (Act.keeps_read _).bind fun field => putting field _
  · exact Act.keeps_pure ()

theorem keeps_acknowledge_of_steps {command : Ref .command} {clock : Ref .clock}
    (making : ∀ fault, Act.Keeps relation (Act.newFault fault))
    (ticking : ∀ system, relation system (LiveEvent.ticked system clock))
    (adding : ∀ parameter, Act.Keeps relation (newParameter parameter))
    (refielding : ∀ edit, Act.Keeps relation (change command (refielded edit))) :
    Act.Keeps relation (acknowledge command clock) := by
  rw [acknowledge_eq]
  exact (LiveEvent.keeps_now_of_ticked making ticking).bind
    (keeps_acknowledgeAt making adding refielding)

/-- A command is not acknowledged when the clock has no reading to show, or one without an
offset, which cannot name the command. -/
theorem acknowledge_eq_error {command : Ref .command} {clock : Ref .clock}
    {system after : System D} {halt : Halt}
    (ran : acknowledge command clock system = (.error halt, after)) :
    LiveEvent.now clock system = (.error halt, after) ∨
      ∃ moment fault, LiveEvent.nextReading system clock = .ok moment ∧
        moment.unixNanoseconds? = none ∧ halt = .raised fault ∧
        after.faults.get fault = .mixedMoments := by
  rw [acknowledge_eq] at ran
  cases reading : LiveEvent.nextReading system clock with
  | error raise =>
    rcases shown : LiveEvent.now clock system with ⟨stopped | moment, middle⟩
    · rw [Act.bind_of_error shown] at ran
      cases ran
      exact .inl rfl
    · rw [LiveEvent.now_of_error reading] at shown
      exact absurd shown (Act.raise_ne_ok _ _ _ _)
  | ok moment =>
    rw [Act.bind_of_ok (LiveEvent.now_of_ok reading)] at ran
    -- Adding a parameter never fails, so only the nanoseconds of the reading can.
    by_cases unnamed : aggregateIdIn
        (putField command nowField (.time (some moment)) (LiveEvent.ticked system clock)).2
        command = ""
    · cases known : moment.unixNanoseconds? with
      | some nanoseconds =>
        simp only [acknowledgeAt, putField, newParameter, change, aggregateId, unixNanoseconds,
          known, Act.ofExcept, Act.update, Act.read, bind, Act.bind] at ran unnamed
        rw [if_pos unnamed] at ran
        cases ran
      | none =>
        simp only [acknowledgeAt, putField, newParameter, change, aggregateId, unixNanoseconds,
          known, Act.ofExcept, Act.update, Act.read, bind, Act.bind] at ran unnamed
        rw [if_pos unnamed] at ran
        cases ran
        refine .inr ⟨moment, _, rfl, known, rfl, ?_⟩
        exact (Table.get_push _ _ _).trans (if_pos rfl)
    · simp only [acknowledgeAt, putField, newParameter, change, aggregateId, Act.update, Act.read,
        bind, Act.bind] at ran unnamed
      rw [if_neg unnamed] at ran
      cases ran

/-- A command that is acknowledged was given the next reading of the clock. -/
theorem acknowledge_eq_ok_of_steps {command : Ref .command} {clock : Ref .clock}
    {system after : System D} (making : ∀ fault, Act.Keeps relation (Act.newFault fault))
    (adding : ∀ parameter, Act.Keeps relation (newParameter parameter))
    (refielding : ∀ edit, Act.Keeps relation (change command (refielded edit)))
    (ran : acknowledge command clock system = (.ok (), after)) :
    ∃ moment, LiveEvent.nextReading system clock = .ok moment ∧
      relation (LiveEvent.ticked system clock) after := by
  rw [acknowledge_eq] at ran
  obtain ⟨moment, middle, read, rest⟩ := Act.bind_eq_ok ran
  cases reading : LiveEvent.nextReading system clock with
  | error raise =>
      rw [LiveEvent.now_of_error reading] at read
      exact absurd read (Act.raise_ne_ok _ _ _ _)
  | ok shown =>
      rw [LiveEvent.now_of_ok reading] at read
      cases read
      have kept := keeps_acknowledgeAt making adding refielding moment
        (LiveEvent.ticked system clock)
      rw [rest] at kept
      exact ⟨moment, rfl, kept⟩

end Command

end EventSourcing
