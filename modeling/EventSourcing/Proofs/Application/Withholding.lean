import EventSourcing.Proofs.Application.Outcome
import EventSourcing.Proofs.Application.Publishing
import EventSourcing.Proofs.Command.Filling
import EventSourcing.Proofs.Fault.ErrorUnion

/-!
# Commands that are withheld

Text that a parameter of a command refuses is recorded among the command's errors, and nothing
that can be done with the command takes them away again: it may be given other text, be
acknowledged, executed and sent. `Withholds` is what all of this keeps. The command has the same
errors object, its messages only grow, and the one kind of call that is made for it hands its
receiver an event; it is never handed to a receiver, and nothing is stored for it.
-/

set_option autoImplicit false

namespace EventSourcing

variable {D : Domain}

namespace FieldErrors

theorem messages_add (errors : FieldErrors) (name field message : String) :
    (errors.add name message).messages field =
      errors.messages field ++ if field = name then [message] else [] :=
  messages_extend errors name field [message]

theorem isEmpty_add (errors : FieldErrors) (name message : String) :
    (errors.add name message).isEmpty = false := by
  cases errors with
  | nil => rfl
  | cons entry rest =>
      simp only [add, extend]
      split <;> rfl

end FieldErrors

namespace Command

/-- Something was recorded among the errors of a command. -/
def Refused (command : Ref .command) (system : System D) : Prop :=
  (recordedErrors system command).isEmpty = false

theorem Refused.validation {command : Ref .command} {system : System D}
    (refused : Refused command system) :
    system.faults.get (system.commands.get command).errors =
      .validation (recordedErrors system command) := by
  simp only [Refused, recordedErrors] at refused ⊢
  cases known : system.faults.get (system.commands.get command).errors with
  | validation errors => rfl
  | _ =>
      rw [known] at refused
      cases refused

/-- A message that is added is the last one of its field. -/
theorem add_recorded {command : Ref .command} {system : System D} {recorded : FieldErrors}
    (found : system.faults.get (system.commands.get command).errors = .validation recorded)
    (field message : String) :
    ∃ after, Validation.add (system.commands.get command).errors field message system =
        (.ok (), after) ∧
      recordedErrors after command = recorded.add field message ∧
      after.commands = system.commands ∧ after.calls = system.calls := by
  refine ⟨_, Validation.add_of_validation found field message, ?_, rfl, rfl⟩
  simp only [recordedErrors, Table.get_set, if_true, Validation.errorsOf]

/-- What becomes of a command that has errors: they are the same object, whose messages stay where
they are, and of the calls that are watched none is made. -/
structure Withheld (watched : Call → Bool) (command : Ref .command) (before after : System D) :
    Prop where
  errors : (after.commands.get command).errors = (before.commands.get command).errors
  messages : ∀ field, (recordedErrors before command).messages field <+:
    (recordedErrors after command).messages field
  calls : after.calls.toList.filter watched = before.calls.toList.filter watched

instance (watched : Call → Bool) (command : Ref .command) :
    Act.Frame (Withheld (D := D) watched command) where
  refl _ := ⟨rfl, fun _ => List.prefix_rfl, rfl⟩
  trans first second :=
    ⟨second.errors.trans first.errors,
      fun field => (first.messages field).trans (second.messages field),
      second.calls.trans first.calls⟩

/-- A command that has errors is withheld and has errors from then on. -/
abbrev Withholds (watched : Call → Bool) (command : Ref .command) :
    System D → System D → Prop :=
  Act.Under (Refused command) (Withheld watched command)

section Steps

variable {watched : Call → Bool} {command : Ref .command} {before after : System D}

/-- Whatever leaves the errors of a command as they are withholds it. -/
theorem withholds_of_recorded
    (errors : (after.commands.get command).errors = (before.commands.get command).errors)
    (recorded : Refused command before →
      recordedErrors after command = recordedErrors before command)
    (calls : after.calls.toList.filter watched = before.calls.toList.filter watched) :
    Withholds watched command before after := by
  intro refused
  have same := recorded refused
  refine ⟨?_, errors, fun field => ?_, calls⟩
  · rwa [Refused, same]
  · exact same.symm ▸ List.prefix_rfl

theorem withholds_of_same (commands : after.commands = before.commands)
    (faults : after.faults = before.faults) (calls : after.calls = before.calls) :
    Withholds watched command before after := by
  apply withholds_of_recorded
  · rw [commands]
  · intro _
    simp only [recordedErrors, commands, faults]
  · rw [calls]

theorem withholds_newFault (fault : Fault) :
    Act.Keeps (Withholds (D := D) watched command) (Act.newFault fault) := by
  intro system refused
  -- The object that is made is not the one of the errors: that one is there already.
  have other : system.faults.nextRef ≠ (system.commands.get command).errors := by
    intro same
    have validation := refused.validation
    rw [← same, Table.get_nextRef] at validation
    rw [Refused, ← Fault.validation.inj validation] at refused
    cases refused
  have recorded : recordedErrors { system with faults := system.faults.push fault } command =
      recordedErrors system command := by
    simp only [recordedErrors, Table.get_push, if_neg other]
  exact withholds_of_recorded rfl (fun _ => recorded) rfl refused

theorem withholds_noteCall {call : Call} (ignored : watched call = false) :
    Act.Keeps (Withholds (D := D) watched command) (Act.noteCall call) := by
  intro system
  apply withholds_of_recorded
  · rfl
  · exact fun _ => rfl
  · show (system.calls.push call).toList.filter watched = _
    rw [Array.toList_push, List.filter_append, List.filter_cons_of_neg (by simp [ignored]),
      List.filter_nil, List.append_nil]

theorem withholds_change (other : Ref .command) (edit : Command D → Command D)
    (errors : ∀ known, (edit known).errors = known.errors) :
    Act.Keeps (Withholds watched command) (change other edit) := by
  intro system
  have same : ((system.commands.set other (edit (system.commands.get other))).get command).errors =
      (system.commands.get command).errors := by
    rw [Table.get_set]
    split
    · rename_i here
      rw [errors, here]
    · rfl
  apply withholds_of_recorded
  · exact same
  · intro _
    exact congrArg (fun ref => Validation.errorsOf (system.faults.get ref)) same
  · rfl

theorem withholds_add {system : System D} (field message : String) :
    Withholds watched command system
      (Validation.add (system.commands.get command).errors field message system).2 := by
  intro refused
  obtain ⟨after, ran, recorded, commands, calls⟩ := add_recorded refused.validation field message
  rw [ran]
  constructor
  · rw [Refused, recorded]
    exact FieldErrors.isEmpty_add _ _ _
  · constructor
    · rw [commands]
    · intro other
      rw [recorded, FieldErrors.messages_add]
      exact List.prefix_append _ _
    · rw [calls]

end Steps

section Filling

variable {watched : Call → Bool} {command : Ref .command}

theorem withholds_set (name submitted : String) :
    Act.Keeps (Withholds (D := D) watched command) (set command name submitted) := by
  intro system
  have sets := set_sets command name submitted system
  generalize set command name submitted system = outcome at sets ⊢
  have parses (parameter : Ref .parameter) :
      Withholds watched command system (parsed system parameter submitted) :=
    withholds_of_same rfl rfl rfl
  cases sets with
  | unknown undeclared => exact Act.keeps_throw withholds_newFault _ system
  | accepted found accepts => exact parses _
  | @recorded parameter refusal fault found refused asked family =>
    exact Act.Frame.trans (parses parameter) (withholds_add name fault.message)
  | @raised parameter refusal fault found refused asked other =>
    exact Act.Frame.trans (parses parameter) (Act.keeps_raise withholds_newFault refusal _)
  | unbound found refused asked => exact parses _

theorem withholds_fill (form : Form) :
    Act.Keeps (Withholds (D := D) watched command) (fill command form) := by
  refine (Act.keeps_read _).bind fun known => Act.keeps_forEach fun name _ => ?_
  refine (Act.keeps_read _).bind fun known => ?_
  split
  · exact Act.keeps_pure ()
  · exact withholds_set _ _

theorem withholds_acknowledge (clock : Ref .clock) :
    Act.Keeps (Withholds (D := D) watched command) (acknowledge command clock) := by
  apply keeps_acknowledge_of_steps
  · exact withholds_newFault
  · exact fun system => withholds_of_same rfl rfl rfl
  · exact fun parameter system => withholds_of_same rfl rfl rfl
  · exact fun edit => withholds_change command _ fun known => rfl

end Filling

/-- The code of a domain that runs before a command is executed goes along: what builds receivers,
what hands them events, and the replays of stores of its own. -/
structure GoesAlong (handlers : Handlers D) (command : Ref .command)
    (relation : System D → System D → Prop) : Prop where
  construct : ∀ factory, Act.Keeps relation (handlers.construct factory command)
  onEvent : ∀ script aggregate event, Act.Keeps relation (handlers.onEvent script aggregate event)
  replayForeign : ∀ {State : Type} (step : State → Ref .event → Act D State),
    (∀ state event, Act.Keeps relation (step state event)) →
    ∀ description streamId state,
      Act.Keeps relation (handlers.replayForeign description streamId state step)

theorem keeps_resolveReceiver_of_steps {handlers : Handlers D} {command : Ref .command}
    {relation : System D → System D → Prop} [Act.Frame relation]
    (making : ∀ fault, Act.Keeps relation (Act.newFault fault))
    (finding : ∀ receiver, Act.Keeps relation (change command fun known => { known with receiver }))
    (code : GoesAlong handlers command relation) :
    Act.Keeps relation (resolveReceiver handlers command) := by
  refine (Act.keeps_read _).bind fun known => ?_
  split
  · exact Act.keeps_pure _
  · exact Act.keeps_throw making _
  · exact (code.construct _).bind fun aggregate =>
      (finding aggregate).bind fun _ => Act.keeps_pure _

section Sending

variable {handlers : Handlers D} {watched : Call → Bool} {command : Ref .command}

theorem withholds_resolveReceiver
    (code : GoesAlong handlers command (Withholds watched command)) :
    Act.Keeps (Withholds watched command) (resolveReceiver handlers command) := by
  apply keeps_resolveReceiver_of_steps
  · exact withholds_newFault
  · exact fun receiver => withholds_change command _ fun known => rfl
  · exact code

/-- A command that has errors is not executed: its errors are raised as they stand. -/
theorem withholds_execute (handlers : Handlers D) :
    Act.Keeps (Withholds watched command) (execute handlers command) := by
  intro system refused
  obtain ⟨message, ran⟩ := execute_of_refused handlers refused
  rw [ran]
  exact withholds_of_same rfl rfl rfl refused

end Sending

end Command

namespace Application

open Command (GoesAlong Refused Withholds withholds_of_same)

/-- A receiver is given its history by noting calls, by changes of the receiver and of the events
that it is handed, and by the code that it is handed to. -/
theorem keeps_rehydrate_of_steps {handlers : Handlers D} {command : Ref .command}
    {relation : System D → System D → Prop} [Act.Frame relation]
    (making : ∀ fault, Act.Keeps relation (Act.newFault fault))
    (noting : ∀ aggregate event, Act.Keeps relation (Act.noteCall (.foldEvent aggregate event)))
    (seeing : ∀ aggregate edit, Act.Keeps relation (Aggregate.change (D := D) aggregate edit))
    (offering : ∀ (system : System D) events mappings,
      relation system { system with events, mappings })
    (code : GoesAlong handlers command relation) (store : Ref .store)
    (receiver : Ref .aggregate) : Act.Keeps relation (rehydrate handlers store receiver) := by
  have handing (event : Ref .event) :
      Act.Keeps relation (Aggregate.handleEvent handlers receiver event) := by
    refine (noting receiver event).bind fun _ => (seeing receiver _).bind fun _ => ?_
    refine (Act.keeps_read _).bind fun script => ?_
    cases script with
    | none => exact Act.keeps_pure ()
    | some script => exact code.onEvent script receiver event
  refine (Act.keeps_read _).bind fun aggregate => ?_
  apply Store.keeps_replay
  · exact making
  · intro _ before event given offers
    rw [offers.same]
    exact offering before _ _
  · exact fun _ event => handing event
  · exact fun description => code.replayForeign _ (fun _ event => handing event) description _ ()

section Delivering

variable {handlers : Handlers D} {watched : Call → Bool} {ref : Ref .application}
  {command : Ref .command} {receiver : Ref .aggregate} {start found rehydrated about : System D}

theorem withholds_rehydrate (code : GoesAlong handlers command (Withholds watched command))
    (folds : ∀ aggregate event, watched (.foldEvent aggregate event) = false)
    (store : Ref .store) (receiver : Ref .aggregate) :
    Act.Keeps (Withholds watched command) (rehydrate handlers store receiver) := by
  apply keeps_rehydrate_of_steps
  · exact Command.withholds_newFault
  · exact fun aggregate event => Command.withholds_noteCall (folds aggregate event)
  · exact fun aggregate edit system => withholds_of_same rfl rfl rfl
  · exact fun system events mappings => withholds_of_same rfl rfl rfl
  · exact code

private theorem withholds_opens (code : GoesAlong handlers command (Withholds watched command))
    (folds : ∀ aggregate event, watched (.foldEvent aggregate event) = false)
    (opens : Opens handlers ref command receiver found rehydrated about) :
    Withholds watched command found about := by
  have given := withholds_rehydrate code folds (found.applications.get ref).store receiver found
  rw [opens.rehydrates] at given
  rw [opens.opens]
  exact Act.Frame.trans given (withholds_of_same rfl rfl rfl)

/-- The delivery of a command that has errors ends with these errors, or where its receiver cannot
be given its history. -/
theorem deliver_of_refused (code : GoesAlong handlers command (Withholds watched command))
    (folds : ∀ aggregate event, watched (.foldEvent aggregate event) = false)
    (refused : Refused command found)
    (opens : Opens handlers ref command receiver found rehydrated about) :
    ∃ after, deliver handlers ref command receiver found =
      (.ok (.failure (found.commands.get command).errors), after) := by
  obtain ⟨still, kept⟩ := withholds_opens code folds opens refused
  obtain ⟨message, ran⟩ := Command.execute_of_refused handlers still
  obtain ⟨log, answered⟩ := opens.deliver_of_error ran
  rw [kept.errors] at answered
  exact ⟨_, answered⟩

theorem withholds_deliver (code : GoesAlong handlers command (Withholds watched command))
    (folds : ∀ aggregate event, watched (.foldEvent aggregate event) = false)
    (ref : Ref .application) (receiver : Ref .aggregate) :
    Act.Keeps (Withholds watched command) (deliver handlers ref command receiver) := by
  intro found refused
  have given := withholds_rehydrate code folds (found.applications.get ref).store receiver found
  rcases rehydrates : rehydrate handlers (found.applications.get ref).store receiver found with
    ⟨halt | _, rehydrated⟩
  · rw [rehydrates] at given
    have answers : ∃ log, deliver handlers ref command receiver found = _ :=
      deliver_of_unread rehydrates
    obtain ⟨log, answered⟩ := answers
    rw [answered]
    exact Act.Frame.trans given (withholds_of_same rfl rfl rfl) refused
  · have opens : Opens handlers ref command receiver found rehydrated _ := ⟨rehydrates, rfl⟩
    have reached := withholds_opens code folds opens
    obtain ⟨message, ran⟩ := Command.execute_of_refused handlers (reached refused).1
    obtain ⟨log, answered⟩ := opens.deliver_of_error ran
    rw [answered]
    exact Act.Frame.trans reached (withholds_of_same rfl rfl rfl) refused

theorem withholds_send (code : GoesAlong handlers command (Withholds watched command))
    (folds : ∀ aggregate event, watched (.foldEvent aggregate event) = false)
    (ref : Ref .application) :
    Act.Keeps (Withholds watched command) (send handlers ref command) := by
  refine (Act.keeps_read _).bind fun application => ?_
  refine (Command.withholds_acknowledge application.clock).bind fun _ => ?_
  refine (Command.withholds_resolveReceiver code).bind fun receiver => ?_
  cases receiver with
  | none => exact Act.keeps_throw Command.withholds_newFault _
  | some receiver => exact withholds_deliver code folds ref receiver

/-- A command that has errors and gets through to its execution is answered by these errors. -/
theorem send_of_refused (code : GoesAlong handlers command (Withholds watched command))
    (folds : ∀ aggregate event, watched (.foldEvent aggregate event) = false)
    (refused : Refused command start)
    (finds : Finds handlers ref command start receiver found)
    (opens : Opens handlers ref command receiver found rehydrated about) :
    ∃ after, send handlers ref command start =
      (.ok (.failure (start.commands.get command).errors), after) := by
  have send := finds.send_eq
  obtain ⟨acknowledged, acknowledges, resolves⟩ := finds
  have first : Withholds watched command start acknowledged := by
    have kept : Withholds watched command start _ :=
      Command.withholds_acknowledge (start.applications.get ref).clock start
    rwa [acknowledges] at kept
  have second : Withholds watched command acknowledged found := by
    have kept := Command.withholds_resolveReceiver code acknowledged
    rwa [resolves] at kept
  obtain ⟨still, kept⟩ := Act.Frame.trans first second refused
  obtain ⟨after, answered⟩ := deliver_of_refused code folds still opens
  rw [kept.errors] at answered
  exact ⟨after, send.trans answered⟩

end Delivering

/-! ## Everything that can be done with a command -/

inductive Operation where
  | set (name submitted : String)
  | fill (form : Form)
  | acknowledge (clock : Ref .clock)
  | execute
  | send (ref : Ref .application)

def Operation.run (handlers : Handlers D) (command : Ref .command) :
    Operation → Act D (Option CommandResult)
  | .set name submitted => do
    Command.set command name submitted
    return none
  | .fill form => do
    Command.fill command form
    return none
  | .acknowledge clock => do
    Command.acknowledge command clock
    return none
  | .execute => do
    Command.execute handlers command
    return none
  | .send ref => return some (← Application.send handlers ref command)

/-- An operation with the system in which it was done, and how it ended. -/
structure Step (D : Domain) where
  operation : Operation
  before : System D
  outcome : Except Halt (Option CommandResult)

/-- Executing a command raises its errors, and sending it is answered by them once its receiver has
its history. -/
def Step.AnswersErrors (handlers : Handlers D) (command : Ref .command) (errors : Ref .fault)
    (step : Step D) : Prop :=
  match step.operation with
  | .execute => step.outcome = .error (.raised errors)
  | .send ref => ∀ receiver found rehydrated about,
      Finds handlers ref command step.before receiver found →
      Opens handlers ref command receiver found rehydrated about →
      step.outcome = .ok (some (.failure errors))
  | _ => True

/-- What was done with a command from a first system on. Whatever else goes on in between leaves
the errors of the command alone. -/
inductive Course (handlers : Handlers D) (watched : Call → Bool) (command : Ref .command)
    (start : System D) : List (Step D) → System D → Prop
  | start : Course handlers watched command start [] start
  | does {steps : List (Step D)} {system after : System D}
      {outcome : Except Halt (Option CommandResult)} (operation : Operation) :
      Course handlers watched command start steps system →
      operation.run handlers command system = (outcome, after) →
      Course handlers watched command start (steps ++ [⟨operation, system, outcome⟩]) after
  | meanwhile {steps : List (Step D)} {system after : System D} :
      Course handlers watched command start steps system →
      Withholds watched command system after →
      Course handlers watched command start steps after

section Doing

variable {handlers : Handlers D} {watched : Call → Bool} {command : Ref .command}

theorem withholds_run (code : GoesAlong handlers command (Withholds watched command))
    (folds : ∀ aggregate event, watched (.foldEvent aggregate event) = false)
    (operation : Operation) :
    Act.Keeps (Withholds watched command) (operation.run handlers command) := by
  cases operation with
  | set name submitted =>
      exact (Command.withholds_set name submitted).bind fun _ => Act.keeps_pure none
  | fill form => exact (Command.withholds_fill form).bind fun _ => Act.keeps_pure none
  | acknowledge clock =>
      exact (Command.withholds_acknowledge clock).bind fun _ => Act.keeps_pure none
  | execute => exact (Command.withholds_execute handlers).bind fun _ => Act.keeps_pure none
  | send ref =>
      exact (withholds_send code folds ref).bind fun result => Act.keeps_pure (some result)

theorem run_answersErrors (code : GoesAlong handlers command (Withholds watched command))
    (folds : ∀ aggregate event, watched (.foldEvent aggregate event) = false)
    {system : System D} (refused : Refused command system) (operation : Operation) :
    Step.AnswersErrors handlers command (system.commands.get command).errors
      ⟨operation, system, (operation.run handlers command system).1⟩ := by
  cases operation with
  | set | fill | acknowledge => trivial
  | execute =>
      obtain ⟨message, ran⟩ := Command.execute_of_refused handlers refused
      exact congrArg Prod.fst (Act.bind_of_error ran)
  | send ref =>
      intro receiver found rehydrated about finds opens
      obtain ⟨after, answered⟩ := send_of_refused code folds refused finds opens
      have ran : (Operation.send ref).run handlers command system = _ := Act.bind_of_ok answered
      exact congrArg Prod.fst ran

/-- Once something was recorded among the errors of a command, it is withheld for good, whatever is
done with it: no call is made for it but those that hand its receiver the events of the history,
so that it is not handed to a receiver and nothing is stored for it; its execution raises the
errors object that it had at first, and so does every sending of it answer that comes so far;
and the messages of a field are from then on the first ones of that field. -/
theorem refused_command_is_withheld
    (code : GoesAlong handlers command (Withholds watched command))
    (folds : ∀ aggregate event, watched (.foldEvent aggregate event) = false)
    {start after : System D} {steps : List (Step D)} (refused : Refused command start)
    (course : Course handlers watched command start steps after) :
    Refused command after ∧ Command.Withheld watched command start after ∧
      ∀ step ∈ steps,
        step.AnswersErrors handlers command (start.commands.get command).errors := by
  induction course with
  | start =>
      refine ⟨refused, Act.Frame.refl start, ?_⟩
      simp
  | @does steps system after outcome operation _ ran ih =>
      obtain ⟨still, withheld, answers⟩ := ih
      have kept := withholds_run code folds operation system still
      have answer := run_answersErrors code folds still operation
      rw [withheld.errors, ran] at answer
      rw [ran] at kept
      refine ⟨kept.1, Act.Frame.trans withheld kept.2, ?_⟩
      intro step member
      rcases List.mem_append.mp member with earlier | last
      · exact answers step earlier
      · rw [List.mem_singleton.mp last]
        exact answer
  | meanwhile _ spares ih =>
      obtain ⟨still, withheld, answers⟩ := ih
      obtain ⟨after, kept⟩ := spares still
      exact ⟨after, Act.Frame.trans withheld kept, answers⟩

end Doing

/-- A command with a parameter that takes identifiers, and an aggregate that receives it. -/
def unfilled : System Domain.publishing :=
  { parameters := ⟨#[.identifier "", .identifier ""]⟩
    commands := ⟨#[{
      name := "go", fields := [("note", ⟨0⟩), ("id", ⟨1⟩)], idField := "id", errors := ⟨0⟩
      factory := some ⟨0⟩, receiver := none, hasImplicitId := true }]⟩
    faults := ⟨#[.validation []]⟩
    aggregates := ⟨#[{
      id := "x", publisher := none, seen := [], handled := [], script := some [] }]⟩
    stores := ⟨#[.memory []]⟩
    clocks := ⟨#[.showing .unixEpoch]⟩
    applications := ⟨#[{
      name := .text "app", store := ⟨0⟩, clock := ⟨0⟩, logger := "app", projections := [] }]⟩
    domain := () }

/-- Every call but that which hands an event of the history to an aggregate. -/
def furthers : Call → Bool
  | .foldEvent _ _ => false
  | _ => true

/-- A command that was given unacceptable text stays withheld when it is given better text and is
sent. -/
theorem refused_command_is_withheld_unfilled :
    let start := (Command.set ⟨0⟩ "note" "Not this!" unfilled).2
    let filled := ((Operation.set "note" "but-this").run Handlers.publishing ⟨0⟩ start).2
    let sent := (Operation.send ⟨0⟩).run Handlers.publishing ⟨0⟩ filled
    Refused ⟨0⟩ start ∧ sent.1 = .ok (some (.failure ⟨0⟩)) ∧ Refused ⟨0⟩ sent.2 ∧
      Command.Withheld furthers ⟨0⟩ start sent.2 := by
  intro start filled sent
  have refused : Refused ⟨0⟩ start := by
    rw [Refused]
    decide +kernel
  have code : GoesAlong Handlers.publishing ⟨0⟩ (Withholds furthers ⟨0⟩) :=
    ⟨fun factory => Act.keeps_pure (some factory), fun _ _ _ => Act.keeps_pure (), nofun⟩
  have course : Course Handlers.publishing furthers ⟨0⟩ start
      [⟨.set "note" "but-this", start, _⟩, ⟨.send ⟨0⟩, filled, sent.1⟩] sent.2 :=
    .does (.send ⟨0⟩) (.does (.set "note" "but-this") .start (Act.run_of_answer rfl))
      (Act.run_of_answer rfl)
  obtain ⟨still, withheld, answers⟩ :=
    refused_command_is_withheld code (fun _ _ => rfl) refused course
  have finds : Finds Handlers.publishing ⟨0⟩ ⟨0⟩ filled ⟨0⟩
      (foundFrom Handlers.publishing ⟨0⟩ ⟨0⟩ filled) :=
    ⟨_, Act.run_of_answer (by decide +kernel), Act.run_of_answer (by decide +kernel)⟩
  have opens : Opens Handlers.publishing ⟨0⟩ ⟨0⟩ ⟨0⟩
      (foundFrom Handlers.publishing ⟨0⟩ ⟨0⟩ filled) _ _ :=
    ⟨Act.run_of_answer (by decide +kernel), rfl⟩
  have answer := answers ⟨.send ⟨0⟩, filled, sent.1⟩ (by simp) _ _ _ _ finds opens
  exact ⟨refused, answer, still, withheld⟩

end Application

end EventSourcing
