import EventSourcing.Command.Basic
import EventSourcing.Proofs.System.Running

/-!
# Making and filling a command

A command is made from a definition by new parameters and filled by giving them text. `Sets`
names the ends that giving a parameter text can have. What covers the single steps, the making of
faults and the recording of messages covers the making of a command from a form as a whole,
however it ends.
-/

set_option autoImplicit false

namespace EventSourcing

variable {D : Domain}

theorem Validation.change_of_validation {ref : Ref .fault} {errors : FieldErrors}
    {system : System D} (found : system.faults.get ref = .validation errors) (part : String)
    (edit : FieldErrors → FieldErrors) :
    change ref part edit system =
      (.ok (), { system with faults := system.faults.set ref (.validation (edit errors)) }) := by
  simp only [change, bind, Act.bind, Act.faultOf, Act.read, found]
  rfl

theorem Validation.add_of_validation {ref : Ref .fault} {errors : FieldErrors}
    {system : System D} (found : system.faults.get ref = .validation errors)
    (field message : String) :
    add ref field message system =
      (.ok (), { system with
        faults := system.faults.set ref (.validation (errors.add field message)) }) :=
  change_of_validation found "add" (·.add field message)

namespace Raise

variable {raise : Raise} {system : System D}

/-- Asking what is raised changes nothing, and finds its cause. -/
theorem causeOf_of_some {fault : Fault} (known : raise.cause? system = some fault) :
    Act.causeOf raise system = (.ok fault, system) := by
  cases raise with
  | fresh made => exact congrArg (Except.ok ·, system) (Option.some.inj known)
  | known ref => exact congrArg (Except.ok ·, system) (Option.some.inj known)
  | named name =>
    simp only [cause?, existing?] at known
    cases found : D.faultNamed system.domain name with
    | none =>
      rw [found] at known
      cases known
    | some ref =>
      rw [found] at known
      simp only [Act.causeOf, Act.faultNamed, bind, Act.bind, Act.read, found]
      exact congrArg (Except.ok ·, system) (Option.some.inj known)

theorem causeOf_of_none (unbound : raise.cause? system = none) :
    ∃ halt, (Act.causeOf raise : Act D Fault) system = (.error halt, system) := by
  cases raise with
  | fresh made => cases unbound
  | known ref => cases unbound
  | named name =>
    simp only [cause?, existing?, Option.map_eq_none_iff] at unbound
    simp only [Act.causeOf, Act.faultNamed, bind, Act.bind, Act.read, unbound]
    exact ⟨_, rfl⟩

end Raise

namespace Command

/-! ## Giving a parameter text -/

/-- The system in which a parameter was given text. -/
def parsed (system : System D) (parameter : Ref .parameter) (submitted : String) : System D :=
  { system with
    parameters :=
      system.parameters.set parameter ((system.parameters.get parameter).parse submitted).1 }

/-- The ends that giving a parameter of a command text can have. -/
inductive Sets (command : Ref .command) (name submitted : String) (system : System D) :
    Except Halt Unit × System D → Prop
  | unknown : (system.commands.get command).fields.lookup name = none →
      Sets command name submitted system
        (Act.throw (.unknownField (.text (system.commands.get command).name) (.text name)) system)
  | accepted {parameter : Ref .parameter} :
      (system.commands.get command).fields.lookup name = some parameter →
      ((system.parameters.get parameter).parse submitted).2 = none →
      Sets command name submitted system (.ok (), parsed system parameter submitted)
  | recorded {parameter : Ref .parameter} {refusal : Raise} {fault : Fault} :
      (system.commands.get command).fields.lookup name = some parameter →
      ((system.parameters.get parameter).parse submitted).2 = some refusal →
      refusal.cause? system = some fault → fault.family = .value →
      Sets command name submitted system
        (Validation.add (system.commands.get command).errors name fault.message
          (parsed system parameter submitted))
  | raised {parameter : Ref .parameter} {refusal : Raise} {fault : Fault} :
      (system.commands.get command).fields.lookup name = some parameter →
      ((system.parameters.get parameter).parse submitted).2 = some refusal →
      refusal.cause? system = some fault → fault.family ≠ .value →
      Sets command name submitted system (Act.raise refusal (parsed system parameter submitted))
  | unbound {parameter : Ref .parameter} {refusal : Raise} {halt : Halt} :
      (system.commands.get command).fields.lookup name = some parameter →
      ((system.parameters.get parameter).parse submitted).2 = some refusal →
      refusal.cause? system = none →
      Sets command name submitted system (.error halt, parsed system parameter submitted)

section Setting

variable {command : Ref .command} {name submitted : String} {system : System D}
  {parameter : Ref .parameter} {refusal : Raise}

/-- What is left to do once a parameter has refused a text. -/
private theorem set_of_refusal
    (declared : (system.commands.get command).fields.lookup name = some parameter)
    (refuses : ((system.parameters.get parameter).parse submitted).2 = some refusal) :
    set command name submitted system = (do
      let fault ← Act.causeOf refusal
      if fault.family = .value then
        Validation.add (system.commands.get command).errors name fault.message
      else Act.raise refusal : Act D Unit) (parsed system parameter submitted) := by
  have parses : parseParameter parameter submitted system =
      (.ok (some refusal), parsed system parameter submitted) :=
    Prod.ext (congrArg Except.ok refuses) rfl
  rw [set, Act.bind_of_ok (Act.read_run _ _), declared]
  dsimp only
  rw [Act.bind_of_ok parses]

theorem set_of_recorded {fault : Fault}
    (declared : (system.commands.get command).fields.lookup name = some parameter)
    (refuses : ((system.parameters.get parameter).parse submitted).2 = some refusal)
    (cause : refusal.cause? system = some fault) (family : fault.family = .value) :
    set command name submitted system =
      Validation.add (system.commands.get command).errors name fault.message
        (parsed system parameter submitted) := by
  have same : refusal.cause? (parsed system parameter submitted) = some fault :=
    (Raise.cause?_congr rfl rfl refusal).trans cause
  rw [set_of_refusal declared refuses, Act.bind_of_ok (Raise.causeOf_of_some same), if_pos family]

theorem set_sets (command : Ref .command) (name submitted : String) (system : System D) :
    Sets command name submitted system (set command name submitted system) := by
  cases declared : (system.commands.get command).fields.lookup name with
  | none =>
    rw [set, Act.bind_of_ok (Act.read_run _ _), declared]
    exact .unknown declared
  | some parameter =>
    cases refuses : ((system.parameters.get parameter).parse submitted).2 with
    | none =>
      have parses : parseParameter parameter submitted system =
          (.ok none, parsed system parameter submitted) :=
        Prod.ext (congrArg Except.ok refuses) rfl
      rw [set, Act.bind_of_ok (Act.read_run _ _), declared]
      dsimp only
      rw [Act.bind_of_ok parses]
      exact .accepted declared refuses
    | some refusal =>
      -- Parsing changes parameters only, so that the cause is the same before and after.
      have same : refusal.cause? (parsed system parameter submitted) = refusal.cause? system :=
        Raise.cause?_congr rfl rfl refusal
      cases cause : refusal.cause? system with
      | none =>
        obtain ⟨halt, asked⟩ := Raise.causeOf_of_none (same.trans cause)
        rw [set_of_refusal declared refuses, Act.bind_of_error asked]
        exact .unbound declared refuses cause
      | some fault =>
        by_cases family : fault.family = .value
        · rw [set_of_recorded declared refuses cause family]
          exact .recorded declared refuses cause family
        · rw [set_of_refusal declared refuses,
            Act.bind_of_ok (Raise.causeOf_of_some (same.trans cause)), if_neg family]
          exact .raised declared refuses cause family

end Setting

/-! ## What is kept -/

section Keeping

variable {relation : System D → System D → Prop} [Act.Frame relation]

theorem keeps_causeOf (raise : Raise) : Act.Keeps relation (Act.causeOf raise) := by
  cases raise with
  | fresh fault => exact Act.keeps_pure fault
  | known fault => exact Act.keeps_read _
  | named name =>
    refine Act.Keeps.bind ((Act.keeps_read _).bind fun known => ?_) fun fault => Act.keeps_read _
    split
    · exact Act.keeps_pure _
    · exact Act.keeps_halt _

theorem keeps_set_of_steps (making : ∀ fault, Act.Keeps relation (Act.newFault fault))
    (parsing : ∀ parameter text, Act.Keeps relation (parseParameter parameter text))
    (recording : ∀ ref field message, Act.Keeps relation (Validation.add ref field message))
    (command : Ref .command) (name submitted : String) :
    Act.Keeps relation (set command name submitted) := by
  refine (Act.keeps_read _).bind fun known => ?_
  split
  · exact Act.keeps_throw making _
  · refine (parsing _ submitted).bind fun refusal => ?_
    cases refusal with
    | none => exact Act.keeps_pure ()
    | some refusal =>
      refine (keeps_causeOf refusal).bind fun fault => ?_
      split
      · exact recording _ name fault.message
      · exact Act.keeps_raise making refusal

theorem keeps_fill_of_steps (making : ∀ fault, Act.Keeps relation (Act.newFault fault))
    (parsing : ∀ parameter text, Act.Keeps relation (parseParameter parameter text))
    (recording : ∀ ref field message, Act.Keeps relation (Validation.add ref field message))
    (command : Ref .command) (form : Form) : Act.Keeps relation (fill command form) := by
  refine (Act.keeps_read _).bind fun known => Act.keeps_forEach fun name _ => ?_
  refine (Act.keeps_read _).bind fun known => ?_
  split
  · exact Act.keeps_pure ()
  · exact keeps_set_of_steps making parsing recording command name _

theorem keeps_copyFields_of_steps
    (adding : ∀ parameter, Act.Keeps relation (newParameter parameter))
    (fields : List (String × Ref .parameter)) : Act.Keeps relation (copyFields fields) := by
  induction fields with
  | nil => exact Act.keeps_pure []
  | cons entry rest ih =>
    have copied : Act.Keeps relation (copyParameter entry.2) :=
      (Act.keeps_read _).bind fun prototype => adding prototype
    exact copied.bind fun copy => ih.bind fun fields => Act.keeps_pure _

theorem keeps_ofDefinition_of_steps
    (making : ∀ fault, Act.Keeps relation (Act.newFault fault))
    (adding : ∀ parameter, Act.Keeps relation (newParameter parameter))
    (creating : ∀ (system : System D) command,
      relation system { system with commands := system.commands.push command })
    (definition : Ref .definition) : Act.Keeps relation (ofDefinition definition) := by
  have created (name : String) (fields : List (String × Ref .parameter)) (idField : String)
      (factory : Option D.Factory) (hasImplicitId : Bool) :
      Act.Keeps relation (create name fields idField factory hasImplicitId) :=
    (making _).bind fun errors system => creating system _
  refine (Act.keeps_read _).bind fun known => ?_
  refine (keeps_copyFields_of_steps adding _).bind fun fields => ?_
  split
  · exact created _ _ _ _ _
  · exact (adding _).bind fun identifier => created _ _ _ _ _

theorem keeps_ofForm_of_steps (making : ∀ fault, Act.Keeps relation (Act.newFault fault))
    (adding : ∀ parameter, Act.Keeps relation (newParameter parameter))
    (parsing : ∀ parameter text, Act.Keeps relation (parseParameter parameter text))
    (recording : ∀ ref field message, Act.Keeps relation (Validation.add ref field message))
    (creating : ∀ (system : System D) command,
      relation system { system with commands := system.commands.push command })
    (definition : Ref .definition) (form : Form) : Act.Keeps relation (ofForm definition form) :=
  (keeps_ofDefinition_of_steps making adding creating definition).bind fun command =>
    (keeps_fill_of_steps making parsing recording command form).bind fun _ =>
      Act.keeps_pure command

/-- Recording a message changes the faults and nothing else. -/
theorem keeps_add_of_faults (faults : ∀ (system : System D) faults, relation system { system with
      faults }) (ref : Ref .fault) (field message : String) :
    Act.Keeps relation (Validation.add ref field message) := by
  refine (Act.keeps_read _).bind fun fault => ?_
  split
  · exact fun system => faults system _
  · exact Act.keeps_throw (fun fault system => faults system _) _

end Keeping

/-- Making a command from a form leaves applications, stores and calls as they are. -/
theorem ofForm_leaves (definition : Ref .definition) (form : Form) :
    Act.Keeps (Act.Same fun system : System D =>
      (system.applications, system.stores, system.calls)) (ofForm definition form) := by
  apply keeps_ofForm_of_steps
  · exact fun fault system => rfl
  · exact fun parameter system => rfl
  · exact fun parameter text system => rfl
  · exact keeps_add_of_faults fun system faults => rfl
  · exact fun system command => rfl

end Command

end EventSourcing
