import EventSourcing.Command.Definition
import EventSourcing.Web.Form

/-!
# Commands

A command is filled with submitted text, acknowledged, and executed by its
receiver. Text that a parameter refuses is recorded on the command and blocks its
execution. Acknowledging stamps the time and gives a command without an identifier
one of its own, the nanoseconds of that time. The receiver is found once.
-/

set_option autoImplicit false

namespace EventSourcing.Command

variable {D : Domain}

def logger : String := "ess.commands"

def nowField : String := "now"

def parameter? (command : Ref .command) (name : String) : Act D (Option (Ref .parameter)) :=
  Act.read fun system => (system.commands.get command).fields.lookup name

def change (ref : Ref .command) (edit : Command D → Command D) : Act D Unit :=
  Act.update fun system =>
    { system with commands := system.commands.set ref (edit (system.commands.get ref)) }

/-- The text of the identifier; without that parameter it is empty. -/
def aggregateIdIn (system : System D) (ref : Ref .command) : String :=
  let command := system.commands.get ref
  match command.fields.lookup command.idField with
  | some parameter => (system.parameters.get parameter).shown
  | none => ""

def aggregateId (command : Ref .command) : Act D String :=
  Act.read (aggregateIdIn · command)

def textIn (system : System D) (ref : Ref .command) : String :=
  Text.stripRight ((system.commands.get ref).name ++ " " ++ aggregateIdIn system ref)

def text (command : Ref .command) : Act D String :=
  Act.read (textIn · command)

def literalIn (system : System D) (ref : Ref .command) : String :=
  let command := system.commands.get ref
  let shown := command.fields.map fun (name, parameter) =>
    (Datum.text name, Datum.text (system.parameters.get parameter).shown)
  "Command(" ++ Text.quoted command.name ++ ", " ++ (Datum.mapping shown).literal ++ ")"

/-- Gives a parameter text. A refusal of the value family is recorded under the
parameter's name; any other fault of a sanitizer is raised. -/
def set (ref : Ref .command) (name submitted : String) : Act D Unit := do
  let command ← Act.read (·.commands.get ref)
  match command.fields.lookup name with
  | none => Act.throw (.unknownField (.text command.name) (.text name))
  | some parameter =>
    match ← parseParameter parameter submitted with
    | none => pure ()
    | some refusal => do
      let fault ← Act.causeOf refusal
      if fault.family = .value then Validation.add command.errors name fault.message
      else Act.raise refusal

/-- Gives every parameter its text from a form; missing values count as empty. An
identifier that was not declared is left alone when its text is empty. -/
def fill (ref : Ref .command) (form : Form) : Act D Unit := do
  let command ← Act.read (·.commands.get ref)
  Act.forEach
    (fun name => do
      let submitted := (form.get name (some "")).getD ""
      let known ← Act.read (·.commands.get ref)
      if name = known.idField ∧ known.hasImplicitId ∧ submitted = "" then pure ()
      else set ref name submitted)
    (command.fields.map Prod.fst)

def ofForm (definition : Ref .definition) (form : Form) : Act D (Ref .command) := do
  let command ← ofDefinition definition
  fill command form
  return command

def putField (command : Ref .command) (name : String) (parameter : Parameter) : Act D Unit := do
  let ref ← newParameter parameter
  change command fun known => { known with fields := putNamed name ref known.fields }

/-- Stamps the time of a clock and gives a command without an identifier one. -/
def acknowledge (command : Ref .command) (clock : Ref .clock) : Act D Unit := do
  let now ← LiveEvent.now clock
  putField command nowField (.time (some now))
  if (← aggregateId command) = "" then
    let nanoseconds ← Act.ofExcept (unixNanoseconds now)
    let idField ← Act.read fun system => (system.commands.get command).idField
    putField command idField (.exactly (String.ofList (DecimalText.ofInt nanoseconds)))

/-- The aggregate that receives a command. The factory is asked once; one that
answers no aggregate is asked again the next time. -/
def resolveReceiver (handlers : Handlers D) (ref : Ref .command) :
    Act D (Option (Ref .aggregate)) := do
  let command ← Act.read (·.commands.get ref)
  match command.receiver, command.factory with
  | some aggregate, _ => return some aggregate
  | none, none =>
    Act.throw (.definition (.text command.name) (.text "no target registered"))
  | none, some factory => do
    let aggregate ← handlers.construct factory ref
    change ref fun known => { known with receiver := aggregate }
    return aggregate

/-- Hands a command to its receiver. A command with errors is not handed over; its
errors are raised. -/
def execute (handlers : Handlers D) (ref : Ref .command) : Act D Unit := do
  let errors ← Act.read fun system => (system.commands.get ref).errors
  let recorded := Validation.errorsOf (← Act.faultOf errors)
  if recorded.isEmpty then
    match ← resolveReceiver handlers ref with
    | some aggregate => Aggregate.handleCommand handlers aggregate ref
    | none => Act.throw (.lacksAttribute "NoneType" "handle_command")
  else do
    let shown ← text ref
    Act.logRecord logger .debug s!"Not delivering {shown}: {recorded.text}"
    Act.rethrow errors

end EventSourcing.Command
