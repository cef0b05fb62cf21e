import EventSourcing.Aggregate

/-!
# Command definitions

A definition declares the parameters of a kind of command by prototypes, says
which of them identifies the receiver, and names the factory of receivers.
Declaring a parameter again replaces its prototype and keeps its place. A command
made from a definition has copies of the prototypes; without a declared
identifier it gets an empty one of its own.
-/

set_option autoImplicit false

namespace EventSourcing

variable {D : Domain}

/-- Named things with one more: a name that is there keeps its place. -/
def putNamed {Item : Type} (name : String) (item : Item) :
    List (String × Item) → List (String × Item)
  | [] => [(name, item)]
  | entry :: rest =>
    if entry.1 = name then (name, item) :: rest else entry :: putNamed name item rest

def newParameter (parameter : Parameter) : Act D (Ref .parameter) :=
  fun system =>
    (.ok system.parameters.nextRef,
      { system with parameters := system.parameters.push parameter })

def copyParameter (ref : Ref .parameter) : Act D (Ref .parameter) := do
  newParameter (← Act.read (·.parameters.get ref))

def parseParameter (ref : Ref .parameter) (text : String) : Act D (Option Raise) :=
  fun system =>
    let (parameter, refusal) := (system.parameters.get ref).parse text
    (.ok refusal, { system with parameters := system.parameters.set ref parameter })

namespace Definition

def defaultIdField : String := "id"

def create (name : String) : Act D (Ref .definition) :=
  fun system =>
    let definition : Definition D :=
      { name, fields := [], idField := defaultIdField, factory := none }
    (.ok system.definitions.nextRef,
      { system with definitions := system.definitions.push definition })

def change (ref : Ref .definition) (edit : Definition D → Definition D) : Act D Unit :=
  Act.update fun system =>
    { system with
      definitions := system.definitions.set ref (edit (system.definitions.get ref)) }

def field (definition : Ref .definition) (name : String) (prototype : Ref .parameter) :
    Act D Unit :=
  change definition fun known => { known with fields := putNamed name prototype known.fields }

def id (definition : Ref .definition) (name : String) (prototype : Ref .parameter) :
    Act D Unit :=
  change definition fun known =>
    { known with fields := putNamed name prototype known.fields, idField := name }

def target (definition : Ref .definition) (factory : Option D.Factory) : Act D Unit :=
  change definition fun known => { known with factory }

def literal (definition : Definition D) : String :=
  let names := (definition.fields.map Prod.fst).mergeSort (fun left right => left ≤ right)
  "CommandDefinition(" ++ Text.quoted definition.name ++ ", fields=" ++
    (Datum.list (names.map fun name : String => .text name)).literal ++ ")"

end Definition

namespace Command

/-- Makes a command from its parts, without errors and without a receiver. -/
def create (name : String) (fields : List (String × Ref .parameter)) (idField : String)
    (factory : Option D.Factory) (hasImplicitId : Bool) : Act D (Ref .command) := do
  let errors ← Validation.create []
  fun system =>
    let command : Command D :=
      { name, fields, idField, errors, factory, receiver := none, hasImplicitId }
    (.ok system.commands.nextRef, { system with commands := system.commands.push command })

def copyFields : List (String × Ref .parameter) → Act D (List (String × Ref .parameter))
  | [] => pure []
  | (name, prototype) :: rest => do
    let copy ← copyParameter prototype
    return (name, copy) :: (← copyFields rest)

def ofDefinition (definition : Ref .definition) : Act D (Ref .command) := do
  let known ← Act.read (·.definitions.get definition)
  let fields ← copyFields known.fields
  if (fields.lookup known.idField).isSome then
    create known.name fields known.idField known.factory false
  else do
    let identifier ← newParameter (.identifier "")
    create known.name (putNamed known.idField identifier fields) known.idField known.factory true

end Command

end EventSourcing
