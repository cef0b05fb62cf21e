import EventSourcing.Application.Basic
import EventSourcing.Proofs.Command.Making
import Mathlib.Logic.Function.Basic

/-!
# Commands side by side

Definitions are declared, commands are made from them and changed, in any order. `Desk` is the
system with the commands that were made, each under a label; `Sketch` is what such a run promises,
the definitions and for each label a draft, and there a move touches one definition or one draft.
Every move on a desk is the move on its sketch (`Tidy.perform`), as long as no definition refers to
the parameters of a command and no two commands share an object, which every move keeps.
-/

set_option autoImplicit false

namespace EventSourcing

variable {D : Domain}

open Command

/-! ## Moves -/

/-- What is done with a command. -/
inductive Edit where
  | set (name submitted : String)
  | fill (form : Form)
  | acknowledge (reading : Moment)

namespace Edit

def act (command : Ref .command) : Edit → Act D Unit
  | .set name submitted => Command.set command name submitted
  | .fill form => Command.fill command form
  | .acknowledge reading => do
    let clock ← Application.newClock (.showing reading)
    Command.acknowledge command clock

def redraft (causes : Raise → Option Fault) : Edit → Draft → Except Draft Draft
  | .set name submitted => Draft.set causes name submitted
  | .fill form => Draft.fill causes form
  | .acknowledge reading => Draft.acknowledge reading

def apply (causes : Raise → Option Fault) (draft : Draft) (edit : Edit) : Draft :=
  Draft.left (edit.redraft causes draft)

end Edit

/-- What is declared in a definition. -/
inductive Declaration (D : Domain) where
  | field (name : String) (prototype : Ref .parameter)
  | id (name : String) (prototype : Ref .parameter)
  | target (factory : Option D.Factory)

namespace Declaration

def act (definition : Ref .definition) : Declaration D → Act D Unit
  | .field name prototype => Definition.field definition name prototype
  | .id name prototype => Definition.id definition name prototype
  | .target factory => Definition.target definition factory

def prototype? : Declaration D → Option (Ref .parameter)
  | .field _ prototype | .id _ prototype => some prototype
  | .target _ => none

def apply (known : Definition D) : Declaration D → Definition D
  | .field name prototype => { known with fields := putNamed name prototype known.fields }
  | .id name prototype =>
    { known with fields := putNamed name prototype known.fields, idField := name }
  | .target factory => { known with factory }

theorem act_run (definition : Ref .definition) (declaration : Declaration D)
    (system : System D) :
    declaration.act definition system = (.ok (), { system with
      definitions := system.definitions.set definition
        (declaration.apply (system.definitions.get definition)) }) := by
  cases declaration <;> rfl

theorem mem_apply {known : Definition D} {declaration : Declaration D}
    {entry : String × Ref .parameter} (member : entry ∈ (declaration.apply known).fields) :
    entry ∈ known.fields ∨ declaration.prototype? = some entry.2 := by
  cases declaration with
  | field name prototype | id name prototype =>
    cases mem_of_mem_putNamed member with
    | inl known => exact .inl known
    | inr same =>
      rw [same]
      exact .inr rfl
  | target factory => exact .inl member

end Declaration

inductive Move (D : Domain) where
  | declare (definition : Ref .definition) (declaration : Declaration D)
  /-- Makes a command, filled if there is a form, and keeps it under a label. -/
  | create (label : String) (definition : Ref .definition) (form : Option Form)
  | edit (label : String) (edit : Edit)

def Command.making (definition : Ref .definition) : Option Form → Act D (Ref .command)
  | none => ofDefinition definition
  | some form => ofForm definition form

/-- A system and the commands that were made in it, by label. -/
structure Desk (D : Domain) where
  system : System D
  commands : String → Option (Ref .command)

namespace Desk

def opening (start : System D) : Desk D :=
  { system := start, commands := fun _ => none }

def keep (label : String) (command : Option (Ref .command)) (desk : Desk D) : Desk D :=
  { desk with commands := Function.update desk.commands label command }

/-- One move. Where it raises a fault, the system is what it left, and no command was made. -/
def perform (desk : Desk D) : Move D → Desk D
  | .declare definition declaration =>
    { desk with system := (declaration.act definition desk.system).2 }
  | .create label definition form =>
    let made := making definition form desk.system
    { desk with system := made.2 }.keep label made.1.toOption
  | .edit label edit =>
    match desk.commands label with
    | none => desk
    | some command => { desk with system := (edit.act command desk.system).2 }

def after (start : System D) (moves : List (Move D)) : Desk D :=
  moves.foldl perform (opening start)

end Desk

/-! ## Sketches -/

/-- The draft of a command that is made, and none if making it raises a fault. -/
def Draft.made? (causes : Raise → Option Fault) (schema : Schema) : Option Form → Option Draft
  | none => some (ofSchema schema)
  | some form => ((ofSchema schema).fill causes form).toOption

/-- Definitions, and for each label the draft of the command. -/
structure Sketch (D : Domain) where
  definitions : Table .definition (Definition D)
  drafts : String → Option Draft

namespace Sketch

def keep (label : String) (draft : Option Draft) (sketch : Sketch D) : Sketch D :=
  { sketch with drafts := Function.update sketch.drafts label draft }

def schema (start : System D) (sketch : Sketch D) (definition : Ref .definition) : Schema :=
  schemaIn { start with definitions := sketch.definitions } definition

def perform (start : System D) (sketch : Sketch D) : Move D → Sketch D
  | .declare definition declaration =>
    { sketch with
      definitions := sketch.definitions.set definition
        (declaration.apply (sketch.definitions.get definition)) }
  | .create label definition form =>
    sketch.keep label (Draft.made? (·.cause? start) (sketch.schema start definition) form)
  | .edit label edit =>
    sketch.keep label ((sketch.drafts label).map (edit.apply (·.cause? start)))

end Sketch

def Desk.sketch (desk : Desk D) : Sketch D :=
  { definitions := desk.system.definitions
    drafts := fun label => (desk.commands label).map (draftIn desk.system) }

/-! ## What other moves leave alone -/

namespace Command

section Untouched

variable {start before after : System D} {command other : Ref .command}

/-- A command has the objects that it had, and they show what they showed. -/
structure Untouched (command : Ref .command) (before after : System D) : Prop where
  owns : Owns command after
  known : after.commands.get command = before.commands.get command
  draft : draftIn after command = draftIn before command

theorem Untouched.slots (untouched : Untouched command before after) :
    slots after command = slots before command := by
  simp only [Command.slots, untouched.known]

private theorem untouched_of_kept (owns : Owns command before)
    (known : after.commands.get command = before.commands.get command)
    (parameters : ∀ slot ∈ slots before command,
      after.parameters.get slot = before.parameters.get slot)
    (errors : after.faults.get (before.commands.get command).errors =
      before.faults.get (before.commands.get command).errors)
    (commandsMade : before.commands.nextRef.index ≤ after.commands.nextRef.index)
    (parametersMade : before.parameters.nextRef.index ≤ after.parameters.nextRef.index)
    (faultsMade : before.faults.nextRef.index ≤ after.faults.nextRef.index) :
    Untouched command before after := by
  have recorded : recordedErrors after command = recordedErrors before command := by
    simp only [recordedErrors, known, errors]
  have fields : (before.commands.get command).fields.map
        (fun entry => (entry.1, after.parameters.get entry.2)) =
      (before.commands.get command).fields.map
        (fun entry => (entry.1, before.parameters.get entry.2)) :=
    List.map_congr_left fun entry member => by
      rw [parameters entry.2 (List.mem_map_of_mem member)]
  refine ⟨⟨Nat.lt_of_lt_of_le owns.made commandsMade, ?_, ?_, ?_, ?_⟩, known, ?_⟩
  · intro slot member
    simp only [Command.slots, known] at member
    exact Nat.lt_of_lt_of_le (owns.parameters slot member) parametersMade
  · simp only [Command.slots, known]
    exact owns.distinct
  · rw [known]
    exact Nat.lt_of_lt_of_le owns.errors faultsMade
  · rw [known, errors, recorded]
    exact owns.recorded
  · simp only [draftIn, known, fields, recorded]

theorem Extends.untouched (spares : Extends before after) (owns : Owns command before) :
    Untouched command before after :=
  untouched_of_kept owns (spares.commands command owns.made)
    (fun slot member => spares.parameters slot (owns.parameters slot member))
    (spares.faults _ owns.errors) spares.commandsMade spares.parametersMade spares.faultsMade

/-- Two commands that share no object. -/
structure Apart (system : System D) (command other : Ref .command) : Prop where
  differ : other ≠ command
  slots : ∀ slot ∈ slots system other, slot ∉ slots system command
  errors : (system.commands.get other).errors ≠ (system.commands.get command).errors

theorem Apart.symm (apart : Apart before command other) : Apart before other command where
  differ := Ne.symm apart.differ
  slots slot member shared := apart.slots slot shared member
  errors := Ne.symm apart.errors

theorem Apart.untouched (apart : Apart before command other)
    (first : Untouched command before after) (second : Untouched other before after) :
    Apart after command other where
  differ := apart.differ
  slots := by
    rw [first.slots, second.slots]
    exact apart.slots
  errors := by
    rw [first.known, second.known]
    exact apart.errors

theorem Only.untouched (only : Only command before after) (apart : Apart before command other)
    (owns : Owns other before) : Untouched other before after :=
  untouched_of_kept owns (only.commands other apart.differ owns.made)
    (fun slot member => only.parameters slot (apart.slots slot member)
      (owns.parameters slot member))
    (only.faults _ apart.errors owns.errors) only.commandsMade only.parametersMade
    only.faultsMade

theorem Only.apart (only : Only command before after) (apart : Apart before command other)
    (owns : Owns other before) : Apart after command other := by
  have untouched := only.untouched apart owns
  refine ⟨apart.differ, ?_, ?_⟩
  · intro slot member shared
    rw [untouched.slots] at member
    cases only.slots slot shared with
    | inl known => exact apart.slots slot member known
    | inr new => exact Nat.not_lt_of_le new (owns.parameters slot member)
  · rw [untouched.known, only.errors]
    exact apart.errors

theorem Created.apart (created : Created command before after) (owns : Owns other before) :
    Apart after command other := by
  have untouched := created.spares.untouched owns
  refine ⟨?_, ?_, ?_⟩
  · rintro rfl
    exact Nat.not_lt_of_le created.new owns.made
  · intro slot member shared
    rw [untouched.slots] at member
    exact Nat.not_lt_of_le (created.later.slots slot shared) (owns.parameters slot member)
  · rw [untouched.known]
    intro same
    have new := created.later.errors
    rw [← same] at new
    exact Nat.not_lt_of_le new owns.errors

theorem MadeAfter.untouched (made : MadeAfter start command before)
    (untouched : Untouched command before after) (retains : Retains start after) :
    MadeAfter start command after where
  retains := retains
  owns := untouched.owns
  later := by
    refine ⟨?_, ?_⟩
    · rw [untouched.slots]
      exact made.later.slots
    · rw [untouched.known]
      exact made.later.errors
  grounded := by
    rw [untouched.draft]
    exact made.grounded

end Untouched

section Making

variable {start system : System D} {definition : Ref .definition}

/-- Making a command makes it as its draft is made, and touches nothing that existed; a command
that could not be filled is there all the same, but nothing refers to it. -/
theorem making_run (grounded : start.Grounded) (retains : Retains start system)
    (declared : ∀ entry ∈ (system.definitions.get definition).fields,
      entry.2.index < start.parameters.nextRef.index) (form : Option Form) :
    ∃ command answer after, making definition form system = (answer, after) ∧
      Created command system after ∧ MadeAfter start command after ∧
      (answer = .ok command ∧
          Draft.made? (·.cause? start) (schemaIn system definition) form =
            some (draftIn after command) ∨
        (∃ halt, answer = .error halt) ∧
          Draft.made? (·.cause? start) (schemaIn system definition) form = none) := by
  obtain ⟨command, middle, ran, created, made, draft⟩ :=
    ofDefinition_made grounded retains declared
  cases form with
  | none => exact ⟨command, _, middle, ran, created, made, .inl ⟨rfl, congrArg some draft.symm⟩⟩
  | some form =>
    have filled := made.fill form
    have still := made.redrafted filled (made.grounded.setEach form _)
    rw [draft] at filled
    rcases fills : fill command form middle with ⟨halt | _, after⟩
    · rw [fills] at filled still
      have shows : (Draft.ofSchema (schemaIn system definition)).fill (·.cause? start) form =
        .error (draftIn after command) := filled.shows
      refine ⟨command, .error halt, after, ?_, created.only filled.only, still,
        .inr ⟨⟨halt, rfl⟩, ?_⟩⟩
      · rw [making, ofForm, Act.bind_of_ok ran, Act.bind_of_error fills]
      · rw [Draft.made?, shows]
        rfl
    · rw [fills] at filled still
      have shows : (Draft.ofSchema (schemaIn system definition)).fill (·.cause? start) form =
        .ok (draftIn after command) := filled.shows
      refine ⟨command, .ok command, after, ?_, created.only filled.only, still,
        .inl ⟨rfl, ?_⟩⟩
      · rw [making, ofForm, Act.bind_of_ok ran, Act.bind_of_ok fills]
        rfl
      · rw [Draft.made?, shows]
        rfl

end Making

end Command

/-! ## One move -/

/-- What was made since the start is apart from what existed and from each other. -/
structure Tidy (start : System D) (desk : Desk D) : Prop where
  retains : Retains start desk.system
  prototypes : ∀ definition, ∀ entry ∈ (desk.system.definitions.get definition).fields,
    entry.2.index < start.parameters.nextRef.index
  made : ∀ label command, desk.commands label = some command →
    MadeAfter start command desk.system
  apart : ∀ label other command another, label ≠ other → desk.commands label = some command →
    desk.commands other = some another → Apart desk.system command another

/-- What a move declares existed at the start. -/
def Move.Refers (start : System D) : Move D → Prop
  | .declare _ declaration => ∀ prototype, declaration.prototype? = some prototype →
    prototype.index < start.parameters.nextRef.index
  | .create .. | .edit .. => True

section Step

variable {start : System D} {desk : Desk D}

theorem Command.MadeAfter.edit {system : System D} {command : Ref .command}
    (made : MadeAfter start command system) (edit : Edit) :
    Redrafts command (edit.redraft (·.cause? start) (draftIn system command)) system
        (edit.act command system) ∧
      MadeAfter start command (edit.act command system).2 := by
  cases edit with
  | set name submitted =>
    have redrafts := made.set name submitted
    exact ⟨redrafts, made.redrafted redrafts (made.grounded.set name submitted)⟩
  | fill form =>
    have redrafts := made.fill form
    exact ⟨redrafts, made.redrafted redrafts (made.grounded.setEach form _)⟩
  | acknowledge reading =>
    let shown : System D := { system with clocks := system.clocks.push (.showing reading) }
    have owns : Owns command shown :=
      ⟨made.owns.made, made.owns.parameters, made.owns.distinct, made.owns.errors,
        made.owns.recorded⟩
    have reads : LiveEvent.nextReading shown system.clocks.nextRef = .ok reading := by
      have known : shown.clocks.get system.clocks.nextRef = .showing reading :=
        Table.get_push_nextRef _ _
      rw [LiveEvent.nextReading, known]
      rfl
    have only : Only command system shown := { Only.refl command system with }
    have redrafts := redrafts_acknowledge owns reads
    have whole : Redrafts command ((draftIn system command).acknowledge reading) system
        (Command.acknowledge command system.clocks.nextRef shown) :=
      ⟨redrafts.owns, Act.Frame.trans only redrafts.only, redrafts.shows⟩
    exact ⟨whole, made.redrafted whole (made.grounded.acknowledge reading)⟩

theorem Tidy.schema (tidy : Tidy start desk) (definition : Ref .definition) :
    schemaIn desk.system definition = desk.sketch.schema start definition := by
  have fields : (desk.system.definitions.get definition).fields.map
        (fun entry => (entry.1, desk.system.parameters.get entry.2)) =
      (desk.system.definitions.get definition).fields.map
        (fun entry => (entry.1, start.parameters.get entry.2)) :=
    List.map_congr_left fun entry member => by
      rw [tidy.retains.parameters entry.2 (tidy.prototypes definition entry member)]
  simp only [schemaIn, Sketch.schema, Desk.sketch, fields]

/-- A move that leaves the commands under other labels untouched changes the sketch under its own
label only. -/
private theorem Tidy.replaced {system : System D} (tidy : Tidy start desk) (label : String)
    (kept : Option (Ref .command)) (retains : Retains start system)
    (definitions : system.definitions = desk.system.definitions)
    (untouched : ∀ other another, other ≠ label → desk.commands other = some another →
      Untouched another desk.system system)
    (made : ∀ command, kept = some command → MadeAfter start command system ∧
      ∀ other another, other ≠ label → desk.commands other = some another →
        Apart system command another) :
    Tidy start (({ desk with system } : Desk D).keep label kept) ∧
      (({ desk with system } : Desk D).keep label kept).sketch =
        desk.sketch.keep label (kept.map (draftIn system)) := by
  refine ⟨⟨retains, ?_, ?_, ?_⟩, ?_⟩
  · intro definition
    rw [show (({ desk with system } : Desk D).keep label kept).system.definitions =
      desk.system.definitions from definitions]
    exact tidy.prototypes definition
  · intro other command known
    by_cases same : other = label
    · simp only [Desk.keep, same, Function.update_self] at known
      exact (made command known).1
    · simp only [Desk.keep, Function.update_of_ne same] at known
      exact (tidy.made other command known).untouched (untouched other command same known) retains
  · intro first second command another differ knownFirst knownSecond
    by_cases same : first = label
    · have other : second ≠ label := fun equal => differ (same.trans equal.symm)
      simp only [Desk.keep, same, Function.update_self] at knownFirst
      simp only [Desk.keep, Function.update_of_ne other] at knownSecond
      exact (made command knownFirst).2 second another other knownSecond
    · simp only [Desk.keep, Function.update_of_ne same] at knownFirst
      by_cases equal : second = label
      · simp only [Desk.keep, equal, Function.update_self] at knownSecond
        exact ((made another knownSecond).2 first command same knownFirst).symm
      · simp only [Desk.keep, Function.update_of_ne equal] at knownSecond
        exact (tidy.apart first second command another differ knownFirst knownSecond).untouched
          (untouched first command same knownFirst) (untouched second another equal knownSecond)
  · simp only [Desk.sketch, Desk.keep, Sketch.keep, definitions, Sketch.mk.injEq, true_and]
    funext other
    by_cases same : other = label
    · subst same
      simp only [Function.update_self]
    · simp only [Function.update_of_ne same]
      cases known : desk.commands other with
      | none => rfl
      | some another => exact congrArg some (untouched other another same known).draft

theorem Tidy.declare (tidy : Tidy start desk) {definition : Ref .definition}
    {declaration : Declaration D} (refers : (Move.declare definition declaration).Refers start) :
    Tidy start (desk.perform (.declare definition declaration)) ∧
      (desk.perform (.declare definition declaration)).sketch =
        desk.sketch.perform start (.declare definition declaration) := by
  have ran := Declaration.act_run definition declaration desk.system
  simp only [Desk.perform, ran, Sketch.perform]
  refine ⟨⟨?_, ?_, ?_, ?_⟩, rfl⟩
  · exact { tidy.retains with }
  · intro other entry member
    simp only [Table.get_set] at member
    split at member
    · cases Declaration.mem_apply member with
      | inl known => exact tidy.prototypes definition entry known
      | inr declared => exact refers entry.2 declared
    · exact tidy.prototypes other entry member
  · intro label command known
    have made := tidy.made label command known
    exact ⟨{ made.retains with }, { made.owns with }, { made.later with }, made.grounded⟩
  · intro label other command another differ first second
    exact { tidy.apart label other command another differ first second with }

theorem Tidy.create (tidy : Tidy start desk) (grounded : start.Grounded) (label : String)
    (definition : Ref .definition) (form : Option Form) :
    Tidy start (desk.perform (.create label definition form)) ∧
      (desk.perform (.create label definition form)).sketch =
        desk.sketch.perform start (.create label definition form) := by
  obtain ⟨command, answer, after, ran, created, made, answers⟩ :=
    making_run grounded tidy.retains (tidy.prototypes definition) form
  have untouched (other : String) (another : Ref .command) (_ : other ≠ label)
      (known : desk.commands other = some another) : Untouched another desk.system after :=
    created.spares.untouched (tidy.made other another known).owns
  have kept (answered : Ref .command) (known : answer.toOption = some answered) :
      MadeAfter start answered after ∧ ∀ other another, other ≠ label →
        desk.commands other = some another → Apart after answered another := by
    have same : answered = command := by
      rcases answers with ⟨rfl, -⟩ | ⟨⟨halt, rfl⟩, -⟩
      · exact (Option.some.inj known).symm
      · cases known
    rw [same]
    exact ⟨made, fun other another _ known =>
      created.apart (tidy.made other another known).owns⟩
  obtain ⟨tidyAfter, sketched⟩ := tidy.replaced label answer.toOption made.retains
    created.spares.definitions untouched kept
  simp only [Desk.perform, ran, Sketch.perform, ← tidy.schema]
  refine ⟨tidyAfter, sketched.trans ?_⟩
  rcases answers with ⟨rfl, draft⟩ | ⟨⟨halt, rfl⟩, none⟩
  · rw [draft]
    rfl
  · rw [none]
    rfl

theorem Tidy.edit (tidy : Tidy start desk) (label : String) (edit : Edit) :
    Tidy start (desk.perform (.edit label edit)) ∧
      (desk.perform (.edit label edit)).sketch = desk.sketch.perform start (.edit label edit) := by
  cases known : desk.commands label with
  | none =>
    have undrafted : desk.sketch.drafts label = none := by
      simp only [Desk.sketch, known, Option.map_none]
    simp only [Desk.perform, known, Sketch.perform, Sketch.keep, undrafted, Option.map_none]
    rw [← undrafted, Function.update_eq_self]
    exact ⟨tidy, rfl⟩
  | some command =>
    obtain ⟨redrafts, made⟩ := (tidy.made label command known).edit edit
    have apart (other : String) (another : Ref .command) (differ : other ≠ label)
        (knownOther : desk.commands other = some another) : Apart desk.system command another :=
      tidy.apart label other command another (Ne.symm differ) known knownOther
    have owned (other : String) (another : Ref .command)
        (knownOther : desk.commands other = some another) : Owns another desk.system :=
      (tidy.made other another knownOther).owns
    have untouched (other : String) (another : Ref .command) (differ : other ≠ label)
        (knownOther : desk.commands other = some another) :
        Untouched another desk.system (edit.act command desk.system).2 :=
      redrafts.only.untouched (apart other another differ knownOther)
        (owned other another knownOther)
    have kept (answered : Ref .command) (same : some command = some answered) :
        MadeAfter start answered (edit.act command desk.system).2 ∧
          ∀ other another, other ≠ label → desk.commands other = some another →
            Apart (edit.act command desk.system).2 answered another := by
      cases same
      exact ⟨made, fun other another differ knownOther =>
        redrafts.only.apart (apart other another differ knownOther)
          (owned other another knownOther)⟩
    obtain ⟨tidyAfter, sketched⟩ := tidy.replaced label (some command) made.retains
      redrafts.only.definitions untouched kept
    have still : ({ desk with system := (edit.act command desk.system).2 } : Desk D).keep label
        (some command) = desk.perform (.edit label edit) := by
      simp only [Desk.perform, known, Desk.keep]
      rw [← known, Function.update_eq_self]
    rw [still] at tidyAfter sketched
    refine ⟨tidyAfter, sketched.trans ?_⟩
    have drafted : desk.sketch.drafts label = some (draftIn desk.system command) := by
      simp only [Desk.sketch, known, Option.map_some]
    simp only [Sketch.perform, drafted, Option.map_some, Edit.apply, redrafts.left_eq]

/-- A move on a desk is the move on its sketch, and keeps it tidy. -/
theorem Tidy.perform (tidy : Tidy start desk) (grounded : start.Grounded) {move : Move D}
    (refers : move.Refers start) :
    Tidy start (desk.perform move) ∧
      (desk.perform move).sketch = desk.sketch.perform start move := by
  cases move with
  | declare definition declaration => exact tidy.declare refers
  | create label definition form => exact tidy.create grounded label definition form
  | edit label edit => exact tidy.edit label edit

end Step

/-! ## Runs -/

theorem Tidy.opening {start : System D} (grounded : start.Grounded) :
    Tidy start (Desk.opening start) where
  retains := (Extends.refl start).toRetains
  prototypes := grounded.prototypes
  made label command known := by cases known
  apart label other command another _ known := by cases known

/-- A run on a desk is the run on its sketch. -/
theorem Tidy.run {start : System D} {desk : Desk D} (tidy : Tidy start desk)
    (grounded : start.Grounded) {moves : List (Move D)}
    (refers : ∀ move ∈ moves, move.Refers start) :
    Tidy start (moves.foldl Desk.perform desk) ∧
      (moves.foldl Desk.perform desk).sketch =
        moves.foldl (Sketch.perform start) desk.sketch := by
  induction moves generalizing desk with
  | nil => exact ⟨tidy, rfl⟩
  | cons move moves ih =>
    obtain ⟨tidyNext, sketched⟩ := tidy.perform grounded (refers move List.mem_cons_self)
    have rest := ih tidyNext fun other member => refers other (.tail _ member)
    rw [sketched] at rest
    exact rest

end EventSourcing
