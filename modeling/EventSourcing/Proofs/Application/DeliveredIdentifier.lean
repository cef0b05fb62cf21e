import EventSourcing.Proofs.Application.Withholding
import EventSourcing.Proofs.Command.Making
import EventSourcing.Proofs.Text.DecimalDigits

/-!
# Identifiers of delivered commands

The identifier of a command that is made from a form is the text of the form, or, where none was
given and none declared, the time at which the command was acknowledged. `Bears` is what the
filling of a draft keeps: as long as nothing was refused, the identifying field holds an identifier,
and once the form's text was given to it, that text. A command with a refused text is not delivered,
so that the one that is has an identifier of the right form.
-/

set_option autoImplicit false

namespace EventSourcing

variable {D : Domain}

/-! ## The form of identifiers -/

theorem DecimalText.ofList_ofInt (value : Int) : String.ofList (ofInt value) = toString value := by
  cases value with
  | ofNat value => rfl
  | negSucc value =>
    have negative : toString (Int.negSucc value) = "-" ++ String.ofList (ofNat (value + 1)) := rfl
    rw [negative, ofInt, ← String.toList_inj]
    simp

namespace Parameter

theorem isIdentifierChar_iff (character : Char) :
    isIdentifierChar character = true ↔
      character = '-' ∨ ('a' ≤ character ∧ character ≤ 'z') ∨
        ('0' ≤ character ∧ character ≤ '9') := by
  simp only [isIdentifierChar, Char.le_def, Bool.or_eq_true, Bool.and_eq_true, decide_eq_true_eq,
    or_assoc]
  rfl

theorem isIdentifierChar_of_isDigit {digit : Char} (isDigit : Text.isDigit digit = true) :
    isIdentifierChar digit = true := by
  rw [isIdentifierChar, Bool.or_eq_true]
  exact .inr isDigit

theorem isIdentifier_iff (identifier : String) :
    isIdentifier identifier = true ↔
      identifier ≠ "" ∧ ∀ character ∈ identifier.toList, isIdentifierChar character = true := by
  simp [isIdentifier]

theorem isIdentifier_ofInt (value : Int) :
    isIdentifier (String.ofList (DecimalText.ofInt value)) = true := by
  have digits (number : Nat) :
      ∀ character ∈ DecimalText.ofNat number, isIdentifierChar character = true :=
    fun character member => isIdentifierChar_of_isDigit (DecimalText.isDigit_of_mem_ofNat member)
  rw [isIdentifier_iff]
  cases value with
  | ofNat number =>
    constructor
    · intro empty
      have none : DecimalText.ofNat number = [] := by
        simpa [DecimalText.ofInt] using congrArg String.toList empty
      exact DecimalText.ofNat_ne_nil number none
    · simpa [DecimalText.ofInt] using digits number
  | negSucc number =>
    constructor
    · intro empty
      simpa [DecimalText.ofInt] using congrArg String.toList empty
    · simp only [DecimalText.ofInt, String.toList_ofList, List.mem_cons]
      rintro character (rfl | member)
      · rfl
      · exact digits (number + 1) character member

end Parameter

/-! ## Filling the identifying field -/

namespace Draft

/-- As long as nothing was refused, the identifying field holds an identifier of this kind. -/
structure Bears (field : String) (implicit : Bool) (accepts : String → Prop) (draft : Draft) :
    Prop where
  idField : draft.idField = field
  hasImplicitId : draft.hasImplicitId = implicit
  identifier : draft.errors.isEmpty = true →
    ∃ value, draft.fields.lookup field = some (.identifier value) ∧ accepts value

/-- What a form makes of an identifier: the text without the blanks around it, and nothing if there
is no text for an identifier that was not declared. -/
def Taken (implicit : Bool) (submitted value : String) : Prop :=
  if implicit = true ∧ submitted = "" then value = ""
  else value = Text.strip submitted ∧ Parameter.isIdentifier value = true

namespace Bears

variable {field : String} {implicit : Bool} {accepts : String → Prop} {draft last : Draft}
  {causes : Raise → Option Fault} {form : Form}

theorem weaken {others : String → Prop} (bears : Bears field implicit accepts draft)
    (weaker : ∀ value, accepts value → others value) : Bears field implicit others draft where
  idField := bears.idField
  hasImplicitId := bears.hasImplicitId
  identifier clean := by
    obtain ⟨value, found, accepted⟩ := bears.identifier clean
    exact ⟨value, found, weaker value accepted⟩

/-- A draft with errors bears whatever is asked of it. -/
private theorem add (bears : Bears field implicit accepts draft) (name message : String)
    (others : String → Prop) :
    Bears field implicit others { draft with errors := draft.errors.add name message } where
  idField := bears.idField
  hasImplicitId := bears.hasImplicitId
  identifier clean := by
    rw [FieldErrors.isEmpty_add] at clean
    cases clean

private theorem set_other (bears : Bears field implicit accepts draft) {name : String}
    (differs : name ≠ field) (submitted : String) :
    Bears field implicit accepts (left (draft.set causes name submitted)) := by
  apply left_set (Bears field implicit accepts) bears
  · intro parameter declared
    refine ⟨bears.idField, bears.hasImplicitId, fun clean => ?_⟩
    simp only [put, lookup_putNamed, if_neg (Ne.symm differs)]
    exact bears.identifier clean
  · exact fun draft message known => known.add name message accepts

/-- Errors stay, whatever field is given text. -/
private theorem set_of_errors (errors : Bears field implicit (fun _ => False) draft)
    (name submitted : String) :
    Bears field implicit (fun _ => False) (left (draft.set causes name submitted)) := by
  apply left_set (Bears field implicit fun _ => False) errors
  · intro parameter declared
    refine ⟨errors.idField, errors.hasImplicitId, fun clean => ?_⟩
    obtain ⟨value, -, impossible⟩ := errors.identifier clean
    exact impossible.elim
  · exact fun draft message known => known.add name message _

/-- The identifying field takes a text that is an identifier, and any other is refused. -/
private theorem set_own (new : ∀ fault, causes (.fresh fault) = some fault)
    (bears : Bears field implicit (fun _ => True) draft) (submitted : String) :
    Bears field implicit
      (fun value => value = Text.strip submitted ∧ Parameter.isIdentifier value = true)
      (left (draft.set causes field submitted)) := by
  by_cases clean : draft.errors.isEmpty = true
  · obtain ⟨value, found, -⟩ := bears.identifier clean
    cases taken : Parameter.isIdentifier (Text.strip submitted) with
    | true =>
      simp only [set, found, Parameter.parse, taken, if_true, left]
      refine ⟨bears.idField, bears.hasImplicitId, fun _ => ⟨Text.strip submitted, ?_, rfl, taken⟩⟩
      simp only [put, lookup_putNamed, if_true]
    | false =>
      let given := draft.put field (.identifier value)
      have refused : draft.set causes field submitted = .ok { given with
          errors := given.errors.add field
            (Fault.raised .rejectedValue [.text Parameter.malformedIdentifierCode]).message } := by
        simp only [set, found, Parameter.parse, taken, Bool.false_eq_true, if_false,
          Parameter.rejection, new]
        rfl
      have put : Bears field implicit (fun _ => True) given := by
        refine ⟨bears.idField, bears.hasImplicitId, fun _ => ⟨value, ?_, trivial⟩⟩
        simp only [given, put, lookup_putNamed, if_true]
      rw [refused]
      exact put.add field _ _
  · have errors : Bears field implicit (fun _ => False) draft :=
      ⟨bears.idField, bears.hasImplicitId, fun empty => absurd empty clean⟩
    exact (errors.set_of_errors field submitted).weaken fun value impossible => impossible.elim

/-! A field of the form is given to a draft. -/

theorem skip (bears : Bears field implicit accepts draft)
    (skipped : implicit = true ∧ form.textFor field = "") :
    Bears field implicit accepts (left (draft.setUnlessImplicit causes form field)) := by
  have unset := skipped
  rw [← bears.hasImplicitId] at unset
  rw [setUnlessImplicit, if_pos ⟨bears.idField.symm, unset⟩]
  exact bears

theorem other (bears : Bears field implicit accepts draft) {name : String}
    (differs : name ≠ field) :
    Bears field implicit accepts (left (draft.setUnlessImplicit causes form name)) := by
  rw [setUnlessImplicit, if_neg fun skipped => differs (skipped.1.trans bears.idField)]
  exact bears.set_other differs (form.textFor name)

theorem own (new : ∀ fault, causes (.fresh fault) = some fault)
    (bears : Bears field implicit (fun _ => True) draft)
    (given : ¬(implicit = true ∧ form.textFor field = "")) :
    Bears field implicit (Taken implicit (form.textFor field))
      (left (draft.setUnlessImplicit causes form field)) := by
  have unset := given
  rw [← bears.hasImplicitId] at unset
  rw [setUnlessImplicit, if_neg fun skipped => unset skipped.2]
  refine (set_own new bears (form.textFor field)).weaken fun value taken => ?_
  rw [Taken, if_neg given]
  exact taken

/-- What the identifying field took it keeps. -/
theorem setEach (new : ∀ fault, causes (.fresh fault) = some fault)
    (bears : Bears field implicit (Taken implicit (form.textFor field)) draft)
    (names : List String) :
    Bears field implicit (Taken implicit (form.textFor field))
      (left (draft.setEach causes form names)) := by
  induction names generalizing draft with
  | nil => exact bears
  | cons name names ih =>
    refine left_bind _ ?_ fun _ known => ih known
    by_cases same : name = field
    · subst same
      by_cases skipped : implicit = true ∧ form.textFor name = ""
      · exact bears.skip skipped
      · exact own new (bears.weaken fun _ _ => trivial) skipped
    · exact bears.other same

/-- Once every field has its text, the identifying field has its own. -/
theorem setEach_own (new : ∀ fault, causes (.fresh fault) = some fault)
    (given : ¬(implicit = true ∧ form.textFor field = "")) {names : List String}
    (bears : Bears field implicit (fun _ => True) draft) (member : field ∈ names)
    (ran : draft.setEach causes form names = .ok last) :
    Bears field implicit (Taken implicit (form.textFor field)) last := by
  induction names generalizing draft with
  | nil => cases member
  | cons name names ih =>
    cases first : draft.setUnlessImplicit causes form name with
    | error stopped =>
      rw [Draft.setEach, first] at ran
      cases ran
    | ok middle =>
      have rest : middle.setEach causes form names = .ok last := by
        rw [Draft.setEach, first] at ran
        exact ran
      by_cases same : name = field
      · subst same
        have taken : Bears name implicit _ (left (draft.setUnlessImplicit causes form name)) :=
          own new bears given
        rw [first] at taken
        have settled : Bears name implicit _ (left (middle.setEach causes form names)) :=
          setEach new taken names
        rw [rest] at settled
        exact settled
      · have still : Bears field implicit _ (left (draft.setUnlessImplicit causes form name)) :=
          bears.other same
        rw [first] at still
        cases member with
        | head => exact absurd rfl same
        | tail _ later => exact ih still later rest

/-- A definition declares no identifier, or an empty one. -/
theorem ofSchema {schema : Schema}
    (declared : schema.fields.lookup schema.idField = none ∨
      schema.fields.lookup schema.idField = some (.identifier "")) :
    Bears schema.idField (schema.fields.lookup schema.idField).isNone (· = "")
      (Draft.ofSchema schema) := by
  rcases declared with undeclared | known
  · simp only [Draft.ofSchema, undeclared, Option.isSome_none, Bool.false_eq_true, if_false]
    refine ⟨rfl, rfl, fun _ => ⟨"", ?_, rfl⟩⟩
    simp only [lookup_putNamed, if_true]
  · simp only [Draft.ofSchema, known, Option.isSome_some, if_true]
    exact ⟨rfl, rfl, fun _ => ⟨"", known, rfl⟩⟩

theorem fill (new : ∀ fault, causes (.fresh fault) = some fault)
    (bears : Bears field implicit (· = "") draft) (clean : draft.errors.isEmpty = true)
    (ran : draft.fill causes form = .ok last) :
    Bears field implicit (Taken implicit (form.textFor field)) last := by
  by_cases skipped : implicit = true ∧ form.textFor field = ""
  · have taken := bears.weaken fun value empty => by
      show Taken implicit (form.textFor field) value
      rw [Taken, if_pos skipped]
      exact empty
    have settled : Bears field implicit _ (left (draft.fill causes form)) :=
      setEach new taken (draft.fields.map Prod.fst)
    rw [ran] at settled
    exact settled
  · obtain ⟨value, found, -⟩ := bears.identifier clean
    exact setEach_own new skipped (bears.weaken fun _ _ => trivial)
      (List.mem_map_of_mem (mem_of_lookup found)) ran

end Bears

/-- A command that is acknowledged keeps its identifier; without one it gets the time. -/
theorem aggregateId_acknowledge {draft last : Draft} {reading : Moment}
    (differs : draft.idField ≠ Command.nowField) (ran : draft.acknowledge reading = .ok last) :
    draft.aggregateId ≠ "" ∧ last.aggregateId = draft.aggregateId ∨
      draft.aggregateId = "" ∧ ∃ nanoseconds, reading.unixNanoseconds? = some nanoseconds ∧
        last.aggregateId = toString nanoseconds := by
  have stamped : (draft.put Command.nowField (.time (some reading))).aggregateId =
      draft.aggregateId := by
    simp only [aggregateId, put, lookup_putNamed, if_neg differs]
  rw [acknowledge, stamped] at ran
  by_cases unnamed : draft.aggregateId = ""
  · rw [if_pos unnamed] at ran
    cases counted : reading.unixNanoseconds? with
    | none =>
      rw [counted] at ran
      cases ran
    | some nanoseconds =>
      rw [counted] at ran
      cases ran
      refine .inr ⟨unnamed, nanoseconds, rfl, ?_⟩
      rw [← DecimalText.ofList_ofInt]
      simp only [aggregateId, put, lookup_putNamed, if_true]
      rfl
  · rw [if_neg unnamed] at ran
    cases ran
    exact .inl ⟨unnamed, stamped⟩

/-- What a command without errors is called once it is acknowledged. -/
theorem Bears.acknowledged {field submitted : String} {implicit : Bool} {draft last : Draft}
    {reading : Moment} (bears : Bears field implicit (Taken implicit submitted) draft)
    (clean : draft.errors.isEmpty = true) (differs : field ≠ Command.nowField)
    (ran : draft.acknowledge reading = .ok last) :
    Parameter.isIdentifier last.aggregateId = true ∧
      (submitted ≠ "" → last.aggregateId = Text.strip submitted) ∧
      (submitted = "" → implicit = true ∧ ∃ nanoseconds,
        reading.unixNanoseconds? = some nanoseconds ∧ last.aggregateId = toString nanoseconds) := by
  obtain ⟨value, found, taken⟩ := bears.identifier clean
  have called : draft.aggregateId = value := by
    simp only [aggregateId, bears.idField, found, Parameter.shown]
  rw [← bears.idField] at differs
  rcases aggregateId_acknowledge differs ran with
    ⟨named, kept⟩ | ⟨unnamed, nanoseconds, counted, text⟩
  · rw [called] at named kept
    rw [kept]
    have given : ¬(implicit = true ∧ submitted = "") := by
      intro skipped
      rw [Taken, if_pos skipped] at taken
      exact named taken
    rw [Taken, if_neg given] at taken
    obtain ⟨stripped, isIdentifier⟩ := taken
    refine ⟨isIdentifier, fun _ => stripped, fun blank => ?_⟩
    rw [blank] at stripped
    exact absurd stripped named
  · rw [called] at unnamed
    have skipped : implicit = true ∧ submitted = "" := by
      by_contra given
      rw [Taken, if_neg given, unnamed] at taken
      cases taken.2
    refine ⟨?_, fun given => absurd skipped.2 given,
      fun _ => ⟨skipped.1, nanoseconds, counted, text⟩⟩
    rw [text, ← DecimalText.ofList_ofInt]
    exact Parameter.isIdentifier_ofInt nanoseconds

end Draft

/-! ## Delivering a command -/

namespace Command

/-- The identifier of a command is as it was, and errors that were recorded are still there. -/
abbrev LeavesIdentifier (command : Ref .command) : System D → System D → Prop :=
  Act.Both (Act.Same (aggregateIdIn · command)) (Act.Along (Refused command))

end Command

namespace Application

open Command (GoesAlong LeavesIdentifier Refused)

section Delivering

variable {handlers : Handlers D} {ref : Ref .application} {command : Ref .command}
  {receiver aggregate : Ref .aggregate} {start acknowledged found given : System D}

private theorem leavesIdentifier_of_withholds {before after : System D}
    (same : Command.aggregateIdIn after command = Command.aggregateIdIn before command)
    (withholds : Command.Withholds (fun _ => false) command before after) :
    LeavesIdentifier command before after :=
  ⟨same, fun refused => (withholds refused).1⟩

private theorem leavesIdentifier_newFault (fault : Fault) :
    Act.Keeps (LeavesIdentifier (D := D) command) (Act.newFault fault) :=
  fun system => leavesIdentifier_of_withholds rfl (Command.withholds_newFault fault system)

private theorem leavesIdentifier_of_same {before after : System D}
    (commands : after.commands = before.commands)
    (parameters : after.parameters = before.parameters)
    (faults : after.faults = before.faults) : LeavesIdentifier command before after := by
  constructor
  · show Command.aggregateIdIn after command = Command.aggregateIdIn before command
    simp only [Command.aggregateIdIn, commands, parameters]
  · intro refused
    simp only [Refused, Command.recordedErrors, commands, faults]
    exact refused

private theorem leavesIdentifier_resolveReceiver
    (code : GoesAlong handlers command (LeavesIdentifier command)) :
    Act.Keeps (LeavesIdentifier command) (Command.resolveReceiver handlers command) := by
  apply Command.keeps_resolveReceiver_of_steps
  · exact leavesIdentifier_newFault
  · intro receiver system
    have withholds : Act.Keeps (Command.Withholds (fun _ => false) command)
        (Command.change (D := D) command fun known => { known with receiver }) :=
      Command.withholds_change command _ fun known => rfl
    apply leavesIdentifier_of_withholds
    · simp only [Command.aggregateIdIn, Command.change, Act.update, Table.get_set, if_true]
    · exact withholds system
  · exact code

/-- Between the time that a command is acknowledged and the time that it is handed over, its
identifier stays and no errors are taken away. -/
theorem leavesIdentifier_accepted (code : GoesAlong handlers command (LeavesIdentifier command))
    (resolves : Command.resolveReceiver handlers command acknowledged =
      (.ok (some receiver), found))
    (accepts : Accepts handlers ref command receiver found aggregate given) :
    Command.aggregateIdIn (Aggregate.commanded aggregate command given) command =
        Command.aggregateIdIn acknowledged command ∧
      ¬Refused command acknowledged := by
  obtain ⟨rehydrated, about, ⟨rehydrates, opens⟩, clean, resolvesAgain⟩ := accepts
  have first : LeavesIdentifier command acknowledged found := by
    have kept := leavesIdentifier_resolveReceiver code acknowledged
    rwa [resolves] at kept
  have second : LeavesIdentifier command found rehydrated := by
    have kept : LeavesIdentifier command found
        (rehydrate handlers (found.applications.get ref).store receiver found).2 := by
      apply keeps_rehydrate_of_steps
      · exact leavesIdentifier_newFault
      · exact fun aggregate event system => leavesIdentifier_of_same rfl rfl rfl
      · exact fun aggregate edit system => leavesIdentifier_of_same rfl rfl rfl
      · exact fun system events mappings => leavesIdentifier_of_same rfl rfl rfl
      · exact code
    rwa [rehydrates] at kept
  have third : LeavesIdentifier command rehydrated about := by
    rw [opens]
    exact leavesIdentifier_of_same rfl rfl rfl
  have fourth : LeavesIdentifier command about given := by
    have kept := leavesIdentifier_resolveReceiver code about
    rwa [resolvesAgain] at kept
  have reached : LeavesIdentifier command acknowledged about :=
    Act.Frame.trans (Act.Frame.trans first second) third
  constructor
  · have commanded : LeavesIdentifier command given
        (Aggregate.commanded aggregate command given) := leavesIdentifier_of_same rfl rfl rfl
    exact (Act.Frame.trans reached (Act.Frame.trans fourth commanded)).1
  · intro refused
    have still : (Command.recordedErrors about command).isEmpty = false := reached.2 refused
    rw [clean] at still
    cases still

/-- A command that is filled from a form takes its identifier from the form. -/
theorem ofForm_bears {definition : Ref .definition} {known : Definition D} {form : Form}
    {filled : System D} (grounded : start.Grounded)
    (declares : start.definitions.get definition = known)
    (empty : ∀ slot, known.fields.lookup known.idField = some slot →
      start.parameters.get slot = .identifier "")
    (made : Command.ofForm definition form start = (.ok command, filled)) :
    Command.Owns command filled ∧
      (Command.draftIn filled command).Bears known.idField
        (known.fields.lookup known.idField).isNone
        (Draft.Taken (known.fields.lookup known.idField).isNone
          (form.textFor known.idField)) := by
  let schema := Command.schemaIn start definition
  have idField : schema.idField = known.idField := congrArg Definition.idField declares
  have looked : schema.fields.lookup schema.idField =
      (known.fields.lookup known.idField).map start.parameters.get := by
    rw [← declares]
    exact lookup_map _ _ _
  have identifier : schema.fields.lookup schema.idField = none ∨
      schema.fields.lookup schema.idField = some (.identifier "") := by
    rw [looked]
    cases found : known.fields.lookup known.idField with
    | none => exact .inl rfl
    | some slot => exact .inr (congrArg some (empty slot found))
  have clean : (Draft.ofSchema schema).errors.isEmpty = true := by
    rw [Draft.ofSchema]
    split <;> rfl
  obtain ⟨_, middle, makes, filling⟩ := Act.bind_eq_ok made
  obtain ⟨_, _, fills, answers⟩ := Act.bind_eq_ok filling
  cases answers
  obtain ⟨_, _, ran, created, madeAfter, draft⟩ := Command.ofDefinition_made grounded
    (Command.Extends.refl start).toRetains (grounded.prototypes definition)
  cases ran.symm.trans makes
  have redrafts := madeAfter.fill form
  rw [fills, draft] at redrafts
  have shows : (Draft.ofSchema schema).fill (·.cause? start) form =
    .ok (Command.draftIn filled command) := redrafts.shows
  have bears := (Draft.Bears.ofSchema identifier).fill (fun _ => rfl) clean shows
  rw [looked, Option.isNone_map, idField] at bears
  exact ⟨redrafts.owns, bears⟩

/-- A command that was made from a form and reaches its receiver has an identifier of dashes,
lower-case letters and digits. It is the text of the form without the blanks around it; if there was
none, the definition declares no identifier, and it is the time of the acknowledgment in nanoseconds
since the epoch. -/
theorem delivered_identifier_well_formed {definition : Ref .definition} {known : Definition D}
    {form : Form} {filled : System D} (grounded : start.Grounded)
    (declares : start.definitions.get definition = known)
    (differs : known.idField ≠ Command.nowField)
    (empty : ∀ slot, known.fields.lookup known.idField = some slot →
      start.parameters.get slot = .identifier "")
    (made : Command.ofForm definition form start = (.ok command, filled))
    (code : GoesAlong handlers command (LeavesIdentifier command))
    (finds : Finds handlers ref command filled receiver found)
    (accepts : Accepts handlers ref command receiver found aggregate given) :
    let submitted := form.textFor known.idField
    let identifier :=
      Command.aggregateIdIn (Aggregate.commanded aggregate command given) command
    identifier ≠ "" ∧
      (∀ character ∈ identifier.toList, character = '-' ∨ 'a' ≤ character ∧ character ≤ 'z' ∨
        '0' ≤ character ∧ character ≤ '9') ∧
      (submitted ≠ "" → identifier = Text.strip submitted) ∧
      (submitted = "" → known.fields.lookup known.idField = none ∧
        ∃ moment nanoseconds,
          LiveEvent.nextReading filled (filled.applications.get ref).clock = .ok moment ∧
          moment.unixNanoseconds? = some nanoseconds ∧ identifier = toString nanoseconds) := by
  intro submitted identifier
  obtain ⟨owns, bears⟩ := ofForm_bears grounded declares empty made
  obtain ⟨acknowledged, acknowledges, resolves⟩ := finds
  obtain ⟨still, unrefused⟩ := leavesIdentifier_accepted code resolves accepts
  let clock := (filled.applications.get ref).clock
  obtain ⟨moment, reading, -⟩ : ∃ moment, LiveEvent.nextReading filled clock = .ok moment ∧
      Act.Same (fun system : System D => system.stores) (LiveEvent.ticked filled clock)
        acknowledged :=
    Command.acknowledge_eq_ok_of_steps (fun _ _ => rfl) (fun _ _ => rfl) (fun _ _ => rfl)
      acknowledges
  have clean : (Command.draftIn filled command).errors.isEmpty = true := by
    by_contra dirty
    have refused : Refused command filled := Bool.eq_false_iff.mpr dirty
    have withheld : Command.Withholds (fun _ => false) command filled
        (Command.acknowledge command clock filled).2 := Command.withholds_acknowledge clock filled
    rw [acknowledges] at withheld
    exact unrefused (withheld refused).1
  have redrafts := Command.redrafts_acknowledge owns reading
  rw [acknowledges] at redrafts
  obtain ⟨isIdentifier, given, blank⟩ := bears.acknowledged clean differs redrafts.shows
  have called : identifier = (Command.draftIn acknowledged command).aggregateId :=
    still.trans (Command.aggregateIdIn_eq acknowledged command)
  obtain ⟨named, characters⟩ := (Parameter.isIdentifier_iff _).mp isIdentifier
  rw [called]
  refine ⟨named, ?_, given, ?_⟩
  · intro character member
    exact (Parameter.isIdentifierChar_iff character).mp (characters character member)
  · intro nothing
    obtain ⟨undeclared, nanoseconds, counted, text⟩ := blank nothing
    exact ⟨Option.isNone_iff_eq_none.mp undeclared, moment, nanoseconds, reading, counted, text⟩

end Delivering

/-- A definition that declares no identifier, and a clock that shows an hour before the epoch. -/
def unnamed : System Domain.publishing :=
  { unfilled with
    definitions := ⟨#[{
      name := "go", fields := [("note", ⟨0⟩)], idField := "id", factory := some ⟨0⟩ }]⟩
    clocks := ⟨#[
      .showing { Moment.unixEpoch with offset := some { microseconds := 3600000000 } }]⟩ }

def unnamedForm : Form :=
  .entries [("note", some " this "), ("id", none)]

private theorem reaches_unnamed :
    ∃ filled found given, Command.ofForm ⟨0⟩ unnamedForm unnamed = (.ok ⟨1⟩, filled) ∧
      Finds Handlers.publishing ⟨0⟩ ⟨1⟩ filled ⟨0⟩ found ∧
      Accepts Handlers.publishing ⟨0⟩ ⟨1⟩ ⟨0⟩ found ⟨0⟩ given ∧
      (LiveEvent.nextReading filled (filled.applications.get ⟨0⟩).clock).toOption.bind
        (·.unixNanoseconds?) = some (-3600000000000) := by
  refine ⟨_, _, _, Act.run_of_answer (by decide +kernel),
    ⟨_, Act.run_of_answer (by decide +kernel), Act.run_of_answer (by decide +kernel)⟩,
    ⟨_, _, ⟨Act.run_of_answer (by decide +kernel), rfl⟩, by decide +kernel,
      Act.run_of_answer (by decide +kernel)⟩, by decide +kernel⟩

/-- Without an identifier in the form, a command is called after the time of its acknowledgment. -/
theorem delivered_identifier_well_formed_unnamed :
    ∃ filled found given, Command.ofForm ⟨0⟩ unnamedForm unnamed = (.ok ⟨1⟩, filled) ∧
      Finds Handlers.publishing ⟨0⟩ ⟨1⟩ filled ⟨0⟩ found ∧
      Accepts Handlers.publishing ⟨0⟩ ⟨1⟩ ⟨0⟩ found ⟨0⟩ given ∧
      Command.aggregateIdIn (Aggregate.commanded ⟨0⟩ ⟨1⟩ given) ⟨1⟩ = "-3600000000000" := by
  obtain ⟨filled, found, given, made, finds, accepts, shows⟩ := reaches_unnamed
  have grounded : unnamed.Grounded := by
    apply System.grounded_of_all
    · decide
    · intro parameter member
      have same : parameter = .identifier "" := by
        simpa [unnamed, unfilled] using member
      rw [same]
      exact Parameter.grounded_identifier ""
  have declares : unnamed.definitions.get ⟨0⟩ =
      { name := "go", fields := [("note", ⟨0⟩)], idField := "id", factory := some ⟨0⟩ } := rfl
  have code : GoesAlong Handlers.publishing ⟨1⟩ (LeavesIdentifier ⟨1⟩) :=
    ⟨fun factory => Act.keeps_pure _, fun script aggregate event => Act.keeps_pure (),
      fun step _ description => nomatch description⟩
  obtain ⟨-, -, -, blank⟩ := delivered_identifier_well_formed grounded declares (by decide)
    (fun slot declared => by cases declared) made code finds accepts
  obtain ⟨-, moment, nanoseconds, reading, counted, text⟩ := blank (by decide)
  rw [reading] at shows
  have same := Option.some.inj (counted.symm.trans shows)
  refine ⟨filled, found, given, made, finds, accepts, text.trans ?_⟩
  rw [same]
  rfl

end Application

end EventSourcing
