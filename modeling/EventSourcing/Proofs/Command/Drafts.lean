import EventSourcing.Proofs.Application.Course
import EventSourcing.Proofs.Command.Filling
import EventSourcing.Proofs.Command.Named

/-!
# Commands as values

A command names its parameters and its errors, objects that can change. `Draft` is what it shows
of them: its fields with their values in order, and its field errors. A command that owns its
objects is changed by the operations on it as its draft is, whatever else there is in the system;
`Redrafts` says so for one action, and that it changes no objects but those of the command and new
ones.
-/

set_option autoImplicit false

namespace EventSourcing

variable {D : Domain}

/-! ## Drafts -/

/-- What a form has for a field; a missing value counts as empty. -/
def Form.textFor (form : Form) (name : String) : String :=
  (form.get name (some "")).getD ""

structure Draft where
  fields : List (String × Parameter)
  idField : String
  hasImplicitId : Bool
  errors : FieldErrors

/-- The parameters that a definition declares, and which of them identifies the receiver. -/
structure Schema where
  fields : List (String × Parameter)
  idField : String

namespace Draft

/-- A draft that a definition gives: without a declared identifier it has an empty one. -/
def ofSchema (schema : Schema) : Draft :=
  if (schema.fields.lookup schema.idField).isSome then
    { fields := schema.fields, idField := schema.idField, hasImplicitId := false, errors := [] }
  else
    { fields := putNamed schema.idField (.identifier "") schema.fields, idField := schema.idField
      hasImplicitId := true, errors := [] }

def aggregateId (draft : Draft) : String :=
  match draft.fields.lookup draft.idField with
  | some parameter => parameter.shown
  | none => ""

def put (name : String) (parameter : Parameter) (draft : Draft) : Draft :=
  { draft with fields := putNamed name parameter draft.fields }

/-- A draft after a parameter was given text, where `causes` says what a sanitizer raises. An error
is the draft that is left when a fault is raised. -/
def set (causes : Raise → Option Fault) (name submitted : String) (draft : Draft) :
    Except Draft Draft :=
  match draft.fields.lookup name with
  | none => .error draft
  | some parameter =>
    let given := draft.put name (parameter.parse submitted).1
    match (parameter.parse submitted).2 with
    | none => .ok given
    | some refusal =>
      match causes refusal with
      | none => .error given
      | some fault =>
        if fault.family = .value then
          .ok { given with errors := given.errors.add name fault.message }
        else .error given

/-- An identifier that was not declared is left alone when its text is empty. -/
def setUnlessImplicit (causes : Raise → Option Fault) (form : Form) (name : String)
    (draft : Draft) : Except Draft Draft :=
  if name = draft.idField ∧ draft.hasImplicitId ∧ form.textFor name = "" then .ok draft
  else draft.set causes name (form.textFor name)

def setEach (causes : Raise → Option Fault) (form : Form) :
    List String → Draft → Except Draft Draft
  | [], draft => .ok draft
  | name :: names, draft => draft.setUnlessImplicit causes form name >>= setEach causes form names

def fill (causes : Raise → Option Fault) (form : Form) (draft : Draft) : Except Draft Draft :=
  setEach causes form (draft.fields.map Prod.fst) draft

def acknowledge (reading : Moment) (draft : Draft) : Except Draft Draft :=
  let stamped := draft.put Command.nowField (.time (some reading))
  if stamped.aggregateId = "" then
    match reading.unixNanoseconds? with
    | some nanoseconds =>
      .ok (stamped.put draft.idField (.exactly (String.ofList (DecimalText.ofInt nanoseconds))))
    | none => .error stamped
  else .ok stamped

end Draft

namespace Command

def draftIn (system : System D) (command : Ref .command) : Draft :=
  let known := system.commands.get command
  { fields := known.fields.map fun entry => (entry.1, system.parameters.get entry.2)
    idField := known.idField
    hasImplicitId := known.hasImplicitId
    errors := recordedErrors system command }

theorem aggregateIdIn_eq (system : System D) (command : Ref .command) :
    aggregateIdIn system command = (draftIn system command).aggregateId := by
  simp only [aggregateIdIn, Draft.aggregateId, draftIn, lookup_map]
  cases (system.commands.get command).fields.lookup (system.commands.get command).idField with
  | none => rfl
  | some parameter => rfl

/-- The references to the parameters of a command. -/
def slots (system : System D) (command : Ref .command) : List (Ref .parameter) :=
  (system.commands.get command).fields.map Prod.snd

/-- The objects of a command exist, a parameter for each field and an object of its errors. -/
structure Owns (command : Ref .command) (system : System D) : Prop where
  made : command.index < system.commands.nextRef.index
  parameters : ∀ slot ∈ slots system command, slot.index < system.parameters.nextRef.index
  distinct : (slots system command).Nodup
  errors : (system.commands.get command).errors.index < system.faults.nextRef.index
  recorded : system.faults.get (system.commands.get command).errors =
    .validation (recordedErrors system command)

/-- Nothing was changed but the objects of a command, and new ones. -/
structure Only (command : Ref .command) (before after : System D) : Prop where
  commands : ∀ other, other ≠ command → other.index < before.commands.nextRef.index →
    after.commands.get other = before.commands.get other
  parameters : ∀ slot, slot ∉ slots before command →
    slot.index < before.parameters.nextRef.index →
    after.parameters.get slot = before.parameters.get slot
  faults : ∀ fault, fault ≠ (before.commands.get command).errors →
    fault.index < before.faults.nextRef.index → after.faults.get fault = before.faults.get fault
  commandsMade : before.commands.nextRef.index ≤ after.commands.nextRef.index
  parametersMade : before.parameters.nextRef.index ≤ after.parameters.nextRef.index
  faultsMade : before.faults.nextRef.index ≤ after.faults.nextRef.index
  definitions : after.definitions = before.definitions
  domain : after.domain = before.domain
  slots : ∀ slot ∈ slots after command,
    slot ∈ slots before command ∨ before.parameters.nextRef.index ≤ slot.index
  errors : (after.commands.get command).errors = (before.commands.get command).errors

theorem Only.refl (command : Ref .command) (system : System D) : Only command system system :=
  ⟨fun _ _ _ => rfl, fun _ _ _ => rfl, fun _ _ _ => rfl, Nat.le_refl _, Nat.le_refl _,
    Nat.le_refl _, rfl, rfl, fun _ member => .inl member, rfl⟩

instance (command : Ref .command) : Act.Frame (Only (D := D) command) where
  refl := Only.refl command
  trans {before middle after} first second := by
    refine ⟨?_, ?_, ?_, Nat.le_trans first.commandsMade second.commandsMade,
      Nat.le_trans first.parametersMade second.parametersMade,
      Nat.le_trans first.faultsMade second.faultsMade, second.definitions.trans first.definitions,
      second.domain.trans first.domain, ?_, second.errors.trans first.errors⟩
    · intro other differs made
      have still := Nat.lt_of_lt_of_le made first.commandsMade
      exact (second.commands other differs still).trans (first.commands other differs made)
    · intro slot outside made
      have still := Nat.lt_of_lt_of_le made first.parametersMade
      have outsideStill : slot ∉ slots middle command := by
        intro member
        rcases first.slots slot member with known | new
        · exact outside known
        · exact Nat.not_lt_of_le new made
      exact (second.parameters slot outsideStill still).trans (first.parameters slot outside made)
    · intro fault differs made
      have still := Nat.lt_of_lt_of_le made first.faultsMade
      have differsStill : fault ≠ (middle.commands.get command).errors := by
        rw [first.errors]
        exact differs
      exact (second.faults fault differsStill still).trans (first.faults fault differs made)
    · intro slot member
      rcases second.slots slot member with known | new
      · exact first.slots slot known
      · exact .inr (Nat.le_trans first.parametersMade new)

/-- What an action came to is what a draft came to. -/
def Shows (command : Ref .command) (changed : Except Draft Draft)
    (outcome : Except Halt Unit × System D) : Prop :=
  match outcome.1 with
  | .ok () => changed = .ok (draftIn outcome.2 command)
  | .error _ => changed = .error (draftIn outcome.2 command)

/-- A command that owns its objects was changed as its draft is, and nothing else was. -/
structure Redrafts (command : Ref .command) (changed : Except Draft Draft) (system : System D)
    (outcome : Except Halt Unit × System D) : Prop where
  owns : Owns command outcome.2
  only : Only command system outcome.2
  shows : Shows command changed outcome

/-- The command has its objects and its draft still. -/
abbrev LeavesDraft (command : Ref .command) : System D → System D → Prop :=
  Act.Under (Owns command) (Act.Both (Act.Same (draftIn · command)) (Only command))

section Steps

variable {command : Ref .command} {system : System D}

private theorem leavesDraft_of_faults {faults : Table .fault Fault}
    (kept : ∀ ref, ref.index < system.faults.nextRef.index →
      faults.get ref = system.faults.get ref)
    (grows : system.faults.nextRef.index ≤ faults.nextRef.index) :
    LeavesDraft command system { system with faults } := by
  intro owns
  have recorded : recordedErrors { system with faults } command =
      recordedErrors system command :=
    congrArg Validation.errorsOf (kept _ owns.errors)
  refine ⟨⟨owns.made, owns.parameters, owns.distinct, Nat.lt_of_lt_of_le owns.errors grows, ?_⟩,
    ?_, { Only.refl command system with faults := ?_, faultsMade := grows }⟩
  · rw [recorded]
    exact (kept _ owns.errors).trans owns.recorded
  · exact congrArg (fun errors => { draftIn system command with errors }) recorded
  · exact fun ref _ made => kept ref made

theorem leavesDraft_newFault (fault : Fault) :
    Act.Keeps (LeavesDraft (D := D) command) (Act.newFault fault) := by
  intro system
  refine leavesDraft_of_faults (fun ref made => Table.get_push_of_made _ made fault) ?_
  rw [Table.nextRef_push]
  exact Nat.le_succ _

/-- A parameter of the command was given text. -/
private theorem owns_parsed (owns : Owns command system) {slot : Ref .parameter} {name : String}
    (declared : (system.commands.get command).fields.lookup name = some slot)
    (submitted : String) :
    Owns command (parsed system slot submitted) ∧
      Only command system (parsed system slot submitted) ∧
      draftIn (parsed system slot submitted) command =
        (draftIn system command).put name ((system.parameters.get slot).parse submitted).1 := by
  have inside : slot ∈ slots system command := List.mem_map_of_mem (mem_of_lookup declared)
  have made := owns.parameters slot inside
  have same : (parsed system slot submitted).parameters.nextRef = system.parameters.nextRef :=
    Table.nextRef_set _ made _
  refine ⟨⟨owns.made, ?_, owns.distinct, owns.errors, owns.recorded⟩, ?_, ?_⟩
  · rw [same]
    exact owns.parameters
  · refine { Only.refl command system with parameters := ?_, parametersMade := ?_ }
    · intro other outside _
      refine (Table.get_set _ _ _ _).trans (if_neg ?_)
      rintro rfl
      exact outside inside
    · exact Nat.le_of_eq (congrArg Ref.index same.symm)
  · have fields := map_replaced system.parameters.get
      ((system.parameters.get slot).parse submitted).1 owns.distinct declared
    simp only [draftIn, Draft.put, parsed, Table.get_set, recordedErrors, Draft.mk.injEq, and_true]
    exact fields

/-- A message was recorded for the command. -/
private theorem owns_recorded (owns : Owns command system) (field message : String) :
    ∃ after, Validation.add (system.commands.get command).errors field message system =
        (.ok (), after) ∧ Owns command after ∧ Only command system after ∧
      draftIn after command = { draftIn system command with
        errors := (draftIn system command).errors.add field message } := by
  let known := system.commands.get command
  let added := (recordedErrors system command).add field message
  let faults := system.faults.set known.errors (.validation added)
  have found : faults.get known.errors = .validation added :=
    (Table.get_set _ _ _ _).trans (if_pos rfl)
  have recorded : recordedErrors { system with faults } command = added :=
    congrArg Validation.errorsOf found
  have same : faults.nextRef = system.faults.nextRef := Table.nextRef_set _ owns.errors _
  refine ⟨_, Validation.add_of_validation owns.recorded field message, ?_, ?_, ?_⟩
  · refine ⟨owns.made, owns.parameters, owns.distinct, ?_, ?_⟩
    · show known.errors.index < faults.nextRef.index
      rw [same]
      exact owns.errors
    · exact found.trans (congrArg Fault.validation recorded.symm)
  · refine { Only.refl command system with faults := ?_, faultsMade := ?_ }
    · intro fault differs _
      exact (Table.get_set _ _ _ _).trans (if_neg (Ne.symm differs))
    · exact Nat.le_of_eq (congrArg Ref.index same.symm)
  · exact congrArg (fun errors => { draftIn system command with errors }) recorded

private theorem redrafts_of_leaves {changed : Except Draft Draft} {middle after : System D}
    {halt : Halt} (owns : Owns command middle) (only : Only command system middle)
    (shows : changed = .error (draftIn middle command))
    (leaves : LeavesDraft command middle after) :
    Redrafts command changed system (.error halt, after) := by
  obtain ⟨ownsAfter, draft, onlyAfter⟩ := leaves owns
  have draft : draftIn after command = draftIn middle command := draft
  refine ⟨ownsAfter, Act.Frame.trans only onlyAfter, ?_⟩
  show changed = .error (draftIn after command)
  rw [draft]
  exact shows

theorem redrafts_set (owns : Owns command system) (name submitted : String) :
    Redrafts command ((draftIn system command).set (·.cause? system) name submitted) system
      (set command name submitted system) := by
  have looked : (draftIn system command).fields.lookup name =
      ((system.commands.get command).fields.lookup name).map system.parameters.get :=
    lookup_map _ _ _
  have sets := set_sets command name submitted system
  generalize set command name submitted system = outcome at sets ⊢
  cases sets with
  | unknown undeclared =>
    rw [undeclared] at looked
    refine redrafts_of_leaves owns (Only.refl command system) ?_ (leavesDraft_newFault _ system)
    rw [Draft.set, looked]
    rfl
  | accepted declared accepts =>
    rw [declared] at looked
    obtain ⟨ownsParsed, only, draft⟩ := owns_parsed owns declared submitted
    refine ⟨ownsParsed, only, ?_⟩
    simp only [Shows, Draft.set, looked, Option.map_some, accepts, draft]
  | @recorded slot refusal fault declared refuses cause family =>
    rw [declared] at looked
    obtain ⟨ownsParsed, only, draft⟩ := owns_parsed owns declared submitted
    obtain ⟨after, ran, ownsAfter, onlyAfter, shown⟩ :=
      owns_recorded ownsParsed name fault.message
    have ran : Validation.add (system.commands.get command).errors name fault.message
        (parsed system slot submitted) = (.ok (), after) := ran
    rw [ran]
    refine ⟨ownsAfter, Act.Frame.trans only onlyAfter, ?_⟩
    simp only [Shows, Draft.set, looked, Option.map_some, refuses, cause, family, if_true, shown,
      draft]
  | @raised slot refusal fault declared refuses cause other =>
    rw [declared] at looked
    obtain ⟨ownsParsed, only, draft⟩ := owns_parsed owns declared submitted
    have raising : Act.Keeps (LeavesDraft command) (Act.raise refusal : Act D Unit) :=
      Act.keeps_raise leavesDraft_newFault refusal
    have leaves := raising (parsed system slot submitted)
    rcases ran : (Act.raise refusal : Act D Unit) (parsed system slot submitted) with
      ⟨halt | _, after⟩
    · rw [ran] at leaves
      refine redrafts_of_leaves ownsParsed only ?_ leaves
      simp only [Draft.set, looked, Option.map_some, refuses, cause, other, if_false, draft]
    · exact absurd ran (Act.raise_ne_ok _ _ _ _)
  | @unbound slot refusal halt declared refuses cause =>
    rw [declared] at looked
    obtain ⟨ownsParsed, only, draft⟩ := owns_parsed owns declared submitted
    refine ⟨ownsParsed, only, ?_⟩
    simp only [Shows, Draft.set, looked, Option.map_some, refuses, cause, draft]

/-- The system in which a command has a field with a new parameter. -/
def fielded (system : System D) (command : Ref .command) (name : String)
    (parameter : Parameter) : System D :=
  (putField command name parameter system).2

theorem putField_run (name : String) (parameter : Parameter) :
    putField command name parameter system = (.ok (), fielded system command name parameter) :=
  rfl

theorem get_fielded (command : Ref .command) (name : String) (parameter : Parameter) :
    (fielded system command name parameter).commands.get command =
      { system.commands.get command with
        fields := putNamed name system.parameters.nextRef (system.commands.get command).fields } :=
  (Table.get_set _ _ _ _).trans (if_pos rfl)

private theorem slots_fielded {name : String} {parameter : Parameter} {slot : Ref .parameter}
    (member : slot ∈ slots (fielded system command name parameter) command) :
    slot ∈ slots system command ∨ slot = system.parameters.nextRef := by
  rw [slots, get_fielded] at member
  obtain ⟨entry, inside, rfl⟩ := List.mem_map.mp member
  rcases mem_of_mem_putNamed inside with known | rfl
  · exact .inl (List.mem_map_of_mem known)
  · exact .inr rfl

private theorem owns_fielded (owns : Owns command system) (name : String)
    (parameter : Parameter) :
    Owns command (fielded system command name parameter) ∧
      Only command system (fielded system command name parameter) ∧
      draftIn (fielded system command name parameter) command =
        (draftIn system command).put name parameter := by
  have known : (fielded system command name parameter).commands.get command = _ :=
    get_fielded command name parameter
  have errors : ((fielded system command name parameter).commands.get command).errors =
      (system.commands.get command).errors := by
    rw [known]
  have recorded : recordedErrors (fielded system command name parameter) command =
      recordedErrors system command :=
    congrArg (fun ref => Validation.errorsOf (system.faults.get ref)) errors
  have kept (slot : Ref .parameter) (made : slot.index < system.parameters.nextRef.index) :
      (system.parameters.push parameter).get slot = system.parameters.get slot :=
    Table.get_push_of_made _ made parameter
  have new : system.parameters.nextRef ∉ slots system command :=
    fun member => Nat.lt_irrefl _ (owns.parameters _ member)
  have commandsMade : (fielded system command name parameter).commands.nextRef =
      system.commands.nextRef :=
    Table.nextRef_set _ owns.made _
  have parametersMade : (fielded system command name parameter).parameters.nextRef.index =
      system.parameters.nextRef.index + 1 :=
    Table.nextRef_push _ _
  refine ⟨⟨?_, ?_, ?_, ?_, ?_⟩, ⟨?_, ?_, fun _ _ _ => rfl, ?_, ?_, Nat.le_refl _, rfl, rfl, ?_,
    errors⟩, ?_⟩
  · rw [commandsMade]
    exact owns.made
  · intro slot member
    rw [parametersMade]
    rcases slots_fielded member with inside | rfl
    · exact Nat.lt_succ_of_lt (owns.parameters slot inside)
    · exact Nat.lt_succ_self _
  · rw [slots, known]
    exact nodup_putNamed owns.distinct new
  · rw [errors]
    exact owns.errors
  · rw [errors, recorded]
    exact owns.recorded
  · intro other differs _
    exact (Table.get_set _ _ _ _).trans (if_neg (Ne.symm differs))
  · exact fun slot _ made => kept slot made
  · exact Nat.le_of_eq (congrArg Ref.index commandsMade.symm)
  · rw [parametersMade]
    exact Nat.le_succ _
  · intro slot member
    rcases slots_fielded member with inside | rfl
    · exact .inl inside
    · exact .inr (Nat.le_refl _)
  · have fields : (putNamed name system.parameters.nextRef
        (system.commands.get command).fields).map
          (fun entry => (entry.1, (system.parameters.push parameter).get entry.2)) =
        putNamed name parameter ((system.commands.get command).fields.map fun entry =>
          (entry.1, system.parameters.get entry.2)) := by
      rw [map_putNamed, Table.get_push_nextRef]
      congr 1
      refine List.map_congr_left fun entry member => ?_
      rw [kept _ (owns.parameters _ (List.mem_map_of_mem member))]
    simp only [draftIn, Draft.put, known, recorded, Draft.mk.injEq, and_true]
    exact fields

/-- A command is acknowledged with what its clock shows. -/
theorem redrafts_acknowledge {clock : Ref .clock} {moment : Moment} (owns : Owns command system)
    (reading : LiveEvent.nextReading system clock = .ok moment) :
    Redrafts command ((draftIn system command).acknowledge moment) system
      (acknowledge command clock system) := by
  let ticked := LiveEvent.ticked system clock
  have ownsTicked : Owns command ticked :=
    ⟨owns.made, owns.parameters, owns.distinct, owns.errors, owns.recorded⟩
  have onlyTicked : Only command system ticked := { Only.refl command system with }
  let last := fielded ticked command nowField (.time (some moment))
  obtain ⟨ownsStamped, onlyStamped, drafted⟩ :=
    owns_fielded ownsTicked nowField (.time (some moment))
  have only : Only command system last := Act.Frame.trans onlyTicked onlyStamped
  have stamped : draftIn last command =
      (draftIn system command).put nowField (.time (some moment)) := drafted
  rw [acknowledge, Act.bind_of_ok (LiveEvent.now_of_ok reading), Act.bind_of_ok (putField_run _ _),
    aggregateId, Act.bind_of_ok (Act.read_run _ _), aggregateIdIn_eq, stamped, Draft.acknowledge]
  by_cases unnamed : ((draftIn system command).put nowField (.time (some moment))).aggregateId = ""
  · rw [if_pos unnamed, if_pos unnamed]
    cases known : moment.unixNanoseconds? with
    | none =>
      have thrown : (Act.ofExcept (unixNanoseconds moment) : Act D Int) last =
          (Act.throw .mixedMoments : Act D Int) last := by
        rw [unixNanoseconds, known]
        rfl
      rw [Act.bind_of_error (thrown.trans (Act.throw_run _ _))]
      exact redrafts_of_leaves ownsStamped only (congrArg Except.error stamped.symm)
        (leavesDraft_newFault .mixedMoments last)
    | some nanoseconds =>
      have counted : (Act.ofExcept (unixNanoseconds moment) : Act D Int) last =
          (.ok nanoseconds, last) := by
        rw [unixNanoseconds, known]
        rfl
      rw [Act.bind_of_ok counted, Act.bind_of_ok (Act.read_run _ _), putField_run]
      have idField : (last.commands.get command).idField = (draftIn system command).idField :=
        congrArg Draft.idField stamped
      obtain ⟨ownsNamed, onlyNamed, named⟩ := owns_fielded ownsStamped
        (last.commands.get command).idField
        (.exactly (String.ofList (DecimalText.ofInt nanoseconds)))
      refine ⟨ownsNamed, Act.Frame.trans only onlyNamed, congrArg Except.ok ?_⟩
      refine Eq.symm (named.trans ?_)
      rw [idField, stamped]
  · rw [if_neg unnamed, if_neg unnamed]
    exact ⟨ownsStamped, only, congrArg Except.ok stamped.symm⟩

end Steps

end Command

end EventSourcing
