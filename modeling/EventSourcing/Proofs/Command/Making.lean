import EventSourcing.Proofs.Command.Drafts

/-!
# New commands

A command that is made from a definition has objects of its own, copies of what the definition
declares, and everything that existed stays as it was (`Created`). `MadeAfter` says of a command
that it and its objects were made after a system, of which the parameters and the faults are there
still. What such a command is filled with depends on that system and on the form only.
-/

set_option autoImplicit false

namespace EventSourcing

variable {D : Domain}

namespace Command

/-- The parameters and the faults that existed are as they were. -/
structure Retains (before after : System D) : Prop where
  parameters : ∀ slot, slot.index < before.parameters.nextRef.index →
    after.parameters.get slot = before.parameters.get slot
  faults : ∀ fault, fault.index < before.faults.nextRef.index →
    after.faults.get fault = before.faults.get fault
  parametersMade : before.parameters.nextRef.index ≤ after.parameters.nextRef.index
  faultsMade : before.faults.nextRef.index ≤ after.faults.nextRef.index
  domain : after.domain = before.domain

/-- What existed is as it was. -/
structure Extends (before after : System D) : Prop extends Retains before after where
  commands : ∀ command, command.index < before.commands.nextRef.index →
    after.commands.get command = before.commands.get command
  commandsMade : before.commands.nextRef.index ≤ after.commands.nextRef.index
  definitions : after.definitions = before.definitions

theorem Extends.refl (system : System D) : Extends system system where
  parameters _ _ := rfl
  faults _ _ := rfl
  parametersMade := Nat.le_refl _
  faultsMade := Nat.le_refl _
  domain := rfl
  commands _ _ := rfl
  commandsMade := Nat.le_refl _
  definitions := rfl

theorem Retains.trans {before middle after : System D} (first : Retains before middle)
    (second : Retains middle after) : Retains before after where
  parameters slot made :=
    (second.parameters slot (Nat.lt_of_lt_of_le made first.parametersMade)).trans
      (first.parameters slot made)
  faults fault made :=
    (second.faults fault (Nat.lt_of_lt_of_le made first.faultsMade)).trans
      (first.faults fault made)
  parametersMade := Nat.le_trans first.parametersMade second.parametersMade
  faultsMade := Nat.le_trans first.faultsMade second.faultsMade
  domain := second.domain.trans first.domain

/-- The parameters of a command and its errors were made after a system. -/
structure Later (start : System D) (command : Ref .command) (system : System D) : Prop where
  slots : ∀ slot ∈ slots system command, start.parameters.nextRef.index ≤ slot.index
  errors : start.faults.nextRef.index ≤ (system.commands.get command).errors.index

section Later

variable {start middle after : System D} {command : Ref .command}

/-- What is done with a command that was made later leaves what existed before. -/
theorem Later.retains (later : Later start command middle) (retains : Retains start middle)
    (only : Only command middle after) : Retains start after where
  parameters slot made := by
    have outside : slot ∉ Command.slots middle command :=
      fun member => Nat.not_lt_of_le (later.slots slot member) made
    have still := Nat.lt_of_lt_of_le made retains.parametersMade
    exact (only.parameters slot outside still).trans (retains.parameters slot made)
  faults fault made := by
    have differs : fault ≠ (middle.commands.get command).errors := by
      rintro rfl
      exact Nat.not_lt_of_le later.errors made
    have still := Nat.lt_of_lt_of_le made retains.faultsMade
    exact (only.faults fault differs still).trans (retains.faults fault made)
  parametersMade := Nat.le_trans retains.parametersMade only.parametersMade
  faultsMade := Nat.le_trans retains.faultsMade only.faultsMade
  domain := only.domain.trans retains.domain

theorem Later.only (later : Later start command middle) (retains : Retains start middle)
    (only : Only command middle after) : Later start command after where
  slots slot member := by
    cases only.slots slot member with
    | inl known => exact later.slots slot known
    | inr new => exact Nat.le_trans retains.parametersMade new
  errors := by
    rw [only.errors]
    exact later.errors

end Later

/-- A command and its objects are new, and nothing else was changed. -/
structure Created (command : Ref .command) (before after : System D) : Prop where
  spares : Extends before after
  new : before.commands.nextRef.index ≤ command.index
  later : Later before command after

/-- What is done with a new command concerns new objects only. -/
theorem Created.only {command : Ref .command} {before middle after : System D}
    (created : Created command before middle) (only : Only command middle after) :
    Created command before after where
  spares :=
    { created.later.retains created.spares.toRetains only with
      commands := by
        intro other made
        have differs : other ≠ command := by
          rintro rfl
          exact Nat.not_lt_of_le created.new made
        have still := Nat.lt_of_lt_of_le made created.spares.commandsMade
        exact (only.commands other differs still).trans (created.spares.commands other made)
      commandsMade := Nat.le_trans created.spares.commandsMade only.commandsMade
      definitions := only.definitions.trans created.spares.definitions }
  new := created.new
  later := created.later.only created.spares.toRetains only

/-! ## Making a command -/

/-- Parameters that were copied, in a table that has the copies. -/
structure Copies (system : System D) (fields copies : List (String × Ref .parameter))
    (parameters : Table .parameter Parameter) : Prop where
  made : system.parameters.nextRef.index ≤ parameters.nextRef.index
  kept : ∀ slot, slot.index < system.parameters.nextRef.index →
    parameters.get slot = system.parameters.get slot
  new : ∀ slot ∈ copies.map Prod.snd, system.parameters.nextRef.index ≤ slot.index
  inside : ∀ slot ∈ copies.map Prod.snd, slot.index < parameters.nextRef.index
  distinct : (copies.map Prod.snd).Nodup
  values : copies.map (fun entry => (entry.1, parameters.get entry.2)) =
    fields.map (fun entry => (entry.1, system.parameters.get entry.2))

theorem copyFields_run {system : System D} {fields : List (String × Ref .parameter)}
    (declared : ∀ entry ∈ fields, entry.2.index < system.parameters.nextRef.index) :
    ∃ copies parameters, copyFields fields system = (.ok copies, { system with parameters }) ∧
      Copies system fields copies parameters := by
  induction fields generalizing system with
  | nil =>
    exact ⟨[], system.parameters, rfl, Nat.le_refl _, fun _ _ => rfl, by simp, by simp, by simp,
      rfl⟩
  | cons entry fields ih =>
    let prototype := system.parameters.get entry.2
    let pushed : System D := { system with parameters := system.parameters.push prototype }
    have grows : pushed.parameters.nextRef.index = system.parameters.nextRef.index + 1 :=
      Table.nextRef_push _ _
    have keeps (slot : Ref .parameter) (made : slot.index < system.parameters.nextRef.index) :
        pushed.parameters.get slot = system.parameters.get slot :=
      Table.get_push_of_made _ made prototype
    have declaredRest : ∀ other ∈ fields, other.2.index < pushed.parameters.nextRef.index := by
      intro other member
      rw [grows]
      exact Nat.lt_succ_of_lt (declared other (.tail _ member))
    obtain ⟨copies, parameters, ran, rest⟩ := ih declaredRest
    have first : system.parameters.nextRef.index < pushed.parameters.nextRef.index := by
      rw [grows]
      exact Nat.lt_succ_self _
    refine ⟨(entry.1, system.parameters.nextRef) :: copies, parameters, ?_, ?_, ?_, ?_, ?_, ?_, ?_⟩
    · have copied : copyParameter entry.2 system = (.ok system.parameters.nextRef, pushed) := rfl
      rw [copyFields, Act.bind_of_ok copied, Act.bind_of_ok ran]
      rfl
    · exact Nat.le_trans (Nat.le_of_lt first) rest.made
    · intro slot made
      exact (rest.kept slot (Nat.lt_trans made first)).trans (keeps slot made)
    · intro slot member
      rcases List.mem_cons.mp member with rfl | later
      · exact Nat.le_refl _
      · exact Nat.le_trans (Nat.le_of_lt first) (rest.new slot later)
    · intro slot member
      rcases List.mem_cons.mp member with rfl | later
      · exact Nat.lt_of_lt_of_le first rest.made
      · exact rest.inside slot later
    · refine List.nodup_cons.mpr ⟨fun member => ?_, rest.distinct⟩
      exact Nat.not_lt_of_le (rest.new _ member) first
    · have copy : parameters.get system.parameters.nextRef = prototype := by
        rw [rest.kept _ first]
        exact Table.get_push_nextRef _ prototype
      have others : fields.map (fun other => (other.1, pushed.parameters.get other.2)) =
          fields.map (fun other => (other.1, system.parameters.get other.2)) :=
        List.map_congr_left fun other member => by rw [keeps _ (declared other (.tail _ member))]
      rw [List.map_cons, List.map_cons, rest.values, others]
      exact congrArg (fun value => (entry.1, value) :: _) copy

/-- What a definition declares. -/
def schemaIn (system : System D) (definition : Ref .definition) : Schema :=
  let known := system.definitions.get definition
  { fields := known.fields.map fun entry => (entry.1, system.parameters.get entry.2)
    idField := known.idField }

/-- A command that is made of new parameters owns them. -/
private theorem create_run {before system : System D} (name : String)
    (fields : List (String × Ref .parameter)) (idField : String) (factory : Option D.Factory)
    (hasImplicitId : Bool) (spares : Extends before system)
    (new : ∀ slot ∈ fields.map Prod.snd, before.parameters.nextRef.index ≤ slot.index)
    (inside : ∀ slot ∈ fields.map Prod.snd, slot.index < system.parameters.nextRef.index)
    (distinct : (fields.map Prod.snd).Nodup) :
    ∃ command after, create name fields idField factory hasImplicitId system =
        (.ok command, after) ∧ Created command before after ∧ Owns command after ∧
      draftIn after command =
        { fields := fields.map fun entry => (entry.1, system.parameters.get entry.2), idField
          hasImplicitId, errors := [] } := by
  let command : Command D :=
    { name, fields, idField, errors := system.faults.nextRef, factory, receiver := none
      hasImplicitId }
  let after : System D := { system with
    faults := system.faults.push (.validation [])
    commands := system.commands.push command }
  have known : after.commands.get system.commands.nextRef = command :=
    Table.get_push_nextRef _ command
  have found : after.faults.get command.errors = .validation [] := Table.get_push_nextRef _ _
  have recorded : recordedErrors after system.commands.nextRef = [] := by
    rw [recordedErrors, known, found]
    rfl
  have commandsMade : after.commands.nextRef.index = system.commands.nextRef.index + 1 :=
    Table.nextRef_push _ _
  have faultsMade : after.faults.nextRef.index = system.faults.nextRef.index + 1 :=
    Table.nextRef_push _ _
  have grown : Extends before after :=
    { spares with
      faults := by
        intro fault made
        have still := Nat.lt_of_lt_of_le made spares.faultsMade
        exact (Table.get_push_of_made _ still _).trans (spares.faults fault made)
      faultsMade := by
        rw [faultsMade]
        exact Nat.le_succ_of_le spares.faultsMade
      commands := by
        intro other made
        have still := Nat.lt_of_lt_of_le made spares.commandsMade
        exact (Table.get_push_of_made _ still command).trans (spares.commands other made)
      commandsMade := by
        rw [commandsMade]
        exact Nat.le_succ_of_le spares.commandsMade }
  refine ⟨system.commands.nextRef, after, rfl, ⟨grown, spares.commandsMade, ?_, ?_⟩,
    ⟨?_, ?_, ?_, ?_, ?_⟩, ?_⟩
  · rw [slots, known]
    exact new
  · rw [known]
    exact spares.faultsMade
  · rw [commandsMade]
    exact Nat.lt_succ_self _
  · rw [slots, known]
    exact inside
  · rw [slots, known]
    exact distinct
  · rw [known, faultsMade]
    exact Nat.lt_succ_self _
  · rw [recorded, known]
    exact found
  · simp only [draftIn, known, recorded]
    rfl

/-- A command that is made from a definition shows what the definition declares, in objects of its
own. -/
theorem ofDefinition_run {system : System D} {definition : Ref .definition}
    (declared : ∀ entry ∈ (system.definitions.get definition).fields,
      entry.2.index < system.parameters.nextRef.index) :
    ∃ command after, ofDefinition definition system = (.ok command, after) ∧
      Created command system after ∧ Owns command after ∧
      draftIn after command = Draft.ofSchema (schemaIn system definition) := by
  let known := system.definitions.get definition
  obtain ⟨fields, parameters, copied, copies⟩ := copyFields_run declared
  have declares : (schemaIn system definition).fields.lookup known.idField =
      (fields.lookup known.idField).map parameters.get := by
    rw [← lookup_map, copies.values]
    rfl
  have spares : Extends system { system with parameters } :=
    { Extends.refl system with parameters := copies.kept, parametersMade := copies.made }
  rw [ofDefinition, Act.bind_of_ok (Act.read_run _ _), Act.bind_of_ok copied, Draft.ofSchema,
    show (schemaIn system definition).idField = known.idField from rfl, declares]
  cases identified : fields.lookup known.idField with
  | some slot =>
    obtain ⟨command, after, ran, created, owns, draft⟩ :=
      create_run known.name fields known.idField known.factory false spares copies.new
        copies.inside copies.distinct
    refine ⟨command, after, ran, created, owns, ?_⟩
    rw [draft]
    exact congrArg (fun fields => (⟨fields, _, _, _⟩ : Draft)) copies.values
  | none =>
    let pushed : System D := { system with parameters := parameters.push (.identifier "") }
    have grows : pushed.parameters.nextRef.index = parameters.nextRef.index + 1 :=
      Table.nextRef_push _ _
    have kept (slot : Ref .parameter) (made : slot.index < parameters.nextRef.index) :
        pushed.parameters.get slot = parameters.get slot :=
      Table.get_push_of_made _ made _
    have sparesPushed : Extends system pushed := by
      refine { spares with parameters := fun slot made => ?_, parametersMade := ?_ }
      · exact (kept slot (Nat.lt_of_lt_of_le made copies.made)).trans (copies.kept slot made)
      · rw [grows]
        exact Nat.le_succ_of_le copies.made
    have known_or_new {slot : Ref .parameter} (member : slot ∈
        (putNamed known.idField parameters.nextRef fields).map Prod.snd) :
        slot ∈ fields.map Prod.snd ∨ slot = parameters.nextRef := by
      obtain ⟨entry, inside, rfl⟩ := List.mem_map.mp member
      rcases mem_of_mem_putNamed inside with old | rfl
      · exact .inl (List.mem_map_of_mem old)
      · exact .inr rfl
    have newPut : ∀ slot ∈ (putNamed known.idField parameters.nextRef fields).map Prod.snd,
        system.parameters.nextRef.index ≤ slot.index := by
      intro slot member
      rcases known_or_new member with old | rfl
      · exact copies.new slot old
      · exact copies.made
    have insidePut : ∀ slot ∈ (putNamed known.idField parameters.nextRef fields).map Prod.snd,
        slot.index < pushed.parameters.nextRef.index := by
      intro slot member
      rw [grows]
      rcases known_or_new member with old | rfl
      · exact Nat.lt_succ_of_lt (copies.inside slot old)
      · exact Nat.lt_succ_self _
    have distinctPut :
        ((putNamed known.idField parameters.nextRef fields).map Prod.snd).Nodup :=
      nodup_putNamed copies.distinct fun member => Nat.lt_irrefl _ (copies.inside _ member)
    obtain ⟨command, after, ran, created, owns, draft⟩ :=
      create_run known.name (putNamed known.idField parameters.nextRef fields) known.idField
        known.factory true sparesPushed newPut insidePut distinctPut
    refine ⟨command, after, ran, created, owns, ?_⟩
    have values : fields.map (fun entry => (entry.1, pushed.parameters.get entry.2)) =
        (schemaIn system definition).fields := by
      refine Eq.trans (List.map_congr_left fun entry member => ?_) copies.values
      rw [kept _ (copies.inside _ (List.mem_map_of_mem member))]
    have new : pushed.parameters.get parameters.nextRef = .identifier "" :=
      Table.get_push_nextRef _ _
    rw [draft, map_putNamed, values, new]
    rfl

/-! ## Filling a new command -/

end Command

/-- Of what a parameter can raise, the objects that are not new exist. -/
def Parameter.Grounded (system : System D) (parameter : Parameter) : Prop :=
  ∀ submitted refusal fault, (parameter.parse submitted).2 = some refusal →
    refusal.existing? system = some fault → fault.index < system.faults.nextRef.index

def Draft.Grounded (system : System D) (draft : Draft) : Prop :=
  ∀ entry ∈ draft.fields, entry.2.Grounded system

/-- What the parameters refer to exists, and the parameters that definitions refer to. -/
structure System.Grounded (system : System D) : Prop where
  prototypes : ∀ definition, ∀ entry ∈ (system.definitions.get definition).fields,
    entry.2.index < system.parameters.nextRef.index
  parameters : ∀ slot, slot.index < system.parameters.nextRef.index →
    (system.parameters.get slot).Grounded system

namespace Parameter

variable {system : System D} {parameter : Parameter}

theorem parse_text (sanitized original : String) (sanitizer : Sanitizer) (submitted : String) :
    ∃ accepted, (text sanitized original sanitizer).parse submitted =
      (text accepted submitted sanitizer,
        match sanitizer submitted with
        | .ok _ => none
        | .error refusal => some refusal) := by
  cases sanitizes : sanitizer submitted with
  | ok accepted => exact ⟨accepted, by simp [parse, sanitizes]⟩
  | error refusal => exact ⟨sanitized, by simp [parse, sanitizes]⟩

theorem parse_identifier (value submitted : String) :
    ∃ accepted, (identifier value).parse submitted =
      (identifier accepted, if isIdentifier (Text.strip submitted) then none
        else some (rejection malformedIdentifierCode)) := by
  cases accepts : isIdentifier (Text.strip submitted) with
  | true => exact ⟨Text.strip submitted, by simp [parse, accepts]⟩
  | false => exact ⟨value, by simp [parse, accepts]⟩

theorem parse_time (value : Option Moment) (submitted : String) :
    ∃ accepted, (time value).parse submitted =
      (time accepted, if (Text.strip submitted).isEmpty then some (rejection emptyCode)
        else match Timestamp.parse? submitted with
          | .ok _ => none
          | .error _ => some (rejection malformedTimeCode)) := by
  cases empty : (Text.strip submitted).isEmpty with
  | true => exact ⟨value, by simp only [parse, empty, if_true]⟩
  | false =>
    cases reads : Timestamp.parse? submitted with
    | ok moment => exact ⟨moment, by simp [parse, empty, reads]⟩
    | error fault => exact ⟨value, by simp [parse, empty, reads]⟩

/-- Whether a parameter takes a text does not depend on the texts that it was given before. -/
theorem parse_parse (parameter : Parameter) (earlier submitted : String) :
    ((parameter.parse earlier).1.parse submitted).2 = (parameter.parse submitted).2 := by
  cases parameter with
  | text sanitized original sanitizer =>
    obtain ⟨accepted, first⟩ := parse_text sanitized original sanitizer earlier
    obtain ⟨_, second⟩ := parse_text accepted earlier sanitizer submitted
    obtain ⟨_, only⟩ := parse_text sanitized original sanitizer submitted
    rw [first, second, only]
  | identifier value =>
    obtain ⟨accepted, first⟩ := parse_identifier value earlier
    obtain ⟨_, second⟩ := parse_identifier accepted submitted
    obtain ⟨_, only⟩ := parse_identifier value submitted
    rw [first, second, only]
  | time value =>
    obtain ⟨accepted, first⟩ := parse_time value earlier
    obtain ⟨_, second⟩ := parse_time accepted submitted
    obtain ⟨_, only⟩ := parse_time value submitted
    rw [first, second, only]

theorem Grounded.parse (grounded : parameter.Grounded system) (submitted : String) :
    (parameter.parse submitted).1.Grounded system := by
  intro later refusal fault refuses
  rw [parse_parse] at refuses
  exact grounded later refusal fault refuses

theorem grounded_identifier (value : String) : (identifier value).Grounded system := by
  intro submitted refusal fault refuses existing
  obtain ⟨accepted, parses⟩ := parse_identifier value submitted
  simp only [parses] at refuses
  split at refuses
  · cases refuses
  · cases refuses
    cases existing

theorem grounded_time (value : Option Moment) : (time value).Grounded system := by
  intro submitted refusal fault refuses existing
  obtain ⟨accepted, parses⟩ := parse_time value submitted
  simp only [parses] at refuses
  split at refuses
  · cases refuses
    cases existing
  · split at refuses
    · cases refuses
    · cases refuses
      cases existing

theorem grounded_exactly (shown : String) : (exactly shown).Grounded system := by
  intro submitted refusal fault refuses existing
  cases refuses

end Parameter

theorem System.grounded_of_all {system : System D}
    (prototypes : ∀ definition ∈ system.definitions.items, ∀ entry ∈ definition.fields,
      entry.2.index < system.parameters.nextRef.index)
    (parameters : ∀ parameter ∈ system.parameters.items, parameter.Grounded system) :
    system.Grounded where
  prototypes definition := by
    refine Table.get_of_all prototypes (fun entry member => ?_) definition
    cases member
  parameters slot _ := Table.get_of_all parameters (Parameter.grounded_identifier "") slot

namespace Draft

variable {system : System D} {draft : Draft} {causes : Raise → Option Fault}

/-- What is left of a draft, whether or not a fault was raised. -/
def left : Except Draft Draft → Draft
  | .ok draft => draft
  | .error draft => draft

theorem left_bind (property : Draft → Prop) {changed : Except Draft Draft}
    {next : Draft → Except Draft Draft} (holds : property (left changed))
    (kept : ∀ draft, property draft → property (left (next draft))) :
    property (left (changed >>= next)) := by
  cases changed with
  | ok draft => exact kept draft holds
  | error draft => exact holds

/-- What an edit of a field keeps, giving the field text keeps. -/
theorem left_set (property : Draft → Prop) {name submitted : String} (holds : property draft)
    (parsed : ∀ parameter, draft.fields.lookup name = some parameter →
      property (draft.put name (parameter.parse submitted).1))
    (added : ∀ draft message, property draft →
      property { draft with errors := draft.errors.add name message }) :
    property (left (draft.set causes name submitted)) := by
  rw [set]
  split
  · exact holds
  · rename_i parameter declared
    have kept := parsed parameter declared
    dsimp only
    split
    · exact kept
    · split
      · exact kept
      · split
        · exact added _ _ kept
        · exact kept

theorem set_congr {others : Raise → Option Fault} {name submitted : String}
    (same : ∀ parameter refusal, draft.fields.lookup name = some parameter →
      (parameter.parse submitted).2 = some refusal → causes refusal = others refusal) :
    draft.set causes name submitted = draft.set others name submitted := by
  cases declared : draft.fields.lookup name with
  | none => simp only [set, declared]
  | some parameter =>
    cases refuses : (parameter.parse submitted).2 with
    | none => simp only [set, declared, refuses]
    | some refusal => simp only [set, declared, refuses, same parameter refusal declared refuses]

theorem Grounded.put {parameter : Parameter} (grounded : draft.Grounded system)
    (new : parameter.Grounded system) (name : String) :
    (draft.put name parameter).Grounded system := by
  intro entry member
  cases mem_of_mem_putNamed member with
  | inl known => exact grounded entry known
  | inr same =>
    rw [same]
    exact new

theorem Grounded.set (grounded : draft.Grounded system) (name submitted : String) :
    (left (draft.set causes name submitted)).Grounded system := by
  apply left_set (Grounded system) grounded
  · intro parameter declared
    exact grounded.put ((grounded _ (mem_of_lookup declared)).parse submitted) name
  · intro draft message known
    exact known

theorem Grounded.setUnlessImplicit (grounded : draft.Grounded system) (form : Form)
    (name : String) : (left (draft.setUnlessImplicit causes form name)).Grounded system := by
  simp only [Draft.setUnlessImplicit]
  split
  · exact grounded
  · exact grounded.set name _

theorem Grounded.setEach (grounded : draft.Grounded system) (form : Form) (names : List String) :
    (left (draft.setEach causes form names)).Grounded system := by
  induction names generalizing draft with
  | nil => exact grounded
  | cons name names ih =>
    exact left_bind (Grounded system) (grounded.setUnlessImplicit form name)
      fun _ known => ih known

theorem Grounded.acknowledge (grounded : draft.Grounded system) (reading : Moment) :
    (left (draft.acknowledge reading)).Grounded system := by
  have stamped := grounded.put (Parameter.grounded_time (some reading)) Command.nowField
  simp only [Draft.acknowledge]
  split
  · split
    · exact stamped.put (Parameter.grounded_exactly _) draft.idField
    · exact stamped
  · exact stamped

end Draft

theorem Raise.cause?_of_retains {raise : Raise} {start system : System D}
    (existing : ∀ fault, raise.existing? start = some fault →
      fault.index < start.faults.nextRef.index)
    (retains : Command.Retains start system) : raise.cause? system = raise.cause? start := by
  have same := existing?_congr retains.domain raise
  cases raise with
  | fresh fault => rfl
  | known fault | named name =>
    simp only [cause?, same]
    cases found : existing? start _ with
    | none => rfl
    | some fault => exact congrArg some (retains.faults fault (existing fault found))

namespace Command

section MadeAfter

/-- A command and its objects were made after a system, of which the parameters and the faults are
as they were; what its own parameters refer to existed then. -/
structure MadeAfter (start : System D) (command : Ref .command) (system : System D) : Prop where
  retains : Retains start system
  owns : Owns command system
  later : Later start command system
  grounded : (draftIn system command).Grounded start

variable {start system : System D} {command : Ref .command} {changed : Except Draft Draft}

theorem Redrafts.left_eq {outcome : Except Halt Unit × System D}
    (redrafts : Redrafts command changed system outcome) :
    Draft.left changed = draftIn outcome.2 command := by
  obtain ⟨ended, after⟩ := outcome
  cases ended with
  | ok _ => exact congrArg Draft.left redrafts.shows
  | error _ => exact congrArg Draft.left redrafts.shows

theorem Redrafts.bind {act rest : Act D Unit} {next : Draft → Except Draft Draft}
    (first : Redrafts command changed system (act system))
    (second : ∀ middle, act system = (.ok (), middle) →
      Redrafts command (next (draftIn middle command)) middle (rest middle)) :
    Redrafts command (changed >>= next) system ((act >>= fun _ => rest) system) := by
  rcases ran : act system with ⟨halt | _, middle⟩
  · rw [Act.bind_of_error ran]
    rw [ran] at first
    have shows : changed = .error (draftIn middle command) := first.shows
    exact ⟨first.owns, first.only, congrArg (· >>= next) shows⟩
  · rw [Act.bind_of_ok ran]
    rw [ran] at first
    have shows : changed = .ok (draftIn middle command) := first.shows
    have rest := second middle ran
    rw [shows]
    exact ⟨rest.owns, Act.Frame.trans first.only rest.only, rest.shows⟩

theorem MadeAfter.redrafted {outcome : Except Halt Unit × System D}
    (made : MadeAfter start command system) (redrafts : Redrafts command changed system outcome)
    (grounded : (Draft.left changed).Grounded start) : MadeAfter start command outcome.2 where
  retains := made.later.retains made.retains redrafts.only
  owns := redrafts.owns
  later := made.later.only made.retains redrafts.only
  grounded := by
    rw [← redrafts.left_eq]
    exact grounded

theorem MadeAfter.set (made : MadeAfter start command system) (name submitted : String) :
    Redrafts command ((draftIn system command).set (·.cause? start) name submitted) system
      (set command name submitted system) := by
  have redrafts := redrafts_set made.owns name submitted
  rw [Draft.set_congr] at redrafts
  · exact redrafts
  · intro parameter refusal declared refuses
    have known := made.grounded _ (mem_of_lookup declared)
    exact Raise.cause?_of_retains (fun fault => known submitted refusal fault refuses) made.retains

/-- One field of a command is given what a form has for it. -/
def fillField (command : Ref .command) (form : Form) (name : String) : Act D Unit := do
  let known ← Act.read (·.commands.get command)
  if name = known.idField ∧ known.hasImplicitId ∧ form.textFor name = "" then pure ()
  else set command name (form.textFor name)

theorem fill_eq (command : Ref .command) (form : Form) (system : System D) :
    fill command form system =
      Act.forEach (fillField command form) ((draftIn system command).fields.map Prod.fst)
        system := by
  have names : (draftIn system command).fields.map Prod.fst =
      (system.commands.get command).fields.map Prod.fst := by
    simp [draftIn]
  rw [names]
  rfl

theorem fillField_of_skipped {form : Form} {name : String}
    (skipped : name = (draftIn system command).idField ∧
      (draftIn system command).hasImplicitId ∧ form.textFor name = "") :
    fillField command form name system = (.ok (), system) := by
  rw [fillField, Act.bind_of_ok (Act.read_run _ _)]
  exact congrFun (if_pos skipped) system

theorem fillField_of_given {form : Form} {name : String}
    (given : ¬(name = (draftIn system command).idField ∧
      (draftIn system command).hasImplicitId ∧ form.textFor name = "")) :
    fillField command form name system =
      set command name (form.textFor name) system := by
  rw [fillField, Act.bind_of_ok (Act.read_run _ _)]
  exact congrFun (if_neg given) system

private theorem MadeAfter.fillField (made : MadeAfter start command system) (form : Form)
    (name : String) :
    Redrafts command ((draftIn system command).setUnlessImplicit (·.cause? start) form name)
      system (fillField command form name system) := by
  rw [Draft.setUnlessImplicit]
  split
  · rename_i skipped
    rw [fillField_of_skipped skipped]
    exact ⟨made.owns, Only.refl command system, rfl⟩
  · rename_i given
    rw [fillField_of_given given]
    exact made.set name _

private theorem MadeAfter.fillEach (made : MadeAfter start command system) (form : Form)
    (names : List String) :
    Redrafts command ((draftIn system command).setEach (·.cause? start) form names) system
      (Act.forEach (Command.fillField command form) names system) := by
  induction names generalizing system with
  | nil => exact ⟨made.owns, Only.refl command system, rfl⟩
  | cons name names ih =>
    have first := made.fillField form name
    refine first.bind fun middle ran => ?_
    have still := made.redrafted first (made.grounded.setUnlessImplicit form name)
    rw [ran] at still
    exact ih still

theorem MadeAfter.fill (made : MadeAfter start command system) (form : Form) :
    Redrafts command ((draftIn system command).fill (·.cause? start) form) system
      (fill command form system) := by
  rw [fill_eq]
  exact made.fillEach form _

end MadeAfter

/-- A command is made from a definition that refers to what existed at the start. -/
theorem ofDefinition_made {start system : System D} {definition : Ref .definition}
    (grounded : start.Grounded) (retains : Retains start system)
    (declared : ∀ entry ∈ (system.definitions.get definition).fields,
      entry.2.index < start.parameters.nextRef.index) :
    ∃ command after, ofDefinition definition system = (.ok command, after) ∧
      Created command system after ∧ MadeAfter start command after ∧
      draftIn after command = Draft.ofSchema (schemaIn system definition) := by
  obtain ⟨command, after, ran, created, owns, draft⟩ := ofDefinition_run fun entry member =>
    Nat.lt_of_lt_of_le (declared entry member) retains.parametersMade
  refine ⟨command, after, ran, created, ?_, draft⟩
  have prototypes : ∀ entry ∈ (schemaIn system definition).fields, entry.2.Grounded start := by
    intro entry member
    obtain ⟨known, inside, rfl⟩ := List.mem_map.mp member
    rw [retains.parameters _ (declared known inside)]
    exact grounded.parameters _ (declared known inside)
  refine ⟨retains.trans created.spares.toRetains, owns, ⟨?_, ?_⟩, ?_⟩
  · exact fun slot member => Nat.le_trans retains.parametersMade (created.later.slots slot member)
  · exact Nat.le_trans retains.faultsMade created.later.errors
  · rw [draft, Draft.ofSchema]
    split
    · exact prototypes
    · intro entry member
      cases mem_of_mem_putNamed member with
      | inl known => exact prototypes entry known
      | inr same =>
        rw [same]
        exact Parameter.grounded_identifier ""

end Command

end EventSourcing
