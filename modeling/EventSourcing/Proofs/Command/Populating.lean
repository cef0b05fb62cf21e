import EventSourcing.Proofs.Command.Attempts

/-!
# How a command is populated

A command that was made from a definition, and given texts since in any way, shows what its attempts
make of it, whatever was done with other commands and definitions meanwhile. Reading a form sets
fields as its attempts say, and a name that was not declared is refused and changes nothing.
-/

set_option autoImplicit false

namespace EventSourcing

variable {D : Domain}

open Command

/-! ## What a definition declares -/

/-- Nothing was declared in a definition yet. -/
structure Definition.Blank (definition : Definition D) : Prop where
  fields : definition.fields = []
  idField : definition.idField = defaultIdField

namespace Declaration

def field? : Declaration D → Option (String × Ref .parameter)
  | .field name prototype | .id name prototype => some (name, prototype)
  | .target _ => none

def identifier? : Declaration D → Option String
  | .id name _ => some name
  | .field .. | .target _ => none

theorem fields_foldl (declarations : List (Declaration D)) (known : Definition D) :
    (declarations.foldl apply known).fields =
      (declarations.filterMap field?).foldl
        (fun fields entry => putNamed entry.1 entry.2 fields) known.fields := by
  induction declarations generalizing known with
  | nil => rfl
  | cons declaration declarations ih =>
    rw [List.foldl_cons, ih]
    cases declaration <;> rfl

theorem idField_foldl (declarations : List (Declaration D)) (known : Definition D) :
    (declarations.foldl apply known).idField =
      (declarations.filterMap identifier?).getLast?.getD known.idField := by
  induction declarations generalizing known with
  | nil => rfl
  | cons declaration declarations ih =>
    rw [List.foldl_cons, ih]
    cases declaration with
    | id name prototype =>
      rw [List.filterMap_cons_some (show identifier? (.id name prototype) = some name from rfl),
        List.getLast?_cons]
      rfl
    | field name prototype | target factory => rfl

end Declaration

def Move.declarationOf? (definition : Ref .definition) : Move D → Option (Declaration D)
  | .declare other declaration => if other = definition then some declaration else none
  | .create .. | .edit .. => none

/-- A definition is what its own declarations make of it. -/
theorem Sketch.definition_run {start : System D} (moves : List (Move D)) (sketch : Sketch D)
    (definition : Ref .definition) :
    (moves.foldl (perform start) sketch).definitions.get definition =
      (moves.filterMap (Move.declarationOf? definition)).foldl Declaration.apply
        (sketch.definitions.get definition) := by
  induction moves generalizing sketch with
  | nil => rfl
  | cons move moves ih =>
    rw [List.foldl_cons, ih]
    cases move with
    | declare other declaration =>
      by_cases same : other = definition
      · subst same
        simp only [perform, Table.get_set, if_true, List.filterMap_cons, Move.declarationOf?,
          List.foldl_cons]
      · simp only [perform, Table.get_set, if_neg same, List.filterMap_cons, Move.declarationOf?]
    | create label other form => rfl
    | edit label edit => rfl

namespace Declared

/-- What declarations declare, where a prototype is the parameter that it was at the start. -/
def ofDeclarations (start : System D) (declarations : List (Declaration D)) : Declared where
  fields := (declarations.filterMap Declaration.field?).map fun entry =>
    (entry.1, start.parameters.get entry.2)
  idField := (declarations.filterMap Declaration.identifier?).getLast?.getD
    Definition.defaultIdField

/-- A new command is what no attempt makes of it. -/
theorem ofSchema_inOrder (declared : Declared) (start : System D) :
    Draft.ofSchema
        { fields := inOrder (declared.fields.map Prod.fst) declared.prototype
          idField := declared.idField } =
      declared.draftAfter start [] := by
  rw [Draft.ofSchema]
  simp only [lookup_inOrder]
  by_cases declares : declared.idField ∈ declared.fields.map Prod.fst
  · have explicit : declared.isImplicit = false := decide_eq_false (not_not_intro declares)
    have fields : inOrder (declared.fields.map Prod.fst) declared.prototype =
        (declared.draftAfter start []).fields := by
      rw [draftAfter, inOrder, inOrder, eraseDups_concat_of_mem declares]
      rfl
    rw [if_pos declares, Option.isSome_some, if_pos rfl, fields]
    exact congrArg (fun implicit => (⟨_, _, implicit, _⟩ : Draft)) explicit.symm
  · have implicit : declared.isImplicit = true := decide_eq_true declares
    have empty : declared.prototype declared.idField = .identifier "" := by
      have absent : declared.fields.reverse.lookup declared.idField = none := by
        refine List.lookup_eq_none_iff.mpr fun entry member => ?_
        have inside := List.mem_map_of_mem (f := Prod.fst) (List.mem_reverse.mp member)
        simp only [bne_iff_ne]
        rintro same
        rw [← same] at inside
        exact declares inside
      rw [prototype, absent]
      rfl
    rw [if_neg declares, Option.isSome_none, if_neg Bool.false_ne_true, ← empty,
      putNamed_inOrder, Function.update_eq_self]
    exact congrArg (fun implicit => (⟨_, _, implicit, _⟩ : Draft)) implicit.symm

/-- The prototypes refuse with values only, if those that were declared do. -/
theorem refusesValues_prototype {declared : Declared} {start : System D}
    (values : ∀ entry ∈ declared.fields, entry.2.RefusesValues start) (name : String) :
    (declared.prototype name).RefusesValues start := by
  rw [prototype]
  cases found : declared.fields.reverse.lookup name with
  | none => exact Parameter.refusesValues_identifier start ""
  | some parameter => exact values _ (List.mem_reverse.mp (mem_of_lookup found))

end Declared

section Schema

variable {start : System D} {earlier : List (Move D)} {definition : Ref .definition}

/-- What a blank definition declares after a run is what its own declarations say. -/
theorem Desk.schemaIn_declared (grounded : start.Grounded)
    (refers : ∀ move ∈ earlier, move.Refers start)
    (blank : (start.definitions.get definition).Blank) :
    let declared :=
      Declared.ofDeclarations start (earlier.filterMap (Move.declarationOf? definition))
    schemaIn (after start earlier).system definition =
      { fields := inOrder (declared.fields.map Prod.fst) declared.prototype
        idField := declared.idField } := by
  intro declared
  obtain ⟨tidy, sketched⟩ := (Tidy.opening grounded).run grounded refers
  have known : (after start earlier).sketch.definitions.get definition =
      (earlier.filterMap (Move.declarationOf? definition)).foldl Declaration.apply
        (start.definitions.get definition) := by
    rw [after, sketched, Sketch.definition_run]
    rfl
  have schema : schemaIn (after start earlier).system definition =
      (after start earlier).sketch.schema start definition :=
    tidy.schema definition
  rw [schema, Sketch.schema, schemaIn]
  simp only [known, Declaration.fields_foldl, Declaration.idField_foldl, blank.fields,
    blank.idField, map_foldl_putNamed, List.map_nil]
  rw [foldl_putNamed (.identifier "")]
  rfl

end Schema

/-! ## Reading a form -/

namespace Command

/-- Giving a parameter text leaves the commands themselves as they are. -/
theorem keeps_commands_set (command : Ref .command) (name submitted : String) :
    Act.Keeps (Act.Same fun system : System D => system.commands)
      (set command name submitted) := by
  apply keeps_set_of_steps
  · exact fun fault system => rfl
  · exact fun parameter text system => rfl
  · exact keeps_add_of_faults fun system faults => rfl

/-- Reading a form for some fields sets them one after the other, but for those that are no
attempt. -/
theorem forEach_fillField {declared : Declared} {command : Ref .command} {system : System D}
    (idField : (draftIn system command).idField = declared.idField)
    (implicit : (draftIn system command).hasImplicitId = declared.isImplicit) (form : Form)
    (names : List String) :
    Act.forEach (fillField command form) names system =
      Act.forEach (fun attempt => set command attempt.1 attempt.2)
        ((names.map fun name => (name, form.textFor name)).filter declared.isAttempt) system := by
  induction names generalizing system with
  | nil => rfl
  | cons name names ih =>
    rw [Act.forEach, List.map_cons]
    by_cases skipped : name = (draftIn system command).idField ∧
        (draftIn system command).hasImplicitId ∧ form.textFor name = ""
    · have none : ¬declared.isAttempt (name, form.textFor name) = true := by
        rw [idField, implicit] at skipped
        exact fun attempted => absurd skipped (of_decide_eq_true attempted)
      rw [Act.bind_of_ok (fillField_of_skipped skipped), List.filter_cons_of_neg none,
        ih idField implicit]
    · have one : declared.isAttempt (name, form.textFor name) = true := by
        rw [idField, implicit] at skipped
        exact decide_eq_true skipped
      have gives := fillField_of_given skipped
      have kept := keeps_commands_set command name (form.textFor name) system
      rw [List.filter_cons_of_pos one, Act.forEach]
      rcases ran : set command name (form.textFor name) system with ⟨halt | _, middle⟩
      · rw [Act.bind_of_error (gives.trans ran), Act.bind_of_error ran]
      · rw [Act.bind_of_ok (gives.trans ran), Act.bind_of_ok ran]
        rw [ran] at kept
        have same : middle.commands.get command = system.commands.get command :=
          congrArg (fun commands => commands.get command) kept
        refine ih ?_ ?_
        · rw [← idField]
          exact congrArg Command.idField same
        · rw [← implicit]
          exact congrArg Command.hasImplicitId same

/-- A name that is no field is refused, and nothing but the fault is made. -/
theorem set_of_undeclared {command : Ref .command} {system : System D} {name : String}
    (undeclared : (draftIn system command).fields.lookup name = none) (submitted : String) :
    set command name submitted system =
      (.error (.raised system.faults.nextRef), { system with
        faults := system.faults.push
          (.unknownField (.text (system.commands.get command).name) (.text name)) }) := by
  have absent : (system.commands.get command).fields.lookup name = none := by
    have mapped : (draftIn system command).fields.lookup name =
        ((system.commands.get command).fields.lookup name).map system.parameters.get :=
      lookup_map _ _ _
    rwa [mapped, Option.map_eq_none_iff] at undeclared
  rw [set, Act.bind_of_ok (Act.read_run _ _), absent]
  exact Act.throw_run _ system

end Command

/-- A command that was made from a definition has the fields that were declared, in the order of
their first declarations and with an identifier that was not declared last. After any edits but
acknowledgments it shows for each field what the field's kind makes of the last text that it took,
or the prototype's text, and its errors are the refusals, by field in the order of the first ones.
Reading a form sets every field once, and a name that is no field is refused. -/
theorem population_is_attempts {start : System D} (grounded : start.Grounded)
    {definition : Ref .definition} (blank : (start.definitions.get definition).Blank)
    {earlier later : List (Move D)} {label : String}
    (refers : ∀ move ∈ earlier ++ .create label definition none :: later, move.Refers start)
    (once : ∀ move ∈ later, ¬move.Creates label)
    (before : ∀ reading, .edit label (.acknowledge reading) ∉ later) :
    let declared :=
      Declared.ofDeclarations start (earlier.filterMap (Move.declarationOf? definition))
    let attempts := (later.filterMap (Move.editOf? label)).flatMap declared.attempts
    let desk := Desk.after start (earlier ++ .create label definition none :: later)
    (∀ entry ∈ declared.fields, entry.2.RefusesValues start) →
    ∃ command, desk.commands label = some command ∧
      (shownIn desk.system command).fields.map (fun entry => (entry.1, entry.2.shown)) =
        declared.names.map (fun name => (name, declared.textAfter attempts name)) ∧
      (shownIn desk.system command).errors =
        FieldErrors.grouped (declared.rejections start attempts) ∧
      declared.names.Nodup ∧
      (∀ form, fill command form desk.system =
        Act.forEach (fun attempt => set command attempt.1 attempt.2)
          (declared.formAttempts form) desk.system) ∧
      ∀ name, name ∉ declared.names → ∀ submitted, set command name submitted desk.system =
        (.error (.raised desk.system.faults.nextRef), { desk.system with
          faults := desk.system.faults.push
            (.unknownField (.text (desk.system.commands.get command).name) (.text name)) }) := by
  intro declared attempts desk values
  have edited : ∀ edit ∈ later.filterMap (Move.editOf? label), ∀ reading,
      edit ≠ .acknowledge reading := by
    rintro edit member reading rfl
    obtain ⟨move, inside, found⟩ := List.mem_filterMap.mp member
    rw [Move.eq_edit_of_editOf? found] at inside
    exact before reading inside
  have drafted : desk.sketch.drafts label = some (declared.draftAfter start attempts) := by
    rw [Desk.draft_after grounded refers once, Desk.schemaIn_declared grounded
      (fun move member => refers move (List.mem_append_left _ member)) blank, Draft.made?,
      Declared.ofSchema_inOrder declared start, Option.map_some,
      Declared.foldl_attempted (Declared.refusesValues_prototype values) edited,
      List.nil_append]
  obtain ⟨command, made, draft⟩ := Option.map_eq_some_iff.mp drafted
  have draft : draftIn desk.system command = declared.draftAfter start attempts := draft
  refine ⟨command, made, ?_, ?_, declared.nodup_names, fun form => ?_, ?_⟩
  · have fields : (shownIn desk.system command).fields =
        (declared.draftAfter start attempts).fields := congrArg Draft.fields draft
    rw [fields, Declared.texts_draftAfter]
  · exact congrArg Draft.errors draft
  · rw [fill_eq, forEach_fillField (congrArg Draft.idField draft)
      (congrArg Draft.hasImplicitId draft), draft, Declared.names_draftAfter]
    rfl
  · intro name undeclared submitted
    refine set_of_undeclared ?_ submitted
    rw [draft, Declared.lookup_draftAfter, if_neg undeclared]

/-- A text that must not be empty. -/
def required : Sanitizer := fun submitted =>
  if submitted = "" then .error (.fresh (.raised .value [.text "required"])) else .ok submitted

def signingUp : System Domain.bare :=
  { parameters := ⟨#[.text "nobody" "nobody" Sanitizer.trimming, .time none, .text "" "" required]⟩
    definitions := ⟨#[{ name := "sign-up", fields := [], idField := "id", factory := none }]⟩
    domain := () }

private theorem refusesValues_required (shown submitted : String) :
    (Parameter.text shown submitted required).RefusesValues signingUp := by
  intro text refusal refuses
  have refuses : required text = .error refusal := refuses
  rw [required] at refuses
  split at refuses
  · cases refuses
    exact ⟨_, rfl, rfl⟩
  · cases refuses

private theorem signingUp_grounded : signingUp.Grounded := by
  apply System.grounded_of_all
  · decide
  · intro parameter member
    have member := Array.mem_toList_iff.mpr member
    simp only [signingUp, List.mem_cons, List.not_mem_nil, or_false] at member
    rcases member with rfl | rfl | rfl
    · intro submitted refusal fault refuses
      cases refuses
    · exact Parameter.grounded_time none
    · intro submitted refusal fault refuses existing
      obtain ⟨accepted, parses⟩ := Parameter.parse_text "" "" required submitted
      simp only [parses, required] at refuses
      split at refuses
      · cases refuses
      · rename_i refused sanitizes
        split at sanitizes
        · cases sanitizes
          cases refuses
          cases existing
        · cases sanitizes

/-- A field that is declared again keeps its place and takes the later prototype. Its refusals, once
by a form and once by itself, stand before that of the other field and change no text. -/
theorem population_of_signing_up :
    let earlier : List (Move Domain.bare) :=
      [.declare ⟨0⟩ (.field "name" ⟨0⟩), .declare ⟨0⟩ (.field "due" ⟨1⟩),
        .declare ⟨0⟩ (.field "name" ⟨2⟩)]
    let later : List (Move Domain.bare) :=
      [.edit "first" (.set "name" "Ada"),
        .edit "first" (.fill (.entries [("name", none), ("due", some "tomorrow")])),
        .edit "first" (.set "due" " 2024-02-29T12:00:00Z"), .edit "first" (.set "alias" "Countess"),
        .edit "first" (.set "name" "")]
    let desk := Desk.after signingUp (earlier ++ .create "first" ⟨0⟩ none :: later)
    signingUp.Grounded ∧ (signingUp.definitions.get ⟨0⟩).Blank ∧
      (∀ move ∈ earlier ++ .create "first" ⟨0⟩ none :: later, move.Refers signingUp) ∧
      (∀ move ∈ later, ¬move.Creates "first") ∧
      (∀ reading, .edit "first" (.acknowledge reading) ∉ later) ∧
      (∀ entry ∈ (Declared.ofDeclarations signingUp
        (earlier.filterMap (Move.declarationOf? ⟨0⟩))).fields, entry.2.RefusesValues signingUp) ∧
      ∃ command, desk.commands "first" = some command ∧
        (shownIn desk.system command).fields.map (fun entry => (entry.1, entry.2.shown)) =
          [("name", "Ada"), ("due", "2024-02-29T12:00:00+00:00"), ("id", "")] ∧
        (shownIn desk.system command).errors =
          [("name", ["required", "required"]), ("due", ["malformed_time"])] := by
  intro earlier later desk
  have blank : (signingUp.definitions.get ⟨0⟩).Blank := ⟨rfl, rfl⟩
  have refers : ∀ move ∈ earlier ++ .create "first" ⟨0⟩ none :: later,
      move.Refers signingUp := by
    intro move member
    simp only [earlier, later, List.cons_append, List.nil_append, List.mem_cons,
      List.not_mem_nil, or_false] at member
    rcases member with rfl | rfl | rfl | rfl | rfl | rfl | rfl | rfl | rfl
    · rintro prototype ⟨⟩
      decide
    · rintro prototype ⟨⟩
      decide
    · rintro prototype ⟨⟩
      decide
    all_goals trivial
  have once : ∀ move ∈ later, ¬move.Creates "first" := by
    intro move member
    simp only [later, List.mem_cons, List.not_mem_nil, or_false] at member
    rcases member with rfl | rfl | rfl | rfl | rfl <;> exact id
  have before : ∀ reading, .edit "first" (.acknowledge reading) ∉ later := by
    intro reading member
    simp [later] at member
  have values : ∀ entry ∈ (Declared.ofDeclarations signingUp
      (earlier.filterMap (Move.declarationOf? ⟨0⟩))).fields,
      entry.2.RefusesValues signingUp := by
    have fields : (Declared.ofDeclarations signingUp
        (earlier.filterMap (Move.declarationOf? ⟨0⟩))).fields =
        [("name", .text "nobody" "nobody" Sanitizer.trimming), ("due", .time none),
          ("name", .text "" "" required)] := rfl
    intro entry member
    rw [fields] at member
    simp only [List.mem_cons, List.not_mem_nil, or_false] at member
    rcases member with rfl | rfl | rfl
    · intro submitted refusal refuses
      cases refuses
    · exact Parameter.refusesValues_time signingUp none
    · exact refusesValues_required "" ""
  obtain ⟨command, made, texts, errors, -⟩ :=
    population_is_attempts signingUp_grounded blank refers once before values
  refine ⟨signingUp_grounded, blank, refers, once, before, values, command, made,
    texts.trans ?_, errors.trans ?_⟩
  · decide +kernel
  · decide +kernel

end EventSourcing
