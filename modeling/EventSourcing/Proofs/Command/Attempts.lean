import EventSourcing.Proofs.Command.InOrder
import EventSourcing.Proofs.Command.Interleaving

/-!
# Attempts to populate a command

Giving a command texts comes down to a list of attempts, each a field and a text: one for every text
that is set, and one for every field when a form is read. `Declared.draftAfter` says what a list of
attempts makes of a new command. A field shows what its kind makes of the last text that it took,
and every refusal is an error of its field. One more attempt makes one more step
(`Declared.set_attempted`), so that any sequence of edits is the list of its attempts.
-/

set_option autoImplicit false

namespace EventSourcing

variable {D : Domain}

open Command

/-! ## Kinds -/

namespace Parameter

/-- What the kind of a parameter makes of a text, whatever the parameter shows. -/
def taken : Parameter → String → Except Raise String
  | .text _ _ sanitizer, submitted => sanitizer submitted
  | .identifier _, submitted =>
    if isIdentifier (Text.strip submitted) then .ok (Text.strip submitted)
    else .error (rejection malformedIdentifierCode)
  | .time _, submitted =>
    if (Text.strip submitted).isEmpty then .error (rejection emptyCode)
    else
      match Timestamp.parse? submitted with
      | .ok moment => .ok ((Timestamp.format? moment).getD "")
      | .error _ => .error (rejection malformedTimeCode)

variable {parameter : Parameter} {submitted : String}

theorem parse_of_taken {shown : String} (takes : parameter.taken submitted = .ok shown) :
    (parameter.parse submitted).1.shown = shown ∧ (parameter.parse submitted).2 = none := by
  cases parameter with
  | text sanitized original sanitizer =>
    have sanitizes : sanitizer submitted = .ok shown := takes
    simp only [parse, sanitizes, Parameter.shown, and_self]
  | identifier value =>
    rw [taken] at takes
    split at takes
    · rename_i accepts
      cases takes
      simp only [parse, accepts, if_true, Parameter.shown, and_self]
    · cases takes
  | time value =>
    rw [taken] at takes
    split at takes
    · cases takes
    · rename_i written
      split at takes
      · rename_i moment reads
        cases takes
        simp only [parse, if_neg written, reads, Parameter.shown, and_self]
      · cases takes

theorem parse_of_refused {refusal : Raise} (refuses : parameter.taken submitted = .error refusal) :
    (parameter.parse submitted).1.shown = parameter.shown ∧
      (parameter.parse submitted).2 = some refusal := by
  cases parameter with
  | text sanitized original sanitizer =>
    have sanitizes : sanitizer submitted = .error refusal := refuses
    simp only [parse, sanitizes, shown, and_self]
  | identifier value =>
    rw [taken] at refuses
    split at refuses
    · cases refuses
    · rename_i accepts
      cases refuses
      simp only [parse, if_neg accepts, shown, and_self]
  | time value =>
    rw [taken] at refuses
    split at refuses
    · rename_i written
      cases refuses
      simp only [parse, if_pos written, shown, and_self]
    · rename_i written
      split at refuses
      · cases refuses
      · rename_i fault reads
        cases refuses
        simp only [parse, if_neg written, reads, shown, and_self]

/-- A text changes what a parameter shows and not its kind. -/
theorem taken_parse (parameter : Parameter) (submitted : String) :
    (parameter.parse submitted).1.taken = parameter.taken := by
  cases parameter with
  | text sanitized original sanitizer =>
    obtain ⟨accepted, parses⟩ := parse_text sanitized original sanitizer submitted
    rw [parses]
    rfl
  | identifier value =>
    obtain ⟨accepted, parses⟩ := parse_identifier value submitted
    rw [parses]
    rfl
  | time value =>
    obtain ⟨accepted, parses⟩ := parse_time value submitted
    rw [parses]
    rfl

/-- A parameter after it was given texts, one after the other. -/
def given (parameter : Parameter) (texts : List String) : Parameter :=
  texts.foldl (fun known submitted => (known.parse submitted).1) parameter

theorem given_concat (parameter : Parameter) (texts : List String) (submitted : String) :
    parameter.given (texts ++ [submitted]) = ((parameter.given texts).parse submitted).1 := by
  rw [given, List.foldl_append]
  rfl

theorem taken_given (parameter : Parameter) (texts : List String) :
    (parameter.given texts).taken = parameter.taken := by
  induction texts using List.reverseRecOn with
  | nil => rfl
  | append_singleton texts submitted ih => rw [given_concat, taken_parse, ih]

/-- The last text that was taken counts, however many were refused after it. -/
theorem shown_given (parameter : Parameter) (texts : List String) :
    (parameter.given texts).shown =
      (texts.filterMap fun submitted => (parameter.taken submitted).toOption).getLast?.getD
        parameter.shown := by
  induction texts using List.reverseRecOn with
  | nil => rfl
  | append_singleton texts submitted ih =>
    rw [given_concat, List.filterMap_append, List.getLast?_append]
    cases takes : parameter.taken submitted with
    | ok shown =>
      rw [← taken_given parameter texts] at takes
      rw [(parse_of_taken takes).1, taken_given] at *
      simp [takes, Except.toOption]
    | error refusal =>
      rw [← taken_given parameter texts] at takes
      rw [(parse_of_refused takes).1, ih, taken_given] at *
      simp [takes, Except.toOption]

/-- Of what a parameter refuses, the cause is known and of the value family. -/
def RefusesValues (system : System D) (parameter : Parameter) : Prop :=
  ∀ submitted refusal, parameter.taken submitted = .error refusal →
    ∃ fault, refusal.cause? system = some fault ∧ fault.family = .value

theorem refusesValues_identifier (system : System D) (value : String) :
    (identifier value).RefusesValues system := by
  intro submitted refusal refuses
  rw [taken] at refuses
  split at refuses
  · cases refuses
  · cases refuses
    exact ⟨_, rfl, rfl⟩

theorem refusesValues_time (system : System D) (value : Option Moment) :
    (time value).RefusesValues system := by
  intro submitted refusal refuses
  rw [taken] at refuses
  split at refuses
  · cases refuses
    exact ⟨_, rfl, rfl⟩
  · split at refuses
    · cases refuses
    · cases refuses
      exact ⟨_, rfl, rfl⟩

end Parameter

/-! ## Attempts -/

/-- The fields that were declared, one after the other, and the name of the identifier. -/
structure Declared where
  fields : List (String × Parameter)
  idField : String

namespace Declared

/-- The fields of a command in the order of their first declaration. An identifier that was not
declared comes last. -/
def names (declared : Declared) : List String :=
  (declared.fields.map Prod.fst ++ [declared.idField]).eraseDups

def isImplicit (declared : Declared) : Bool :=
  declared.idField ∉ declared.fields.map Prod.fst

/-- The last declaration of a name counts; an identifier that was not declared is empty. -/
def prototype (declared : Declared) (name : String) : Parameter :=
  (declared.fields.reverse.lookup name).getD (.identifier "")

/-- An identifier that was not declared is given no empty text by a form. -/
def isAttempt (declared : Declared) (attempt : String × String) : Bool :=
  ¬(attempt.1 = declared.idField ∧ declared.isImplicit ∧ attempt.2 = "")

/-- The attempts of a form, one for every field. -/
def formAttempts (declared : Declared) (form : Form) : List (String × String) :=
  (declared.names.map fun name => (name, form.textFor name)).filter declared.isAttempt

/-- The attempts of an edit. A text for a name that is no field is no attempt. -/
def attempts (declared : Declared) : Edit → List (String × String)
  | .set name submitted => if name ∈ declared.names then [(name, submitted)] else []
  | .fill form => declared.formAttempts form
  | .acknowledge _ => []

/-- The text of a field: of the last text that it took, or of its prototype. -/
def textAfter (declared : Declared) (attempts : List (String × String)) (name : String) : String :=
  ((saidOf attempts name).filterMap fun submitted =>
    ((declared.prototype name).taken submitted).toOption).getLast?.getD
      (declared.prototype name).shown

/-- The fields that refused a text, each time with the message of the refusal. -/
def rejections (declared : Declared) (system : System D) (attempts : List (String × String)) :
    List (String × String) :=
  attempts.filterMap fun attempt =>
    match (declared.prototype attempt.1).taken attempt.2 with
    | .ok _ => none
    | .error refusal => (refusal.cause? system).map fun fault => (attempt.1, fault.message)

/-- What attempts make of a new command. -/
def draftAfter (declared : Declared) (system : System D) (attempts : List (String × String)) :
    Draft where
  fields := inOrder (declared.fields.map Prod.fst ++ [declared.idField]) fun name =>
    (declared.prototype name).given (saidOf attempts name)
  idField := declared.idField
  hasImplicitId := declared.isImplicit
  errors := FieldErrors.grouped (declared.rejections system attempts)

section Attempting

variable {declared : Declared} {start : System D} {known : List (String × String)} {name : String}

theorem nodup_names (declared : Declared) : declared.names.Nodup :=
  nodup_eraseDups _

theorem texts_draftAfter (declared : Declared) (start : System D)
    (attempts : List (String × String)) :
    (declared.draftAfter start attempts).fields.map (fun entry => (entry.1, entry.2.shown)) =
      declared.names.map fun name => (name, declared.textAfter attempts name) := by
  rw [draftAfter, map_inOrder, inOrder]
  refine List.map_congr_left fun name _ => ?_
  rw [Parameter.shown_given]
  rfl

theorem names_draftAfter (declared : Declared) (start : System D)
    (attempts : List (String × String)) :
    (declared.draftAfter start attempts).fields.map Prod.fst = declared.names := by
  simp only [draftAfter, inOrder, List.map_map]
  exact List.map_id _

theorem lookup_draftAfter (declared : Declared) (start : System D)
    (attempts : List (String × String)) (name : String) :
    (declared.draftAfter start attempts).fields.lookup name =
      if name ∈ declared.names then
        some ((declared.prototype name).given (saidOf attempts name)) else none := by
  rw [draftAfter, lookup_inOrder]
  simp only [names, List.mem_eraseDups]

/-- One more attempt gives its field one more text. -/
theorem draftAfter_concat (declares : name ∈ declared.names) (submitted : String) :
    declared.draftAfter start (known ++ [(name, submitted)]) =
      { (declared.draftAfter start known).put name
          (((declared.prototype name).given (saidOf known name)).parse submitted).1 with
        errors := FieldErrors.grouped
          (declared.rejections start (known ++ [(name, submitted)])) } := by
  rw [names, List.mem_eraseDups] at declares
  have fields : (declared.draftAfter start (known ++ [(name, submitted)])).fields =
      ((declared.draftAfter start known).put name
        (((declared.prototype name).given (saidOf known name)).parse submitted).1).fields := by
    rw [Draft.put, draftAfter, draftAfter, putNamed_inOrder, inOrder, inOrder,
      eraseDups_concat_of_mem declares]
    refine List.map_congr_left fun other _ => ?_
    by_cases same : other = name
    · subst same
      simp only [Function.update_self, saidOf_concat_own, Parameter.given_concat]
    · simp only [Function.update_of_ne same, saidOf_concat_other known same]
  exact congrArg (fun fields => (⟨fields, _, _, _⟩ : Draft)) fields

/-- Setting a field is one more attempt. -/
theorem set_attempted (declares : name ∈ declared.names)
    (values : (declared.prototype name).RefusesValues start) (submitted : String) :
    (declared.draftAfter start known).set (·.cause? start) name submitted =
      .ok (declared.draftAfter start (known ++ [(name, submitted)])) := by
  have looked := declared.lookup_draftAfter start known name
  have sameKind := (declared.prototype name).taken_given (saidOf known name)
  rw [if_pos declares] at looked
  rw [draftAfter_concat declares, Draft.set, looked]
  generalize (declared.prototype name).given (saidOf known name) = parameter at sameKind ⊢
  cases takes : (declared.prototype name).taken submitted with
  | ok shown =>
    have accepted := (Parameter.parse_of_taken (sameKind ▸ takes)).2
    have rejected : declared.rejections start (known ++ [(name, submitted)]) =
        declared.rejections start known := by
      simp [rejections, List.filterMap_append, takes]
    simp only [accepted, rejected]
    rfl
  | error refusal =>
    obtain ⟨fault, cause, family⟩ := values submitted refusal takes
    have refused := (Parameter.parse_of_refused (sameKind ▸ takes)).2
    have rejected : declared.rejections start (known ++ [(name, submitted)]) =
        declared.rejections start known ++ [(name, fault.message)] := by
      simp [rejections, List.filterMap_append, takes, cause]
    simp only [refused, cause, family, if_true, rejected, ← FieldErrors.add_grouped]
    rfl

theorem set_undeclared (undeclared : name ∉ declared.names) (submitted : String) :
    (declared.draftAfter start known).set (·.cause? start) name submitted =
      .error (declared.draftAfter start known) := by
  rw [Draft.set, lookup_draftAfter, if_neg undeclared]

theorem setUnlessImplicit_attempted (declares : name ∈ declared.names)
    (values : (declared.prototype name).RefusesValues start) (form : Form) :
    (declared.draftAfter start known).setUnlessImplicit (·.cause? start) form name =
      .ok (declared.draftAfter start
        (known ++ [(name, form.textFor name)].filter declared.isAttempt)) := by
  by_cases skipped : name = declared.idField ∧ declared.isImplicit ∧ form.textFor name = ""
  · have none : ¬declared.isAttempt (name, form.textFor name) = true :=
      fun attempted => absurd skipped (of_decide_eq_true attempted)
    rw [List.filter_cons_of_neg none, List.filter_nil, List.append_nil]
    exact if_pos skipped
  · have one : declared.isAttempt (name, form.textFor name) = true := decide_eq_true skipped
    rw [List.filter_cons_of_pos one, List.filter_nil, ← set_attempted declares values]
    exact if_neg skipped

/-- Reading a form makes the attempts of its fields, from the first to the last. -/
theorem setEach_attempted (values : ∀ name, (declared.prototype name).RefusesValues start)
    (form : Form) {fields : List String} (declares : ∀ name ∈ fields, name ∈ declared.names) :
    (declared.draftAfter start known).setEach (·.cause? start) form fields =
      .ok (declared.draftAfter start
        (known ++ (fields.map fun name => (name, form.textFor name)).filter
          declared.isAttempt)) := by
  induction fields generalizing known with
  | nil => rw [Draft.setEach, List.map_nil, List.filter_nil, List.append_nil]
  | cons name fields ih =>
    rw [Draft.setEach, setUnlessImplicit_attempted (declares name List.mem_cons_self) (values name)]
    refine Eq.trans (ih fun other member => declares other (.tail _ member)) ?_
    rw [List.append_assoc, ← List.filter_append, List.map_cons, List.singleton_append]

theorem apply_attempted (values : ∀ name, (declared.prototype name).RefusesValues start)
    {edit : Edit} (before : ∀ reading, edit ≠ .acknowledge reading) :
    edit.apply (·.cause? start) (declared.draftAfter start known) =
      declared.draftAfter start (known ++ declared.attempts edit) := by
  cases edit with
  | set name submitted =>
    rw [Edit.apply, Edit.redraft, attempts]
    split
    · rename_i declares
      rw [set_attempted declares (values name)]
      rfl
    · rename_i undeclared
      rw [set_undeclared undeclared, List.append_nil]
      rfl
  | fill form =>
    rw [Edit.apply, Edit.redraft, Draft.fill, names_draftAfter,
      setEach_attempted values form fun _ member => member]
    rfl
  | acknowledge reading => exact absurd rfl (before reading)

/-- A sequence of edits is the list of its attempts. -/
theorem foldl_attempted (values : ∀ name, (declared.prototype name).RefusesValues start)
    {edits : List Edit} (before : ∀ edit ∈ edits, ∀ reading, edit ≠ .acknowledge reading) :
    edits.foldl (Edit.apply (·.cause? start)) (declared.draftAfter start known) =
      declared.draftAfter start (known ++ edits.flatMap declared.attempts) := by
  induction edits generalizing known with
  | nil => rw [List.foldl_nil, List.flatMap_nil, List.append_nil]
  | cons edit edits ih =>
    rw [List.foldl_cons, apply_attempted values (before edit List.mem_cons_self),
      ih fun other member => before other (.tail _ member), List.flatMap_cons, List.append_assoc]

end Attempting

end Declared

end EventSourcing
