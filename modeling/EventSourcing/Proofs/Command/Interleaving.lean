import EventSourcing.Proofs.Command.Desk

/-!
# Commands do not interfere

On a sketch it is plain that a draft depends on the declarations before it was made and on the
edits under its own label. Since every run on a desk is the run on its sketch, so does what a
command shows.
-/

set_option autoImplicit false

namespace EventSourcing

variable {D : Domain}

open Command

namespace Move

def isDeclaration : Move D → Bool
  | .declare .. => true
  | .create .. | .edit .. => false

def edits (label : String) : Move D → Bool
  | .edit other _ => other = label
  | .declare .. | .create .. => false

def editOf? (label : String) : Move D → Option Edit
  | .edit other change => if other = label then some change else none
  | .declare .. | .create .. => none

def Creates (label : String) : Move D → Prop
  | .create other _ _ => other = label
  | .declare .. | .edit .. => False

theorem eq_edit_of_editOf? {label : String} {move : Move D} {change : Edit}
    (found : move.editOf? label = some change) : move = .edit label change := by
  cases move with
  | edit other edit =>
    rw [editOf?] at found
    split at found
    · rename_i same
      cases found
      rw [same]
    · cases found
  | declare _ _ | create _ _ _ => cases found

end Move

namespace Sketch

variable {start : System D} {label : String}

/-- What the moves on a sketch make of one label is made by the edits of that label alone. -/
theorem drafts_run {moves : List (Move D)} (once : ∀ move ∈ moves, ¬move.Creates label)
    (sketch : Sketch D) :
    (moves.foldl (perform start) sketch).drafts label =
      (sketch.drafts label).map fun draft =>
        (moves.filterMap (Move.editOf? label)).foldl (Edit.apply (·.cause? start)) draft := by
  induction moves generalizing sketch with
  | nil => simp
  | cons move moves ih =>
    have rest := ih (fun other member => once other (.tail _ member)) (sketch.perform start move)
    rw [List.foldl_cons, rest]
    cases move with
    | declare definition declaration => rfl
    | create other definition form =>
      have differs : label ≠ other := fun same => once _ List.mem_cons_self same.symm
      simp only [perform, keep, Function.update_of_ne differs, List.filterMap_cons, Move.editOf?]
    | edit other edit =>
      by_cases same : other = label
      · subst same
        simp only [perform, keep, Function.update_self, List.filterMap_cons, Move.editOf?,
          if_true, Option.map_map, List.foldl_cons]
        rfl
      · simp only [perform, keep, Function.update_of_ne (Ne.symm same), List.filterMap_cons,
          Move.editOf?, if_neg same]

/-- Definitions are what the declarations make of them. -/
theorem definitions_run {sketch other : Sketch D} (same : sketch.definitions = other.definitions)
    (moves : List (Move D)) :
    (moves.foldl (perform start) sketch).definitions =
      ((moves.filter Move.isDeclaration).foldl (perform start) other).definitions := by
  induction moves generalizing sketch other with
  | nil => exact same
  | cons move moves ih =>
    cases move with
    | declare definition declaration =>
      refine ih ?_
      simp only [perform, same]
    | create label definition form => exact ih same
    | edit label edit => exact ih same

end Sketch

/-! ## What commands show -/

/-- What can be seen of a command. -/
structure Shown where
  fields : List (String × Parameter)
  errors : FieldErrors
  idField : String
  aggregateId : String

def Draft.shown (draft : Draft) : Shown :=
  { fields := draft.fields, errors := draft.errors, idField := draft.idField
    aggregateId := draft.aggregateId }

def Command.shownIn (system : System D) (command : Ref .command) : Shown :=
  let known := system.commands.get command
  { fields := known.fields.map fun entry => (entry.1, system.parameters.get entry.2)
    errors := recordedErrors system command
    idField := known.idField
    aggregateId := aggregateIdIn system command }

namespace Desk

def shown? (desk : Desk D) (label : String) : Option Shown :=
  (desk.commands label).map (shownIn desk.system)

theorem shown?_eq (desk : Desk D) (label : String) :
    desk.shown? label = (desk.sketch.drafts label).map Draft.shown := by
  cases known : desk.commands label with
  | none => simp only [shown?, sketch, known, Option.map_none]
  | some command =>
    simp only [shown?, sketch, known, Option.map_some, shownIn, aggregateIdIn_eq]
    rfl

end Desk

theorem Move.filterMap_editOf?_filter (label : String) (moves : List (Move D)) :
    (moves.filter (edits label)).filterMap (editOf? label) = moves.filterMap (editOf? label) := by
  induction moves with
  | nil => rfl
  | cons move moves ih =>
    cases move with
    | declare definition declaration => exact ih
    | create other definition form => exact ih
    | edit other change =>
      by_cases same : other = label
      · simp [edits, editOf?, same, ih]
      · simp [edits, editOf?, same, ih]

section Runs

variable {start : System D} {earlier later : List (Move D)} {label : String}
  {definition : Ref .definition} {form : Option Form}

/-- What a definition declares after a run is what the declarations of the run say. -/
theorem Desk.schemaIn_after (grounded : start.Grounded)
    (refers : ∀ move ∈ earlier, move.Refers start) :
    schemaIn (after start earlier).system definition =
      schemaIn (after start (earlier.filter Move.isDeclaration)).system definition := by
  obtain ⟨tidy, sketched⟩ := (Tidy.opening grounded).run grounded refers
  have declares : ∀ move ∈ earlier.filter Move.isDeclaration, move.Refers start :=
    fun move member => refers move (List.mem_filter.mp member).1
  obtain ⟨tidyDeclared, sketchedDeclared⟩ := (Tidy.opening grounded).run grounded declares
  have same : (after start earlier).sketch.definitions =
      (after start (earlier.filter Move.isDeclaration)).sketch.definitions := by
    rw [after, after, sketched, sketchedDeclared]
    exact Sketch.definitions_run rfl earlier
  have schema := tidy.schema definition
  have schemaDeclared := tidyDeclared.schema definition
  rw [after, after, schema, schemaDeclared, Sketch.schema, Sketch.schema]
  rw [after, after] at same
  rw [same]

/-- A draft is made from what the definition declares, and edited under its own label. -/
theorem Desk.draft_after (grounded : start.Grounded)
    (refers : ∀ move ∈ earlier ++ .create label definition form :: later, move.Refers start)
    (once : ∀ move ∈ later, ¬move.Creates label) :
    (after start (earlier ++ .create label definition form :: later)).sketch.drafts label =
      (Draft.made? (·.cause? start) (schemaIn (after start earlier).system definition) form).map
        fun draft => (later.filterMap (Move.editOf? label)).foldl
          (Edit.apply (·.cause? start)) draft := by
  obtain ⟨-, sketched⟩ := (Tidy.opening grounded).run grounded refers
  obtain ⟨tidy, sketchedEarlier⟩ := (Tidy.opening grounded).run grounded
    fun move member => refers move (List.mem_append_left _ member)
  rw [after, sketched, List.foldl_append, List.foldl_cons, Sketch.drafts_run once,
    ← sketchedEarlier, Sketch.perform, Sketch.keep, ← tidy.schema]
  simp only [Function.update_self]
  rfl

theorem Desk.shown?_after (grounded : start.Grounded)
    (refers : ∀ move ∈ earlier ++ .create label definition form :: later, move.Refers start)
    (once : ∀ move ∈ later, ¬move.Creates label) :
    (after start (earlier ++ .create label definition form :: later)).shown? label =
      (Draft.made? (·.cause? start) (schemaIn (after start earlier).system definition) form).map
        fun draft => ((later.filterMap (Move.editOf? label)).foldl
          (Edit.apply (·.cause? start)) draft).shown := by
  rw [shown?_eq, draft_after grounded refers once, Option.map_map]
  rfl

end Runs

/-- What a command shows after a run depends only on its definition at the time that it was made
and on the edits of the command itself. Without the edits and the making of the other commands, and
without later declarations, it shows the same; and no parameter that a definition refers to is
changed. -/
theorem commands_do_not_interfere {start : System D} (grounded : start.Grounded)
    (earlier later : List (Move D)) (label : String) (definition : Ref .definition)
    (form : Option Form)
    (refers : ∀ move ∈ earlier ++ .create label definition form :: later, move.Refers start)
    (once : ∀ move ∈ later, ¬move.Creates label) :
    let run := earlier ++ .create label definition form :: later
    let declared := schemaIn (Desk.after start earlier).system definition
    let edits := later.filterMap (Move.editOf? label)
    let alone := earlier.filter Move.isDeclaration ++
      .create label definition form :: later.filter (Move.edits label)
    (Desk.after start run).shown? label =
        (Draft.made? (·.cause? start) declared form).map
          (fun draft => (edits.foldl (Edit.apply (·.cause? start)) draft).shown) ∧
      (Desk.after start run).shown? label = (Desk.after start alone).shown? label ∧
      ∀ slot, slot.index < start.parameters.nextRef.index →
        (Desk.after start run).system.parameters.get slot = start.parameters.get slot := by
  intro run declared edits alone
  have aloneRefers : ∀ move ∈ alone, move.Refers start := by
    intro move member
    refine refers move ?_
    simp only [alone, List.mem_append, List.mem_cons, List.mem_filter] at member ⊢
    rcases member with known | same | later
    · exact .inl known.1
    · exact .inr (.inl same)
    · exact .inr (.inr later.1)
  have onceAlone : ∀ move ∈ later.filter (Move.edits label), ¬move.Creates label :=
    fun move member => once move (List.mem_filter.mp member).1
  have ran := Desk.shown?_after grounded refers once
  have ranAlone := Desk.shown?_after grounded aloneRefers onceAlone
  have sameSchema : declared =
      schemaIn (Desk.after start (earlier.filter Move.isDeclaration)).system definition :=
    Desk.schemaIn_after grounded fun move member => refers move (List.mem_append_left _ member)
  refine ⟨ran, ?_, ?_⟩
  · rw [ranAlone, Move.filterMap_editOf?_filter, ← sameSchema]
    exact ran
  · exact ((Tidy.opening grounded).run grounded refers).1.retains.parameters

/-- A system with a definition of two texts that have one prototype. -/
def ordering : System Domain.bare :=
  { parameters := ⟨#[.text "" "" Sanitizer.trimming, .time none]⟩
    definitions := ⟨#[{ name := "order", fields := [("name", ⟨0⟩), ("note", ⟨0⟩)], idField := "id"
                        factory := none }]⟩
    domain := () }

private theorem ordering_grounded : ordering.Grounded := by
  apply System.grounded_of_all
  · decide
  · intro parameter member
    rcases List.mem_cons.mp (Array.mem_toList_iff.mpr member) with rfl | member
    · intro submitted refusal fault refuses
      cases refuses
    · rw [List.mem_singleton.mp member]
      exact Parameter.grounded_time none

/-- Two commands have one definition, which is changed after they were made, and texts with one
prototype. -/
theorem commands_do_not_interfere_ordering :
    let earlier : List (Move Domain.bare) := [.create "first" ⟨0⟩ none]
    let create : Move Domain.bare :=
      .create "second" ⟨0⟩ (some (.entries [("name", some " Ada "), ("note", none)]))
    let later : List (Move Domain.bare) :=
      [.edit "first" (.set "name" "Bob"), .declare ⟨0⟩ (.id "due" ⟨1⟩),
        .edit "second" (.set "note" "today"), .edit "first" (.acknowledge .unixEpoch)]
    ordering.Grounded ∧ (∀ move ∈ earlier ++ create :: later, move.Refers ordering) ∧
      (∀ move ∈ later, ¬move.Creates "second") ∧
      (Desk.after ordering (earlier ++ create :: later)).shown? "second" = some
        { fields := [("name", .text "Ada" " Ada " Sanitizer.trimming),
            ("note", .text "today" "today" Sanitizer.trimming), ("id", .identifier "")]
          errors := [], idField := "id", aggregateId := "" } := by
  intro earlier create later
  have refers : ∀ move ∈ earlier ++ create :: later, move.Refers ordering := by
    intro move member
    simp only [earlier, create, later, List.cons_append, List.nil_append, List.mem_cons,
      List.not_mem_nil, or_false] at member
    rcases member with rfl | rfl | rfl | rfl | rfl | rfl
    · trivial
    · trivial
    · trivial
    · intro prototype declared
      cases declared
      exact Nat.one_lt_two
    · trivial
    · trivial
  have once : ∀ move ∈ later, ¬move.Creates "second" := by
    intro move member
    simp only [later, List.mem_cons, List.not_mem_nil, or_false] at member
    rcases member with rfl | rfl | rfl | rfl <;> exact id
  obtain ⟨shown, -, -⟩ := commands_do_not_interfere ordering_grounded earlier later "second" ⟨0⟩
    (some (.entries [("name", some " Ada "), ("note", none)])) refers once
  refine ⟨ordering_grounded, refers, once, shown.trans ?_⟩
  have declared : schemaIn (Desk.after ordering earlier).system ⟨0⟩ =
      { fields := [("name", .text "" "" Sanitizer.trimming),
          ("note", .text "" "" Sanitizer.trimming)], idField := "id" } := rfl
  have made : Draft.made? (·.cause? ordering)
      { fields := [("name", .text "" "" Sanitizer.trimming),
          ("note", .text "" "" Sanitizer.trimming)], idField := "id" }
      (some (.entries [("name", some " Ada "), ("note", none)])) = some
        { fields := [("name", .text "Ada" " Ada " Sanitizer.trimming),
            ("note", .text "" "" Sanitizer.trimming), ("id", .identifier "")]
          idField := "id", hasImplicitId := true, errors := [] } := rfl
  rw [declared, made]
  rfl

end EventSourcing
