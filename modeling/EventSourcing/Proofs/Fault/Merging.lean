import EventSourcing.Proofs.Command.Filling
import EventSourcing.Proofs.Fault.MessageLists

/-!
# Merging validation errors

Validation errors come from entries, from messages recorded and from other faults merged into them,
in any order. Whatever the history, they are as the lists of messages make them that are looked up,
made and filled on the way (`follow`), and no list comes to be shared. `UnionLaws` says what merging
does then: it is the ordered union, it is associative, a fault of another kind counts as an error
with its words, and errors change by what is done to themselves alone.
-/

set_option autoImplicit false

namespace EventSourcing

/-- The fault is no validation error. -/
def Fault.IsForeign (fault : Fault) : Prop :=
  ∀ errors, fault ≠ .validation errors

namespace Validation

variable {D : Domain}

/-! ## Histories -/

/-- What can be done with validation errors. Faults of other kinds come from elsewhere. -/
inductive Operation where
  | create (entries : List (String × List String))
  | arise (fault : Fault) (foreign : fault.IsForeign)
  | add (errors : Ref .fault) (field message : String)
  | merge (errors other : Ref .fault)

namespace Operation

def run : Operation → Act D Unit
  | .create entries => do
    let _ ← Validation.create (.ofPairs entries)
  | .arise fault _ => do
    let _ ← Act.newFault fault
  | .add errors field message => Validation.add errors field message
  | .merge errors other => Validation.merge errors other

/-- The errors that an operation is done to, if they are there already. -/
def receiver? : Operation → Option (Ref .fault)
  | .create _ | .arise _ _ => none
  | .add errors _ _ | .merge errors _ => some errors

/-- The operation on the lists of messages. What kind a fault is of, and its words, is asked of the
system. -/
def onLists (system : System D) (operation : Operation) (lists : MessageLists) :
    Option MessageLists :=
  match operation with
  | .create entries => some (lists.create system.faults.nextRef entries)
  | .arise _ _ => some lists
  | .add errors field message =>
    match system.faults.get errors with
    | .validation _ => some (lists.extend errors field [message])
    | _ => some lists
  | .merge errors other =>
    match system.faults.get errors with
    | .validation _ =>
      match system.faults.get other with
      | .validation _ => lists.merge errors other
      | fault => some (lists.extend errors FieldErrors.allFields [fault.message])
    | _ => some lists

end Operation

/-- The system after operations, each of which ends as it may. -/
def operate (system : System D) (operations : List Operation) : System D :=
  operations.foldl (fun system operation => (operation.run system).2) system

/-- The lists of messages after operations, if each comes to its end. -/
def follow (system : System D) (lists : MessageLists) : List Operation → Option MessageLists
  | [] => some lists
  | operation :: operations => do
    follow (operation.run system).2 (← operation.onLists system lists) operations

/-! ## Single operations -/

section Single

variable {system : System D} {errors other : Ref .fault} {known : FieldErrors}

theorem merge_of_validation (found : system.faults.get errors = .validation known)
    (other : Ref .fault) :
    merge errors other system = (.ok (), { system with
      faults := system.faults.set errors
        (.validation (known.merge (contribution (system.faults.get other)))) }) := by
  simp only [merge, bind, Act.bind, Act.faultOf, Act.read]
  exact change_of_validation found _ _

/-- A fault of another kind cannot be changed; that is a further fault. -/
theorem change_of_foreign (foreign : (system.faults.get errors).IsForeign) (part : String)
    (edit : FieldErrors → FieldErrors) :
    change errors part edit system =
      Act.throw (.lacksAttribute (system.faults.get errors).className part) system := by
  cases found : system.faults.get errors with
  | validation known => exact absurd found (foreign known)
  | _ => simp only [change, bind, Act.bind, Act.faultOf, Act.read, found]

theorem contribution_of_foreign {fault : Fault} (foreign : fault.IsForeign) :
    contribution fault = [(FieldErrors.allFields, [fault.message])] := by
  cases fault with
  | validation known => exact absurd rfl (foreign known)
  | _ => rfl

theorem isForeign_or_validation (fault : Fault) :
    fault.IsForeign ∨ ∃ known, fault = .validation known := by
  cases fault with
  | validation known => exact .inr ⟨known, rfl⟩
  | _ => exact .inl nofun

end Single

end Validation

/-! ## Lists of messages along a history -/

namespace MessageLists

variable {D : Domain} {system : System D} {lists after : MessageLists}

/-- What the errors of a system show is what their lists hold. -/
def Shows (lists : MessageLists) (system : System D) : Prop :=
  ∀ errors known, system.faults.get errors = .validation known → lists.shown errors = known

theorem Shows.push_foreign (shows : lists.Shows system) {fault : Fault}
    (foreign : fault.IsForeign) :
    lists.Shows { system with faults := system.faults.push fault } := by
  intro errors known found
  rw [Table.get_push] at found
  split at found
  · exact absurd found (foreign known)
  · exact shows errors known found

theorem Shows.push (shows : lists.Shows system) {known : FieldErrors}
    (changes : ∀ errors, after.shown errors =
      if errors = system.faults.nextRef then known else lists.shown errors) :
    after.Shows { system with faults := system.faults.push (.validation known) } := by
  intro errors found get
  rw [Table.get_push] at get
  rw [changes]
  split at get
  · rename_i same
    rw [if_pos same.symm]
    exact Fault.validation.inj get
  · rename_i differs
    rw [if_neg (Ne.symm differs)]
    exact shows errors found get

theorem Shows.set (shows : lists.Shows system) {errors : Ref .fault} {known : FieldErrors}
    (changes : ∀ other, after.shown other =
      if other = errors then known else lists.shown other) :
    after.Shows { system with faults := system.faults.set errors (.validation known) } := by
  intro other found get
  rw [Table.get_set] at get
  rw [changes]
  split at get
  · rename_i same
    rw [if_pos same.symm]
    exact Fault.validation.inj get
  · rename_i differs
    rw [if_neg (Ne.symm differs)]
    exact shows other found get

open Validation in
/-- One operation: the lists come to its end, and go on to be what is shown. -/
theorem Shows.step (shows : lists.Shows system) (unshared : lists.Unshared)
    (operation : Operation) :
    ∃ after, operation.onLists system lists = some after ∧ after.Unshared ∧
      after.Shows (operation.run system).2 := by
  cases operation with
  | create entries =>
    obtain ⟨stillUnshared, changes⟩ := create_run unshared system.faults.nextRef entries
    exact ⟨_, rfl, stillUnshared, shows.push changes⟩
  | arise fault foreign => exact ⟨lists, rfl, unshared, shows.push_foreign foreign⟩
  | add errors field message =>
    rcases isForeign_or_validation (system.faults.get errors) with foreign | ⟨known, found⟩
    · refine ⟨lists, ?_, unshared, ?_⟩
      · rw [Operation.onLists]
        split
        · exact absurd ‹_› (foreign _)
        · rfl
      · rw [Operation.run, Validation.add, change_of_foreign foreign]
        exact shows.push_foreign nofun
    · refine ⟨lists.extend errors field [message], ?_, unshared.extend errors field _, ?_⟩
      · rw [Operation.onLists, found]
      · rw [Operation.run, add_of_validation found]
        refine shows.set fun other => ?_
        rw [shown_extend unshared, shows errors known found]
        rfl
  | merge errors other =>
    rcases isForeign_or_validation (system.faults.get errors) with foreign | ⟨known, found⟩
    · refine ⟨lists, ?_, unshared, ?_⟩
      · rw [Operation.onLists]
        split
        · exact absurd ‹_› (foreign _)
        · rfl
      · have ran : Validation.merge errors other system = _ :=
          change_of_foreign foreign "merge" (·.merge (contribution (system.faults.get other)))
        rw [Operation.run, ran]
        exact shows.push_foreign nofun
    · rw [Operation.run, merge_of_validation found]
      rcases isForeign_or_validation (system.faults.get other) with foreign | ⟨more, foundOther⟩
      · refine ⟨lists.extend errors FieldErrors.allFields [(system.faults.get other).message], ?_,
          unshared.extend errors _ _, shows.set fun ref => ?_⟩
        · simp only [Operation.onLists, found]
          split
          · exact absurd ‹_› (foreign _)
          · rfl
        · rw [shown_extend unshared, shows errors known found, contribution_of_foreign foreign]
          rfl
      · obtain ⟨after, ran, stillUnshared, changes⟩ := merge_run unshared errors other
        refine ⟨after, ?_, stillUnshared, shows.set fun ref => ?_⟩
        · simp only [Operation.onLists, found, foundOther]
          exact ran
        · rw [changes, shows errors known found, shows other more foundOther, foundOther]
          rfl

end MessageLists

namespace Validation

variable {D : Domain} {system after : System D} {first second third other : Ref .fault}
  {known more most : FieldErrors}

/-- Along a history merging always comes to its end, no list comes to be shared, and the lists go
on to be what is shown. -/
theorem follow_run {lists : MessageLists} (unshared : lists.Unshared) (shows : lists.Shows system)
    (history : List Operation) :
    ∃ after, follow system lists history = some after ∧ after.Unshared ∧
      after.Shows (operate system history) := by
  induction history generalizing system lists with
  | nil => exact ⟨lists, rfl, unshared, shows⟩
  | cons operation history ih =>
    obtain ⟨next, ran, unsharedNext, showsNext⟩ := shows.step unshared operation
    obtain ⟨after, followed, rest⟩ := ih unsharedNext showsNext
    refine ⟨after, ?_, rest⟩
    rw [follow, ran]
    exact followed

/-! ## Laws of merging -/

/-- The errors exist, and are these. -/
structure Holds (system : System D) (errors : Ref .fault) (known : FieldErrors) : Prop where
  made : errors.index < system.faults.nextRef.index
  found : system.faults.get errors = .validation known

/-- What merging does in a system, whatever operations come after it. -/
structure UnionLaws (system : System D) : Prop where
  union : ∀ {first second known more}, first ≠ second →
    Holds system first known → Holds system second more →
    ∃ union after, merge first second system = (.ok (), after) ∧
      FieldErrors.IsUnion known more union ∧ Holds after first union ∧
      ∀ other, other ≠ first → after.faults.get other = system.faults.get other
  assoc : ∀ {first second third known more most},
    first ≠ second → second ≠ third → first ≠ third →
    Holds system first known → Holds system second more → Holds system third most →
    ∃ union left right,
      (do merge first second; merge first third : Act D Unit) system = (.ok (), left) ∧
      (do merge second third; merge first second : Act D Unit) system = (.ok (), right) ∧
      Holds left first union ∧ Holds right first union
  empty : ∀ {first second known}, Holds system first known → Holds system second [] →
    ∃ after, merge first second system = (.ok (), after) ∧
      ∀ other, after.faults.get other = system.faults.get other
  /-- A fault of another kind counts as one error with its words, under the common field. -/
  foreign : ∀ {first fault single known}, Holds system first known →
    (system.faults.get fault).IsForeign →
    Holds system single [(FieldErrors.allFields, [(system.faults.get fault).message])] →
    ∃ after, merge first fault system = (.ok (), after) ∧
      merge first single system = (.ok (), after)
  self : ∀ {first known}, Holds system first known →
    ∃ after, merge first first system = (.ok (), after) ∧
      Holds after first (known.map fun entry => (entry.1, entry.2 ++ entry.2)) ∧
      ∀ other, other ≠ first → after.faults.get other = system.faults.get other
  /-- Neither of the two is changed later by what is not done to itself. -/
  apart : ∀ {first second known more}, first ≠ second →
    Holds system first known → Holds system second more →
    ∃ union after, merge first second system = (.ok (), after) ∧ Holds after first union ∧
      ∀ later : List Operation,
        ((∀ operation ∈ later, operation.receiver? ≠ some second) →
          Holds (operate after later) second more) ∧
        ((∀ operation ∈ later, operation.receiver? ≠ some first) →
          Holds (operate after later) first union)
  ok : ∀ {first known}, Holds system first known → (known.isEmpty = true ↔ known.fields = [])

/-- Merging a fault into errors changes these alone. -/
theorem Holds.merge (holds : Holds system first known) (other : Ref .fault) :
    ∃ after, Validation.merge first other system = (.ok (), after) ∧
      Holds after first (known.merge (contribution (system.faults.get other))) ∧
      (∀ ref, ref ≠ first → after.faults.get ref = system.faults.get ref) ∧
      ∀ ref errors, ref ≠ first → Holds system ref errors → Holds after ref errors := by
  have others (ref : Ref .fault) (differs : ref ≠ first) (fault : Fault) :
      (system.faults.set first fault).get ref = system.faults.get ref :=
    (Table.get_set _ _ _ _).trans (if_neg (Ne.symm differs))
  have grows (fault : Fault) := Table.nextRef_le_set system.faults first fault
  refine ⟨_, merge_of_validation holds.found other, ⟨?_, ?_⟩,
    fun ref differs => others ref differs _,
    fun ref errors differs held => ⟨?_, (others ref differs _).trans held.found⟩⟩
  · exact Nat.lt_of_lt_of_le holds.made (grows _)
  · exact (Table.get_set _ _ _ _).trans (if_pos rfl)
  · exact Nat.lt_of_lt_of_le held.made (grows _)

private theorem along_newFault (fault : Fault) :
    Act.Keeps (Act.Along fun system : System D => Holds system first known)
      (Act.newFault fault) := by
  intro system holds
  refine ⟨?_, (Table.get_push_of_made _ holds.made _).trans holds.found⟩
  have grows : system.faults.nextRef.index ≤ (system.faults.push fault).nextRef.index := by
    rw [Table.nextRef_push]
    exact Nat.le_succ _
  exact Nat.lt_of_lt_of_le holds.made grows

private theorem along_change (differs : other ≠ first) (part : String)
    (edit : FieldErrors → FieldErrors) :
    Act.Keeps (Act.Along fun system : System D => Holds system first known)
      (change other part edit) := by
  refine (Act.keeps_read _).bind fun fault => ?_
  cases fault with
  | validation errors =>
    intro system holds
    exact ⟨Nat.lt_of_lt_of_le holds.made (Table.nextRef_le_set _ _ _),
      ((Table.get_set _ _ _ _).trans (if_neg differs)).trans holds.found⟩
  | _ => exact Act.keeps_throw along_newFault _

private theorem along_run {operation : Operation} (elsewhere : operation.receiver? ≠ some first) :
    Act.Keeps (Act.Along fun system : System D => Holds system first known) operation.run := by
  cases operation with
  | create entries => exact (along_newFault _).bind fun _ => Act.keeps_pure ()
  | arise fault foreign => exact (along_newFault _).bind fun _ => Act.keeps_pure ()
  | add errors field message =>
    exact along_change (fun same => elsewhere (congrArg some same)) "add" _
  | merge errors other =>
    exact (Act.keeps_read _).bind fun fault =>
      along_change (fun same => elsewhere (congrArg some same)) "merge" _

/-- Errors stay as they are through operations that are not done to them. -/
theorem Holds.operate (holds : Holds system first known) {later : List Operation}
    (elsewhere : ∀ operation ∈ later, operation.receiver? ≠ some first) :
    Holds (operate system later) first known := by
  induction later generalizing system with
  | nil => exact holds
  | cons operation later ih =>
    exact ih (along_run (elsewhere operation List.mem_cons_self) system holds)
      fun other member => elsewhere other (.tail _ member)

theorem unionLaws (distinct : ∀ errors known, system.faults.get errors = .validation known →
    known.Distinct) : UnionLaws system where
  union differs held heldOther := by
    obtain ⟨after, ran, merged, others, -⟩ := held.merge _
    rw [heldOther.found] at merged
    exact ⟨_, after, ran, FieldErrors.isUnion_merge _ (distinct _ _ heldOther.found), merged,
      others⟩
  assoc := by
    intro first second third known more most differ differOther differThird held heldOther heldThird
    obtain ⟨middle, ran, merged, -, keeps⟩ := held.merge second
    obtain ⟨left, ranThird, mergedThird, -⟩ := merged.merge third
    obtain ⟨inner, ranInner, mergedInner, -, keepsInner⟩ := heldOther.merge third
    obtain ⟨right, ranOuter, mergedOuter, -⟩ :=
      (keepsInner first known differ held).merge second
    rw [heldOther.found, (keeps third most (Ne.symm differThird) heldThird).found] at mergedThird
    rw [mergedInner.found, heldThird.found] at mergedOuter
    refine ⟨_, left, right, ?_, ?_, mergedThird, ?_⟩
    · rw [Act.bind_of_ok ran, ranThird]
    · rw [Act.bind_of_ok ranInner, ranOuter]
    · rw [show contribution (.validation more) = more from rfl,
        show contribution (.validation most) = most from rfl,
        FieldErrors.merge_assoc (distinct _ _ held.found) (distinct _ _ heldOther.found)
          (distinct _ _ heldThird.found)]
      exact mergedOuter
  empty := by
    intro first second known held heldOther
    obtain ⟨after, ran, merged, others, -⟩ := held.merge second
    refine ⟨after, ran, fun other => ?_⟩
    by_cases same : other = first
    · rw [heldOther.found] at merged
      rw [same, held.found]
      exact merged.found
    · exact others other same
  foreign := by
    intro first fault single known held isForeign heldSingle
    obtain ⟨after, ran, -⟩ := held.merge fault
    refine ⟨after, ran, ran ▸ ?_⟩
    rw [merge_of_validation held.found, merge_of_validation held.found, heldSingle.found,
      contribution_of_foreign isForeign]
    rfl
  self := by
    intro first known held
    obtain ⟨after, ran, merged, others, -⟩ := held.merge first
    rw [held.found, show contribution (.validation known) = known from rfl,
      FieldErrors.merge_self (distinct _ _ held.found)] at merged
    exact ⟨after, ran, merged, others⟩
  apart := by
    intro first second known more differ held heldOther
    obtain ⟨after, ran, merged, -, keeps⟩ := held.merge second
    exact ⟨_, after, ran, merged, fun later =>
      ⟨(keeps second more (Ne.symm differ) heldOther).operate, merged.operate⟩⟩
  ok _ := FieldErrors.isEmpty_iff_fields _

/-- Whatever was done with validation errors and faults before, merging is their ordered union. The
lists of messages that this is about are looked up, made and filled one by one on the way; going
through them always comes to an end, and each belongs to one field of one of the errors. -/
theorem merging_is_ordered_union {start : System D} (new : start.faults = .empty)
    (history : List Operation) :
    (∃ lists, follow start .empty history = some lists ∧ lists.Unshared ∧
      lists.Shows (operate start history)) ∧
      UnionLaws (operate start history) := by
  have shows : MessageLists.empty.Shows start := by
    intro errors known found
    rw [new] at found
    exact Fault.validation.inj found
  obtain ⟨lists, followed, unshared, showsAfter⟩ :=
    follow_run MessageLists.unshared_empty shows history
  refine ⟨⟨lists, followed, unshared, showsAfter⟩, unionLaws fun errors known found => ?_⟩
  rw [← showsAfter errors known found]
  exact unshared.distinct errors

/-- Errors from entries, a fault of another kind that is merged into them, and a message recorded
in others before the two are merged. -/
theorem merging_is_ordered_union_signingUp :
    let start : System Domain.bare := { domain := () }
    let history : List Operation :=
      [.create [("email", ["empty"])], .create [("email", ["taken"]), ("password", [])],
        .arise (.raised .runtime [.text "offline"]) nofun, .merge ⟨1⟩ ⟨2⟩,
        .add ⟨0⟩ "name" "long"]
    let system := operate start history
    start.faults = .empty ∧ Holds system ⟨0⟩ [("email", ["empty"]), ("name", ["long"])] ∧
      Holds system ⟨1⟩ [("email", ["taken"]), ("password", []), ("$all", ["offline"])] ∧
      (∃ union after, merge ⟨0⟩ ⟨1⟩ system = (.ok (), after) ∧ Holds after ⟨0⟩ union ∧
        union.fields = ["email", "name", "password", "$all"] ∧
        union.messages "email" = ["empty", "taken"]) ∧
      ∃ after, merge ⟨1⟩ ⟨1⟩ system = (.ok (), after) ∧ Holds after ⟨1⟩
        [("email", ["taken", "taken"]), ("password", []), ("$all", ["offline", "offline"])] := by
  intro start history system
  have new : start.faults = .empty := rfl
  have held : Holds system ⟨0⟩ [("email", ["empty"]), ("name", ["long"])] :=
    ⟨by decide, rfl⟩
  have heldOther : Holds system ⟨1⟩
      [("email", ["taken"]), ("password", []), ("$all", ["offline"])] :=
    ⟨by decide, rfl⟩
  obtain ⟨-, laws⟩ := merging_is_ordered_union new history
  obtain ⟨union, after, ran, isUnion, merged, -⟩ := laws.union (by decide) held heldOther
  obtain ⟨doubled, ranSelf, mergedSelf, -⟩ := laws.self heldOther
  refine ⟨new, held, heldOther, ⟨union, after, ran, merged, ?_, ?_⟩, doubled, ranSelf, mergedSelf⟩
  · rw [isUnion.fields]
    rfl
  · rw [isUnion.messages]
    rfl

end Validation

end EventSourcing
