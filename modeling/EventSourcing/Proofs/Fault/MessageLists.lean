import EventSourcing.Proofs.Fault.ErrorUnion
import EventSourcing.System.Table
import Mathlib.Data.List.Nodup
import Mathlib.Logic.Function.Basic

/-!
# Lists of messages as objects

The messages of a field are a list that can change, and whoever has the list sees its changes. Here
errors are mappings from fields to such lists, and making errors, recording a message and merging
are steps on them: a list is looked up or made, and messages are put behind those that it holds.
Merging goes through a mapping step by step and gives up if the mapping has meanwhile changed its
size, which also errors that are merged into themselves might do. `Unshared` is what all steps keep:
every list belongs to one field of one of the errors. Therefore merging comes to its end, and what
errors show changes by the steps on them alone, as `FieldErrors` do.
-/

set_option autoImplicit false

namespace EventSourcing

/-- Errors as mappings from fields to the numbers of lists, and what the lists hold. -/
structure MessageLists where
  held : Ref .fault → List (String × Nat)
  contents : Nat → List String
  next : Nat

namespace MessageLists

def empty : MessageLists := ⟨fun _ => [], fun _ => [], 0⟩

/-- The fields of errors, each with what its list holds. -/
def shown (lists : MessageLists) (errors : Ref .fault) : FieldErrors :=
  (lists.held errors).map fun entry => (entry.1, lists.contents entry.2)

/-- A field with a new list, which holds a copy of some messages. -/
def enter (lists : MessageLists) (errors : Ref .fault) (field : String) (messages : List String) :
    MessageLists :=
  { held := Function.update lists.held errors (putNamed field lists.next (lists.held errors))
    contents := Function.update lists.contents lists.next messages
    next := lists.next + 1 }

/-- The list of a field; a field without one gets a new list that holds nothing. -/
def listOf (lists : MessageLists) (errors : Ref .fault) (field : String) : Nat × MessageLists :=
  match (lists.held errors).lookup field with
  | some list => (list, lists)
  | none => (lists.next, lists.enter errors field [])

def append (lists : MessageLists) (list : Nat) (more : List String) : MessageLists :=
  { lists with
    contents := Function.update lists.contents list (lists.contents list ++ more) }

def extend (lists : MessageLists) (errors : Ref .fault) (field : String) (more : List String) :
    MessageLists :=
  let (list, lists) := lists.listOf errors field
  lists.append list more

/-- What another list holds then is put behind what the list of a field holds. -/
def extendFrom (lists : MessageLists) (errors : Ref .fault) (field : String) (source : Nat) :
    MessageLists :=
  let (list, lists) := lists.listOf errors field
  lists.append list (lists.contents source)

/-- New errors from entries, each of which is copied to a list of its own. -/
def create (lists : MessageLists) (errors : Ref .fault) (entries : List (String × List String)) :
    MessageLists :=
  entries.foldl (fun lists entry => lists.enter errors entry.1 entry.2)
    { lists with held := Function.update lists.held errors [] }

/-- What is left of going through a mapping that had some size at the start: the messages of a
field are put behind those of the same field. -/
def mergeRest (errors other : Ref .fault) (size : Nat) : Nat → MessageLists → Option MessageLists
  | 0, lists => if (lists.held other).length = size then some lists else none
  | left + 1, lists =>
    if (lists.held other).length = size then do
      let (field, source) ← (lists.held other)[size - (left + 1)]?
      mergeRest errors other size left (lists.extendFrom errors field source)
    else none

def merge (lists : MessageLists) (errors other : Ref .fault) : Option MessageLists :=
  let size := (lists.held other).length
  mergeRest errors other size size lists

/-- Every list was made, and belongs to one field of one of the errors. -/
structure Unshared (lists : MessageLists) : Prop where
  made : ∀ errors, ∀ entry ∈ lists.held errors, entry.2 < lists.next
  fields : ∀ errors, ((lists.held errors).map Prod.fst).Nodup
  alone : ∀ errors, ((lists.held errors).map Prod.snd).Nodup
  apart : ∀ errors other, errors ≠ other → ∀ entry ∈ lists.held errors,
    ∀ another ∈ lists.held other, entry.2 ≠ another.2

theorem unshared_empty : empty.Unshared :=
  ⟨nofun, fun _ => List.nodup_nil, fun _ => List.nodup_nil, nofun⟩

variable {lists : MessageLists} {errors other : Ref .fault} {field : String} {list : Nat}

theorem Unshared.distinct (unshared : lists.Unshared) (errors : Ref .fault) :
    (lists.shown errors).Distinct := by
  rw [FieldErrors.Distinct, FieldErrors.fields, shown, List.map_map]
  exact unshared.fields errors

/-! ## Steps -/

theorem Unshared.enter (unshared : lists.Unshared) (errors : Ref .fault) (field : String)
    (messages : List String) : (lists.enter errors field messages).Unshared := by
  have new (other : Ref .fault) : lists.next ∉ (lists.held other).map Prod.snd := by
    intro member
    obtain ⟨entry, inside, same⟩ := List.mem_map.mp member
    exact Nat.lt_irrefl _ (same ▸ unshared.made other entry inside)
  have cases_held (other : Ref .fault) {entry : String × Nat}
      (inside : entry ∈ (lists.enter errors field messages).held other) :
      entry ∈ lists.held other ∨ other = errors ∧ entry = (field, lists.next) := by
    by_cases same : other = errors
    · subst same
      simp only [MessageLists.enter, Function.update_self] at inside
      exact (mem_of_mem_putNamed inside).imp_right (⟨rfl, ·⟩)
    · simp only [MessageLists.enter, Function.update_of_ne same] at inside
      exact .inl inside
  refine ⟨fun other entry inside => ?_, fun other => ?_, fun other => ?_, ?_⟩
  · rcases cases_held other inside with old | ⟨-, rfl⟩
    · exact Nat.lt_succ_of_lt (unshared.made other entry old)
    · exact Nat.lt_succ_self _
  · by_cases same : other = errors
    · subst same
      simp only [MessageLists.enter, Function.update_self]
      exact nodup_names_putNamed (unshared.fields other) _
    · simp only [MessageLists.enter, Function.update_of_ne same]
      exact unshared.fields other
  · by_cases same : other = errors
    · subst same
      simp only [MessageLists.enter, Function.update_self]
      exact nodup_putNamed (unshared.alone other) (new other)
    · simp only [MessageLists.enter, Function.update_of_ne same]
      exact unshared.alone other
  · intro first second differ entry inside another insideOther same
    rcases cases_held first inside with old | ⟨rfl, rfl⟩
    · rcases cases_held second insideOther with oldOther | ⟨rfl, rfl⟩
      · exact unshared.apart first second differ entry old another oldOther same
      · have known : entry.2 = lists.next := same
        exact new first (known ▸ List.mem_map_of_mem old)
    · rcases cases_held second insideOther with oldOther | ⟨rfl, rfl⟩
      · have known : lists.next = another.2 := same
        exact new second (known ▸ List.mem_map_of_mem oldOther)
      · exact differ rfl

theorem contents_enter (made : list < lists.next) (errors : Ref .fault) (field : String)
    (messages : List String) :
    (lists.enter errors field messages).contents list = lists.contents list :=
  Function.update_of_ne (Nat.ne_of_lt made) _ _

theorem shown_enter (unshared : lists.Unshared) (errors other : Ref .fault) (field : String)
    (messages : List String) :
    (lists.enter errors field messages).shown other =
      if other = errors then putNamed field messages (lists.shown errors)
      else lists.shown other := by
  have old (known : Ref .fault) : (lists.held known).map (fun entry =>
      (entry.1, (lists.enter errors field messages).contents entry.2)) = lists.shown known := by
    refine List.map_congr_left fun entry inside => ?_
    rw [contents_enter (unshared.made known entry inside)]
  have held : (lists.enter errors field messages).held =
      Function.update lists.held errors (putNamed field lists.next (lists.held errors)) := rfl
  have new : (lists.enter errors field messages).contents lists.next = messages :=
    Function.update_self _ _ _
  rw [shown, held]
  by_cases same : other = errors
  · subst same
    rw [if_pos rfl, Function.update_self, map_putNamed, old, new]
  · rw [if_neg same, Function.update_of_ne same, old]

theorem Unshared.append (unshared : lists.Unshared) (list : Nat) (more : List String) :
    (lists.append list more).Unshared :=
  ⟨unshared.made, unshared.fields, unshared.alone, unshared.apart⟩

theorem shown_append (unshared : lists.Unshared)
    (found : (lists.held errors).lookup field = some list) (other : Ref .fault)
    (more : List String) :
    (lists.append list more).shown other =
      if other = errors then (lists.shown errors).extend field more else lists.shown other := by
  have contents (known : Nat) : (lists.append list more).contents known =
      if list = known then lists.contents list ++ more else lists.contents known := by
    simp only [append, Function.update_apply, eq_comm]
  have after : (lists.append list more).shown other = (lists.held other).map fun entry =>
      (entry.1, if list = entry.2 then lists.contents list ++ more
        else lists.contents entry.2) := by
    rw [shown]
    exact List.map_congr_left fun entry _ => by rw [contents]
  rw [after]
  by_cases same : other = errors
  · subst same
    have messages : (lists.shown other).messages field = lists.contents list := by
      rw [FieldErrors.messages, shown, lookup_map, found, Option.map_some, Option.getD_some]
    rw [if_pos rfl, FieldErrors.extend_eq_putNamed, messages]
    exact map_replaced lists.contents _ (unshared.alone other) found
  · rw [if_neg same, shown]
    refine List.map_congr_left fun entry inside => ?_
    have apart : entry.2 ≠ list :=
      unshared.apart other errors same entry inside _ (mem_of_lookup found)
    rw [if_neg (Ne.symm apart)]

/-! ## Further messages of a field -/

theorem extend_of_some (found : (lists.held errors).lookup field = some list)
    (more : List String) : lists.extend errors field more = lists.append list more := by
  rw [extend, listOf, found]

theorem extend_of_none (absent : (lists.held errors).lookup field = none) (more : List String) :
    lists.extend errors field more = lists.enter errors field more := by
  rw [extend, listOf, absent]
  simp only [append, enter, Function.update_self, Function.update_idem, List.nil_append]

theorem Unshared.extend (unshared : lists.Unshared) (errors : Ref .fault) (field : String)
    (more : List String) : (lists.extend errors field more).Unshared := by
  cases found : (lists.held errors).lookup field with
  | some list =>
    rw [extend_of_some found]
    exact unshared.append list more
  | none =>
    rw [extend_of_none found]
    exact unshared.enter errors field more

theorem shown_extend (unshared : lists.Unshared) (errors other : Ref .fault) (field : String)
    (more : List String) :
    (lists.extend errors field more).shown other =
      if other = errors then (lists.shown errors).extend field more else lists.shown other := by
  cases found : (lists.held errors).lookup field with
  | some list => rw [extend_of_some found, shown_append unshared found]
  | none =>
    have absent : (lists.shown errors).messages field = [] := by
      rw [FieldErrors.messages, shown, lookup_map, found]
      rfl
    rw [extend_of_none found, shown_enter unshared, FieldErrors.extend_eq_putNamed, absent,
      List.nil_append]

/-- What other fields hold stays. -/
theorem contents_extend (unshared : lists.Unshared) {entry : String × Nat}
    (inside : entry ∈ lists.held other) (differs : other ≠ errors ∨ entry.1 ≠ field)
    (more : List String) :
    (lists.extend errors field more).contents entry.2 = lists.contents entry.2 := by
  cases found : (lists.held errors).lookup field with
  | some list =>
    have member := mem_of_lookup found
    have apart : entry.2 ≠ list := by
      by_cases same : other = errors
      · subst same
        intro sameList
        have one : entry = (field, list) :=
          List.inj_on_of_nodup_map (unshared.alone other) inside member sameList
        rcases differs with differs | differs
        · exact differs rfl
        · exact differs (congrArg Prod.fst one)
      · exact unshared.apart other errors same entry inside _ member
    rw [extend_of_some found]
    exact Function.update_of_ne apart _ _
  | none =>
    rw [extend_of_none found]
    exact contents_enter (unshared.made other entry inside) errors field more

/-- A mapping that has the field, or is not that of the errors, stays as it is. -/
theorem held_extend (known : other = errors → ∃ list, (field, list) ∈ lists.held errors)
    (more : List String) :
    (lists.extend errors field more).held other = lists.held other := by
  cases found : (lists.held errors).lookup field with
  | some list =>
    rw [extend_of_some found]
    rfl
  | none =>
    have differs : other ≠ errors := by
      intro same
      obtain ⟨list, member⟩ := known same
      have unlike := List.lookup_eq_none_iff.mp found _ member
      simp at unlike
    rw [extend_of_none found]
    exact Function.update_of_ne differs _ _

/-! ## Making errors -/

/-- Entries one after another, behind those that the errors have. -/
private theorem enterAll_run (unshared : lists.Unshared) (errors : Ref .fault)
    (entries : List (String × List String)) :
    let after := entries.foldl (fun lists entry => lists.enter errors entry.1 entry.2) lists
    after.Unshared ∧ ∀ other, after.shown other =
      if other = errors then
        entries.foldl (fun known entry => putNamed entry.1 entry.2 known) (lists.shown errors)
      else lists.shown other := by
  induction entries generalizing lists with
  | nil =>
    refine ⟨unshared, fun other => ?_⟩
    split
    · rename_i same
      rw [same]
      rfl
    · rfl
  | cons entry entries ih =>
    obtain ⟨stillUnshared, shows⟩ := ih (unshared.enter errors entry.1 entry.2)
    refine ⟨stillUnshared, fun other => (shows other).trans ?_⟩
    rw [shown_enter unshared, shown_enter unshared, if_pos rfl]
    split <;> rfl

theorem create_run (unshared : lists.Unshared) (errors : Ref .fault)
    (entries : List (String × List String)) :
    (lists.create errors entries).Unshared ∧ ∀ other, (lists.create errors entries).shown other =
      if other = errors then .ofPairs entries else lists.shown other := by
  let start : MessageLists := { lists with held := Function.update lists.held errors [] }
  have new : start.held errors = [] := Function.update_self _ _ _
  have old {other : Ref .fault} (differs : other ≠ errors) : start.held other = lists.held other :=
    Function.update_of_ne differs _ _
  have within (other : Ref .fault) : (start.held other).Sublist (lists.held other) := by
    by_cases same : other = errors
    · rw [same, new]
      exact List.nil_sublist _
    · rw [old same]
  have startUnshared : start.Unshared :=
    { made := fun other entry inside => unshared.made other entry ((within other).subset inside)
      fields := fun other => (unshared.fields other).sublist ((within other).map _)
      alone := fun other => (unshared.alone other).sublist ((within other).map _)
      apart := fun first second differ entry inside another insideOther =>
        unshared.apart first second differ entry ((within first).subset inside) another
          ((within second).subset insideOther) }
  obtain ⟨stillUnshared, shows⟩ := enterAll_run startUnshared errors entries
  refine ⟨stillUnshared, fun other => (shows other).trans ?_⟩
  by_cases same : other = errors
  · have none : start.shown errors = [] := by rw [shown, new, List.map_nil]
    rw [if_pos same, if_pos same, none, FieldErrors.ofPairs_eq_putNamed]
  · rw [if_neg same, if_neg same, shown, old same]
    rfl

/-! ## Merging -/

/-- The other list is read after that of the field was made, and holds what it did before. -/
theorem extendFrom_eq {source : Nat} (made : source < lists.next) (errors : Ref .fault)
    (field : String) :
    lists.extendFrom errors field source =
      lists.extend errors field (lists.contents source) := by
  have same : (lists.listOf errors field).2.contents source = lists.contents source := by
    rw [listOf]
    split
    · rfl
    · exact contents_enter made errors field []
  exact congrArg ((lists.listOf errors field).2.append (lists.listOf errors field).1) same

/-- The step for one field changes neither the mapping that is gone through nor what its other
lists hold. That is the same for a mapping merged into itself, which has the field. -/
theorem mergeRest_run (unshared : lists.Unshared) (errors other : Ref .fault)
    (before rest : List (String × Nat)) (held : lists.held other = before ++ rest) :
    ∃ after, mergeRest errors other (before.length + rest.length) rest.length lists = some after ∧
      after.Unshared ∧ ∀ known, after.shown known =
        if known = errors then
          (lists.shown errors).merge (rest.map fun entry => (entry.1, lists.contents entry.2))
        else lists.shown known := by
  induction rest generalizing before lists with
  | nil =>
    refine ⟨lists, ?_, unshared, fun known => ?_⟩
    · rw [List.length_nil, mergeRest, held, List.append_nil, if_pos (Nat.add_zero _).symm]
    · split
      · rename_i same
        rw [same]
        rfl
      · rfl
  | cons entry rest ih =>
    obtain ⟨field, source⟩ := entry
    have inside : (field, source) ∈ lists.held other := by simp [held]
    have others : ∀ entry ∈ rest, entry.1 ≠ field := by
      have fields := unshared.fields other
      rw [held, List.map_append, List.map_cons] at fields
      have apart := (List.nodup_cons.mp (List.nodup_append.mp fields).2.1).1
      exact fun entry member same => apart (List.mem_map.mpr ⟨entry, member, same⟩)
    let next := lists.extend errors field (lists.contents source)
    have heldNext : next.held other = (before ++ [(field, source)]) ++ rest := by
      rw [held_extend (fun same => ⟨source, same ▸ inside⟩), held, List.append_assoc]
      rfl
    have contents : (rest.map fun entry => (entry.1, next.contents entry.2)) =
        rest.map fun entry => (entry.1, lists.contents entry.2) := by
      refine List.map_congr_left fun entry member => ?_
      have held : entry ∈ lists.held other := by simp [held, member]
      rw [contents_extend unshared held (.inr (others entry member))]
    obtain ⟨after, ran, stillUnshared, shows⟩ :=
      ih (unshared.extend errors field (lists.contents source)) _ heldNext
    refine ⟨after, ?_, stillUnshared, fun known => ?_⟩
    · have index : (lists.held other)[before.length + (rest.length + 1) - (rest.length + 1)]? =
          some (field, source) := by
        rw [held]
        simp
      have length : (lists.held other).length = before.length + (rest.length + 1) := by
        rw [held, List.length_append, List.length_cons]
      have made : source < lists.next := unshared.made other _ inside
      rw [List.length_cons, mergeRest, if_pos length, index]
      show mergeRest errors other _ rest.length (lists.extendFrom errors field source) = some after
      rw [extendFrom_eq made]
      rw [List.length_append, List.length_singleton, Nat.add_assoc, Nat.add_comm 1] at ran
      exact ran
    · rw [shows, contents, shown_extend unshared, shown_extend unshared, if_pos rfl]
      split <;> rfl

/-- Merging comes to its end, also where errors are merged into themselves. -/
theorem merge_run (unshared : lists.Unshared) (errors other : Ref .fault) :
    ∃ after, lists.merge errors other = some after ∧ after.Unshared ∧ ∀ known,
      after.shown known = if known = errors then (lists.shown errors).merge (lists.shown other)
        else lists.shown known := by
  obtain ⟨after, ran, stillUnshared, shows⟩ :=
    mergeRest_run unshared errors other [] (lists.held other) rfl
  rw [List.length_nil, Nat.zero_add] at ran
  exact ⟨after, ran, stillUnshared, shows⟩

end MessageLists

end EventSourcing
