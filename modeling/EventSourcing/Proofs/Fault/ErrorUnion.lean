import EventSourcing.Fault.FieldErrors
import EventSourcing.Proofs.Command.Named

/-!
# The ordered union of errors

Errors by field are known by their fields, in order and each once, and by the messages of every
field. In these terms `FieldErrors.merge` is the ordered union: the fields of the first, then those
that only the second has, and for every field the messages of the first, then those of the second.
That the union is associative, and what errors are together with themselves, is read off from
there.
-/

set_option autoImplicit false

namespace EventSourcing.FieldErrors

def fields (errors : FieldErrors) : List String :=
  errors.map Prod.fst

/-- Every field occurs once. -/
def Distinct (errors : FieldErrors) : Prop :=
  errors.fields.Nodup

variable {errors first second third union : FieldErrors} {field : String}

theorem messages_cons (entry : String × List String) (rest : FieldErrors) (field : String) :
    messages (entry :: rest) field = if field = entry.1 then entry.2 else messages rest field := by
  obtain ⟨name, known⟩ := entry
  by_cases same : field = name
  · simp [messages, same]
  · have unlike : (field == name) = false := by simp [same]
    simp [messages, List.lookup_cons, unlike, same]

theorem messages_of_not_mem (absent : field ∉ errors.fields) : errors.messages field = [] := by
  induction errors with
  | nil => rfl
  | cons entry rest ih =>
    rw [fields, List.map_cons, List.mem_cons, not_or] at absent
    rw [messages_cons, if_neg absent.1, ih absent.2]

theorem isEmpty_iff_fields (errors : FieldErrors) :
    errors.isEmpty = true ↔ errors.fields = [] := by
  rw [List.isEmpty_iff, fields, List.map_eq_nil_iff]

/-- Errors with the same fields in one order and the same messages are the same. -/
theorem Distinct.ext (once : first.Distinct) (sameFields : first.fields = second.fields)
    (sameMessages : ∀ field, first.messages field = second.messages field) : first = second := by
  induction first generalizing second with
  | nil => exact (List.map_eq_nil_iff.mp sameFields.symm).symm
  | cons entry rest ih =>
    cases second with
    | nil => cases sameFields
    | cons other others =>
      obtain ⟨name, known⟩ := entry
      obtain ⟨otherName, otherKnown⟩ := other
      obtain ⟨rfl, restFields⟩ := List.cons.inj sameFields
      obtain ⟨apart, onceRest⟩ := List.nodup_cons.mp once
      have head := sameMessages name
      rw [messages_cons, messages_cons, if_pos rfl, if_pos rfl] at head
      have tail : rest = others := by
        refine ih onceRest restFields fun field => ?_
        have here := sameMessages field
        rw [messages_cons, messages_cons] at here
        by_cases same : field = name
        · subst same
          have absent : field ∉ others.map Prod.fst := restFields ▸ apart
          rw [messages_of_not_mem apart, messages_of_not_mem absent]
        · rwa [if_neg same, if_neg same] at here
      rw [tail, show known = otherKnown from head]

/-! ## Further messages of a field -/

theorem extend_eq_putNamed (errors : FieldErrors) (field : String) (more : List String) :
    errors.extend field more = putNamed field (errors.messages field ++ more) errors := by
  induction errors with
  | nil => rfl
  | cons entry rest ih =>
    rw [extend, putNamed, messages_cons]
    by_cases here : entry.1 = field
    · rw [if_pos here, if_pos here, if_pos here.symm]
    · rw [if_neg here, if_neg here, if_neg (Ne.symm here), ih]

theorem fields_extend (errors : FieldErrors) (field : String) (more : List String) :
    (errors.extend field more).fields =
      if field ∈ errors.fields then errors.fields else errors.fields ++ [field] := by
  rw [extend_eq_putNamed]
  exact names_putNamed _ _ _

theorem messages_extend (errors : FieldErrors) (name field : String) (more : List String) :
    (errors.extend name more).messages field =
      errors.messages field ++ if field = name then more else [] := by
  rw [extend_eq_putNamed, messages, lookup_putNamed]
  by_cases same : field = name
  · rw [if_pos same, if_pos same, same, Option.getD_some]
  · rw [if_neg same, if_neg same, List.append_nil, messages]

/-- Of the entries for one field the last one counts. -/
theorem ofPairs_eq_putNamed (pairs : List (String × List String)) :
    ofPairs pairs = pairs.foldl (fun known pair => putNamed pair.1 pair.2 known) [] := by
  have assign (errors : FieldErrors) (field : String) (messages : List String) :
      ofPairs.assign errors field messages = putNamed field messages errors := by
    induction errors with
    | nil => rfl
    | cons entry rest ih => rw [ofPairs.assign, putNamed, ih]
  simp only [ofPairs, assign]

/-! ## The union -/

/-- The fields of the first, then those that only the second has; each with the messages of the
first, then those of the second. -/
structure IsUnion (first second union : FieldErrors) : Prop where
  fields : union.fields = first.fields ++ second.fields.filter (· ∉ first.fields)
  messages : ∀ field, union.messages field = first.messages field ++ second.messages field

/-- Merging goes through the fields of the second one by one; that each of them occurs once makes
the messages of the rest those of the other fields. -/
theorem isUnion_merge (first : FieldErrors) (once : second.Distinct) :
    IsUnion first second (first.merge second) := by
  induction second generalizing first with
  | nil => exact ⟨(List.append_nil _).symm, fun field => (List.append_nil _).symm⟩
  | cons entry rest ih =>
    obtain ⟨apart, onceRest⟩ := List.nodup_cons.mp once
    obtain ⟨mergedFields, mergedMessages⟩ := ih (first.extend entry.1 entry.2) onceRest
    have merged : first.merge (entry :: rest) = (first.extend entry.1 entry.2).merge rest := rfl
    have entered : fields (entry :: rest) = entry.1 :: fields rest := rfl
    rw [merged]
    refine ⟨?_, fun field => ?_⟩
    · rw [mergedFields, fields_extend, entered]
      by_cases known : entry.1 ∈ first.fields
      · rw [if_pos known, List.filter_cons_of_neg (by simpa using known)]
      · have others : (fields rest).filter (· ∉ first.fields ++ [entry.1]) =
            (fields rest).filter (· ∉ first.fields) := by
          refine List.filter_congr fun field member => ?_
          have unlike : field ≠ entry.1 := fun same => apart (same ▸ member)
          simp [unlike]
        rw [if_neg known, others, List.filter_cons_of_pos (by simpa using known),
          List.append_assoc, List.singleton_append]
    · rw [mergedMessages, messages_extend, messages_cons, List.append_assoc]
      by_cases same : field = entry.1
      · have none : messages rest field = [] := messages_of_not_mem (same ▸ apart)
        rw [if_pos same, if_pos same, none, List.append_nil]
      · rw [if_neg same, if_neg same, List.nil_append]

theorem IsUnion.distinct (isUnion : IsUnion first second union) (once : first.Distinct)
    (onceSecond : second.Distinct) : union.Distinct := by
  rw [Distinct, isUnion.fields]
  refine List.nodup_append.mpr ⟨once, onceSecond.filter _, fun field known other member same => ?_⟩
  have unknown := (List.mem_filter.mp member).2
  rw [← same] at unknown
  exact of_decide_eq_true unknown known

theorem Distinct.merge (once : first.Distinct) (onceSecond : second.Distinct) :
    (first.merge second).Distinct :=
  (isUnion_merge first onceSecond).distinct once onceSecond

theorem merge_assoc (once : first.Distinct) (onceSecond : second.Distinct)
    (onceThird : third.Distinct) :
    (first.merge second).merge third = first.merge (second.merge third) := by
  have start := isUnion_merge first onceSecond
  have inner := isUnion_merge second onceThird
  have left := isUnion_merge (first.merge second) onceThird
  have right := isUnion_merge first (onceSecond.merge onceThird)
  refine ((once.merge onceSecond).merge onceThird).ext ?_ fun field => ?_
  · rw [left.fields, right.fields, inner.fields, start.fields, List.filter_append,
      List.append_assoc, List.filter_filter]
    congr 2
    refine List.filter_congr fun field _ => ?_
    by_cases known : field ∈ first.fields <;> simp [known]
  · rw [left.messages, right.messages, inner.messages, start.messages, List.append_assoc]

/-- Every list of messages is doubled, in its place. -/
theorem merge_self (once : errors.Distinct) :
    errors.merge errors = errors.map fun entry => (entry.1, entry.2 ++ entry.2) := by
  have isUnion := isUnion_merge errors once
  refine (once.merge once).ext ?_ fun field => ?_
  · have none : errors.fields.filter (· ∉ errors.fields) = [] :=
      List.filter_eq_nil_iff.mpr fun field member => by simpa using member
    rw [isUnion.fields, none, List.append_nil, fields, fields, List.map_map]
    rfl
  · have doubled (entries : FieldErrors) :
        messages (entries.map fun entry => (entry.1, entry.2 ++ entry.2)) field =
          messages entries field ++ messages entries field := by
      induction entries with
      | nil => rfl
      | cons entry rest ih =>
        rw [List.map_cons, messages_cons, messages_cons, ih]
        split <;> rfl
    rw [isUnion.messages, doubled]

end EventSourcing.FieldErrors
