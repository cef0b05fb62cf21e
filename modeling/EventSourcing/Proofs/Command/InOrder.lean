import EventSourcing.Proofs.Fault.ErrorUnion
import Mathlib.Data.List.Induction
import Mathlib.Data.List.Nodup
import Mathlib.Logic.Function.Basic

/-!
# Named things in the order of their first mention

A list of named things that is built by `putNamed` has the names in the order in which each was
mentioned first, and for every name what was put there last (`inOrder`). The declarations of a
definition are such a list, and so are the errors of a command, where messages are put behind those
that are there.
-/

set_option autoImplicit false

namespace EventSourcing

section Names

variable {Name : Type} [BEq Name] [LawfulBEq Name] {names : List Name} {name : Name}

theorem eraseDups_concat_of_mem (known : name ∈ names) :
    (names ++ [name]).eraseDups = names.eraseDups := by
  have none : [name].removeAll names = [] := by simp [List.removeAll, known]
  rw [List.eraseDups_append, none]
  exact List.append_nil _

theorem eraseDups_concat_of_not_mem (new : name ∉ names) :
    (names ++ [name]).eraseDups = names.eraseDups ++ [name] := by
  have one : [name].removeAll names = [name] := by simp [List.removeAll, new]
  rw [List.eraseDups_append, one, List.eraseDups_cons]
  rfl

theorem nodup_eraseDups (names : List Name) : names.eraseDups.Nodup := by
  induction names using List.reverseRecOn with
  | nil => exact List.nodup_nil
  | append_singleton names name ih =>
    by_cases known : name ∈ names
    · rwa [eraseDups_concat_of_mem known]
    · rw [eraseDups_concat_of_not_mem known]
      refine List.nodup_append.mpr ⟨ih, List.nodup_singleton name, ?_⟩
      rintro other member _ single rfl
      rw [List.mem_singleton.mp single, List.mem_eraseDups] at member
      exact known member

end Names

section InOrder

variable {Item Other : Type}

/-- Each name once, where it was mentioned first. -/
def inOrder (names : List String) (item : String → Item) : List (String × Item) :=
  names.eraseDups.map fun name => (name, item name)

theorem lookup_inOrder (names : List String) (item : String → Item) (name : String) :
    (inOrder names item).lookup name = if name ∈ names then some (item name) else none := by
  have looked (distinct : List String) : (distinct.map fun name => (name, item name)).lookup name =
      if name ∈ distinct then some (item name) else none := by
    induction distinct with
    | nil => rfl
    | cons first rest ih =>
      by_cases same : name = first
      · subst same
        simp
      · have unlike : (name == first) = false := by simp [same]
        simp only [List.map_cons, List.lookup_cons, unlike, ih, List.mem_cons, same, false_or]
  rw [inOrder, looked]
  simp only [List.mem_eraseDups]

theorem map_inOrder (view : Item → Other) (names : List String) (item : String → Item) :
    (inOrder names item).map (fun entry => (entry.1, view entry.2)) =
      inOrder names fun name => view (item name) := by
  simp only [inOrder, List.map_map]
  rfl

/-- Putting a thing mentions its name once more. -/
theorem putNamed_inOrder (names : List String) (item : String → Item) (name : String)
    (new : Item) :
    putNamed name new (inOrder names item) =
      inOrder (names ++ [name]) (Function.update item name new) := by
  have elsewhere {others : List String} (apart : name ∉ others) :
      others.map (fun other => (other, Function.update item name new other)) =
        others.map fun other => (other, item other) := by
    refine List.map_congr_left fun other member => ?_
    rw [Function.update_of_ne]
    rintro rfl
    exact apart member
  have put (distinct : List String) (once : distinct.Nodup) :
      putNamed name new (distinct.map fun other => (other, item other)) =
        (if name ∈ distinct then distinct else distinct ++ [name]).map fun other =>
          (other, Function.update item name new other) := by
    induction distinct with
    | nil => simp [putNamed]
    | cons first rest ih =>
      obtain ⟨apart, once⟩ := List.nodup_cons.mp once
      by_cases here : first = name
      · subst here
        simp only [List.map_cons, putNamed, if_true, List.mem_cons_self, Function.update_self,
          elsewhere apart]
      · have kept : Function.update item name new first = item first :=
          Function.update_of_ne here new item
        rw [List.map_cons, putNamed, if_neg here, ih once]
        by_cases known : name ∈ rest
        · simp [known, kept]
        · simp [known, Ne.symm here, kept]
  rw [inOrder, put _ (nodup_eraseDups names), inOrder]
  simp only [List.mem_eraseDups]
  by_cases known : name ∈ names
  · rw [if_pos known, eraseDups_concat_of_mem known]
  · rw [if_neg known, eraseDups_concat_of_not_mem known]

theorem map_foldl_putNamed (view : Item → Other) (entries known : List (String × Item)) :
    (entries.foldl (fun known entry => putNamed entry.1 entry.2 known) known).map
        (fun entry => (entry.1, view entry.2)) =
      (entries.map fun entry => (entry.1, view entry.2)).foldl
        (fun known entry => putNamed entry.1 entry.2 known)
        (known.map fun entry => (entry.1, view entry.2)) := by
  induction entries generalizing known with
  | nil => rfl
  | cons entry entries ih =>
    rw [List.foldl_cons, ih, List.map_cons, List.foldl_cons, map_putNamed]

/-- Things that were put one after the other: for every name the last one counts. -/
theorem foldl_putNamed (fallback : Item) (entries : List (String × Item)) :
    entries.foldl (fun known entry => putNamed entry.1 entry.2 known) [] =
      inOrder (entries.map Prod.fst) fun name =>
        (entries.reverse.lookup name).getD fallback := by
  induction entries using List.reverseRecOn with
  | nil => rfl
  | append_singleton entries entry ih =>
    rw [List.foldl_append, List.foldl_cons, List.foldl_nil, ih, putNamed_inOrder, List.map_append]
    congr 1
    funext name
    rw [List.reverse_append, List.reverse_singleton, List.singleton_append, List.lookup_cons]
    by_cases same : name = entry.1
    · subst same
      simp
    · have unlike : (name == entry.1) = false := by simp [same]
      rw [Function.update_of_ne same, unlike]

/-- What was said under a name, in the order in which it was said. -/
def saidOf (entries : List (String × Item)) (name : String) : List Item :=
  (entries.filter (·.1 = name)).map Prod.snd

theorem saidOf_concat_own (entries : List (String × Item)) (name : String) (item : Item) :
    saidOf (entries ++ [(name, item)]) name = saidOf entries name ++ [item] := by
  simp [saidOf]

theorem saidOf_concat_other (entries : List (String × Item)) {name other : String}
    (differs : other ≠ name) (item : Item) :
    saidOf (entries ++ [(name, item)]) other = saidOf entries other := by
  simp [saidOf, Ne.symm differs]

end InOrder

/-! ## Errors by field -/

namespace FieldErrors

/-- Messages, each about a field, by field. -/
def grouped (entries : List (String × String)) : FieldErrors :=
  inOrder (entries.map Prod.fst) (saidOf entries)

theorem messages_grouped (entries : List (String × String)) (field : String) :
    (grouped entries).messages field = saidOf entries field := by
  rw [messages, grouped, lookup_inOrder]
  split
  · rfl
  · rename_i absent
    have none : entries.filter (·.1 = field) = [] := by
      refine List.filter_eq_nil_iff.mpr fun entry member same => absent ?_
      rw [← of_decide_eq_true same]
      exact List.mem_map_of_mem member
    rw [saidOf, none]
    rfl

/-- A further message goes behind those of its field. -/
theorem add_grouped (entries : List (String × String)) (field message : String) :
    (grouped entries).add field message = grouped (entries ++ [(field, message)]) := by
  rw [add, extend_eq_putNamed, messages_grouped, grouped, putNamed_inOrder, grouped,
    List.map_append]
  congr 1
  funext other
  by_cases same : other = field
  · subst same
    rw [Function.update_self, saidOf_concat_own]
  · rw [Function.update_of_ne same, saidOf_concat_other _ same]

end FieldErrors

end EventSourcing
