import EventSourcing.Command.Definition

/-!
# Named things

A list of named things is read by `lookup` and changed by `putNamed`, which gives a name a thing:
in the place that the name has, or else at the end. The laws say what the change does to the names,
to the things, and to what is looked up.
-/

set_option autoImplicit false

namespace EventSourcing

section Named

variable {Item Other : Type}

theorem lookup_map (view : Item → Other) (name : String) (entries : List (String × Item)) :
    (entries.map fun entry => (entry.1, view entry.2)).lookup name =
      (entries.lookup name).map view := by
  induction entries with
  | nil => rfl
  | cons entry entries ih =>
    obtain ⟨other, item⟩ := entry
    simp only [List.map_cons, List.lookup_cons]
    split
    · rfl
    · exact ih

/-- A name that is there keeps its place, a new one goes to the end. -/
theorem names_putNamed (name : String) (item : Item) (entries : List (String × Item)) :
    (putNamed name item entries).map Prod.fst =
      if name ∈ entries.map Prod.fst then entries.map Prod.fst
      else entries.map Prod.fst ++ [name] := by
  induction entries with
  | nil => rfl
  | cons entry entries ih =>
    by_cases here : entry.1 = name
    · simp [putNamed, here]
    · simp only [putNamed, if_neg here, List.map_cons, ih, List.mem_cons, Ne.symm here, false_or]
      by_cases known : name ∈ entries.map Prod.fst
      · rw [if_pos known, if_pos known]
      · rw [if_neg known, if_neg known, List.cons_append]

theorem nodup_names_putNamed {name : String} {entries : List (String × Item)}
    (distinct : (entries.map Prod.fst).Nodup) (item : Item) :
    ((putNamed name item entries).map Prod.fst).Nodup := by
  rw [names_putNamed]
  split
  · exact distinct
  · rename_i new
    refine List.nodup_append.mpr ⟨distinct, by simp, fun other known last single same => ?_⟩
    rw [← same] at single
    exact new (List.mem_singleton.mp single ▸ known)

theorem map_putNamed (view : Item → Other) (name : String) (item : Item)
    (entries : List (String × Item)) :
    (putNamed name item entries).map (fun entry => (entry.1, view entry.2)) =
      putNamed name (view item) (entries.map fun entry => (entry.1, view entry.2)) := by
  induction entries with
  | nil => rfl
  | cons entry entries ih =>
    simp only [putNamed, List.map_cons]
    split
    · rfl
    · rw [List.map_cons, ih]

theorem lookup_putNamed (name other : String) (item : Item) (entries : List (String × Item)) :
    (putNamed name item entries).lookup other =
      if other = name then some item else entries.lookup other := by
  have unlike {first : String} (differs : other ≠ first) : (other == first) = false := by
    simp [differs]
  induction entries with
  | nil =>
    by_cases same : other = name
    · simp [putNamed, same]
    · simp [putNamed, List.lookup_cons, unlike same, same]
  | cons entry entries ih =>
    obtain ⟨first, known⟩ := entry
    by_cases here : first = name
    · subst here
      by_cases same : other = first
      · simp [putNamed, same]
      · simp [putNamed, List.lookup_cons, unlike same, same]
    · by_cases same : other = first
      · subst same
        simp [putNamed, here]
      · simp [putNamed, List.lookup_cons, here, unlike same, ih]

/-- What is among named things after one was put there was there before, or is the new one. -/
theorem mem_of_mem_putNamed {name : String} {item : Item} {entries : List (String × Item)}
    {entry : String × Item} (member : entry ∈ putNamed name item entries) :
    entry ∈ entries ∨ entry = (name, item) := by
  induction entries with
  | nil => exact .inr (List.mem_singleton.mp member)
  | cons first entries ih =>
    simp only [putNamed] at member
    split at member
    · rcases List.mem_cons.mp member with same | later
      · exact .inr same
      · exact .inl (.tail _ later)
    · rcases List.mem_cons.mp member with rfl | later
      · exact .inl List.mem_cons_self
      · exact (ih later).imp_left (.tail _)

theorem nodup_putNamed {name : String} {item : Item} {entries : List (String × Item)}
    (distinct : (entries.map Prod.snd).Nodup) (new : item ∉ entries.map Prod.snd) :
    ((putNamed name item entries).map Prod.snd).Nodup := by
  induction entries with
  | nil => simp [putNamed]
  | cons entry entries ih =>
    simp only [List.map_cons, List.nodup_cons, List.mem_cons, not_or] at distinct new
    simp only [putNamed]
    split
    · simp only [List.map_cons, List.nodup_cons]
      exact ⟨new.2, distinct.2⟩
    · simp only [List.map_cons, List.nodup_cons]
      refine ⟨fun member => ?_, ih distinct.2 new.2⟩
      obtain ⟨other, inside, same⟩ := List.mem_map.mp member
      rcases mem_of_mem_putNamed inside with known | rfl
      · exact distinct.1 (same ▸ List.mem_map_of_mem known)
      · exact new.1 same

theorem mem_of_lookup {name : String} {item : Item} {entries : List (String × Item)}
    (found : entries.lookup name = some item) : (name, item) ∈ entries := by
  obtain ⟨before, after, rfl, -⟩ := List.lookup_eq_some_iff.mp found
  simp

/-- Among different items, one that is looked up by a name is changed there and nowhere else. -/
theorem map_replaced [DecidableEq Item] {name : String} {item : Item}
    {entries : List (String × Item)} (view : Item → Other) (changed : Other)
    (distinct : (entries.map Prod.snd).Nodup) (found : entries.lookup name = some item) :
    entries.map (fun entry => (entry.1, if item = entry.2 then changed else view entry.2)) =
      putNamed name changed (entries.map fun entry => (entry.1, view entry.2)) := by
  induction entries with
  | nil => cases found
  | cons entry entries ih =>
    obtain ⟨other, known⟩ := entry
    simp only [List.map_cons, List.nodup_cons] at distinct
    by_cases here : other = name
    · subst here
      simp only [List.lookup_cons, beq_self_eq_true, Option.some.injEq] at found
      subst found
      simp only [List.map_cons, putNamed, if_true]
      congr 1
      refine List.map_congr_left fun entry member => ?_
      rw [if_neg]
      rintro rfl
      exact distinct.1 (List.mem_map_of_mem member)
    · have unlike : (name == other) = false := by simp [Ne.symm here]
      rw [List.lookup_cons, unlike] at found
      have elsewhere : item ≠ known := by
        rintro rfl
        exact distinct.1 (List.mem_map_of_mem (mem_of_lookup found))
      simp only [List.map_cons, putNamed, if_neg here, if_neg elsewhere, ih distinct.2 found]

end Named

end EventSourcing
