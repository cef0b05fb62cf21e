import EventSourcing.Files.Tree

/-!
# Laws of the tree of files

What a change at one place shows at every place, and what the operations of a log do to
its file: once the file is there, its directories are made already, touching it changes
nothing, and appending to it adds to its end. Nothing that is done for a log takes octets
away from any file.
-/

set_option autoImplicit false

namespace EventSourcing

namespace FileTree

/-! ## Places -/

private theorem lookup_cons (place : List String) (entry : List String × FileNode)
    (nodes : List (List String × FileNode)) :
    (entry :: nodes).lookup place =
      if place = entry.1 then some entry.2 else nodes.lookup place := by
  obtain ⟨known, node⟩ := entry
  rw [List.lookup_cons]
  by_cases here : place = known
  · rw [if_pos here, beq_iff_eq.mpr here]
  · rw [if_neg here, beq_eq_false_iff_ne.mpr here]

private theorem lookup_replace (place other : List String) (node : FileNode)
    (nodes : List (List String × FileNode)) :
    (put.replace place node nodes).lookup other =
      if other = place then some node else nodes.lookup other := by
  induction nodes with
  | nil => rw [put.replace, lookup_cons]
  | cons entry nodes ih =>
      rw [put.replace]
      split
      · rename_i same
        rw [lookup_cons, lookup_cons, same]
        split <;> rfl
      · rename_i different
        rw [lookup_cons, lookup_cons, ih]
        split
        · rename_i here
          rw [if_neg (here ▸ different)]
        · rfl

/-- A change shows at its own place and at no other. -/
theorem node?_put (tree : FileTree) {place : List String} (below : place ≠ [])
    (other : List String) (node : FileNode) :
    (tree.put place node).node? other = if other = place then some node else tree.node? other := by
  unfold node?
  by_cases top : other = []
  · subst top
    rw [if_neg below.symm, if_pos List.isEmpty_nil, if_pos List.isEmpty_nil]
  · have inside : ¬ other.isEmpty = true := by rwa [List.isEmpty_iff]
    rw [if_neg inside, if_neg inside, put, lookup_replace]

private theorem descend_put {tree : FileTree} {place rest : List String}
    {found : Option FileNode} (reached : tree.descend place rest = .ok found)
    (below : place ++ rest ≠ []) (node : FileNode) :
    (tree.put (place ++ rest) node).descend place rest = .ok (some node) := by
  induction rest generalizing place with
  | nil =>
      rw [List.append_nil] at below ⊢
      rw [descend, node?_put tree below, if_pos rfl]
  | cons component rest ih =>
      have above : place ≠ place ++ component :: rest := by simp
      have same : place ++ component :: rest = place ++ [component] ++ rest := by simp
      rw [descend] at reached ⊢
      rw [node?_put tree below, if_neg above]
      cases shown : tree.node? place with
      | none =>
          rw [shown] at reached
          cases reached
      | some here =>
          rw [shown] at reached
          cases here with
          | file content => cases reached
          | directory =>
              dsimp only at reached ⊢
              split at reached
              · cases reached
              · rename_i short
                rw [if_neg short, same]
                exact ih reached (by simp)

private theorem descend_dropLast {tree : FileTree} {place rest : List String}
    {found : FileNode} (reached : tree.descend place rest = .ok (some found))
    (further : rest ≠ []) : tree.descend place rest.dropLast = .ok (some .directory) := by
  induction rest generalizing place with
  | nil => exact absurd rfl further
  | cons component rest ih =>
      rw [descend] at reached
      cases shown : tree.node? place with
      | none =>
          rw [shown] at reached
          cases reached
      | some here =>
          rw [shown] at reached
          cases here with
          | file content => cases reached
          | directory =>
              dsimp only at reached
              split at reached
              · cases reached
              · rename_i short
                cases rest with
                | nil => rw [List.dropLast_singleton, descend, shown]
                | cons next rest =>
                    rw [List.dropLast_cons_cons, descend, shown]
                    dsimp only
                    rw [if_neg short]
                    exact ih reached (by simp)

private theorem node?_of_descend {tree : FileTree} {place rest : List String}
    {found : Option FileNode} (reached : tree.descend place rest = .ok found) :
    tree.node? (place ++ rest) = found := by
  induction rest generalizing place with
  | nil =>
      cases reached
      rw [List.append_nil]
  | cons component rest ih =>
      rw [descend] at reached
      split at reached
      · cases reached
      · cases reached
      · split at reached
        · cases reached
        · rw [← ih reached, List.append_assoc, List.singleton_append]

/-- A change at a place where no directory is leaves the way to another node as it is. -/
private theorem descend_put_of_ne {tree : FileTree} {other place rest : List String}
    {found : FileNode} (reached : tree.descend place rest = .ok (some found))
    (below : other ≠ []) (replaceable : tree.node? other ≠ some .directory)
    (different : place ++ rest ≠ other) (node : FileNode) :
    (tree.put other node).descend place rest = .ok (some found) := by
  induction rest generalizing place with
  | nil =>
      rw [List.append_nil] at different
      rw [descend] at reached ⊢
      rw [node?_put tree below, if_neg different, reached]
  | cons component rest ih =>
      have same : place ++ component :: rest = place ++ [component] ++ rest := by simp
      rw [same] at different
      rw [descend] at reached ⊢
      cases shown : tree.node? place with
      | none =>
          rw [shown] at reached
          cases reached
      | some here =>
          rw [shown] at reached
          cases here with
          | file content => cases reached
          | directory =>
              have above : place ≠ other := fun reaches => replaceable (reaches ▸ shown)
              rw [node?_put tree below, if_neg above, shown]
              dsimp only at reached ⊢
              split at reached
              · cases reached
              · rename_i short
                rw [if_neg short]
                exact ih reached different

/-! ## A file that is there -/

/-- The path names a file with the content given. -/
def HasFile (tree : FileTree) (path : Path) (content : List UInt8) : Prop :=
  tree.lookup path = .ok (some (.file content))

/-- Nothing keeps the file system from using the path. -/
private def Usable (path : Path) : Prop :=
  Char.ofNat 0 ∉ path.text.toList ∧ path.text.utf8ByteSize ≤ maxPathLength

private theorem lookup_eq_ok_iff {tree : FileTree} {path : Path} {found : Option FileNode} :
    tree.lookup path = .ok found ↔
      Usable path ∧ tree.descend [] path.components = .ok found := by
  unfold lookup Usable
  simp only [List.contains_iff_mem]
  split
  · rename_i bad
    exact ⟨fun shown => (by cases shown), fun usable => absurd bad usable.1.1⟩
  split
  · rename_i long
    exact ⟨fun shown => (by cases shown), fun usable => absurd usable.1.2 (Nat.not_le.mpr long)⟩
  · rename_i good short
    cases tree.descend [] path.components with
    | error reason => exact ⟨fun shown => (by cases shown), fun usable => (by cases usable.2)⟩
    | ok node =>
        refine ⟨fun shown => ⟨⟨good, Nat.not_lt.mp short⟩, ?_⟩, fun usable => ?_⟩
        · cases shown
          rfl
        · cases usable.2
          rfl

private theorem Usable.parent {path : Path} (usable : Usable path) : Usable path.parent := by
  obtain ⟨components⟩ := path
  rcases List.eq_nil_or_concat components with rfl | ⟨above, last, rfl⟩
  · exact usable
  rw [List.concat_eq_append] at *
  have parent : (⟨above ++ [last]⟩ : Path).parent = ⟨above⟩ := by
    rw [Path.parent, List.dropLast_concat]
  rw [parent]
  by_cases top : above = []
  · subst top
    exact ⟨by decide, by decide⟩
  have shorter : (⟨above ++ [last]⟩ : Path).text = (⟨above⟩ : Path).text ++ "/" ++ last := by
    have nonempty : ¬ (above ++ [last]).isEmpty = true := by simp
    have nonemptyAbove : ¬ above.isEmpty = true := by simpa using top
    rw [Path.text, Path.text, if_neg nonempty, if_neg nonemptyAbove,
      String.intercalate_append_of_ne_nil top (by simp), String.intercalate_singleton]
  obtain ⟨good, short⟩ := usable
  rw [shorter, String.toList_append, String.toList_append] at good
  rw [shorter, String.utf8ByteSize_append, String.utf8ByteSize_append] at short
  exact ⟨fun bad => good (by simp [bad]), by omega⟩

theorem hasFile_read {tree : FileTree} {path : Path} {content : List UInt8} :
    tree.read path = .ok content ↔ tree.HasFile path content := by
  unfold read HasFile
  cases tree.lookup path with
  | error fault => simp [bind, Except.bind]
  | ok found =>
      rcases found with _ | _ | old <;>
        simp [bind, Except.bind, throw, throwThe, MonadExceptOf.throw, pure, Except.pure]

private theorem descend_error {tree : FileTree} {place rest : List String}
    {reason : FileFault.Reason} (failed : tree.descend place rest = .error reason) :
    reason.number?.isSome = true := by
  induction rest generalizing place with
  | nil => cases failed
  | cons component rest ih =>
      rw [descend] at failed
      split at failed
      · cases failed
        rfl
      · cases failed
        rfl
      · split at failed
        · cases failed
          rfl
        · exact ih failed

/-- A file that cannot be read is a fault of the system, but for a path with a null character,
about which the system is not asked. -/
theorem read_eq_error {tree : FileTree} {path : Path} {fault : FileFault}
    (failed : tree.read path = .error fault) :
    fault.reason.number?.isSome = true ∨
      Char.ofNat 0 ∈ path.text.toList ∧ fault = ⟨.nullCharacter, path⟩ := by
  cases reached : tree.lookup path with
  | ok found =>
      rw [read, reached] at failed
      rcases found with _ | _ | content <;> cases failed <;> exact .inl rfl
  | error reason =>
      rw [read, reached] at failed
      cases failed
      rw [lookup] at reached
      split at reached
      · rename_i null
        cases reached
        exact .inr ⟨List.contains_iff_mem.mp null, rfl⟩
      · split at reached
        · cases reached
          exact .inl rfl
        · cases descended : tree.descend [] path.components with
          | ok found =>
              rw [descended] at reached
              cases reached
          | error reason =>
              rw [descended] at reached
              cases reached
              exact .inl (descend_error descended)

theorem HasFile.unique {tree : FileTree} {path : Path} {content other : List UInt8}
    (file : tree.HasFile path content) (same : tree.HasFile path other) : other = content := by
  have shown := same.symm.trans file
  cases shown
  rfl

private theorem lookup_put {tree : FileTree} {path : Path} {found : Option FileNode}
    (reached : tree.lookup path = .ok found) (replaceable : found ≠ some .directory)
    (node : FileNode) : (tree.put path.components node).lookup path = .ok (some node) := by
  obtain ⟨usable, reached⟩ := lookup_eq_ok_iff.mp reached
  have below : [] ++ path.components ≠ [] := by
    intro top
    rw [List.nil_append] at top
    rw [top, descend] at reached
    exact replaceable (Except.ok.inj reached).symm
  exact lookup_eq_ok_iff.mpr ⟨usable, descend_put reached below node⟩

/-- Appending makes the file or adds to its end. -/
theorem append_eq_ok {tree : FileTree} {path : Path} {content : List UInt8}
    (there : tree.HasFile path content ∨ tree.lookup path = .ok none ∧ content = [])
    (octets : List UInt8) :
    ∃ changed, tree.append path octets = .ok changed ∧
      changed.HasFile path (content ++ octets) := by
  rcases there with there | ⟨absent, rfl⟩
  · refine ⟨tree.put path.components (.file (content ++ octets)), ?_,
      lookup_put there (by simp) _⟩
    rw [append, there]
    rfl
  · refine ⟨tree.put path.components (.file octets), ?_, lookup_put absent (by simp) _⟩
    rw [append, absent]
    rfl

theorem touch_eq_ok {tree : FileTree} {path : Path} {content : List UInt8}
    (there : tree.HasFile path content ∨ tree.lookup path = .ok none ∧ content = []) :
    ∃ changed, tree.touch path = .ok changed ∧ changed.HasFile path content := by
  rcases there with there | ⟨absent, rfl⟩
  · refine ⟨tree, ?_, there⟩
    rw [touch, there]
    rfl
  · refine ⟨tree.put path.components (.file []), ?_, lookup_put absent (by simp) _⟩
    rw [touch, absent]
    rfl

theorem HasFile.makeDirectories {tree : FileTree} {path : Path} {content : List UInt8}
    (there : tree.HasFile path content) :
    tree.makeDirectories path.parent = (tree, none) := by
  obtain ⟨usable, reached⟩ := lookup_eq_ok_iff.mp there
  have below : path.components ≠ [] := by
    intro top
    rw [top, descend] at reached
    cases reached
  have parent : tree.lookup path.parent = .ok (some .directory) :=
    lookup_eq_ok_iff.mpr ⟨usable.parent, descend_dropLast reached below⟩
  have made : tree.makeDirectory path.parent = .ok tree := by
    rw [makeDirectory, parent]
    rfl
  rw [FileTree.makeDirectories]
  cases shown : path.parent.components.reverse with
  | nil => rfl
  | cons last above =>
      have same : (⟨(last :: above).reverse⟩ : Path) = path.parent := by
        rw [← shown, List.reverse_reverse]
      simp only [makeAll, same, made]

/-! ## Files that grow -/

/-- The path names a file, and its content begins with the octets given. -/
def BeginsWith (tree : FileTree) (path : Path) (content : List UInt8) : Prop :=
  ∃ added, tree.HasFile path (content ++ added)

theorem HasFile.beginsWith {tree : FileTree} {path : Path} {content : List UInt8}
    (there : tree.HasFile path content) : tree.BeginsWith path content :=
  ⟨[], by rwa [List.append_nil]⟩

private theorem HasFile.put {tree : FileTree} {path other : Path} {content : List UInt8}
    {found : Option FileNode} (there : tree.HasFile path content)
    (reached : tree.lookup other = .ok found) (replaceable : found ≠ some .directory)
    (different : path ≠ other) (node : FileNode) :
    (tree.put other.components node).HasFile path content := by
  obtain ⟨usable, here⟩ := lookup_eq_ok_iff.mp there
  have shown := node?_of_descend (lookup_eq_ok_iff.mp reached).2
  rw [List.nil_append] at shown
  have below : other.components ≠ [] := by
    intro top
    rw [top] at shown
    exact replaceable shown.symm
  refine lookup_eq_ok_iff.mpr ⟨usable, descend_put_of_ne here below (shown ▸ replaceable) ?_ node⟩
  intro same
  cases path
  cases other
  exact different (congrArg Path.mk same)

section Growing

variable {tree changed : FileTree} {path other : Path} {content octets : List UInt8}

private theorem HasFile.ne_of_absent (there : tree.HasFile path content)
    (absent : tree.lookup other = .ok none) : path ≠ other := by
  rintro rfl
  cases there.symm.trans absent

/-- Appending to a file, be it this one or another, takes nothing away from what is there. -/
theorem BeginsWith.append (begins : tree.BeginsWith path content)
    (ran : tree.append other octets = .ok changed) : changed.BeginsWith path content := by
  obtain ⟨added, there⟩ := begins
  rw [FileTree.append] at ran
  rcases reached : tree.lookup other with fault | _ | _ | old <;> rw [reached] at ran <;> cases ran
  · exact ⟨added, there.put reached nofun (there.ne_of_absent reached) _⟩
  · by_cases same : path = other
    · subst same
      cases HasFile.unique there reached
      refine ⟨added ++ octets, ?_⟩
      rw [← List.append_assoc]
      exact lookup_put reached nofun _
    · exact ⟨added, there.put reached nofun same _⟩

private theorem BeginsWith.makeDirectory (begins : tree.BeginsWith path content)
    (ran : tree.makeDirectory other = .ok changed) : changed.BeginsWith path content := by
  obtain ⟨added, there⟩ := begins
  rw [FileTree.makeDirectory] at ran
  rcases reached : tree.lookup other with fault | _ | _ | old <;> rw [reached] at ran <;> cases ran
  · exact ⟨added, there.put reached nofun (there.ne_of_absent reached) _⟩
  · exact ⟨added, there⟩

theorem BeginsWith.makeDirectories (begins : tree.BeginsWith path content) (other : Path) :
    (tree.makeDirectories other).1.BeginsWith path content := by
  rw [FileTree.makeDirectories]
  induction other.components.reverse with
  | nil => exact begins
  | cons last above ih =>
      rw [makeAll]
      cases made : tree.makeDirectory ⟨(last :: above).reverse⟩ with
      | ok changed => exact begins.makeDirectory made
      | error fault =>
          dsimp only
          split
          · split
            · rename_i deeper
              rwa [deeper] at ih
            · rename_i deeper
              rw [deeper] at ih
              split
              · rename_i changed made
                exact ih.makeDirectory made
              · exact ih
          · exact begins

end Growing

end FileTree

end EventSourcing
