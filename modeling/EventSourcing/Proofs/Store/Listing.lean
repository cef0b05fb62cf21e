import EventSourcing.Proofs.Store.Handover
import EventSourcing.Proofs.Store.StoredBatch

/-!
# Events that a log lists

A store in memory holds events. A file holds none, but it may read, line for line, as events
show that were stored in it or made of it: as long as these are closed and the file stays,
it lists them. Storing a batch without a fault adds its events to those that are listed.
-/

set_option autoImplicit false

namespace EventSourcing

variable {D : Domain}

/-- Lines behind a log that has all its ends leave it so. -/
theorem LogFile.Ended.append_lines {octets : List UInt8} (ended : Ended octets)
    (lines : List String) : Ended (octets ++ lines.flatMap encodeLine) := by
  induction lines generalizing octets with
  | nil =>
      rw [List.flatMap_nil, List.append_nil]
      exact ended
  | cons line lines ih =>
      rw [List.flatMap_cons, ← List.append_assoc]
      exact ih (Ended.append_line octets line)

namespace Store

open LiveEvent (Closed KeepsClosed contentIn)

/-- A log that a replay can read to its end, and that has an end for every line. -/
inductive Readable (system : System D) : Store D → Prop
  | memory {held : List (Ref .event)} : Readable system (.memory held)
  | disk {path : Path} {clock : Ref .clock} {octets : List UInt8} {described : List Event} :
      system.files.HasFile path octets → LogFile.Ended octets →
      LogFile.eventsOf? (LogFile.records octets) = some described →
      Readable system (.disk path clock)

/-- The events of a log, in order: those that a store in memory holds, or closed events that
show what the lines of a file describe. -/
inductive Lists (system : System D) (events : List (Ref .event)) : Store D → Prop
  | memory : Lists system events (.memory events)
  | disk {path : Path} {clock : Ref .clock} {octets : List UInt8} {described : List Event} :
      system.files.HasFile path octets → LogFile.Ended octets →
      LogFile.eventsOf? (LogFile.records octets) = some described →
      described.map Event.closed = events.map (contentIn system) →
      (∀ event ∈ events, Closed system event) → Lists system events (.disk path clock)

/-- If the log is a file, the file stays and so do the events that are closed. -/
def FileStays (store : Store D) (before after : System D) : Prop :=
  ∀ path clock, store = .disk path clock → LogStays store before after ∧ KeepsClosed before after

instance (store : Store D) : Act.Frame (FileStays store) where
  refl system path clock disk := by
    subst disk
    exact ⟨fun _ there => there, Act.Frame.refl system⟩
  trans first second path clock disk := by
    obtain ⟨file, closed⟩ := first path clock disk
    obtain ⟨fileAfter, closedAfter⟩ := second path clock disk
    subst disk
    exact ⟨fun octets there => fileAfter octets (file octets there),
      Act.Frame.trans closed closedAfter⟩

section Listing

variable {store : Store D} {before after system : System D} {events others : List (Ref .event)}

theorem Readable.contents (readable : Readable system store) :
    ∃ contents, store.contents? system = some contents := by
  cases readable with
  | memory => exact ⟨_, rfl⟩
  | @disk _ _ _ described file _ shown =>
    refine ⟨described.map Event.closed, ?_⟩
    rw [contents?, FileTree.hasFile_read.mpr file]
    exact congrArg (Option.map _) shown

theorem Readable.native (readable : Readable system store) (description : D.Store) :
    store ≠ .foreign description := by
  rintro rfl
  cases readable

theorem Lists.readable (lists : Lists system events store) : Readable system store := by
  cases lists with
  | memory => exact .memory
  | disk file ended shown _ _ => exact .disk file ended shown

theorem Lists.native (lists : Lists system events store) (description : D.Store) :
    store ≠ .foreign description :=
  lists.readable.native description

/-- Events that one log lists show the same. -/
theorem Lists.agree (lists : Lists system events store) (again : Lists system others store) :
    events.map (contentIn system) = others.map (contentIn system) := by
  cases lists with
  | memory =>
    cases again
    rfl
  | disk file _ shown same _ =>
    cases again with
    | disk fileAgain _ shownAgain sameAgain _ =>
      obtain rfl := file.unique fileAgain
      obtain rfl := Option.some.inj (shown.symm.trans shownAgain)
      exact same.symm.trans sameAgain

theorem Lists.stays (lists : Lists before events store) (stays : FileStays store before after) :
    Lists after events store := by
  cases lists with
  | memory => exact .memory
  | disk file ended shown same closed =>
    obtain ⟨there, kept⟩ := stays _ _ rfl
    refine .disk (there _ file) ended shown ?_ fun event member => kept.closed (closed event member)
    refine same.trans (List.map_congr_left fun event member => ?_)
    exact (kept.contentIn_eq (closed event member)).symm

end Listing

/-! ## Replays of every stream -/

section Replaying

variable {State : Type} {store : Store D} {step : State → Ref .event → Act D State} {state : State}
  {system : System D} {handed : List (System D × Ref .event)}
  {outcome : Except Halt State × System D}

/-- A replay of a log that can be read ends if every call ends and the file stays. -/
theorem Replayed.ends {streamId : AnyText}
    (replayed : Replayed store streamId step state system handed outcome)
    (readable : Readable system store)
    (stays : ∀ pair ∈ handed, ∀ state, FileStays store pair.1 (step state pair.2 pair.1).2)
    (ends : ∀ pair ∈ handed, ∀ state, ∃ next, (step state pair.2 pair.1).1 = .ok next) :
    ∃ last, outcome.1 = .ok last := by
  have never {halt : Halt} (halted : ∃ pair ∈ handed, ∃ state,
      (step state pair.2 pair.1).1 = .error halt) : False := by
    obtain ⟨pair, member, state, halted⟩ := halted
    obtain ⟨next, ended⟩ := ends pair member state
    cases ended.symm.trans halted
  cases ended : outcome.1 with
  | ok last => exact ⟨last, rfl⟩
  | error halt =>
    cases readable with
    | @memory held => exact (never ((replayed.held held rfl).halted halt ended)).elim
    | disk file hasEnds read =>
      have complete := replayed.complete fun pair member state =>
        (stays pair member state _ _ rfl).1
      obtain ⟨contents, known⟩ := (Readable.disk file hasEnds read).contents
      exact (never (complete.halted contents halt known ended)).elim

/-- A replay of every stream that ends has handed over the events of the log. -/
theorem Replayed.lists {last : State}
    (replayed : Replayed store Event.allStreams step state system handed outcome)
    (readable : Readable system store)
    (stays : ∀ pair ∈ handed, ∀ state, FileStays store pair.1 (step state pair.2 pair.1).2)
    (later : ∀ pair ∈ handed, FileStays store pair.1 outcome.2)
    (whole : FileStays store system outcome.2) (ended : outcome.1 = .ok last) :
    Lists outcome.2 (handed.map Prod.snd) store := by
  cases readable with
  | @memory held =>
    have all := (replayed.held held rfl).all (fun _ _ _ _ _ => rfl) last ended
    rw [List.filter_eq_self.mpr fun _ _ => by rfl] at all
    rw [all]
    exact .memory
  | @disk path clock octets described file hasEnds read =>
    have complete := replayed.complete fun pair member state =>
      (stays pair member state path clock rfl).1
    obtain ⟨contents, known, shown⟩ := complete.all last ended
    rw [contents?, FileTree.hasFile_read.mpr file] at known
    dsimp only at known
    rw [read] at known
    obtain rfl := Option.some.inj known
    rw [List.filter_eq_self.mpr fun _ _ => by rfl] at shown
    have closed (pair : System D × Ref .event) (member : pair ∈ handed) :
        Closed pair.1 pair.2 ∧ KeepsClosed pair.1 outcome.2 := by
      obtain ⟨before, offers⟩ := replayed.hands.offered pair member
      exact ⟨offers.closed, (later pair member path clock rfl).2⟩
    refine .disk ((whole path clock rfl).1 octets file) hasEnds read ?_ ?_
    · refine Eq.trans shown.symm ?_
      rw [List.map_map]
      refine List.map_congr_left fun pair member => ?_
      obtain ⟨known, keeps⟩ := closed pair member
      exact (keeps.contentIn_eq known).symm
    · intro event member
      obtain ⟨pair, inside, rfl⟩ := List.mem_map.mp member
      obtain ⟨known, keeps⟩ := closed pair inside
      exact keeps.closed known

end Replaying

/-! ## Storing a batch -/

/-- A batch that was stored is listed behind what was listed before, and its storing is the only
call that was made. -/
structure Extends (store : Ref .store) (batch events : List (Ref .event))
    (before after : System D) : Prop where
  lists : Lists after (events ++ batch) (after.stores.get store)
  applications : after.applications = before.applications
  made : before.stores.nextRef.index ≤ after.stores.nextRef.index
  calls : after.calls = before.calls.push (.storeEvents store batch)

end Store

section Extending

open LiveEvent (Closed KeepsClosed contentIn)
open Store (Lists Extends)

variable {handlers : Handlers D} {system after : System D} {store : Ref .store}
  {events batch : List (Ref .event)}

private theorem MemoryStore.append_extends {held : List (Ref .event)}
    (holds : system.stores.get store = .memory held)
    (unsealed : ∀ event ∈ batch, (system.events.get event).isSealed = false)
    (appended : Store.append handlers store batch system = (.ok (), after)) :
    Extends store batch held system after := by
  rcases append_cases handlers holds unsealed with ⟨known, stored, -⟩ | ⟨_, _, _, refused, -⟩
  · cases appended.symm.trans stored
    refine ⟨?_, rfl, Table.nextRef_le_set _ _ _, rfl⟩
    rw [get_storing holds]
    exact .memory
  · cases appended.symm.trans refused

private theorem DiskStore.StoredBatch.keepsClosed {path : Path} {octets : List UInt8}
    {lines : List String} (stored : StoredBatch system after path octets batch lines) :
    KeepsClosed system after := by
  intro event closed
  refine stored.others event fun member => ?_
  obtain ⟨line, unsealed, -⟩ := stored.of_mem member
  rw [closed.isSealed] at unsealed
  cases unsealed

private theorem DiskStore.append_extends {path : Path} {clock : Ref .clock}
    (holds : system.stores.get store = .disk path clock)
    (lists : Lists system events (.disk path clock))
    (lossless : ∀ event ∈ batch, (contentIn system event).Lossless)
    (appended : Store.append handlers store batch system = (.ok (), after)) :
    Extends store batch events system after := by
  cases lists with
  | @disk _ _ octets described file ended shown same closed =>
    obtain ⟨lines, stored, calls⟩ := append_eq_ok holds file appended
    obtain ⟨contents, longer, added⟩ :=
      stored.contents_of_lossless lossless ended.seamless shown
    have kept := stored.keepsClosed
    have holdsAfter : after.stores.get store = .disk path clock := by
      rw [stored.same]
      exact holds
    refine ⟨?_, by rw [stored.same], Nat.le_of_eq (by rw [stored.same]), calls⟩
    rw [holdsAfter]
    refine .disk stored.file (ended.append_lines lines) longer ?_ fun event member => ?_
    · rw [List.map_append, List.map_append, added, same]
      refine congrArg (· ++ _) (List.map_congr_left fun event member => ?_)
      exact (kept.contentIn_eq (closed event member)).symm
    · rcases List.mem_append.mp member with member | member
      · exact kept.closed (closed event member)
      · obtain ⟨line, -, moment, entries, -, -, shown⟩ := stored.of_mem member
        exact LiveEvent.closed_of_get shown

/-- Storing open events without a fault adds them to those that the log lists; on disk, if they
are such as a line gives back. -/
theorem Store.Lists.append (lists : Lists system events (system.stores.get store))
    (unsealed : ∀ event ∈ batch, (system.events.get event).isSealed = false)
    (lossless : ∀ path clock, system.stores.get store = .disk path clock →
      ∀ event ∈ batch, (contentIn system event).Lossless)
    (appended : Store.append handlers store batch system = (.ok (), after)) :
    Extends store batch events system after := by
  cases holds : system.stores.get store with
  | memory held =>
    rw [holds] at lists
    cases lists
    exact MemoryStore.append_extends holds unsealed appended
  | disk path clock =>
    rw [holds] at lists
    exact DiskStore.append_extends holds lists (lossless path clock holds) appended
  | foreign description => exact absurd holds (lists.native description)

end Extending

end EventSourcing
