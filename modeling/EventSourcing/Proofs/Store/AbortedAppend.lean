import EventSourcing.Proofs.Store.DiskAppend

/-!
# A batch that is not stored as a whole

Storing a batch on disk ends at the first event that cannot be stamped or written. What
was written before stays, one line for each event of the prefix, and the prefix is sealed;
what stopped the batch is reported with the length of the prefix, or raised as it is.
-/

set_option autoImplicit false

namespace EventSourcing.DiskStore

variable {D : Domain}

open LiveEvent (stampedAt closedWith)

/-- What storing a batch in a log of some octets leaves, and how it ends, for the lines
that it writes. -/
structure StoresPrefix (system after : System D) (path : Path) (clock : Ref .clock)
    (events : List (Ref .event)) (octets : List UInt8) (outcome : Except Halt Unit)
    (lines : List String) : Prop where
  written : ∀ place line, lines[place]? = some line → ∃ event, events[place]? = some event ∧
    lineAt system clock place event = .ok line
  /-- The next event, if there is one, gets no line. -/
  longest : ∀ event, events[lines.length]? = some event →
    ∃ raise, lineAt system clock lines.length event = .error raise
  file : after.files.read path = .ok (octets ++ lines.flatMap LogFile.encodeLine)
  records : LogFile.records (octets ++ lines.flatMap LogFile.encodeLine) =
    LogFile.records octets ++ lines.map LogFile.encodeLine
  closed : ∀ place event, place < lines.length → events[place]? = some event →
    (after.events.get event).isSealed = true ∧ ∃ moment,
      (system.clocks.get clock).readings ((system.clocks.get clock).taken + place) =
        .ok moment ∧ (after.events.get event).persistedAt = .moment moment
  others : ∀ event, event ∉ events.take lines.length →
    (after.events.get event).isSealed = (system.events.get event).isSealed
  returns : outcome = .ok () ↔ lines.length = events.length
  /-- Faults of some families are reported with the number of lines, others are raised as
  they are. -/
  raises : ∀ event raise, events[lines.length]? = some event →
    lineAt system clock lines.length event = .error raise →
    ∃ cause fault, raise.cause? system = some cause ∧ outcome = .error (.raised fault) ∧
      if wraps cause.family = true then
        after.faults.get fault = .storeWrite (.text path.text) (.text cause.message)
          (.int lines.length)
      else
        after.faults.get fault = cause ∧
          ∀ known, raise.existing? system = some known → fault = known

theorem conclude_fault (path : Path) (written : Nat) (fault : Ref .fault)
    (system : System D) :
    ∃ raised after, conclude path written (some fault) system =
        (.error (.raised raised), after) ∧
      after.files = system.files ∧ after.events = system.events ∧
      if wraps (system.faults.get fault).family = true then
        after.faults.get raised = .storeWrite (.text path.text)
          (.text (system.faults.get fault).message) (.int written)
      else after.faults.get raised = system.faults.get fault ∧ raised = fault := by
  by_cases known : wraps (system.faults.get fault).family = true
  · simp only [conclude, bind, Act.bind, Act.faultOf, Act.read, known, if_true, Act.messageOf]
    refine ⟨_, _, rfl, rfl, rfl, ?_⟩
    exact (Table.get_push _ _ _).trans (if_pos rfl)
  · simp only [conclude, bind, Act.bind, Act.faultOf, Act.read, known]
    exact ⟨_, _, rfl, rfl, rfl, rfl, rfl⟩

private theorem Written.bound {system : System D} {clock : Ref .clock} {place : Nat}
    {events : List (Ref .event)} {lines : List String} {stop : Option Raise}
    (written : Written system clock place events lines stop)
    (bound : ∀ reading raise, (system.clocks.get clock).readings reading = .error raise →
      ∃ cause, raise.cause? system = some cause) :
    ∀ raise, stop = some raise → ∃ cause, raise.cause? system = some cause := by
  intro raise stops
  rcases written.ends with ⟨none, -⟩ | ⟨event, known, same, -, failed⟩
  · rw [none] at stops
    cases stops
  · obtain rfl : known = raise := Option.some.inj (same.symm.trans stops)
    rcases lineAt_eq_error failed with reading | ⟨-, -, ⟨-, rfl⟩ | ⟨-, fault, -, rfl⟩⟩
    · exact bound _ _ reading
    · exact ⟨_, rfl⟩
    · exact ⟨_, rfl⟩

private theorem Written.storesPrefix {system after last : System D} {path : Path}
    {clock : Ref .clock} {events : List (Ref .event)} {octets : List UInt8}
    {lines : List String} {stop : Option Raise} {outcome : Except Halt Unit}
    (written : Written system clock 0 events lines stop) (ended : LogFile.Ended octets)
    (file : after.files.HasFile path (octets ++ lines.flatMap LogFile.encodeLine))
    (closed : ∀ place event, (events.take lines.length)[place]? = some event →
      ∃ moment entries, (system.clocks.get clock).readings
          ((system.clocks.get clock).taken + place) = .ok moment ∧
        after.events.get event = closedWith entries (stampedAt moment (system.events.get event)))
    (others : ∀ event, event ∉ events.take lines.length →
      (after.events.get event).isSealed = (system.events.get event).isSealed)
    (files : last.files = after.files) (sameEvents : last.events = after.events)
    (returns : outcome = .ok () ↔ lines.length = events.length)
    (raises : ∀ event raise, events[lines.length]? = some event →
      lineAt system clock lines.length event = .error raise →
      ∃ cause fault, raise.cause? system = some cause ∧ outcome = .error (.raised fault) ∧
        if wraps cause.family = true then
          last.faults.get fault = .storeWrite (.text path.text) (.text cause.message)
            (.int lines.length)
        else
          last.faults.get fault = cause ∧
            ∀ known, raise.existing? system = some known → fault = known) :
    StoresPrefix system last path clock events octets outcome lines where
  written place line found := by
    obtain ⟨event, there, shown⟩ := written.lineAt_eq found
    rw [Nat.zero_add] at shown
    exact ⟨event, there, shown⟩
  longest event there := by
    rcases written.ends with ⟨-, all⟩ | ⟨known, raise, -, found, failed⟩
    · rw [all, List.getElem?_eq_none (Nat.le_refl _)] at there
      cases there
    · rw [Nat.zero_add] at failed
      obtain rfl : known = event := Option.some.inj (found.symm.trans there)
      exact ⟨raise, failed⟩
  file := by
    rw [files]
    exact FileTree.hasFile_read.mpr file
  records := LogFile.records_append_lines ended written.isRecord
  closed place event before found := by
    obtain ⟨moment, entries, reading, shown⟩ := closed place event (by
      rwa [List.getElem?_take_of_lt before])
    rw [sameEvents, shown]
    exact ⟨rfl, moment, reading, rfl⟩
  others event notStored := by
    rw [sameEvents]
    exact others event notStored
  returns := returns
  raises := raises

/-- Storing a batch of distinct events in a log that can be opened and whose last line is
complete leaves the octets there, appends one record for each event of the longest prefix
that can be stamped and written, seals that prefix and no other event, and returns when the
prefix is the batch. Otherwise it raises the cause, as a fault of the store with the length
of the prefix or as it is. -/
theorem append_stores_prefix (handlers : Handlers D) {system : System D} {store : Ref .store}
    {path : Path} {clock : Ref .clock} {events : List (Ref .event)} {octets : List UInt8}
    (holds : system.stores.get store = .disk path clock)
    (opens : Opens system.files path octets) (ended : LogFile.Ended octets)
    (distinct : events.Nodup) (intact : ∀ event ∈ events, (system.events.get event).Intact)
    (bound : ∀ reading raise, (system.clocks.get clock).readings reading = .error raise →
      ∃ cause, raise.cause? system = some cause) :
    ∃ lines, StoresPrefix system (Store.append handlers store events system).2 path clock
      events octets (Store.append handlers store events system).1 lines := by
  obtain ⟨lines, stop, written⟩ := exists_written system clock 0 events
  obtain ⟨failure, after, ran, result⟩ := written.append handlers holds opens
    distinct intact (written.bound bound)
  rw [ran]
  refine ⟨lines, ?_⟩
  have ends := written.ends
  cases result with
  | all appended =>
      have all : lines.length = events.length := by
        rcases ends with ⟨-, all⟩ | ⟨_, _, stops, _⟩
        · exact all
        · cases stops
      refine written.storesPrefix ended appended.file appended.closed
        (fun event notStored => congrArg LiveEvent.isSealed (appended.others event notStored))
        rfl rfl ⟨fun _ => all, fun _ => rfl⟩ ?_
      intro event raise found
      rw [all, List.getElem?_eq_none (Nat.le_refl _)] at found
      cases found
  | @failed raise fault failed =>
      obtain ⟨known, found, stopped⟩ : ∃ event, events[lines.length]? = some event ∧
          lineAt system clock lines.length event = .error raise := by
        rcases ends with ⟨returned, -⟩ | ⟨event, known, same, found, stopped⟩
        · cases returned
        · rw [Nat.zero_add, ← Option.some.inj same] at stopped
          exact ⟨event, found, stopped⟩
      obtain ⟨raised, last, concluded, lastFiles, lastEvents, reported⟩ :=
        conclude_fault path lines.length fault after
      rw [concluded]
      refine written.storesPrefix ended failed.file failed.closed failed.others lastFiles
        lastEvents ⟨fun returned => (by cases returned), fun all => ?_⟩ ?_
      · rw [all, List.getElem?_eq_none (Nat.le_refl _)] at found
        cases found
      · intro event cause there failing
        obtain rfl : known = event := Option.some.inj (found.symm.trans there)
        obtain rfl : raise = cause := Except.error.inj (stopped.symm.trans failing)
        refine ⟨_, raised, failed.cause, rfl, ?_⟩
        split at reported
        · rename_i wrapped
          rw [if_pos wrapped]
          exact reported
        · rename_i passed
          rw [if_neg passed]
          exact ⟨reported.1, fun known exists_ => reported.2.trans (failed.same known exists_)⟩

/-- Two open events and a store on a missing file, whose clock stops after one reading. -/
def stoppingClock : System Domain.bare :=
  let event : LiveEvent :=
    { name := .text "opened", streamId := .text "a", id := .text "1", occurredOn := .null
      persistedAt := .null, payload := .own (.mapping []) }
  { events := ⟨#[event, event]⟩
    stores := ⟨#[.disk ⟨["log"]⟩ ⟨0⟩]⟩
    clocks := ⟨#[
      { kind := .ticking
        readings := fun reading =>
          if reading = 0 then .ok .unixEpoch else .error (.fresh .outOfCalendar) }]⟩
    domain := () }

theorem append_stores_prefix_stoppingClock :
    ∃ lines, StoresPrefix stoppingClock
      (Store.append Handlers.bare ⟨0⟩ [⟨0⟩, ⟨1⟩] stoppingClock).2 ⟨["log"]⟩ ⟨0⟩ [⟨0⟩, ⟨1⟩] []
      (Store.append Handlers.bare ⟨0⟩ [⟨0⟩, ⟨1⟩] stoppingClock).1 lines := by
  refine append_stores_prefix Handlers.bare rfl (.inr ⟨rfl, .empty, rfl, rfl⟩) (.inl rfl)
    (by decide) ?_ ?_
  · intro event member
    rcases List.mem_cons.mp member with rfl | member
    · exact ⟨rfl, rfl, rfl⟩
    · rcases List.mem_singleton.mp member with rfl
      exact ⟨rfl, rfl, rfl⟩
  · intro reading raise failed
    change (if reading = 0 then _ else Except.error (Raise.fresh .outOfCalendar)) = _ at failed
    split at failed
    · cases failed
    · rw [← Except.error.inj failed]
      exact ⟨_, rfl⟩

end EventSourcing.DiskStore
