import EventSourcing.Proofs.Event.Sealing
import EventSourcing.Proofs.Files.TreeLaws
import EventSourcing.Proofs.Store.LogRecords

/-!
# Appending to the store on disk

What one event, and then a batch, does to the log. `lineAt` says of every event of a batch
which line it gets, or what is raised in its place, from the system as it is before the
batch; `Written` reads the batch up to the first event without a line. A run of the store
follows it: `Appended` holds of every system on the way, and `Failed` of the one in which
an event got no line.
-/

set_option autoImplicit false

namespace EventSourcing.DiskStore

variable {D : Domain}

open LiveEvent (changed ticked stampedAt closedWith contentIn)

/-! ## Files -/

/-- The log can be opened and then holds the octets: they are there, or the file is
missing, its directories can be made, and the octets are none. -/
def Opens (files : FileTree) (path : Path) (octets : List UInt8) : Prop :=
  files.HasFile path octets ∨ octets = [] ∧
    ∃ made, files.makeDirectories path.parent = (made, none) ∧ made.lookup path = .ok none

theorem changeFiles_of_ok (system : System D) {change : FileTree → Except FileFault FileTree}
    {files : FileTree} (made : change system.files = .ok files) :
    changeFiles change system = (.ok (), { system with files }) := by
  simp only [changeFiles, bind, Act.bind, Act.read, made]
  rfl

private theorem makeDirectories_of_ok {system : System D} {path : Path} {files : FileTree}
    (made : system.files.makeDirectories path.parent = (files, none)) :
    makeDirectories path system = (.ok (), { system with files }) := by
  simp only [makeDirectories, bind, Act.bind, Act.read, Act.update, made]
  rfl

theorem Opens.makeDirectories {system : System D} {path : Path} {octets : List UInt8}
    (opens : Opens system.files path octets) :
    ∃ files, DiskStore.makeDirectories path system = (.ok (), { system with files }) ∧
      (files.HasFile path octets ∨ files.lookup path = .ok none ∧ octets = []) := by
  rcases opens with there | ⟨rfl, made, ran, absent⟩
  · exact ⟨system.files, makeDirectories_of_ok there.makeDirectories, .inl there⟩
  · exact ⟨made, makeDirectories_of_ok ran, .inr ⟨absent, rfl⟩⟩

theorem Opens.openLog {system : System D} {path : Path} {octets : List UInt8}
    (opens : Opens system.files path octets) :
    ∃ files, openLog path system = (.ok (), { system with files }) ∧
      files.HasFile path octets := by
  obtain ⟨made, ran, there⟩ := opens.makeDirectories
  obtain ⟨files, appended, shown⟩ := FileTree.append_eq_ok there []
  refine ⟨files, ?_, by rwa [List.append_nil] at shown⟩
  rw [DiskStore.openLog, Act.bind_of_ok ran]
  exact changeFiles_of_ok { system with files := made } appended

/-! ## One event -/

/-- The line that an event gets at a place of a batch, or what is raised in its stead: the
clock is read first, then the seal refuses the stamp, then the contents are written. -/
def lineAt (system : System D) (clock : Ref .clock) (place : Nat) (event : Ref .event) :
    Except Raise String :=
  let known := system.clocks.get clock
  match known.readings (known.taken + place) with
  | .error raise => .error raise
  | .ok moment =>
    if (system.events.get event).isSealed then
      .error (.fresh (.eventSealed (system.events.get event).name (.text "persisted_at")))
    else
      let content := contentIn system event
      ({ content with persistedAt := .moment moment } : Event).logLine.mapError .fresh

theorem lineAt_eq_ok {system : System D} {clock : Ref .clock} {place : Nat}
    {event : Ref .event} {line : String} (written : lineAt system clock place event = .ok line) :
    ∃ moment, (system.clocks.get clock).readings ((system.clocks.get clock).taken + place) =
        .ok moment ∧ (system.events.get event).isSealed = false ∧
      ({ contentIn system event with persistedAt := .moment moment } : Event).logLine =
        .ok line := by
  unfold lineAt at written
  dsimp only at written
  cases reading : (system.clocks.get clock).readings
      ((system.clocks.get clock).taken + place) with
  | error raise =>
      rw [reading] at written
      cases written
  | ok moment =>
      rw [reading] at written
      dsimp only at written
      split at written
      · cases written
      rename_i unsealed
      refine ⟨moment, rfl, eq_false_of_ne_true unsealed, ?_⟩
      cases shown : ({ contentIn system event with persistedAt := .moment moment } :
          Event).logLine with
      | error fault =>
          rw [shown] at written
          cases written
      | ok line =>
          rw [shown] at written
          rw [Except.ok.inj written]

theorem lineAt_eq_error {system : System D} {clock : Ref .clock} {place : Nat}
    {event : Ref .event} {raise : Raise}
    (failed : lineAt system clock place event = .error raise) :
    (system.clocks.get clock).readings ((system.clocks.get clock).taken + place) =
        .error raise ∨
      ∃ moment, (system.clocks.get clock).readings ((system.clocks.get clock).taken + place) =
          .ok moment ∧
        ((system.events.get event).isSealed = true ∧
            raise = .fresh (.eventSealed (system.events.get event).name (.text "persisted_at")) ∨
          (system.events.get event).isSealed = false ∧
            ∃ fault, ({ contentIn system event with persistedAt := .moment moment } :
              Event).logLine = .error fault ∧ raise = .fresh fault) := by
  unfold lineAt at failed
  dsimp only at failed
  cases reading : (system.clocks.get clock).readings
      ((system.clocks.get clock).taken + place) with
  | error cause =>
      rw [reading] at failed
      exact .inl (congrArg _ (Except.error.inj failed))
  | ok moment =>
      rw [reading] at failed
      dsimp only at failed
      refine .inr ⟨moment, rfl, ?_⟩
      split at failed
      · rename_i isSealed
        exact .inl ⟨isSealed, (Except.error.inj failed).symm⟩
      rename_i unsealed
      refine .inr ⟨eq_false_of_ne_true unsealed, ?_⟩
      cases shown : ({ contentIn system event with persistedAt := .moment moment } :
          Event).logLine with
      | error fault =>
          rw [shown] at failed
          exact ⟨fault, rfl, (Except.error.inj failed).symm⟩
      | ok line =>
          rw [shown] at failed
          cases failed

/-- What a store leaves of a system when it has appended events with their lines: they
are stamped with the clock's readings and sealed, and no other event changes. -/
structure Appended (system after : System D) (path : Path) (clock : Ref .clock)
    (stored : List (Ref .event)) (octets : List UInt8) : Prop where
  file : after.files.HasFile path octets
  taken : after.clocks.get clock =
    { system.clocks.get clock with taken := (system.clocks.get clock).taken + stored.length }
  clocks : ∀ other, other ≠ clock → after.clocks.get other = system.clocks.get other
  stores : after.stores = system.stores
  mappings : after.mappings = system.mappings
  faults : after.faults = system.faults
  domain : after.domain = system.domain
  closed : ∀ place event, stored[place]? = some event → ∃ moment entries,
    (system.clocks.get clock).readings ((system.clocks.get clock).taken + place) = .ok moment ∧
      after.events.get event = closedWith entries (stampedAt moment (system.events.get event))
  others : ∀ event, event ∉ stored → after.events.get event = system.events.get event

private theorem toEntries?_of_logLine {event : Event} {line : String}
    (written : event.logLine = .ok line) : ∃ entries, event.payload.toEntries? = .ok entries := by
  have written := Event.logLine_eq_ok_iff.mp written
  unfold Event.encode Event.toRecord? at written
  cases holds : event.payload.toEntries? with
  | error fault =>
      rw [holds] at written
      cases written
  | ok entries => exact ⟨entries, rfl⟩

section

variable {system middle : System D} {path : Path} {clock : Ref .clock} {event : Ref .event}
  {stored : List (Ref .event)} {octets : List UInt8}

private theorem Appended.nextReading (sofar : Appended system middle path clock stored octets) :
    LiveEvent.nextReading middle clock =
      (system.clocks.get clock).readings
        ((system.clocks.get clock).taken + stored.length) := by
  rw [LiveEvent.nextReading, Clock.read, sofar.taken]

private theorem Appended.snoc (sofar : Appended system middle path clock stored octets)
    (fresh : event ∉ stored) {moment : Moment} {files : FileTree} {further : List UInt8}
    (reading : (system.clocks.get clock).readings
      ((system.clocks.get clock).taken + stored.length) = .ok moment) (entries : Entries)
    (there : files.HasFile path (octets ++ further)) :
    Appended system
      (changed { changed (ticked middle clock) event (stampedAt moment) with files } event
        (closedWith entries)) path clock (stored ++ [event]) (octets ++ further) where
  file := there
  taken := by
    have read := LiveEvent.get_ticked middle clock clock
    rw [if_pos rfl, Clock.read, sofar.taken] at read
    rw [List.length_append, List.length_singleton, ← Nat.add_assoc]
    exact read
  clocks other different := by
    have kept := LiveEvent.get_ticked middle clock other
    rw [if_neg different.symm, sofar.clocks other different] at kept
    exact kept
  stores := sofar.stores
  mappings := sofar.mappings
  faults := sofar.faults
  domain := sofar.domain
  closed place known found := by
    rw [List.getElem?_append] at found
    split at found
    · have different : event ≠ known := fun same =>
        fresh (same ▸ List.mem_of_getElem? found)
      rw [LiveEvent.get_changed, if_neg different]
      have kept := LiveEvent.get_changed (ticked middle clock) event known (stampedAt moment)
      rw [if_neg different] at kept
      obtain ⟨stamp, held, shown, same⟩ := sofar.closed place known found
      exact ⟨stamp, held, shown, kept.trans same⟩
    · rename_i past
      have last : place - stored.length = 0 := by
        have bound := (List.getElem?_eq_some_iff.mp found).1
        rw [List.length_singleton] at bound
        omega
      rw [last] at found
      obtain rfl : event = known := Option.some.inj found
      refine ⟨moment, entries, ?_, ?_⟩
      · rwa [show place = stored.length by omega]
      · rw [LiveEvent.get_changed, if_pos rfl]
        have kept := LiveEvent.get_changed (ticked middle clock) event event (stampedAt moment)
        rw [if_pos rfl] at kept
        exact congrArg (closedWith entries) (kept.trans (congrArg _ (sofar.others event fresh)))
  others other notStored := by
    rw [List.mem_append, List.mem_singleton, not_or] at notStored
    rw [LiveEvent.get_changed, if_neg (Ne.symm notStored.2)]
    have kept := LiveEvent.get_changed (ticked middle clock) event other (stampedAt moment)
    rw [if_neg (Ne.symm notStored.2)] at kept
    exact kept.trans (sofar.others other notStored.1)

theorem Appended.appendEvent (sofar : Appended system middle path clock stored octets)
    (fresh : event ∉ stored) (intact : (system.events.get event).Intact) {line : String}
    (written : lineAt system clock stored.length event = .ok line) :
    ∃ after, DiskStore.appendEvent path clock event middle = (.ok (), after) ∧
      Appended system after path clock (stored ++ [event])
        (octets ++ LogFile.encodeLine line) := by
  obtain ⟨moment, reading, unsealed, encoded⟩ := lineAt_eq_ok written
  obtain ⟨entries, holds⟩ := toEntries?_of_logLine encoded
  have here := sofar.others event fresh
  rw [← here] at intact unsealed
  have persisted := LiveEvent.persist_of_ok intact unsealed (sofar.nextReading.trans reading)
  let stamped := changed (ticked middle clock) event (stampedAt moment)
  have stampedEvent : stamped.events.get event = stampedAt moment (middle.events.get event) := by
    rw [LiveEvent.get_changed, if_pos rfl]
    rfl
  have content : contentIn stamped event =
      { contentIn system event with persistedAt := .moment moment } := by
    rw [LiveEvent.contentIn_stamped, LiveEvent.contentIn_of_get_eq here sofar.mappings]
  have stampedIntact : (stamped.events.get event).Intact := by
    rw [stampedEvent]
    exact ⟨intact.persists, intact.closes, intact.complete⟩
  have stampedOpen : (stamped.events.get event).isSealed = false := by
    rw [stampedEvent]
    exact unsealed
  have shown : LiveEvent.logLine event stamped = (.ok line, stamped) := by
    rw [LiveEvent.logLine_run stampedIntact.complete, content, encoded]
    rfl
  obtain ⟨files, appended, there⟩ :=
    FileTree.append_eq_ok (.inl sofar.file) (LogFile.encodeLine line)
  have kept : changeFiles (·.append path (LogFile.encodeLine line)) stamped =
      (.ok (), { stamped with files }) := changeFiles_of_ok stamped appended
  have closed : LiveEvent.sealEvent event { stamped with files } =
      (.ok (), changed { stamped with files } event (closedWith entries)) := by
    refine LiveEvent.sealEvent_of_open stampedIntact.closes (stampedIntact.present _) stampedOpen ?_
    show (contentIn stamped event).payload.toEntries? = .ok entries
    rw [content]
    exact holds
  refine ⟨_, ?_, sofar.snoc fresh reading entries there⟩
  rw [DiskStore.appendEvent, Act.bind_of_ok persisted, Act.bind_of_ok shown,
    Act.bind_of_ok kept, closed]

/-- What a store leaves when an event got no line: the events before it are stored, no
other is sealed, and what was to be raised is at hand. -/
structure Failed (system after : System D) (path : Path) (clock : Ref .clock)
    (stored : List (Ref .event)) (octets : List UInt8) (raise : Raise) (fault : Ref .fault) :
    Prop where
  file : after.files.HasFile path octets
  closed : ∀ place event, stored[place]? = some event → ∃ moment entries,
    (system.clocks.get clock).readings ((system.clocks.get clock).taken + place) = .ok moment ∧
      after.events.get event = closedWith entries (stampedAt moment (system.events.get event))
  others : ∀ event, event ∉ stored →
    (after.events.get event).isSealed = (system.events.get event).isSealed
  cause : raise.cause? system = some (after.faults.get fault)
  same : ∀ known, raise.existing? system = some known → fault = known

/-- Whatever part of an event's step was done, raising keeps the events that are stored. -/
private theorem Appended.failed (sofar : Appended system middle path clock stored octets)
    (fresh : event ∉ stored) (base : System D) (files : base.files = middle.files)
    (faults : base.faults = middle.faults) (domain : base.domain = middle.domain)
    (others : ∀ other, other ≠ event → base.events.get other = middle.events.get other)
    (sealing : (base.events.get event).isSealed = (middle.events.get event).isSealed)
    {raise : Raise} {cause : Fault} (bound : raise.cause? system = some cause) :
    ∃ fault after,
      (∀ Result : Type, (Act.raise raise : Act D Result) base =
        (.error (.raised fault), after)) ∧
      Failed system after path clock stored octets raise fault := by
  have sameFaults := faults.trans sofar.faults
  have sameDomain := domain.trans sofar.domain
  have boundHere : raise.cause? base = some cause :=
    (Raise.cause?_congr sameFaults sameDomain raise).trans bound
  obtain ⟨fault, raised, ran, caused, same⟩ := Raise.raise_run boundHere
  refine ⟨fault, { base with faults := raised }, ran, ?_, ?_, ?_, ?_, ?_⟩
  · show base.files.HasFile path octets
    rw [files]
    exact sofar.file
  · intro place known found
    obtain ⟨moment, entries, reading, shown⟩ := sofar.closed place known found
    have different : known ≠ event := fun same => fresh (same ▸ List.mem_of_getElem? found)
    exact ⟨moment, entries, reading, (others known different).trans shown⟩
  · intro other notStored
    rw [← sofar.others other notStored]
    by_cases same : other = event
    · subst same
      exact sealing
    · exact congrArg LiveEvent.isSealed (others other same)
  · rw [bound, ← caused]
  · intro known existing
    rw [← Raise.existing?_congr sameDomain] at existing
    exact same known existing

theorem Appended.appendEvent_fails (sofar : Appended system middle path clock stored octets)
    (fresh : event ∉ stored) (intact : (system.events.get event).Intact) {raise : Raise}
    {cause : Fault} (stop : lineAt system clock stored.length event = .error raise)
    (bound : raise.cause? system = some cause) :
    ∃ fault after, DiskStore.appendEvent path clock event middle =
        (.error (.raised fault), after) ∧
      Failed system after path clock stored octets raise fault := by
  have here := sofar.others event fresh
  rw [← here] at intact
  rcases lineAt_eq_error stop with reading | ⟨moment, reading, shown⟩
  · obtain ⟨fault, after, ran, failed⟩ := sofar.failed fresh (ticked middle clock)
      rfl rfl rfl (fun _ _ => rfl) rfl bound
    have persisted := LiveEvent.persist_of_error intact (sofar.nextReading.trans reading) (ran _)
    exact ⟨fault, after, Act.bind_of_error persisted, failed⟩
  rcases shown with ⟨isSealed, rfl⟩ | ⟨unsealed, fault, unwritten, rfl⟩
  · obtain ⟨fault, after, ran, failed⟩ := sofar.failed fresh (ticked middle clock)
      rfl rfl rfl (fun _ _ => rfl) rfl bound
    rw [← here] at isSealed
    have persisted := LiveEvent.persist_of_isSealed intact isSealed
      (sofar.nextReading.trans reading)
    rw [here] at persisted
    exact ⟨fault, after, Act.bind_of_error (persisted.trans (ran _)), failed⟩
  · rw [← here] at unsealed
    have persisted := LiveEvent.persist_of_ok intact unsealed (sofar.nextReading.trans reading)
    let stamped := changed (ticked middle clock) event (stampedAt moment)
    have stampedEvent : stamped.events.get event =
        stampedAt moment (middle.events.get event) := by
      rw [LiveEvent.get_changed, if_pos rfl]
      rfl
    obtain ⟨fault, after, ran, failed⟩ := sofar.failed fresh stamped rfl rfl rfl
      (fun other different => by
        rw [LiveEvent.get_changed, if_neg different.symm]
        rfl)
      (by
        rw [stampedEvent]
        rfl) bound
    have complete : (stamped.events.get event).lacking = [] := by
      rw [stampedEvent]
      exact intact.complete
    have refused : LiveEvent.logLine event stamped = (.error (.raised fault), after) := by
      rw [LiveEvent.logLine_run complete, LiveEvent.contentIn_stamped,
        LiveEvent.contentIn_of_get_eq here sofar.mappings, unwritten]
      exact ran _
    refine ⟨fault, after, ?_, failed⟩
    rw [DiskStore.appendEvent, Act.bind_of_ok persisted]
    exact Act.bind_of_error refused

end

/-! ## A batch -/

/-- The lines of a batch from a place on, up to the first event that gets none, and what is
raised there. -/
inductive Written (system : System D) (clock : Ref .clock) :
    Nat → List (Ref .event) → List String → Option Raise → Prop where
  | done {place : Nat} : Written system clock place [] [] none
  | stop {place : Nat} {event : Ref .event} {events : List (Ref .event)} {raise : Raise} :
      lineAt system clock place event = .error raise →
      Written system clock place (event :: events) [] (some raise)
  | line {place : Nat} {event : Ref .event} {events : List (Ref .event)} {line : String}
      {lines : List String} {stop : Option Raise} :
      lineAt system clock place event = .ok line →
      Written system clock (place + 1) events lines stop →
      Written system clock place (event :: events) (line :: lines) stop

theorem exists_written (system : System D) (clock : Ref .clock) (place : Nat)
    (events : List (Ref .event)) : ∃ lines stop, Written system clock place events lines stop := by
  induction events generalizing place with
  | nil => exact ⟨[], none, .done⟩
  | cons event events ih =>
      cases shown : lineAt system clock place event with
      | error raise => exact ⟨[], some raise, .stop shown⟩
      | ok line =>
          obtain ⟨lines, stop, written⟩ := ih (place + 1)
          exact ⟨line :: lines, stop, .line shown written⟩

namespace Written

variable {system : System D} {clock : Ref .clock} {place : Nat} {events : List (Ref .event)}
  {lines : List String} {stop : Option Raise}

theorem lineAt_eq (written : Written system clock place events lines stop) {index : Nat}
    {line : String} (found : lines[index]? = some line) :
    ∃ event, events[index]? = some event ∧
      lineAt system clock (place + index) event = .ok line := by
  induction written generalizing index with
  | done => cases found
  | stop _ => cases found
  | line first _ ih =>
      cases index with
      | zero => exact ⟨_, rfl, first.trans (congrArg _ (Option.some.inj found))⟩
      | succ index =>
          obtain ⟨event, there, shown⟩ := ih found
          rw [Nat.add_right_comm] at shown
          exact ⟨event, there, shown⟩

theorem ends (written : Written system clock place events lines stop) :
    (stop = none ∧ lines.length = events.length) ∨
      ∃ event raise, stop = some raise ∧ events[lines.length]? = some event ∧
        lineAt system clock (place + lines.length) event = .error raise := by
  induction written with
  | done => exact .inl ⟨rfl, rfl⟩
  | stop shown => exact .inr ⟨_, _, rfl, rfl, shown⟩
  | line _ _ ih =>
      rcases ih with ⟨rfl, same⟩ | ⟨event, raise, rfl, there, shown⟩
      · exact .inl ⟨rfl, congrArg (· + 1) same⟩
      · rw [Nat.add_right_comm] at shown
        exact .inr ⟨event, raise, rfl, there, shown⟩

theorem isRecord (written : Written system clock place events lines stop) :
    ∀ line ∈ lines, LogFile.IsRecord line := by
  intro line member
  obtain ⟨index, found⟩ := List.mem_iff_getElem?.mp member
  obtain ⟨event, -, shown⟩ := written.lineAt_eq found
  obtain ⟨moment, -, -, encoded⟩ := lineAt_eq_ok shown
  exact LogFile.isRecord_of_logLine encoded

end Written

inductive Ends (system after : System D) (path : Path) (clock : Ref .clock)
    (stored : List (Ref .event)) (octets : List UInt8) :
    Option Raise → Option (Ref .fault) → Prop where
  | all : Appended system after path clock stored octets →
      Ends system after path clock stored octets none none
  | failed {raise : Raise} {fault : Ref .fault} :
      Failed system after path clock stored octets raise fault →
      Ends system after path clock stored octets (some raise) (some fault)

private theorem notMem_of_nodup {stored events : List (Ref .event)} {event : Ref .event}
    (distinct : (stored ++ event :: events).Nodup) : event ∉ stored :=
  fun member => (List.nodup_append.mp distinct).2.2 event member event (by simp) rfl

/-- The store follows the batch: it appends its lines and stops where they stop. -/
theorem Written.appendEvents {system middle : System D} {path : Path} {clock : Ref .clock}
    {place : Nat} {stored events : List (Ref .event)} {octets : List UInt8}
    {lines : List String} {stop : Option Raise}
    (written : Written system clock place events lines stop) (count : place = stored.length)
    (sofar : Appended system middle path clock stored octets)
    (distinct : (stored ++ events).Nodup)
    (intact : ∀ event ∈ events, (system.events.get event).Intact)
    (bound : ∀ raise, stop = some raise → ∃ cause, raise.cause? system = some cause) :
    ∃ failure after, DiskStore.appendEvents path clock place events middle =
        (.ok (place + lines.length, failure), after) ∧
      Ends system after path clock (stored ++ events.take lines.length)
        (octets ++ lines.flatMap LogFile.encodeLine) stop failure := by
  -- `Appended` carries the induction: what is stored of the batch so far, with its lines.
  induction written generalizing stored middle octets with
  | done =>
      refine ⟨none, middle, rfl, ?_⟩
      rw [List.take_nil, List.append_nil, List.flatMap_nil, List.append_nil]
      exact .all sofar
  | @stop place event events raise shown =>
      subst count
      obtain ⟨cause, known⟩ := bound raise rfl
      have fresh : event ∉ stored := notMem_of_nodup distinct
      obtain ⟨fault, after, ran, failed⟩ :=
        sofar.appendEvent_fails fresh (intact event (by simp)) shown known
      refine ⟨some fault, after, ?_, ?_⟩
      · rw [DiskStore.appendEvents, Act.bind_of_ok (Act.attempt_of_raised ran)]
        rfl
      · rw [List.length_nil, List.take_zero, List.append_nil, List.flatMap_nil, List.append_nil]
        exact .failed failed
  | @line place event events line lines stop shown written ih =>
      subst count
      have fresh : event ∉ stored := notMem_of_nodup distinct
      obtain ⟨next, ran, appended⟩ := sofar.appendEvent fresh (intact event (by simp)) shown
      have rest : stored ++ event :: events = (stored ++ [event]) ++ events := by simp
      obtain ⟨failure, after, continued, ended⟩ := ih (by simp) appended (rest ▸ distinct)
        (fun each member => intact each (.tail _ member)) bound
      refine ⟨failure, after, ?_, ?_⟩
      · rw [DiskStore.appendEvents, Act.bind_of_ok (Act.attempt_of_ok ran)]
        dsimp only
        rw [continued, List.length_cons, Nat.add_right_comm]
        rfl
      · rw [List.length_cons, List.take_succ_cons, List.flatMap_cons]
        simpa only [List.append_assoc, List.singleton_append] using ended

def conclude (path : Path) (written : Nat) : Option (Ref .fault) → Act D Unit
  | none => Act.logRecord storeLogger .debug s!"Stored {written} event(s) in {path.text}"
  | some fault => do
    if wraps (← Act.faultOf fault).family then
      let detail ← Act.messageOf fault
      Act.logRecord storeLogger .error
        s!"Store aborted after {written} event(s) in {path.text}: {detail}"
      Act.throw (.storeWrite (.text path.text) (.text detail) (.int written))
    else Act.rethrow fault

theorem keeps_conclude {relation : System D → System D → Prop} [Act.Frame relation]
    (making : ∀ fault, Act.Keeps relation (Act.newFault fault))
    (logging : ∀ logger level message, Act.Keeps relation (Act.logRecord logger level message))
    (path : Path) (written : Nat) (failure : Option (Ref .fault)) :
    Act.Keeps relation (conclude path written failure) := by
  cases failure with
  | none => exact logging storeLogger .debug _
  | some fault =>
      refine (Act.keeps_read _).bind fun cause => ?_
      split
      · exact (Act.keeps_read _).bind fun detail => (logging storeLogger .error _).bind fun _ =>
          Act.keeps_throw making _
      · exact Act.keeps_halt _

private theorem append_eq {path : Path} {clock : Ref .clock} {events : List (Ref .event)}
    {base opened after : System D} {written : Nat} {failure : Option (Ref .fault)}
    (opens : openLog path base = (.ok (), opened))
    (ran : appendEvents path clock 0 events opened = (.ok (written, failure), after)) :
    append path clock events base = conclude path written failure after := by
  rw [append, Act.bind_of_ok (Act.attempt_of_ok opens)]
  dsimp only
  rw [Act.bind_of_ok ran]
  cases failure <;> rfl

theorem store_append_disk {handlers : Handlers D} {system : System D} {store : Ref .store}
    {path : Path} {clock : Ref .clock} (holds : system.stores.get store = .disk path clock)
    (events : List (Ref .event)) :
    Store.append handlers store events system =
      append path clock events
        { system with calls := system.calls.push (.storeEvents store events) } := by
  simp only [Store.append, bind, Act.bind, Act.noteCall, Act.update, Act.read, holds]

private theorem appended_nil {system base : System D} {path : Path} {clock : Ref .clock}
    {octets : List UInt8} (file : base.files.HasFile path octets)
    (same : base = { system with files := base.files, calls := base.calls }) :
    Appended system base path clock [] octets := by
  rw [same]
  exact
    { file, taken := rfl, clocks := fun _ _ => rfl, stores := rfl, mappings := rfl, faults := rfl
      domain := rfl, closed := nofun, others := fun _ _ => rfl }

/-- The store as a whole follows the batch, and then reports how it ended. -/
theorem Written.append (handlers : Handlers D) {system : System D} {store : Ref .store}
    {path : Path} {clock : Ref .clock} {events : List (Ref .event)} {octets : List UInt8}
    {lines : List String} {stop : Option Raise}
    (written : Written system clock 0 events lines stop)
    (holds : system.stores.get store = .disk path clock)
    (opens : Opens system.files path octets) (distinct : events.Nodup)
    (intact : ∀ event ∈ events, (system.events.get event).Intact)
    (bound : ∀ raise, stop = some raise → ∃ cause, raise.cause? system = some cause) :
    ∃ failure after, Store.append handlers store events system =
        conclude path lines.length failure after ∧
      Ends system after path clock (events.take lines.length)
        (octets ++ lines.flatMap LogFile.encodeLine) stop failure := by
  let noted : System D := { system with calls := system.calls.push (.storeEvents store events) }
  have opensNoted : Opens noted.files path octets := opens
  obtain ⟨files, opened, there⟩ := opensNoted.openLog
  have start : Appended system { noted with files } path clock [] octets :=
    appended_nil there rfl
  obtain ⟨failure, after, ran, result⟩ := written.appendEvents rfl start distinct intact bound
  rw [Nat.zero_add] at ran
  rw [List.nil_append] at result
  exact ⟨failure, after, (store_append_disk holds events).trans (append_eq opened ran), result⟩

end EventSourcing.DiskStore
