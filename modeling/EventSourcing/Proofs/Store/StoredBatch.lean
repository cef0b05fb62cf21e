import EventSourcing.Proofs.Store.DiskAppend
import EventSourcing.Proofs.Store.LogContents

/-!
# A batch that was stored on disk

What is known once the store on disk has appended a batch without a fault, whatever the
events are: each was open and not listed before, and is closed with the time at which it was
stored; the file has one line for each behind what it had; and nothing else has changed but
the clock and the records kept. Plain events are then among the contents of the log.
-/

set_option autoImplicit false

namespace EventSourcing

/-- The contents with lists in the place of the payload's tuples. -/
def Event.listed (event : Event) : Event :=
  { event with payload := event.payload.listed }

/-- Contents that a line gives back with no loss once they are stored: plain, and without
tuples. -/
structure Event.Lossless (event : Event) : Prop where
  plain : ∀ moment, ({ event with persistedAt := .moment moment } : Event).IsPlain
  listed : event.listed = event

namespace DiskStore

variable {D : Domain}

open LiveEvent (changed ticked stampedAt closedWith contentIn)

/-- An event was open and is closed with the time at which it was stored; the line has the
contents that it had by then. -/
def Stored (system after : System D) (event : Ref .event) (line : String) : Prop :=
  (system.events.get event).isSealed = false ∧ ∃ moment entries,
    ({ contentIn system event with persistedAt := .moment moment } : Event).logLine = .ok line ∧
    (contentIn system event).payload.toEntries? = .ok entries ∧
    after.events.get event = closedWith entries (stampedAt moment (system.events.get event))

structure StoredBatch (system after : System D) (path : Path) (octets : List UInt8)
    (events : List (Ref .event)) (lines : List String) : Prop where
  file : after.files.HasFile path (octets ++ lines.flatMap LogFile.encodeLine)
  stored : List.Forall₂ (Stored system after) events lines
  distinct : events.Nodup
  others : ∀ event, event ∉ events → after.events.get event = system.events.get event
  same : after = { system with
    events := after.events, clocks := after.clocks, files := after.files, log := after.log
    calls := after.calls }

private theorem changeFiles_eq_ok {system after : System D}
    {change : FileTree → Except FileFault FileTree}
    (ran : changeFiles change system = (.ok (), after)) :
    ∃ files, change system.files = .ok files ∧ after = { system with files } := by
  cases made : change system.files with
  | error fault =>
      obtain ⟨_, middle, computed, -⟩ := Act.bind_eq_ok ran
      cases computed
      simp only [changeFiles, bind, Act.bind, Act.read, made] at ran
      cases ran
  | ok files =>
      rw [changeFiles_of_ok system made] at ran
      cases ran
      exact ⟨files, rfl, rfl⟩

/-- An event that is appended without a fault is stored, and no other event changes. -/
private theorem appendEvent_eq_ok {system after : System D} {path : Path} {clock : Ref .clock}
    {event : Ref .event} {octets : List UInt8} (file : system.files.HasFile path octets)
    (ran : appendEvent path clock event system = (.ok (), after)) :
    ∃ line, after.files.HasFile path (octets ++ LogFile.encodeLine line) ∧
      Stored system after event line ∧
      (∀ other, other ≠ event → after.events.get other = system.events.get other) ∧
      after = { system with
        events := after.events, clocks := after.clocks, files := after.files } := by
  obtain ⟨_, stamped, persisted, ran⟩ := Act.bind_eq_ok ran
  obtain ⟨line, written, encoded, ran⟩ := Act.bind_eq_ok ran
  obtain ⟨_, kept, appended, closed⟩ := Act.bind_eq_ok ran
  obtain ⟨moment, -, unsealed, rfl⟩ := LiveEvent.persist_eq_ok persisted
  obtain ⟨rfl, known⟩ := LiveEvent.logLine_eq_ok encoded
  obtain ⟨files, made, rfl⟩ := changeFiles_eq_ok appended
  let stamped := changed (ticked system clock) event (stampedAt moment)
  have stampedEvent : stamped.events.get event = stampedAt moment (system.events.get event) := by
    rw [LiveEvent.get_changed, if_pos rfl]
    rfl
  have stillOpen : (({ stamped with files } : System D).events.get event).isSealed = false := by
    show (stamped.events.get event).isSealed = false
    rw [stampedEvent]
    exact unsealed
  obtain ⟨entries, holds, rfl⟩ := LiveEvent.sealEvent_eq_ok stillOpen closed
  have payload : (contentIn stamped event).payload.toEntries? = .ok entries := holds
  rw [LiveEvent.contentIn_stamped] at known payload
  obtain ⟨longer, shown, there⟩ := FileTree.append_eq_ok (.inl file) (LogFile.encodeLine line)
  have same : files = longer := Except.ok.inj (made.symm.trans shown)
  refine ⟨line, ?_, ⟨unsealed, moment, entries, known, payload, ?_⟩, fun other different => ?_, rfl⟩
  · show files.HasFile path _
    rw [same]
    exact there
  · rw [LiveEvent.get_changed, if_pos rfl]
    exact congrArg (closedWith entries) stampedEvent
  · rw [LiveEvent.get_changed, if_neg different.symm]
    have passed := LiveEvent.get_changed (ticked system clock) event other (stampedAt moment)
    rw [if_neg different.symm] at passed
    exact passed

private theorem Stored.isSealed {system after : System D} {event : Ref .event} {line : String}
    (stored : Stored system after event line) : (after.events.get event).isSealed = true := by
  obtain ⟨-, moment, entries, -, -, closed⟩ := stored
  rw [closed]
  rfl

/-- A change to other events before or after does not touch what was stored. -/
private theorem Stored.of_same {earlier system after later : System D} {event : Ref .event}
    {line : String} (stored : Stored system after event line)
    (mappings : system.mappings = earlier.mappings)
    (first : system.events.get event = earlier.events.get event)
    (last : later.events.get event = after.events.get event) :
    Stored earlier later event line := by
  obtain ⟨unsealed, moment, entries, written, payload, closed⟩ := stored
  rw [LiveEvent.contentIn_of_get_eq first mappings] at written payload
  rw [first] at unsealed closed
  exact ⟨unsealed, moment, entries, written, payload, last.trans closed⟩

private theorem StoredBatch.unsealed {system after : System D} {path : Path} {octets : List UInt8}
    {events : List (Ref .event)} {lines : List String}
    (batch : StoredBatch system after path octets events lines) :
    ∀ event ∈ events, (system.events.get event).isSealed = false := by
  have both := batch.stored.imp fun event line (stored : Stored system after event line) =>
    And.intro stored.1 stored
  exact ((List.forall₂_and_left _ _).mp both).1

/-- A batch that is stored behind one event more. -/
private theorem StoredBatch.cons {system middle after : System D} {path : Path}
    {octets : List UInt8} {event : Ref .event} {events : List (Ref .event)} {line : String}
    {lines : List String} (stored : Stored system middle event line)
    (others : ∀ other, other ≠ event → middle.events.get other = system.events.get other)
    (same : middle = { system with
      events := middle.events, clocks := middle.clocks, files := middle.files })
    (batch : StoredBatch middle after path (octets ++ LogFile.encodeLine line) events lines) :
    StoredBatch system after path octets (event :: events) (line :: lines) := by
  have mappings : middle.mappings = system.mappings := by rw [same]
  -- The first event is closed by the time at which the others are found open.
  have fresh : event ∉ events := by
    intro member
    have still := batch.unsealed event member
    rw [stored.isSealed] at still
    cases still
  have behind : List.Forall₂ (Stored system after) events lines := by
    refine ((List.forall₂_and_left _ _).mpr ⟨fun _ member => member, batch.stored⟩).imp ?_
    rintro other line ⟨member, known⟩
    exact known.of_same mappings (others other fun same => fresh (same ▸ member)) rfl
  refine ⟨?_, .cons (stored.of_same rfl rfl (batch.others event fresh)) behind, ?_, ?_, ?_⟩
  · rw [List.flatMap_cons, ← List.append_assoc]
    exact batch.file
  · exact List.nodup_cons.mpr ⟨fresh, batch.distinct⟩
  · intro other outside
    rw [List.mem_cons, not_or] at outside
    rw [batch.others other outside.2, others other outside.1]
  · rw [batch.same, same]

/-- The batch is stored one event after another. -/
private theorem appendEvents_eq_ok {system after : System D} {path : Path} {clock : Ref .clock}
    {written count : Nat} {events : List (Ref .event)} {octets : List UInt8}
    (file : system.files.HasFile path octets)
    (ran : appendEvents path clock written events system = (.ok (count, none), after)) :
    ∃ lines, StoredBatch system after path octets events lines ∧ after.log = system.log ∧
      after.calls = system.calls := by
  induction events generalizing system written octets with
  | nil =>
      cases ran
      refine ⟨[], ⟨?_, .nil, .nil, fun _ _ => rfl, rfl⟩, rfl, rfl⟩
      rwa [List.flatMap_nil, List.append_nil]
  | cons event events ih =>
      rcases first : appendEvent path clock event system with ⟨halt | _, middle⟩
      · -- A batch that stops at an event answers its fault, or does not end at all.
        let Fails (outcome : Except Halt (Nat × Option (Ref .fault)) × System D) : Prop :=
          outcome ≠ (.ok (count, none), after)
        have fails : Fails (appendEvents path clock written (event :: events) system) := by
          rw [appendEvents]
          refine Act.bind_attempt_of_error first (fun halt ended => ?_) fun fault ended => ?_
          · cases ended
          · cases ended
        exact absurd ran fails
      · rw [appendEvents, Act.bind_of_ok (Act.attempt_of_ok first)] at ran
        obtain ⟨line, there, stored, others, same⟩ := appendEvent_eq_ok file first
        obtain ⟨lines, batch, log, calls⟩ := ih there ran
        refine ⟨line :: lines, batch.cons stored others same, ?_, ?_⟩
        · rw [log, same]
        · rw [calls, same]

theorem append_eq_ok {handlers : Handlers D} {system after : System D} {store : Ref .store}
    {path : Path} {clock : Ref .clock} {events : List (Ref .event)} {octets : List UInt8}
    (holds : system.stores.get store = .disk path clock)
    (file : system.files.HasFile path octets)
    (ran : Store.append handlers store events system = (.ok (), after)) :
    ∃ lines, StoredBatch system after path octets events lines ∧
      after.calls = system.calls.push (.storeEvents store events) := by
  let noted : System D := { system with calls := system.calls.push (.storeEvents store events) }
  have opens : Opens noted.files path octets := .inl file
  obtain ⟨files, opened, there⟩ := opens.openLog
  rw [store_append_disk holds, append, Act.bind_of_ok (Act.attempt_of_ok opened)] at ran
  obtain ⟨⟨count, failure⟩, written, appended, concluded⟩ := Act.bind_eq_ok ran
  cases failure with
  | some fault =>
      obtain ⟨cause, middle, read, thrown⟩ := Act.bind_eq_ok concluded
      cases read
      split at thrown
      · obtain ⟨detail, _, shown, thrown⟩ := Act.bind_eq_ok thrown
        obtain ⟨_, _, logged, thrown⟩ := Act.bind_eq_ok thrown
        cases thrown
      · cases thrown
  | none =>
      cases concluded
      have there : ({ noted with files } : System D).files.HasFile path octets := there
      obtain ⟨lines, batch, -, calls⟩ := appendEvents_eq_ok there appended
      refine ⟨lines, ⟨batch.file, batch.stored, batch.distinct, batch.others, ?_⟩, calls⟩
      rw [batch.same]

private theorem contentIn_of_stored {system after : System D} {event : Ref .event}
    {moment : Moment} {entries : Entries}
    (closed : after.events.get event =
      closedWith entries (stampedAt moment (system.events.get event))) :
    contentIn after event = { contentIn system event with
      persistedAt := .moment moment, payload := .frozen entries } := by
  simp only [contentIn, closed]
  rfl

/-- The line of a plain event gives back what the event shows from then on. -/
private theorem Stored.lineOf {system after : System D} {event : Ref .event} {line : String}
    (stored : Stored system after event line)
    (plain : ∀ moment, ({ contentIn system event with persistedAt := .moment moment } :
      Event).IsPlain) :
    ∃ content, LogFile.LineOf line content ∧ content.closed = (contentIn after event).listed := by
  obtain ⟨-, moment, entries, written, payload, closed⟩ := stored
  obtain ⟨known, holds, -⟩ := (plain moment).payload
  refine ⟨_, LogFile.lineOf_of_isPlain (plain moment) written, ?_⟩
  have same : entries = known := by
    rcases holds with shape | shape <;> dsimp only at shape <;> rw [shape] at payload <;>
      exact (Except.ok.inj payload).symm
  have back : ({ contentIn system event with persistedAt := .moment moment } : Event).readBack =
      { contentIn system event with
        persistedAt := .moment moment, payload := .mapping (Datum.listedEntries known) } := by
    rcases holds with shape | shape <;> dsimp only at shape <;> simp only [Event.readBack, shape]
  rw [back, contentIn_of_stored closed, same]
  rfl

theorem StoredBatch.of_mem {system after : System D} {path : Path} {octets : List UInt8}
    {events : List (Ref .event)} {lines : List String} {event : Ref .event}
    (batch : StoredBatch system after path octets events lines) (member : event ∈ events) :
    ∃ line, Stored system after event line := by
  have each := batch.stored.imp fun event line (stored : Stored system after event line) =>
    And.intro (⟨line, stored⟩ : ∃ line, Stored system after event line) stored
  exact ((List.forall₂_and_left _ _).mp each).1 event member

/-- An event that is lossless is stored without tuples. -/
private theorem Stored.listed {system after : System D} {event : Ref .event} {line : String}
    (stored : Stored system after event line) (lossless : (contentIn system event).Lossless) :
    (contentIn after event).listed = contentIn after event := by
  obtain ⟨-, moment, entries, -, payload, closed⟩ := stored
  obtain ⟨known, holds, -⟩ := (lossless.plain moment).payload
  have same := congrArg Event.payload lossless.listed
  rw [contentIn_of_stored closed]
  rw [Event.listed] at same ⊢
  have kept : Datum.listedEntries entries = entries := by
    rcases holds with shape | shape <;> dsimp only at shape <;> rw [shape] at payload same <;>
      cases payload
    · exact Datum.mapping.inj same
    · exact Datum.frozen.inj same
  rw [Datum.listed, kept]

/-- The lines of a batch of plain events give back what its events show from then on. -/
theorem StoredBatch.linesOf {system after : System D} {path : Path} {octets : List UInt8}
    {events : List (Ref .event)} {lines : List String}
    (batch : StoredBatch system after path octets events lines)
    (plain : ∀ event ∈ events, ∀ moment,
      ({ contentIn system event with persistedAt := .moment moment } : Event).IsPlain) :
    ∃ contents, List.Forall₂ LogFile.LineOf lines contents ∧
      contents.map Event.closed = events.map fun event => (contentIn after event).listed := by
  have stored := batch.stored
  clear batch
  induction stored with
  | nil => exact ⟨[], .nil, rfl⟩
  | @cons event line events lines first _ ih =>
      obtain ⟨content, lineOf, closed⟩ := first.lineOf (plain event (by simp))
      obtain ⟨contents, all, same⟩ := ih fun other member => plain other (.tail _ member)
      exact ⟨content :: contents, .cons lineOf all, by rw [List.map_cons, closed, same]; rfl⟩

/-- A batch of plain events that is stored behind a seamless log adds what its events show
to the contents. -/
theorem StoredBatch.contents {system after : System D} {path : Path} {octets : List UInt8}
    {events : List (Ref .event)} {lines : List String}
    (batch : StoredBatch system after path octets events lines)
    (plain : ∀ event ∈ events, ∀ moment,
      ({ contentIn system event with persistedAt := .moment moment } : Event).IsPlain)
    (seamless : LogFile.Seamless octets) {described : List Event}
    (shown : LogFile.eventsOf? (LogFile.records octets) = some described) :
    ∃ contents, LogFile.eventsOf? (LogFile.records
        (octets ++ lines.flatMap LogFile.encodeLine)) = some (described ++ contents) ∧
      contents.map Event.closed = events.map fun event => (contentIn after event).listed := by
  obtain ⟨contents, lineOf, same⟩ := batch.linesOf plain
  exact ⟨contents, LogFile.eventsOf?_append_lines seamless shown lineOf, same⟩

theorem StoredBatch.contents_of_lossless {system after : System D} {path : Path}
    {octets : List UInt8} {events : List (Ref .event)} {lines : List String}
    (batch : StoredBatch system after path octets events lines)
    (lossless : ∀ event ∈ events, (contentIn system event).Lossless)
    (seamless : LogFile.Seamless octets) {described : List Event}
    (shown : LogFile.eventsOf? (LogFile.records octets) = some described) :
    ∃ contents, LogFile.eventsOf? (LogFile.records
        (octets ++ lines.flatMap LogFile.encodeLine)) = some (described ++ contents) ∧
      contents.map Event.closed = events.map (contentIn after) := by
  obtain ⟨contents, longer, same⟩ :=
    batch.contents (fun event member => (lossless event member).plain) seamless shown
  refine ⟨contents, longer, same.trans (List.map_congr_left fun event member => ?_)⟩
  obtain ⟨line, stored⟩ := batch.of_mem member
  exact stored.listed (lossless event member)

end DiskStore

end EventSourcing
