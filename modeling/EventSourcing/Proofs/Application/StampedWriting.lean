import EventSourcing.Proofs.Application.Committing
import EventSourcing.Proofs.Store.DiskAppend

/-!
# Times that are written to a log

An application whose store is on disk and shares its clock stamps the events of a batch one
after another, and the store stamps each event again before it writes the line. While the clock
does not go back, every line has a time of occurrence that is not after the time at which it was
stored, wherever the batch stops. An event that is published twice is stamped twice, and has the
later time also if its line is written first.
-/

set_option autoImplicit false

namespace EventSourcing

variable {D : Domain}

/-! ## Clocks that do not go back -/

/-- Both moments are on the time line, and the first is not behind the second. -/
def Moment.NotAfter (first second : Moment) : Prop :=
  ∃ earlier later, first.instant? = some earlier ∧ second.instant? = some later ∧ earlier ≤ later

theorem Moment.NotAfter.trans {first second third : Moment} (before : first.NotAfter second)
    (behind : second.NotAfter third) : first.NotAfter third := by
  obtain ⟨earlier, middle, start, inside, ordered⟩ := before
  obtain ⟨again, later, insideAgain, last, orderedAgain⟩ := behind
  obtain rfl : middle = again := Option.some.inj (inside.symm.trans insideAgain)
  exact ⟨earlier, later, start, last, Int.le_trans ordered orderedAgain⟩

namespace Clock

variable {clock : Clock} {moment earlier : Moment}

/-- From now on readings have an offset, unless they fail, and none is before an earlier one. -/
def Advances (clock : Clock) : Prop :=
  ∀ place later first second, clock.taken ≤ place → place ≤ later →
    clock.readings place = .ok first → clock.readings later = .ok second → first.NotAfter second

/-- No reading from now on is before a moment. -/
def Ahead (clock : Clock) (moment : Moment) : Prop :=
  ∀ place shown, clock.taken ≤ place → clock.readings place = .ok shown → moment.NotAfter shown

theorem Advances.read (advances : clock.Advances) : clock.read.2.Advances := by
  intro place later first second taken
  exact advances place later first second (Nat.le_of_succ_le taken)

theorem Ahead.read (ahead : clock.Ahead moment) : clock.read.2.Ahead moment := by
  intro place shown taken
  exact ahead place shown (Nat.le_of_succ_le taken)

theorem Advances.ahead_read (advances : clock.Advances) (reading : clock.read.1 = .ok moment) :
    clock.read.2.Ahead moment := by
  intro place shown taken
  exact advances clock.taken place moment shown (Nat.le_refl _) (Nat.le_of_succ_le taken) reading

theorem Ahead.notAfter (ahead : clock.Ahead earlier) (reading : clock.read.1 = .ok moment) :
    earlier.NotAfter moment :=
  ahead clock.taken moment (Nat.le_refl _) reading

end Clock

/-- A line of a log with the event that it was written for, the contents that it has, and the
times among them. -/
structure StampedLine where
  event : Ref .event
  content : Event
  text : String
  occurredOn : Moment
  persistedAt : Moment
  written : content.logLine = .ok text
  occurred : content.occurredOn = .moment occurredOn
  persisted : content.persistedAt = .moment persistedAt

def StampedLine.octets (lines : List StampedLine) : List UInt8 :=
  lines.flatMap fun line => LogFile.encodeLine line.text

namespace Application

open LiveEvent (changed ticked occurredAt stampedAt closedWith contentIn nextReading)

/-! ## The place of a log -/

/-- An application, its store, the path of its log and its clock. -/
structure Place where
  application : Ref .application
  store : Ref .store
  path : Path
  clock : Ref .clock

namespace Place

def log (place : Place) (system : System D) : List UInt8 :=
  (system.files.read place.path).toOption.getD []

def time (place : Place) (system : System D) : Clock :=
  system.clocks.get place.clock

/-- The application keeps its log on disk, where the file is there, and shares its clock with the
store. The clock does not go back. -/
structure Holds (place : Place) (system : System D) : Prop where
  store : (system.applications.get place.application).store = place.store
  clock : (system.applications.get place.application).clock = place.clock
  disk : system.stores.get place.store = .disk place.path place.clock
  touched : ∃ octets, system.files.HasFile place.path octets
  advances : (place.time system).Advances

theorem log_of_hasFile {place : Place} {system : System D} {octets : List UInt8}
    (file : system.files.HasFile place.path octets) : place.log system = octets := by
  rw [log, FileTree.hasFile_read.mpr file]
  rfl

theorem Holds.file {place : Place} {system : System D} (holds : place.Holds system) :
    system.files.HasFile place.path (place.log system) := by
  obtain ⟨octets, file⟩ := holds.touched
  rwa [log_of_hasFile file]

end Place

theorem Place.Holds.refiled {place : Place} {system : System D} {files : FileTree}
    {octets : List UInt8} (holds : place.Holds system) (file : files.HasFile place.path octets) :
    place.Holds { system with files } :=
  ⟨holds.store, holds.clock, holds.disk, ⟨octets, file⟩, holds.advances⟩

/-- Once the clock was read, it is ahead of the reading. -/
theorem Place.Holds.ahead_ticked {place : Place} {system : System D} {moment : Moment}
    (holds : place.Holds system) (reading : nextReading system place.clock = .ok moment) :
    (place.time (ticked system place.clock)).Ahead moment := by
  have time : place.time (ticked system place.clock) = (place.time system).read.2 :=
    (LiveEvent.get_ticked _ _ _).trans (if_pos rfl)
  rw [time]
  exact holds.advances.ahead_read reading

/-- Time passes, and the log stays as it is. -/
structure Elapsed (place : Place) (before after : System D) : Prop where
  log : place.log after = place.log before
  ahead : ∀ moment, (place.time before).Ahead moment → (place.time after).Ahead moment

instance (place : Place) : Act.Frame (Elapsed (D := D) place) where
  refl _ := ⟨rfl, fun _ ahead => ahead⟩
  trans first second :=
    ⟨second.log.trans first.log, fun moment ahead => second.ahead moment (first.ahead moment ahead)⟩

/-- The place of the log is kept while time passes. -/
abbrev Elapses (place : Place) : System D → System D → Prop :=
  Act.Under place.Holds (Elapsed place)

section Elapsing

variable {place : Place} {before after : System D}

/-- What leaves files and clocks as they are, and the application with its store. -/
theorem elapses_of_same (applications : after.applications = before.applications)
    (held : place.Holds before → after.stores.get place.store = before.stores.get place.store)
    (files : after.files = before.files) (clocks : after.clocks = before.clocks) :
    Elapses place before after := by
  intro holds
  have time : place.time after = place.time before := by
    rw [Place.time, Place.time, clocks]
  refine ⟨?_, ?_, ?_⟩
  · constructor
    · rw [applications]
      exact holds.store
    · rw [applications]
      exact holds.clock
    · rw [held holds]
      exact holds.disk
    · rw [files]
      exact holds.touched
    · rw [time]
      exact holds.advances
  · rw [Place.log, Place.log, files]
  · rw [time]
    exact fun _ ahead => ahead

theorem elapses_ticked (clock : Ref .clock) (system : System D) :
    Elapses place system (ticked system clock) := by
  intro holds
  have time : place.time (ticked system clock) =
      if clock = place.clock then (place.time system).read.2 else place.time system := by
    rw [Place.time, LiveEvent.get_ticked]
    split
    · rename_i same
      rw [same]
      rfl
    · rfl
  refine ⟨⟨holds.store, holds.clock, holds.disk, holds.touched, ?_⟩, rfl, fun moment ahead => ?_⟩
  · rw [time]
    split
    · exact holds.advances.read
    · exact holds.advances
  · rw [time]
    split
    · exact ahead.read
    · exact ahead

instance (place : Place) : Discreet (Elapses (D := D) place) where
  newFault _ _ := elapses_of_same rfl (fun _ => rfl) rfl rfl
  logRecord _ _ _ _ := elapses_of_same rfl (fun _ => rfl) rfl rfl
  noteCall _ _ _ := elapses_of_same rfl (fun _ => rfl) rfl rfl
  ticked := elapses_ticked
  newParameter _ _ := elapses_of_same rfl (fun _ => rfl) rfl rfl
  changeCommand _ _ _ _ := elapses_of_same rfl (fun _ => rfl) rfl rfl
  changeAggregate _ _ _ _ _ _ := elapses_of_same rfl (fun _ => rfl) rfl rfl
  restamp _ _ _ _ := elapses_of_same rfl (fun _ => rfl) rfl rfl
  publishWith receiver system := by
    refine elapses_of_same rfl (fun holds => ?_) rfl rfl
    -- The buffer that is made is not the store on disk: that one is there already.
    refine (Table.get_push _ _ _).trans (if_neg ?_)
    intro same
    have disk := holds.disk
    rw [← same, Table.get_nextRef] at disk
    cases disk

end Elapsing

/-! ## Lines that the store writes -/

/-- Some lines are added to the log, each with the time at which it is stored, while time
passes. -/
structure Adds (place : Place) (lines : List StampedLine) (before after : System D) : Prop where
  holds : place.Holds after
  log : place.log after = place.log before ++ StampedLine.octets lines
  ahead : ∀ moment, (place.time before).Ahead moment → (place.time after).Ahead moment
  since : ∀ line ∈ lines, ∀ moment, (place.time before).Ahead moment →
    moment.NotAfter line.persistedAt
  past : ∀ line ∈ lines, (place.time after).Ahead line.persistedAt
  persisted : lines.Pairwise fun line later => line.persistedAt.NotAfter later.persistedAt

def occurrence (system : System D) (event : Ref .event) : Datum :=
  (system.events.get event).occurredOn

/-- Time passes, the log stays as it is, and no event gets another time of occurrence. -/
abbrev Waits (place : Place) : System D → System D → Prop :=
  Act.Both (Elapses place) (Act.Same occurrence)

/-- The store has written some lines, with the times at which their events have occurred. -/
structure Writes (place : Place) (lines : List StampedLine) (before after : System D) : Prop
    extends Adds place lines before after where
  occurrence : occurrence after = occurrence before
  occurred : ∀ line ∈ lines, Application.occurrence before line.event = .moment line.occurredOn

section Writing

variable {place : Place} {before middle after system : System D}
  {lines more : List StampedLine} {event : Ref .event} {events : List (Ref .event)}

theorem Elapses.adds (elapses : Elapses place before after) (holds : place.Holds before) :
    Adds place [] before after := by
  obtain ⟨holdsAfter, elapsed⟩ := elapses holds
  refine ⟨holdsAfter, ?_, elapsed.ahead, by simp, by simp, .nil⟩
  rw [elapsed.log]
  exact (List.append_nil _).symm

theorem Adds.trans (first : Adds place lines before middle)
    (second : Adds place more middle after) : Adds place (lines ++ more) before after where
  holds := second.holds
  log := by
    rw [second.log, first.log, List.append_assoc, StampedLine.octets, StampedLine.octets,
      StampedLine.octets, List.flatMap_append]
  ahead moment known := second.ahead moment (first.ahead moment known)
  since line member moment known := by
    rcases List.mem_append.mp member with earlier | later
    · exact first.since line earlier moment known
    · exact second.since line later moment (first.ahead moment known)
  past line member := by
    rcases List.mem_append.mp member with earlier | later
    · exact second.ahead _ (first.past line earlier)
    · exact second.past line later
  persisted := by
    refine List.pairwise_append.mpr ⟨first.persisted, second.persisted, ?_⟩
    intro line earlier other later
    exact second.since other later _ (first.past line earlier)

theorem Waits.writes (waits : Waits place before after) (holds : place.Holds before) :
    Writes place [] before after :=
  ⟨Elapses.adds waits.1 holds, waits.2, by simp⟩

theorem Writes.trans (first : Writes place lines before middle)
    (second : Writes place more middle after) : Writes place (lines ++ more) before after where
  toAdds := first.toAdds.trans second.toAdds
  occurrence := second.occurrence.trans first.occurrence
  occurred line member := by
    rcases List.mem_append.mp member with earlier | later
    · exact first.occurred line earlier
    · rw [← first.occurrence]
      exact second.occurred line later

theorem waits_of_same (applications : after.applications = before.applications)
    (stores : after.stores = before.stores) (files : after.files = before.files)
    (clocks : after.clocks = before.clocks) (events : after.events = before.events) :
    Waits place before after := by
  constructor
  · exact elapses_of_same applications (fun _ => by rw [stores]) files clocks
  · funext event
    rw [occurrence, occurrence, events]

theorem waits_newFault (fault : Fault) : Act.Keeps (Waits (D := D) place) (Act.newFault fault) :=
  fun _ => waits_of_same rfl rfl rfl rfl rfl

theorem waits_changed (event : Ref .event) (edit : LiveEvent → LiveEvent)
    (occurredOn : ∀ known, (edit known).occurredOn = known.occurredOn) (system : System D) :
    Waits place system (changed system event edit) := by
  refine ⟨elapses_of_same rfl (fun _ => rfl) rfl rfl, ?_⟩
  funext other
  rw [occurrence, LiveEvent.get_changed]
  split
  · rename_i same
    rw [occurredOn, same]
    rfl
  · rfl

theorem waits_persist (event : Ref .event) (clock : Ref .clock) :
    Act.Keeps (Waits (D := D) place) (LiveEvent.persist event clock) :=
  LiveEvent.keeps_persist waits_newFault (fun system => ⟨elapses_ticked clock system, rfl⟩)
    fun moment system _ => waits_changed event (stampedAt moment) (fun _ => rfl) system

theorem waits_sealEvent (event : Ref .event) :
    Act.Keeps (Waits (D := D) place) (LiveEvent.sealEvent event) :=
  LiveEvent.keeps_sealEvent waits_newFault fun entries system =>
    waits_changed event (closedWith entries) (fun _ => rfl) system

/-- A line that is written for an event behind the log has the contents that the event has by
then, with the last reading of the clock. -/
private theorem writes_line {moment occurredOn : Moment} {line : String} {files : FileTree}
    (holds : place.Holds system) (dated : occurrence system event = .moment occurredOn)
    (reading : nextReading system place.clock = .ok moment)
    (encoded : (contentIn (changed (ticked system place.clock) event (stampedAt moment))
      event).logLine = .ok line)
    (file : files.HasFile place.path (place.log system ++ LogFile.encodeLine line)) :
    ∃ written : StampedLine, written.event = event ∧
      Writes place [written] system
        { changed (ticked system place.clock) event (stampedAt moment) with files } := by
  have ticks : Waits place system (ticked system place.clock) :=
    ⟨elapses_ticked place.clock system, rfl⟩
  have stamps : Waits place system _ := Act.Frame.trans ticks
    (waits_changed event (stampedAt moment) (fun _ => rfl) (ticked system place.clock))
  obtain ⟨holdsStamped, elapsed⟩ := stamps.1 holds
  rw [LiveEvent.contentIn_stamped] at encoded
  let written : StampedLine :=
    { event, content := { contentIn system event with persistedAt := .moment moment }
      text := line, occurredOn, persistedAt := moment, written := encoded, occurred := dated
      persisted := rfl }
  refine ⟨written, rfl, ?_⟩
  refine ⟨⟨holdsStamped.refiled file, ?_, elapsed.ahead, ?_, ?_, ?_⟩, stamps.2, ?_⟩
  · rw [Place.log_of_hasFile file]
    exact congrArg _ (List.append_nil _).symm
  · exact List.forall_mem_singleton.mpr fun earlier ahead => ahead.notAfter reading
  · exact List.forall_mem_singleton.mpr (holds.ahead_ticked reading)
  · exact List.pairwise_singleton _ _
  · exact List.forall_mem_singleton.mpr dated

/-- For an event at most one line is written, and one if the store goes on. -/
private theorem appendEvent_writes (holds : place.Holds system)
    (dated : ∃ moment, occurrence system event = .moment moment) :
    ∃ lines, Writes place lines system
        (DiskStore.appendEvent place.path place.clock event system).2 ∧
      lines.map (·.event) <+: [event] ∧
      ((DiskStore.appendEvent place.path place.clock event system).1 = .ok () →
        lines.map (·.event) = [event]) := by
  obtain ⟨occurredOn, dated⟩ := dated
  have stamps : Waits place system _ := waits_persist event place.clock system
  rcases persists : LiveEvent.persist event place.clock system with ⟨halt | _, stamped⟩
  · rw [persists] at stamps
    rw [DiskStore.appendEvent, Act.bind_of_error persists]
    exact ⟨[], stamps.writes holds, List.nil_prefix, fun answer => by cases answer⟩
  obtain ⟨moment, reading, -, rfl⟩ := LiveEvent.persist_eq_ok persists
  rw [persists] at stamps
  rw [DiskStore.appendEvent, Act.bind_of_ok persists]
  have encodes : Waits place _ _ := LiveEvent.keeps_logLine waits_newFault event
    (changed (ticked system place.clock) event (stampedAt moment))
  rcases encoded : LiveEvent.logLine event
      (changed (ticked system place.clock) event (stampedAt moment)) with ⟨halt | line, kept⟩
  · rw [encoded] at encodes
    rw [Act.bind_of_error encoded]
    exact ⟨[], Waits.writes (Act.Frame.trans stamps encodes) holds, List.nil_prefix,
      fun answer => by cases answer⟩
  obtain ⟨rfl, shown⟩ := LiveEvent.logLine_eq_ok encoded
  obtain ⟨files, appended, file⟩ :=
    FileTree.append_eq_ok (.inl holds.file) (LogFile.encodeLine line)
  have changes : DiskStore.changeFiles (·.append place.path (LogFile.encodeLine line)) _ =
      (.ok (), { changed (ticked system place.clock) event (stampedAt moment) with files }) :=
    DiskStore.changeFiles_of_ok _ appended
  obtain ⟨written, same, writes⟩ := writes_line holds dated reading shown file
  have seals : Waits place _ _ := waits_sealEvent event
    { changed (ticked system place.clock) event (stampedAt moment) with files }
  rw [Act.bind_of_ok encoded, Act.bind_of_ok changes]
  refine ⟨[written] ++ [], writes.trans (seals.writes writes.holds), ?_, fun _ => ?_⟩
  · simp [same]
  · simp [same]

/-- The lines that are written for a batch are those of its first events. -/
private theorem appendEvents_writes (holds : place.Holds system)
    (dated : ∀ event ∈ events, ∃ moment, occurrence system event = .moment moment)
    (count : Nat) :
    ∃ lines, Writes place lines system
        (DiskStore.appendEvents place.path place.clock count events system).2 ∧
      lines.map (·.event) <+: events := by
  induction events generalizing system count with
  | nil => exact ⟨[], Waits.writes (Act.Frame.refl system) holds, List.nil_prefix⟩
  | cons event events ih =>
      obtain ⟨lines, writes, first, whole⟩ :=
        appendEvent_writes holds (dated event List.mem_cons_self)
      rcases ran : DiskStore.appendEvent place.path place.clock event system with
        ⟨halt | _, middle⟩
      · rw [ran] at writes
        have listed : lines.map (·.event) <+: event :: events :=
          first.trans ((List.prefix_append_right_inj [event]).mpr List.nil_prefix)
        let stops (outcome : Except Halt (Nat × Option (Ref .fault)) × System D) : Prop :=
          ∃ lines, Writes place lines system outcome.2 ∧ lines.map (·.event) <+: event :: events
        exact Act.bind_attempt_of_error (motive := stops) ran (fun _ => ⟨lines, writes, listed⟩)
          fun _ => ⟨lines, writes, listed⟩
      · rw [ran] at writes whole
        have later (other : Ref .event) (member : other ∈ events) :
            ∃ moment, occurrence middle other = .moment moment := by
          rw [writes.occurrence]
          exact dated other (.tail _ member)
        obtain ⟨more, continues, listed⟩ := ih writes.holds later (count + 1)
        refine ⟨lines ++ more, ?_, ?_⟩
        · rw [DiskStore.appendEvents, Act.bind_of_ok (Act.attempt_of_ok ran)]
          exact writes.trans continues
        · rw [List.map_append, whole rfl]
          exact (List.prefix_append_right_inj [event]).mpr listed

/-- However the storing of a batch ends, lines are written for its first events. -/
theorem append_writes (handlers : Handlers D) (holds : place.Holds system)
    (dated : ∀ event ∈ events, ∃ moment, occurrence system event = .moment moment) :
    ∃ lines, Writes place lines system (Store.append handlers place.store events system).2 ∧
      lines.map (·.event) <+: events := by
  let noted : System D :=
    { system with calls := system.calls.push (.storeEvents place.store events) }
  have opens : DiskStore.Opens noted.files place.path (place.log system) := .inl holds.file
  obtain ⟨files, opened, file⟩ := opens.openLog
  rw [DiskStore.store_append_disk holds.disk, DiskStore.append,
    Act.bind_of_ok (Act.attempt_of_ok opened)]
  have noting : Waits place system noted := waits_of_same rfl rfl rfl rfl rfl
  have there : place.Holds { noted with files } := (noting.1 holds).1.refiled file
  have opening : Waits place system { noted with files } :=
    ⟨fun _ => ⟨there, Place.log_of_hasFile file, fun _ ahead => ahead⟩, rfl⟩
  obtain ⟨lines, writes, listed⟩ := appendEvents_writes there dated 0
  have all := (opening.writes holds).trans writes
  rw [List.nil_append] at all
  rcases ran : DiskStore.appendEvents place.path place.clock 0 events { noted with files } with
    ⟨halt | ⟨written, failure⟩, last⟩
  · rw [ran] at all
    refine ⟨lines, ?_, listed⟩
    dsimp only
    rw [Act.bind_of_error ran]
    exact all
  · rw [ran] at all
    have ends : Waits place last _ :=
      DiskStore.keeps_conclude waits_newFault (fun _ _ _ _ => waits_of_same rfl rfl rfl rfl rfl)
        place.path written failure last
    refine ⟨lines ++ [], ?_, by rwa [List.append_nil]⟩
    dsimp only
    rw [Act.bind_of_ok ran]
    refine all.trans (Waits.writes ?_ all.holds)
    cases failure with
    | none => exact ends
    | some fault => exact ends

end Writing

/-! ## Batches -/

/-- Every event of a batch has the time of a reading that was taken for it. An event that was
published once is not dated after those behind it. -/
structure Dated (place : Place) (events : List (Ref .event)) (before after : System D) :
    Prop where
  dated : ∀ event ∈ events, ∃ moment, occurrence after event = .moment moment ∧
    (place.time after).Ahead moment ∧
    ∀ earlier, (place.time before).Ahead earlier → earlier.NotAfter moment
  ordered : events.Pairwise fun event later => events.count event ≤ 1 →
    ∀ first second, occurrence after event = .moment first →
      occurrence after later = .moment second → first.NotAfter second

/-- What an application has published for a command: the moment at which the command was
acknowledged, the events, and the lines that were written for them. -/
structure Batch where
  acknowledged : Moment
  events : List (Ref .event)
  lines : List StampedLine

/-- The lines of a batch are added, for events that have occurred since. -/
structure Commits (place : Place) (batch : Batch) (before after : System D) : Prop
    extends Adds place batch.lines before after where
  listed : batch.lines.map (·.event) <+: batch.events
  begun : ∀ line ∈ batch.lines, ∀ moment, (place.time before).Ahead moment →
    moment.NotAfter line.occurredOn
  stored : ∀ line ∈ batch.lines, line.occurredOn.NotAfter line.persistedAt
  within : batch.lines.Pairwise fun line later =>
    batch.events.count line.event ≤ 1 → line.occurredOn.NotAfter later.occurredOn

section Committing

variable {place : Place} {before middle after stamped system : System D} {event : Ref .event}
  {events : List (Ref .event)}

/-- An event is dated in front of others, which are dated later. If it is among them, it has the
time that it is given there. -/
private theorem Dated.cons {moment : Moment} (rest : Dated place events middle after)
    (ahead : ∀ earlier, (place.time before).Ahead earlier → (place.time middle).Ahead earlier)
    (reached : ∀ earlier, (place.time middle).Ahead earlier → (place.time after).Ahead earlier)
    (read : ∀ earlier, (place.time before).Ahead earlier → earlier.NotAfter moment)
    (past : (place.time middle).Ahead moment)
    (last : event ∉ events → occurrence after event = .moment moment) :
    Dated place (event :: events) before after where
  dated other member := by
    by_cases later : other ∈ events
    · obtain ⟨time, shown, passed, since⟩ := rest.dated other later
      exact ⟨time, shown, passed, fun earlier known => since earlier (ahead earlier known)⟩
    · obtain rfl := (List.mem_cons.mp member).resolve_right later
      exact ⟨moment, last later, reached moment past, read⟩
  ordered := by
    refine List.pairwise_cons.mpr ⟨fun other member once first second head shown => ?_, ?_⟩
    · have single : event ∉ events := by
        intro again
        have twice := List.count_pos_iff.mpr again
        rw [List.count_cons_self] at once
        omega
      rw [last single] at head
      cases head
      obtain ⟨time, known, -, since⟩ := rest.dated other member
      rw [known] at shown
      cases shown
      exact since moment past
    · exact rest.ordered.imp fun {first second} ordered once =>
        ordered (Nat.le_trans ((List.sublist_cons_self event events).count_le first) once)

/-- The first event of a batch that is stamped has the next reading. -/
private theorem stampEach_cons_eq_ok {logger : String} {clock : Ref .clock}
    (ran : stampEach logger clock (event :: events) system = (.ok (), after)) :
    ∃ moment log, nextReading system clock = .ok moment ∧
      stampEach logger clock events
        { changed (ticked system clock) event (occurredAt moment) with log } = (.ok (), after) := by
  obtain ⟨_, middle, first, rest⟩ := Act.bind_eq_ok ran
  obtain ⟨_, stamped, occurs, noted⟩ := Act.bind_eq_ok first
  obtain ⟨moment, reading, -, rfl⟩ := LiveEvent.occur_eq_ok occurs
  cases noted
  exact ⟨moment, _, reading, rest⟩

theorem stampEach_dated (holds : place.Holds system) {logger : String}
    (ran : stampEach logger place.clock events system = (.ok (), after)) :
    Dated place events system after := by
  induction events generalizing system with
  | nil => exact ⟨by simp, .nil⟩
  | cons event events ih =>
      obtain ⟨moment, log, reading, rest⟩ := stampEach_cons_eq_ok ran
      let middle : System D :=
        { changed (ticked system place.clock) event (occurredAt moment) with log }
      have stamps : Elapses place system middle :=
        Act.Frame.trans (elapses_ticked place.clock system)
          (elapses_of_same rfl (fun _ => rfl) rfl rfl)
      obtain ⟨holdsMiddle, elapsed⟩ := stamps holds
      have later : Elapses place middle _ := keeps_stampEach logger place.clock events middle
      rw [rest] at later
      have past : (place.time middle).Ahead moment := holds.ahead_ticked reading
      refine (ih holdsMiddle rest).cons elapsed.ahead (later holdsMiddle).2.ahead
        (fun earlier ahead => ahead.notAfter reading) past fun single => ?_
      rw [occurrence, (stampEach_eq_ok rest).others event single]
      exact congrArg LiveEvent.occurredOn
        ((LiveEvent.get_changed _ _ _ _).trans (if_pos rfl))

/-- A batch that is not stamped as a whole gets no lines. -/
private theorem Elapses.commits (elapses : Elapses place before after) (holds : place.Holds before)
    (acknowledged : Moment) (events : List (Ref .event)) :
    Commits place ⟨acknowledged, events, []⟩ before after :=
  ⟨elapses.adds holds, List.nil_prefix, by simp, by simp, .nil⟩

/-- A batch that is stamped gets the lines that the store writes. -/
private theorem Dated.commits {lines : List StampedLine} (dated : Dated place events before stamped)
    (stamps : Adds place [] before stamped) (writes : Writes place lines stamped after)
    (listed : lines.map (·.event) <+: events) (acknowledged : Moment) :
    Commits place ⟨acknowledged, events, lines⟩ before after := by
  -- The time of occurrence on a line is the one that its event was given by the stamping.
  have known (line : StampedLine) (member : line ∈ lines) :
      (place.time stamped).Ahead line.occurredOn ∧
        ∀ earlier, (place.time before).Ahead earlier → earlier.NotAfter line.occurredOn := by
    have among : line.event ∈ events := listed.subset (List.mem_map_of_mem member)
    obtain ⟨moment, shown, passed, since⟩ := dated.dated line.event among
    rw [writes.occurred line member] at shown
    cases shown
    exact ⟨passed, since⟩
  refine ⟨stamps.trans writes.toAdds, listed, fun line member => (known line member).2,
    fun line member => writes.since line member _ (known line member).1, ?_⟩
  have pairs := List.pairwise_map.mp (dated.ordered.sublist listed.sublist)
  refine pairs.imp_of_mem fun {line later} member laterMember ordered once => ?_
  exact ordered once _ _ (writes.occurred line member) (writes.occurred later laterMember)

/-- However committing a batch ends, its first events have their lines, with times in order. -/
theorem commit_commits (handlers : Handlers D) {application : Application D}
    (holds : place.Holds before) (store : application.store = place.store)
    (clock : application.clock = place.clock) (acknowledged : Moment)
    (events : List (Ref .event)) :
    ∃ lines, Commits place ⟨acknowledged, events, lines⟩ before
      (commit handlers application events before).2 := by
  have stamps : Elapses place before _ :=
    keeps_stampEach application.logger application.clock events before
  rcases ran : stampEach application.logger application.clock events before with
    ⟨halt | _, stamped⟩
  · rw [ran] at stamps
    rw [commit, Act.bind_of_error ran]
    exact ⟨[], stamps.commits holds acknowledged events⟩
  · rw [ran] at stamps
    rw [commit, Act.bind_of_ok ran, store]
    rw [clock] at ran
    have adds := stamps.adds holds
    have dated := stampEach_dated holds ran
    obtain ⟨lines, writes, listed⟩ := append_writes handlers adds.holds fun event member =>
      (dated.dated event member).imp fun _ known => known.1
    exact ⟨lines, dated.commits adds writes listed acknowledged⟩

end Committing

end Application

end EventSourcing
