import EventSourcing.Proofs.Event.RecordRoundTrip
import EventSourcing.Proofs.Store.DiskAppend
import EventSourcing.Proofs.Store.DiskReplay
import EventSourcing.Proofs.Store.MemoryLaws

/-!
# The store on disk refines the store in memory

Batches stored through any stores on one log, from a log without events on, are handed
over by a replay as a store in memory hands over equal batches: the same events in the
same order, none of them open. The log describes the contents of the events stored so far;
every call adds those of its batch.
-/

set_option autoImplicit false

namespace EventSourcing

variable {D : Domain}

namespace DiskStore

open LiveEvent (contentIn)

inductive LogCall where
  | touch
  | append (store : Ref .store) (events : List (Ref .event))

def LogCall.batch? : LogCall → Option (List (Ref .event))
  | .touch => none
  | .append _ events => some events

def LogCall.run (handlers : Handlers D) (path : Path) : LogCall → Act D Unit
  | .touch => DiskStore.touch path
  | .append store events => Store.append handlers store events

/-- An open event that a log gives back, whenever it is stored. -/
structure Storable (system : System D) (event : Ref .event) : Prop where
  intact : (system.events.get event).Intact
  unsealed : (system.events.get event).isSealed = false
  plain : ∀ moment, ({ contentIn system event with persistedAt := .moment moment } :
    Event).IsPlain

/-- The contents are what the log gives back of an event, stored at some time. -/
def Recorded (system : System D) (event : Ref .event) (content : Event) : Prop :=
  ∃ moment,
    content = ({ contentIn system event with persistedAt := .moment moment } : Event).readBack

/-! ## One call -/

private theorem exists_lines {system : System D} {clock : Ref .clock}
    (shows : ∀ reading, ∃ moment, (system.clocks.get clock).readings reading = .ok moment)
    {events : List (Ref .event)} (storable : ∀ event ∈ events, Storable system event)
    (place : Nat) :
    ∃ lines contents, Written system clock place events lines none ∧
      List.Forall₂ (fun line content => LogFile.IsRecord line ∧
        LogFile.decodeLine (LogFile.encodeLine line) = .ok content) lines contents ∧
      List.Forall₂ (Recorded system) events contents := by
  induction events generalizing place with
  | nil => exact ⟨[], [], .done, .nil, .nil⟩
  | cons event events ih =>
      obtain ⟨lines, contents, written, described, recorded⟩ :=
        ih (fun other member => storable other (.tail _ member)) (place + 1)
      obtain ⟨moment, reading⟩ := shows ((system.clocks.get clock).taken + place)
      have known := storable event (by simp)
      obtain ⟨text, encoded, decoded⟩ := (known.plain moment).encode_eq
      have shown := Event.logLine_eq_ok_iff.mpr encoded
      have line : lineAt system clock place event = .ok text := by
        unfold lineAt
        dsimp only
        rw [reading]
        dsimp only
        rw [known.unsealed, shown]
        rfl
      have back : LogFile.decodeLine (LogFile.encodeLine text) =
          .ok ({ contentIn system event with persistedAt := .moment moment } : Event).readBack := by
        rw [LogFile.decodeLine_encodeLine]
        exact decoded [] ['\n'] (by simp) (List.forall_mem_singleton.mpr rfl)
      exact ⟨_, _, .line line written,
        .cons ⟨LogFile.isRecord_of_logLine shown, back⟩ described,
        .cons ⟨moment, rfl⟩ recorded⟩

/-- What calls leave alone: the stores, what the clocks will show, and the events that they
do not store. -/
structure Follows (system after : System D) (stored : List (Ref .event)) : Prop where
  stores : after.stores = system.stores
  mappings : after.mappings = system.mappings
  readings : ∀ clock, (after.clocks.get clock).readings = (system.clocks.get clock).readings
  others : ∀ event, event ∉ stored → after.events.get event = system.events.get event

theorem Follows.content {system after : System D} {stored : List (Ref .event)}
    (follows : Follows system after stored) {event : Ref .event} (fresh : event ∉ stored) :
    contentIn after event = contentIn system event :=
  LiveEvent.contentIn_of_get_eq (follows.others event fresh) follows.mappings

theorem Follows.storable {system after : System D} {stored : List (Ref .event)}
    (follows : Follows system after stored) {event : Ref .event} (fresh : event ∉ stored)
    (storable : Storable system event) : Storable after event := by
  have same := follows.others event fresh
  refine ⟨same ▸ storable.intact, same ▸ storable.unsealed, fun moment => ?_⟩
  rw [follows.content fresh]
  exact storable.plain moment

/-- The log at a path describes events that were stored, in order. -/
structure Holds (system after : System D) (path : Path) (stored : List (Ref .event))
    (octets : List UInt8) : Prop where
  follows : Follows system after stored
  describes : ∃ contents, LogFile.Describes octets contents ∧
    List.Forall₂ (Recorded system) stored contents

private theorem describes_append {octets : List UInt8} {contents further : List Event}
    {lines : List String} (describes : LogFile.Describes octets contents)
    (described : List.Forall₂ (fun line content => LogFile.IsRecord line ∧
      LogFile.decodeLine (LogFile.encodeLine line) = .ok content) lines further) :
    LogFile.Describes (octets ++ lines.flatMap LogFile.encodeLine) (contents ++ further) := by
  obtain ⟨known, rfl, all⟩ := describes
  exact ⟨known ++ lines, List.flatMap_append.symm, List.rel_append all described⟩

/-- A batch of storable events is stored by a clock that never fails. -/
theorem append_of_storable (handlers : Handlers D) {system : System D} {store : Ref .store}
    {path : Path} {clock : Ref .clock} {events : List (Ref .event)} {octets : List UInt8}
    (holds : system.stores.get store = .disk path clock) (opens : Opens system.files path octets)
    (shows : ∀ reading, ∃ moment, (system.clocks.get clock).readings reading = .ok moment)
    (distinct : events.Nodup) (storable : ∀ event ∈ events, Storable system event) :
    ∃ lines contents after, Store.append handlers store events system = (.ok (), after) ∧
      after.files.HasFile path (octets ++ lines.flatMap LogFile.encodeLine) ∧
      Follows system after events ∧
      List.Forall₂ (fun line content => LogFile.IsRecord line ∧
        LogFile.decodeLine (LogFile.encodeLine line) = .ok content) lines contents ∧
      List.Forall₂ (Recorded system) events contents := by
  obtain ⟨lines, contents, written, described, recorded⟩ := exists_lines shows storable 0
  obtain ⟨failure, after, ran, ends⟩ := written.append handlers holds opens distinct
    (fun event member => (storable event member).intact) nofun
  have all : events.take lines.length = events := by
    rcases written.ends with ⟨-, same⟩ | ⟨_, _, stops, _⟩
    · rw [same, List.take_length]
    · cases stops
  rw [all] at ends
  cases ends with
  | all appended =>
      refine ⟨lines, contents, _, ran, appended.file, ⟨appended.stores, appended.mappings,
        fun other => ?_, appended.others⟩, described, recorded⟩
      by_cases same : other = clock
      · subst same
        show (after.clocks.get other).readings = (system.clocks.get other).readings
        rw [appended.taken]
      · exact congrArg Clock.readings (appended.clocks other same)

private theorem Holds.append {handlers : Handlers D} {system middle : System D} {path : Path}
    {store : Ref .store} {clock : Ref .clock} {stored events : List (Ref .event)}
    {octets : List UInt8} (sofar : Holds system middle path stored octets)
    (opens : Opens middle.files path octets)
    (holds : system.stores.get store = .disk path clock)
    (shows : ∀ reading, ∃ moment, (system.clocks.get clock).readings reading = .ok moment)
    (distinct : (stored ++ events).Nodup) (storable : ∀ event ∈ events, Storable system event) :
    ∃ after further, Store.append handlers store events middle = (.ok (), after) ∧
      after.files.HasFile path (octets ++ further) ∧
      Holds system after path (stored ++ events) (octets ++ further) := by
  obtain ⟨-, distinctEvents, disjoint⟩ := List.nodup_append.mp distinct
  have fresh : ∀ event ∈ events, event ∉ stored := fun event member inside =>
    disjoint event inside event member rfl
  have follows := sofar.follows
  have storableHere : ∀ event ∈ events, Storable middle event := fun event member =>
    follows.storable (fresh event member) (storable event member)
  have holdsHere : middle.stores.get store = .disk path clock := by
    rw [follows.stores, holds]
  rw [← follows.readings clock] at shows
  obtain ⟨lines, contents, after, ran, file, behind, described, recorded⟩ :=
    append_of_storable handlers holdsHere opens shows distinctEvents storableHere
  refine ⟨after, lines.flatMap LogFile.encodeLine, ran, file, ?_, ?_⟩
  · refine ⟨behind.stores.trans follows.stores, behind.mappings.trans follows.mappings,
      fun other => (behind.readings other).trans (follows.readings other), ?_⟩
    intro event notStored
    rw [List.mem_append, not_or] at notStored
    exact (behind.others event notStored.2).trans (follows.others event notStored.1)
  · obtain ⟨known, describes, recordedBefore⟩ := sofar.describes
    have recordedNow : List.Forall₂ (Recorded system) events contents := by
      refine ((List.forall₂_and_left _ _).mpr ⟨fresh, recorded⟩).imp ?_
      rintro event content ⟨new, moment, shown⟩
      exact ⟨moment, by rw [shown, follows.content new]⟩
    exact ⟨known ++ contents, describes_append describes described,
      List.rel_append recordedBefore recordedNow⟩

private theorem Holds.touch {system middle : System D} {path : Path}
    {stored : List (Ref .event)} {octets : List UInt8}
    (sofar : Holds system middle path stored octets) (opens : Opens middle.files path octets) :
    ∃ after, DiskStore.touch path middle = (.ok (), after) ∧
      after.files.HasFile path octets ∧ Holds system after path stored octets := by
  obtain ⟨made, ran, there⟩ := opens.makeDirectories
  obtain ⟨files, touched, shown⟩ := FileTree.touch_eq_ok there
  have both : (do DiskStore.makeDirectories path; changeFiles (·.touch path)) middle =
      (.ok (), { middle with files }) := by
    rw [Act.bind_of_ok ran]
    exact changeFiles_of_ok { middle with files := made } touched
  refine ⟨{ middle with files }, ?_, shown, ?_, sofar.describes⟩
  · rw [DiskStore.touch, Act.bind_of_ok (Act.attempt_of_ok both)]
    rfl
  · exact ⟨sofar.follows.stores, sofar.follows.mappings, sofar.follows.readings,
      sofar.follows.others⟩

/-! ## A run of calls -/

def batches (calls : List LogCall) : List (List (Ref .event)) :=
  calls.filterMap LogCall.batch?

def Works (system : System D) (path : Path) (store : Ref .store) : Prop :=
  ∃ clock, system.stores.get store = .disk path clock ∧
    ∀ reading, ∃ moment, (system.clocks.get clock).readings reading = .ok moment

private theorem Holds.call (handlers : Handlers D) {system middle : System D} {path : Path}
    (call : LogCall) {stored : List (Ref .event)} {octets : List UInt8}
    (sofar : Holds system middle path stored octets) (opens : Opens middle.files path octets)
    (works : ∀ store events, call = .append store events → Works system path store)
    (distinct : (stored ++ call.batch?.getD []).Nodup)
    (storable : ∀ event ∈ call.batch?.getD [], Storable system event) :
    ∃ after all, call.run handlers path middle = (.ok (), after) ∧
      after.files.HasFile path all ∧
      Holds system after path (stored ++ call.batch?.getD []) all := by
  cases call with
  | touch =>
      obtain ⟨after, ran, there, held⟩ := sofar.touch opens
      refine ⟨after, octets, ran, there, ?_⟩
      rwa [LogCall.batch?, Option.getD_none, List.append_nil]
  | append store events =>
      obtain ⟨clock, holds, shows⟩ := works store events rfl
      obtain ⟨after, further, ran, there, held⟩ :=
        sofar.append opens holds shows distinct storable
      exact ⟨after, octets ++ further, ran, there, held⟩

theorem flatten_batches_cons (call : LogCall) (calls : List LogCall) :
    (batches (call :: calls)).flatten = call.batch?.getD [] ++ (batches calls).flatten := by
  cases call <;> rfl

/-- After calls the log describes the events of all batches, and it is there after the
first call. -/
private theorem Holds.run (handlers : Handlers D) {system middle : System D} {path : Path}
    {calls : List LogCall} {stored : List (Ref .event)} {octets : List UInt8}
    (sofar : Holds system middle path stored octets) (opens : Opens middle.files path octets)
    (works : ∀ store events, LogCall.append store events ∈ calls → Works system path store)
    (distinct : (stored ++ (batches calls).flatten).Nodup)
    (storable : ∀ event ∈ (batches calls).flatten, Storable system event) :
    ∃ after all, Act.forEach (LogCall.run handlers path) calls middle = (.ok (), after) ∧
      Holds system after path (stored ++ (batches calls).flatten) all ∧
      (calls ≠ [] ∨ middle.files.HasFile path octets → after.files.HasFile path all) := by
  -- The log may be missing before the first call, but never after one.
  induction calls generalizing middle stored octets with
  | nil =>
      refine ⟨middle, octets, rfl, ?_, fun there => there.resolve_left fun some => some rfl⟩
      rwa [batches, List.filterMap_nil, List.flatten_nil, List.append_nil]
  | cons call calls ih =>
      rw [flatten_batches_cons] at storable distinct ⊢
      rw [← List.append_assoc] at distinct ⊢
      obtain ⟨next, octets, ran, there, held⟩ := sofar.call handlers call
        opens (fun store events same => works store events (same ▸ List.mem_cons_self))
        (List.nodup_append.mp distinct).1
        fun event member => storable event (List.mem_append_left _ member)
      obtain ⟨after, all, rest, heldAll, stays⟩ := ih held (.inl there)
        (fun store events member => works store events (.tail _ member)) distinct
        fun event member => storable event (List.mem_append_right _ member)
      refine ⟨after, all, ?_, heldAll, fun _ => stays (.inr there)⟩
      rw [Act.forEach, Act.bind_of_ok ran, rest]

/-! ## What replays hand over -/

def MadeFrom (system : System D) (content : Event) (event : Ref .event) : Prop :=
  ∃ entries, content.payload = .mapping entries ∧
    system.events.get event = LiveEvent.sealedAs content entries

private theorem readBack_of_payload {event : Event} {entries : Entries}
    (holds : event.payload = .mapping entries ∨ event.payload = .frozen entries) :
    event.readBack = { event with payload := .mapping (Datum.listedEntries entries) } := by
  rcases holds with shape | shape <;> simp only [Event.readBack, shape]

private theorem Recorded.mapping {system : System D} {event : Ref .event} {content : Event}
    (recorded : Recorded system event content) (storable : Storable system event) :
    ∃ entries, content.payload = .mapping entries := by
  obtain ⟨moment, rfl⟩ := recorded
  obtain ⟨known, holds, -⟩ := (storable.plain moment).payload
  exact ⟨_, by rw [readBack_of_payload holds]⟩

private theorem Recorded.matchesStream {system : System D} {event : Ref .event}
    {content : Event} (recorded : Recorded system event content)
    (storable : Storable system event) (streamId : AnyText) :
    content.matchesStream streamId = (contentIn system event).matchesStream streamId := by
  obtain ⟨moment, rfl⟩ := recorded
  obtain ⟨known, holds, -⟩ := (storable.plain moment).payload
  rw [readBack_of_payload holds]
  rfl

/-- A replay that only collects makes one sealed event for every event recorded that
matches, and changes none that were there. -/
private theorem replayContents_collect {disk : System D} (streamId : AnyText)
    {events : List (Ref .event)} {contents : List Event}
    (recorded : List.Forall₂ (Recorded disk) events contents)
    (storable : ∀ event ∈ events, Storable disk event) (seen : List (Ref .event))
    (system : System D) :
    ∃ made after, replayContents streamId Store.collect seen contents system =
        (.ok (seen ++ made), after) ∧
      List.Forall₂ (fun event made =>
          ∃ content, Recorded disk event content ∧ MadeFrom after content made)
        (events.filter fun event => (contentIn disk event).matchesStream streamId) made ∧
      ∀ event, event.index < system.events.nextRef.index →
        after.events.get event = system.events.get event := by
  induction recorded generalizing seen system with
  | nil => exact ⟨[], system, by rw [List.append_nil]; rfl, .nil, fun _ _ => rfl⟩
  | @cons event content events contents first _ ih =>
      have known := storable event (by simp)
      have rest := ih fun other member => storable other (.tail _ member)
      rw [replayContents, Act.fold, List.filter_cons, ← first.matchesStream known]
      by_cases matching : content.matchesStream streamId = true
      · obtain ⟨entries, holds⟩ := first.mapping known
        obtain ⟨opened, next, created, closed, shown, size, -⟩ :=
          LiveEvent.create_sealEvent holds system
        have step : replayLine streamId seen Store.collect (some content) system =
            (.ok (seen ++ [system.events.nextRef]), next) := by
          rw [replayLine, if_pos matching, Act.bind_of_ok created, Act.bind_of_ok closed]
          rfl
        obtain ⟨made, after, ran, all, kept⟩ := rest (seen ++ [system.events.nextRef]) next
        refine ⟨system.events.nextRef :: made, after, ?_, ?_, fun other before => ?_⟩
        · rw [List.append_assoc, List.singleton_append] at ran
          rw [Act.bind_of_ok step]
          exact ran
        · rw [if_pos matching]
          refine .cons ⟨content, first, entries, holds, ?_⟩ all
          rw [kept _ (by omega), shown, if_pos rfl]
        · have different : system.events.nextRef ≠ other := by
            rintro rfl
            exact absurd before (Nat.lt_irrefl _)
          rw [kept other (by omega), shown, if_neg different]
      · have step : replayLine streamId seen Store.collect (some content) system =
            (.ok seen, system) := by
          rw [replayLine, if_neg matching]
          rfl
        obtain ⟨made, after, ran, all, kept⟩ := rest seen system
        refine ⟨made, after, ?_, ?_, kept⟩
        · rw [Act.bind_of_ok step]
          exact ran
        · rwa [if_neg matching]

/-- The event that was read from a log and the one that was kept in memory: equal in name,
stream, id, time of occurrence and payload, lists standing for tuples in the one read, and
both sealed. -/
structure SameEvent (disk : System D) (read : Ref .event) (memory : System D)
    (kept : Ref .event) : Prop where
  name : (contentIn disk read).name = (contentIn memory kept).name
  streamId : (contentIn disk read).streamId = (contentIn memory kept).streamId
  id : (contentIn disk read).id = (contentIn memory kept).id
  occurredOn : (contentIn disk read).occurredOn = (contentIn memory kept).occurredOn
  payload : (contentIn disk read).payload = (contentIn memory kept).payload.listed
  readSealed : (disk.events.get read).isSealed = true
  keptSealed : (memory.events.get kept).isSealed = true

/-- An open event in memory with the contents of one that is stored on disk. -/
structure IsCopy (disk : System D) (event : Ref .event) (memory : System D)
    (copy : Ref .event) : Prop where
  intact : (memory.events.get copy).Intact
  unsealed : (memory.events.get copy).isSealed = false
  content : contentIn memory copy = contentIn disk event

private theorem sameEvent_of_madeFrom {disk after memory fed : System D}
    {event copy made : Ref .event} {content : Event} (storable : Storable disk event)
    (recorded : Recorded disk event content) (madeFrom : MadeFrom after content made)
    (isCopy : IsCopy disk event memory copy) (only : LiveEvent.SealsOnly memory fed)
    (isSealed : (fed.events.get copy).isSealed = true) : SameEvent after made fed copy := by
  obtain ⟨moment, shown⟩ := recorded
  obtain ⟨entries, payload, new⟩ := madeFrom
  obtain ⟨known, holds, -⟩ := (storable.plain moment).payload
  have listed : Datum.listedEntries known = entries := by
    rw [shown, readBack_of_payload holds] at payload
    exact Datum.mapping.inj payload
  have read := LiveEvent.contentIn_sealedAs new
  rw [shown, readBack_of_payload holds, ← listed] at read
  have kept : contentIn fed copy = { contentIn disk event with payload := .frozen known } := by
    rcases only.events copy with same | ⟨closing, entered, closed⟩
    · rw [same, isCopy.unsealed] at isSealed
      cases isSealed
    · rw [isCopy.content] at entered
      have same : closing = known := by
        rcases holds with shape | shape <;> dsimp only at shape <;> rw [shape] at entered <;>
          exact (Except.ok.inj entered).symm
      rw [LiveEvent.contentIn_of_closed closed, isCopy.content, same]
  refine ⟨?_, ?_, ?_, ?_, ?_, ?_, isSealed⟩
  · rw [read, kept]
  · rw [read, kept]
  · rw [read, kept]
  · rw [read, kept]
  · rw [read, kept]
    rfl
  · rw [new]
    rfl

private theorem IsCopy.closable {disk memory : System D} {event copy : Ref .event}
    (isCopy : IsCopy disk event memory copy) (storable : Storable disk event) :
    LiveEvent.Closable memory copy := by
  refine ⟨isCopy.intact.closes, isCopy.intact.present _, ?_⟩
  obtain ⟨known, holds, -⟩ := (storable.plain .unixEpoch).payload
  rw [isCopy.content]
  refine ⟨known, ?_⟩
  rcases holds with shape | shape <;> dsimp only at shape <;> rw [shape] <;> rfl

/-- From a log without events on, calls of stores on it leave a log whose replay hands over
the events that a store in memory hands over after it was given copies of the same
batches: as many in the same order, the same one by one. They are the copies, in order, of
all events, or of those of the stream asked for. -/
theorem replay_refines_memory (handlers : Handlers D) {disk memory : System D} {path : Path}
    {calls : List LogCall} {reader kept : Ref .store} {copy : Ref .event → Ref .event}
    (opens : Opens disk.files path []) (some : calls ≠ [])
    (works : ∀ store events, LogCall.append store events ∈ calls → Works disk path store)
    (reads : ∃ clock, disk.stores.get reader = .disk path clock)
    (distinct : (batches calls).flatten.Nodup)
    (storable : ∀ event ∈ (batches calls).flatten, Storable disk event)
    (empty : memory.stores.get kept = .memory [])
    (copies : ∀ event ∈ (batches calls).flatten, IsCopy disk event memory (copy event))
    (streamId : AnyText) :
    ∃ stored read after fed held,
      Act.forEach (LogCall.run handlers path) calls disk = (.ok (), stored) ∧
      Store.replay handlers reader streamId [] Store.collect stored = (.ok read, after) ∧
      Act.forEach (fun batch => Store.append handlers kept (batch.map copy)) (batches calls)
        memory = (.ok (), fed) ∧
      Store.replay handlers kept streamId [] Store.collect fed = (.ok held, fed) ∧
      List.Forall₂ (fun read held => SameEvent after read fed held) read held ∧
      held = ((batches calls).flatten.map copy).filter (fun event =>
        (contentIn memory event).matchesStream streamId) ∧
      ∀ event ∈ (batches calls).flatten, copy event ∈ held ↔
        streamId = Event.allStreams ∨ (contentIn disk event).streamId = .text streamId := by
  have start : Holds disk disk path [] [] :=
    ⟨⟨rfl, rfl, fun _ => rfl, fun _ _ => rfl⟩, [], ⟨[], rfl, .nil⟩, .nil⟩
  obtain ⟨stored, octets, ran, holds, stays⟩ :=
    start.run handlers opens works distinct storable
  rw [List.nil_append] at holds
  obtain ⟨contents, describes, recorded⟩ := holds.describes
  obtain ⟨clock, onDisk⟩ := reads
  have sameStore : stored.stores.get reader = .disk path clock := by
    rw [holds.follows.stores, onDisk]
  obtain ⟨read, after, collected, made, -⟩ :=
    replayContents_collect streamId recorded storable [] stored
  have keeps : ∀ seen event,
      Act.Keeps (SameLog path octets) (Store.collect (D := D) seen event) :=
    fun seen event => Act.keeps_pure (seen ++ [event])
  have replayed := replay_of_describes streamId keeps [] (stays (.inl some)) describes
  have flat : ((batches calls).map (·.map copy)).flatten = (batches calls).flatten.map copy :=
    List.map_flatten.symm
  have closable : ∀ event ∈ ((batches calls).map (·.map copy)).flatten,
      LiveEvent.Closable memory event := by
    rw [flat, List.forall_mem_map]
    exact fun event member => (copies event member).closable (storable event member)
  obtain ⟨fed, ranMemory, only, keptAll, isSealed⟩ :=
    MemoryStore.appendAll_of_closable handlers empty closable
  rw [flat] at keptAll isSealed
  rw [List.nil_append] at keptAll
  refine ⟨stored, read, after, fed, _, ran, ?_, ?_, MemoryStore.replay_collect keptAll streamId,
    ?_, ?_, fun event member => ?_⟩
  · rw [store_replay sameStore, replayed, collected, List.nil_append]
  · rw [← Act.forEach_map]
    exact ranMemory
  · have chosen : ((batches calls).flatten.map copy).filter
        (fun event => (contentIn fed event).matchesStream streamId) =
        ((batches calls).flatten.filter fun event =>
          (contentIn disk event).matchesStream streamId).map copy := by
      rw [List.filter_map]
      congr 1
      refine List.filter_congr fun event member => ?_
      rw [Function.comp_apply, only.matchesStream, (copies event member).content]
    rw [chosen, List.forall₂_map_right_iff]
    refine ((List.forall₂_and_left _ _).mpr ⟨fun event member => List.mem_of_mem_filter member,
      made⟩).flip.imp ?_
    rintro new event ⟨member, content, first, second⟩
    exact sameEvent_of_madeFrom (storable event member) first second (copies event member) only
      (isSealed (copy event) (List.mem_map_of_mem member))
  · exact List.filter_congr fun event _ => only.matchesStream event streamId
  · rw [List.mem_filter, only.matchesStream, (copies event member).content,
      Event.matchesStream_iff]
    exact and_iff_right (List.mem_map_of_mem member)

/-- Three open events, two of one stream, and two stores on one missing file. -/
def twoStores : System Domain.bare :=
  let event (stream payload : String) : LiveEvent :=
    { name := .text "added", streamId := .text stream, id := .text "", occurredOn := .null
      persistedAt := .null, payload := .own (.mapping [(.text "v\n", .tuple [.text payload])]) }
  { events := ⟨#[event "a" "first", event "b" "\u2028", event "a" ""]⟩
    stores := ⟨#[.disk ⟨["log"]⟩ ⟨0⟩, .disk ⟨["log"]⟩ ⟨1⟩]⟩
    domain := () }

def oneMemory : System Domain.bare :=
  { twoStores with stores := ⟨#[.memory []]⟩ }

private theorem storable_twoStores (event : Ref .event) (inside : event.index < 3) :
    Storable twoStores event := by
  obtain ⟨index⟩ := event
  have cases : index = 0 ∨ index = 1 ∨ index = 2 := by
    dsimp only at inside
    omega
  rcases cases with rfl | rfl | rfl <;>
    exact
      { intact := ⟨rfl, rfl, rfl⟩
        unsealed := rfl
        plain := fun moment =>
          { name := ⟨_, rfl⟩
            streamId := ⟨_, rfl⟩
            id := ⟨_, rfl⟩
            occurredOn := .inl rfl
            persistedAt := .inr ⟨_, rfl⟩
            payload := ⟨_, .inl rfl, .mapping (by simp) (by simp)
              (by simp only [List.forall_mem_cons]
                  exact ⟨.tuple (by simp [Datum.Plain.text]), by simp⟩)⟩ } }

theorem replay_refines_memory_twoStores :
    let calls : List LogCall := [.append ⟨0⟩ [⟨0⟩], .touch, .append ⟨1⟩ [⟨1⟩, ⟨2⟩]]
    ∃ stored read after fed held,
      Act.forEach (LogCall.run Handlers.bare ⟨["log"]⟩) calls twoStores = (.ok (), stored) ∧
      Store.replay Handlers.bare ⟨1⟩ "a" [] Store.collect stored = (.ok read, after) ∧
      Act.forEach (fun batch => Store.append Handlers.bare ⟨0⟩ (batch.map id)) (batches calls)
        oneMemory = (.ok (), fed) ∧
      Store.replay Handlers.bare ⟨0⟩ "a" [] Store.collect fed = (.ok held, fed) ∧
      List.Forall₂ (fun read held => SameEvent after read fed held) read held ∧
      held = ((batches calls).flatten.map id).filter (fun event =>
        (contentIn oneMemory event).matchesStream "a") ∧
      ∀ event ∈ (batches calls).flatten, id event ∈ held ↔
        "a" = Event.allStreams ∨ (contentIn twoStores event).streamId = .text "a" := by
  intro calls
  have inside : ∀ event ∈ (batches calls).flatten, event.index < 3 := by decide
  refine replay_refines_memory Handlers.bare (.inr ⟨rfl, .empty, rfl, rfl⟩) (by simp [calls])
    (fun store events member => ?_) ⟨⟨1⟩, rfl⟩ (by decide)
    (fun event member => storable_twoStores event (inside event member)) rfl
    (fun event member => ?_) "a"
  · simp only [calls, List.mem_cons, List.not_mem_nil, LogCall.append.injEq, or_false,
      reduceCtorEq, false_or] at member
    rcases member with ⟨rfl, -⟩ | ⟨rfl, -⟩
    · exact ⟨⟨0⟩, rfl, fun _ => ⟨_, rfl⟩⟩
    · exact ⟨⟨1⟩, rfl, fun _ => ⟨_, rfl⟩⟩
  · have known := storable_twoStores event (inside event member)
    exact ⟨known.intact, known.unsealed, rfl⟩

end DiskStore

end EventSourcing
