import EventSourcing.Proofs.Store.Handover
import EventSourcing.Proofs.Store.StoredBatch

/-!
# Appending to a log that can be read

A log that a replay reads to its end, whoever wrote it, can be read to its end again after a
batch of plain events was appended, and gives the old events and then those of the batch, if
its last line has its end or is made of blanks that JSON allows in front of a value. Without
that condition the first line appended runs into the last one that was there, and neither of
them can be read any more.
-/

set_option autoImplicit false

namespace EventSourcing.DiskStore

variable {D : Domain}

open LiveEvent (contentIn KeepsClosed)

/-- A replay that only collects ends if and only if the log can be read, and collects events
that show the contents of the log. -/
theorem replay_collect (handlers : Handlers D) {system : System D} {store : Ref .store}
    {path : Path} {clock : Ref .clock} {octets : List UInt8}
    (holds : system.stores.get store = .disk path clock)
    (file : system.files.HasFile path octets) (streamId : AnyText) :
    let outcome := Store.replay handlers store streamId [] Store.collect system
    (∀ read, outcome.1 = .ok read → ∃ described,
      LogFile.eventsOf? (LogFile.records octets) = some described ∧
      read.map (contentIn outcome.2) =
        (described.map Event.closed).filter (·.matchesStream streamId)) ∧
    (∀ described, LogFile.eventsOf? (LogFile.records octets) = some described →
      ∃ read, outcome.1 = .ok read) ∧
    outcome.2.files = system.files ∧ outcome.2.stores = system.stores := by
  intro outcome
  have native : ∀ description, system.stores.get store ≠ .foreign description := by
    intro description foreign
    rw [holds] at foreign
    cases foreign
  obtain ⟨handed, replayed⟩ :=
    Store.replay_replayed handlers native streamId [] Store.collect
  rw [holds] at replayed
  have shown : (Store.disk (D := D) path clock).contents? system =
      (LogFile.eventsOf? (LogFile.records octets)).map (·.map Event.closed) := by
    rw [Store.contents?, FileTree.hasFile_read.mpr file]
  have complete := replayed.complete fun _ _ _ _ same => same
  rw [shown] at complete
  have offered {before given : System D} {event : Ref .event}
      (offers : Store.Offers (.disk path clock) before event given) :
      Act.Same (fun system => (system.files, system.stores)) before given := by
    rw [offers.same]
    rfl
  have same := (replayed.hands.relates offered (fun _ _ _ => rfl) fun _ _ => rfl).1
  have later : ∀ pair ∈ handed, KeepsClosed system pair.1 ∧ KeepsClosed pair.1 outcome.2 :=
    (replayed.hands.relates Store.Offers.keepsClosed (fun _ _ _ => Act.Frame.refl _)
      fun _ _ _ _ => rfl).2
  refine ⟨fun read ended => ?_, fun described known => ?_, congrArg Prod.fst same,
    congrArg Prod.snd same⟩
  · obtain ⟨contents, some, all⟩ := complete.all read ended
    obtain ⟨described, known, rfl⟩ := Option.map_eq_some_iff.mp some
    refine ⟨described, known, ?_⟩
    rw [replayed.hands.collect ended, List.nil_append, ← all, List.map_map]
    refine List.map_congr_left fun pair member => ?_
    obtain ⟨before, offers⟩ := replayed.hands.offered pair member
    exact (later pair member).2.contentIn_eq offers.closed
  · cases ended : outcome.1 with
    | ok read => exact ⟨read, rfl⟩
    | error halt =>
        obtain ⟨pair, -, state, halted⟩ :=
          complete.halted (described.map Event.closed) halt (by rw [known]; rfl) ended
        cases halted

/-- A log that a replay reads to its end, and that is seamless, is read to its end again once
a batch of plain events was stored behind it: first come the old events, then those of the
batch as they are from then on, with lists for tuples. -/
theorem replay_after_append (handlers : Handlers D) {reader read system after : System D}
    {store : Ref .store} {path : Path} {clock : Ref .clock} {octets : List UInt8}
    {events old : List (Ref .event)} (readerHolds : reader.stores.get store = .disk path clock)
    (readerFile : reader.files.HasFile path octets)
    (reads : Store.replay handlers store Event.allStreams [] Store.collect reader =
      (.ok old, read))
    (seamless : LogFile.Seamless octets)
    (holds : system.stores.get store = .disk path clock)
    (file : system.files.HasFile path octets)
    (plain : ∀ event ∈ events, ∀ moment,
      ({ contentIn system event with persistedAt := .moment moment } : Event).IsPlain)
    (stores : Store.append handlers store events system = (.ok (), after)) :
    ∃ again last, Store.replay handlers store Event.allStreams [] Store.collect after =
        (.ok again, last) ∧
      again.map (contentIn last) =
        old.map (contentIn read) ++ events.map fun event => (contentIn after event).listed := by
  have everything (contents : List Event) :
      contents.filter (·.matchesStream Event.allStreams) = contents :=
    List.filter_eq_self.mpr fun _ _ => rfl
  obtain ⟨ended, -, -, -⟩ := replay_collect handlers readerHolds readerFile Event.allStreams
  rw [reads] at ended
  obtain ⟨described, known, oldShown⟩ := ended old rfl
  obtain ⟨lines, batch, -⟩ := append_eq_ok holds file stores
  obtain ⟨contents, longer, shown⟩ := batch.contents plain seamless known
  have holdsAfter : after.stores.get store = .disk path clock := by
    rw [batch.same]
    exact holds
  obtain ⟨endedAgain, readable, -, -⟩ :=
    replay_collect handlers holdsAfter batch.file Event.allStreams
  obtain ⟨again, collected⟩ := readable _ longer
  obtain ⟨all, same, againShown⟩ := endedAgain again collected
  obtain rfl : described ++ contents = all := Option.some.inj (longer.symm.trans same)
  refine ⟨again, _, Prod.ext collected rfl, ?_⟩
  rw [everything] at oldShown againShown
  rw [againShown, List.map_append, shown, oldShown]

/-- A store on disk over a file of given octets, and an open event to be stored. -/
def overFile (octets : List UInt8) : System Domain.bare :=
  { events := ⟨#[{
      name := .text "added", streamId := .text "x", id := .text "", occurredOn := .null
      persistedAt := .null, payload := .own (.mapping [(.text "lines", .tuple [.int 1])]) }]⟩
    stores := ⟨#[.disk ⟨["log"]⟩ ⟨0⟩]⟩
    files := ⟨[(["log"], .file octets)]⟩
    domain := () }

/-- The line of another producer with its end, a blank line before it and blanks behind it. -/
def endedLog : List UInt8 :=
  Utf8.encode "\n\x7b\"Name\": \"a\"\x7d\n \t".toList

/-- The same line without its end. -/
def unendedLog : List UInt8 :=
  Utf8.encode "\x7b\"Name\": \"a\"\x7d".toList

theorem plain_overFile (octets : List UInt8) : ∀ event ∈ [(⟨0⟩ : Ref .event)],
    ∀ moment, ({ contentIn (overFile octets) event with persistedAt := .moment moment } :
      Event).IsPlain := by
  intro event member moment
  obtain rfl := List.mem_singleton.mp member
  exact
    { name := ⟨_, rfl⟩
      streamId := ⟨_, rfl⟩
      id := ⟨_, rfl⟩
      occurredOn := .inl rfl
      persistedAt := .inr ⟨_, rfl⟩
      payload := by
        refine ⟨_, .inl rfl, .mapping (by simp) (by simp) ?_⟩
        simp only [List.forall_mem_cons]
        refine ⟨.tuple ?_, by simp⟩
        simp only [List.forall_mem_cons]
        exact ⟨.int (by decide), by simp⟩ }

theorem overFile_holds (octets : List UInt8) :
    (overFile octets).stores.get ⟨0⟩ = .disk ⟨["log"]⟩ ⟨0⟩ :=
  rfl

theorem overFile_file (octets : List UInt8) :
    (overFile octets).files.HasFile ⟨["log"]⟩ octets :=
  FileTree.hasFile_read.mp rfl

theorem replay_after_append_endedLog :
    let replays := Store.replay Handlers.bare ⟨0⟩ Event.allStreams [] Store.collect
    ∃ read after again last, replays (overFile endedLog) = (.ok [⟨1⟩], read) ∧
      Store.append Handlers.bare ⟨0⟩ [⟨0⟩] (overFile endedLog) = (.ok (), after) ∧
      replays after = (.ok again, last) ∧
      again.map (contentIn last) =
        [contentIn read ⟨1⟩] ++ [(contentIn after ⟨0⟩).listed] := by
  intro replays
  have reads : replays (overFile endedLog) = (.ok [⟨1⟩], (replays (overFile endedLog)).2) :=
    Act.run_of_answer (by decide +kernel)
  have stores : Store.append Handlers.bare ⟨0⟩ [⟨0⟩] (overFile endedLog) =
      (.ok (), (Store.append Handlers.bare ⟨0⟩ [⟨0⟩] (overFile endedLog)).2) :=
    Act.run_of_answer (by decide +kernel)
  have seamless : LogFile.Seamless endedLog :=
    ⟨Utf8.encode "\n\x7b\"Name\": \"a\"\x7d\n".toList, [' ', '\t'], by decide +kernel,
      .inr (by decide +kernel), by simp⟩
  have holds := overFile_holds endedLog
  have file := overFile_file endedLog
  obtain ⟨again, last, replayed, shown⟩ := replay_after_append Handlers.bare
    holds file reads seamless holds file (plain_overFile endedLog) stores
  exact ⟨_, _, again, last, reads, stores, replayed, shown⟩

/-- Behind a last line without its end the batch is stored, and then no replay reads the log
to its end any more. -/
theorem append_spoils_unendedLog :
    let replays := Store.replay Handlers.bare ⟨0⟩ Event.allStreams [] Store.collect
    ∃ read after, replays (overFile unendedLog) = (.ok [⟨1⟩], read) ∧
      ((overFile unendedLog).events.get ⟨0⟩).isSealed = false ∧
      (∀ event ∈ [(⟨0⟩ : Ref .event)], ∀ moment,
        ({ contentIn (overFile unendedLog) event with persistedAt := .moment moment } :
          Event).IsPlain) ∧
      Store.append Handlers.bare ⟨0⟩ [⟨0⟩] (overFile unendedLog) = (.ok (), after) ∧
      ∀ again last, replays after ≠ (.ok again, last) := by
  intro replays
  have reads : replays (overFile unendedLog) =
      (.ok [⟨1⟩], (replays (overFile unendedLog)).2) :=
    Act.run_of_answer (by decide +kernel)
  have stores : Store.append Handlers.bare ⟨0⟩ [⟨0⟩] (overFile unendedLog) =
      (.ok (), (Store.append Handlers.bare ⟨0⟩ [⟨0⟩] (overFile unendedLog)).2) :=
    Act.run_of_answer (by decide +kernel)
  refine ⟨_, _, reads, rfl, plain_overFile unendedLog, stores, ?_⟩
  intro again last ended
  have failed : (replays (Store.append Handlers.bare ⟨0⟩ [⟨0⟩]
      (overFile unendedLog)).2).1.toOption.isSome = false := by
    decide +kernel
  rw [ended] at failed
  cases failed

end EventSourcing.DiskStore
