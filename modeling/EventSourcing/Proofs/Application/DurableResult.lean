import EventSourcing.Proofs.Application.Keeping
import EventSourcing.Proofs.Application.Outcome
import EventSourcing.Proofs.Application.Publishing
import EventSourcing.Proofs.Application.UnreadableHistory
import EventSourcing.Proofs.Store.AbortedAppend

/-!
# Results and the log

What the result of a command says about the log of an application. The store on disk appends a
line for each event up to the first that cannot be written. Where all events of a batch are
written, or none, the result lists those that were; a batch of which a part is written is in the
log, but the result lists no event.
-/

set_option autoImplicit false

namespace EventSourcing.Application

open DiskStore (Written)

variable {D : Domain}

/-- The application has a store on disk, whose log can be opened and is empty or ends in a line's
end. The octets of the log are some of those known. -/
structure Logs (ref : Ref .application) (store : Ref .store) (path : Path) (clock : Ref .clock)
    (known : List UInt8 → Prop) (system : System D) : Prop where
  same : (system.applications.get ref).store = store
  made : store.index < system.stores.nextRef.index
  disk : system.stores.get store = .disk path clock
  log : ∃ octets, known octets ∧ LogFile.Ended octets ∧ DiskStore.Opens system.files path octets

/-- The events that a command led to are stamped, and about to be stored. -/
def Stamps (handlers : Handlers D) (ref : Ref .application) (command : Ref .command)
    (start : System D) (receiver : Ref .aggregate) (events : List (Ref .event))
    (stamped : System D) : Prop :=
  ∃ found ended, Finds handlers ref command start receiver found ∧
    Executes handlers ref command receiver found ended events ∧
    stampEach (found.applications.get ref).logger (found.applications.get ref).clock events ended =
      (.ok (), stamped)

/-- The events that a command led to can be told apart and have their builders, and what the
clock of the store raises for them exists. -/
structure Sound (clock : Ref .clock) (events : List (Ref .event)) (stamped : System D) : Prop where
  distinct : events.Nodup
  intact : ∀ event ∈ events, (stamped.events.get event).Intact
  bound : ∀ place < events.length, ∀ raise,
    (stamped.clocks.get clock).readings ((stamped.clocks.get clock).taken + place) =
      .error raise → ∃ cause, raise.cause? stamped = some cause

/-- What sending a command with stamped events has added to the log, and what its result says of
it. -/
structure Added (handlers : Handlers D) (store : Ref .store) (path : Path) (clock : Ref .clock)
    (known : List UInt8 → Prop) (receiver : Ref .aggregate) (events : List (Ref .event))
    (stamped after : System D) (result : CommandResult) (octets : List UInt8)
    (lines : List String) : Prop where
  known : known octets
  /-- The lines are those of the first events, in their order. -/
  written : ∃ stop, Written stamped clock 0 events lines stop
  file : (Store.append handlers store events stamped).2.files.HasFile path
    (octets ++ lines.flatMap LogFile.encodeLine)
  records : LogFile.records (octets ++ lines.flatMap LogFile.encodeLine) =
    LogFile.records octets ++ lines.map LogFile.encodeLine
  kept : ProjectionsLeaveLog handlers path →
    after.files.HasFile path (octets ++ lines.flatMap LogFile.encodeLine)
  /-- Of a batch that is written as a whole or not at all, the result lists what is written. -/
  reported : lines = [] ∨ lines.length = events.length →
    result.events = events.take lines.length ∧
      (lines ≠ [] → result.aggregateId = (after.aggregates.get receiver).id)
  /-- Of a batch that is written in part, the result lists nothing. -/
  unreported : lines ≠ [] → lines.length < events.length →
    result.events = [] ∧ result.aggregateId = ""

section Sending

variable {handlers : Handlers D} {ref : Ref .application} {command : Ref .command}
  {store : Ref .store} {path : Path} {clock : Ref .clock} {known : List UInt8 → Prop}
  {start found after : System D} {receiver : Ref .aggregate} {result : CommandResult}

private theorem Logs.moves (before after : System D) (logs : Logs ref store path clock known before)
    (moves : Moves before after) : Logs ref store path clock known after where
  same := by
    rw [moves.applications]
    exact logs.same
  made := Nat.lt_of_lt_of_le logs.made moves.made
  disk := (moves.kept store logs.made).trans logs.disk
  log := by
    rw [moves.files]
    exact logs.log

private theorem Logs.lasts
    (calls : ∀ before after, Calls handlers ref command start before after →
      Logs ref store path clock known before → Logs ref store path clock known after)
    (finds : Finds handlers ref command start receiver found)
    (logs : Logs ref store path clock known found) :
    Lasts handlers ref command receiver found Moves (Logs ref store path clock known) where
  native description := by
    rw [logs.same, logs.disk]
    nofun
  moved := Logs.moves
  offered := Moves.of_offers
  served before after logs serves := calls before after (.serves finds serves) logs

private theorem Logs.atFound
    (calls : ∀ before after, Calls handlers ref command start before after →
      Logs ref store path clock known before → Logs ref store path clock known after)
    (logs : Logs ref store path clock known start)
    (finds : Finds handlers ref command start receiver found) :
    Logs ref store path clock known found :=
  finds.lasts Logs.moves (fun acknowledges none made =>
    calls _ _ (.construct acknowledges none made)) logs

private theorem Logs.atStamped {events : List (Ref .event)} {stamped : System D}
    (calls : ∀ before after, Calls handlers ref command start before after →
      Logs ref store path clock known before → Logs ref store path clock known after)
    (logs : Logs ref store path clock known start)
    (stamps : Stamps handlers ref command start receiver events stamped) :
    Logs ref store path clock known stamped := by
  obtain ⟨found, ended, finds, ⟨rehydrated, about, opens, handled, -⟩, ran⟩ := stamps
  have logsFound := logs.atFound calls finds
  have logsEnded := (logsFound.lasts calls finds).execute logsFound opens
  rw [handled] at logsEnded
  have moves : Moves ended _ := keeps_stampEach (found.applications.get ref).logger
    (found.applications.get ref).clock events ended
  rw [ran] at moves
  exact logsEnded.moves _ _ moves

/-- A command whose events do not come to be stored has added nothing to the log. -/
private theorem nothing_added
    (calls : ∀ before after, Calls handlers ref command start before after →
      Logs ref store path clock known before → Logs ref store path clock known after)
    (logs : Logs ref store path clock known start)
    (ran : send handlers ref command start = (.ok result, after))
    (unstamped : ∀ receiver events stamped,
      ¬ Stamps handlers ref command start receiver events stamped) :
    Logs ref store path clock known after ∧ result.events = [] ∧ result.aggregateId = "" := by
  rcases send_cases (fun _ _ logs (moves : Moves _ _) => Logs.moves _ _ logs moves)
      (fun acknowledges none made => calls _ _ (.construct acknowledges none made)) logs with
    ⟨halt, last, sent, -⟩ | ⟨receiver, found, finds, logsFound, sent⟩
  · cases sent.symm.trans ran
  have delivers := (logsFound.lasts calls finds).deliver logsFound
  have delivered := sent.symm.trans ran
  generalize deliver handlers ref command receiver found = outcome at delivers delivered
  cases delivers with
  | halts => cases delivered
  | fails logsAfter =>
      cases delivered
      exact ⟨logsAfter, rfl, rfl⟩
  | @commits ended events executes logsEnded =>
      let application := found.applications.get ref
      have moves : Moves ended _ :=
        keeps_stampEach application.logger application.clock events ended
      rcases stamps : stampEach application.logger application.clock events ended with
        ⟨halt | _, stamped⟩
      · rw [stamps] at moves
        have committed : commit handlers application events ended = (.error halt, stamped) :=
          Act.bind_of_error stamps
        have logsStamped := logsEnded.moves _ _ moves
        refine conclude_of_error (motive := fun outcome => outcome = (.ok result, after) → _)
          committed ?_ ?_ delivered
        · rintro halt ⟨⟩
        · rintro fault message ⟨⟩
          exact ⟨logsStamped.moves _ _ (Discreet.logRecord _ _ _ _), rfl, rfl⟩
      · exact absurd ⟨found, ended, finds, executes, stamps⟩ (unstamped receiver events stamped)

private theorem Sound.bound_of_written {events : List (Ref .event)} {stamped : System D}
    {lines : List String} {stop : Option Raise} (sound : Sound clock events stamped)
    (written : Written stamped clock 0 events lines stop) :
    ∀ raise, stop = some raise → ∃ cause, raise.cause? stamped = some cause := by
  intro raise stops
  rcases written.ends with ⟨none, -⟩ | ⟨event, known, same, next, failed⟩
  · rw [none] at stops
    cases stops
  · obtain rfl : known = raise := Option.some.inj (same.symm.trans stops)
    rw [Nat.zero_add] at failed
    rcases DiskStore.lineAt_eq_error failed with reading | ⟨-, -, ⟨-, rfl⟩ | ⟨-, fault, -, rfl⟩⟩
    · exact sound.bound _ (List.getElem?_eq_some_iff.mp next).1 _ reading
    · exact ⟨_, rfl⟩
    · exact ⟨_, rfl⟩

/-- The log gets a line for each event up to the first that cannot be written, and the result
lists all events, if that is so, or none. -/
private theorem added_of_stamps {events : List (Ref .event)} {stamped : System D}
    (calls : ∀ before after, Calls handlers ref command start before after →
      Logs ref store path clock known before → Logs ref store path clock known after)
    (logs : Logs ref store path clock known start)
    (stamps : Stamps handlers ref command start receiver events stamped)
    (sound : Sound clock events stamped)
    (ran : send handlers ref command start = (.ok result, after)) :
    ∃ octets lines,
      Added handlers store path clock known receiver events stamped after result octets lines := by
  have logsStamped := logs.atStamped calls stamps
  obtain ⟨octets, knownOctets, endedOctets, opens⟩ := logsStamped.log
  obtain ⟨lines, stop, written⟩ := DiskStore.exists_written stamped clock 0 events
  obtain ⟨failure, stored, appended, ends⟩ := written.append handlers logsStamped.disk opens
    sound.distinct sound.intact (sound.bound_of_written written)
  obtain ⟨found, ended, finds, executes, stamping⟩ := stamps
  have concluded := (finds.send_eq.trans executes.deliver_eq).symm.trans ran
  have committed : commit handlers (found.applications.get ref) events ended =
      Store.append handlers store events stamped := by
    rw [commit, Act.bind_of_ok stamping, (logs.atFound calls finds).same]
  have length : stop = none ∧ lines.length = events.length ∨
      (∃ raise, stop = some raise) ∧ lines.length < events.length := by
    rcases written.ends with ⟨none, all⟩ | ⟨event, raise, stops, next, -⟩
    · exact .inl ⟨none, all⟩
    · exact .inr ⟨⟨raise, stops⟩, (List.getElem?_eq_some_iff.mp next).1⟩
  refine ⟨octets, lines, ?_⟩
  cases ends with
  | all done =>
      obtain ⟨log, whole⟩ : ∃ log, Store.append handlers store events stamped =
          (.ok (), { stored with log }) := ⟨_, appended⟩
      have all : lines.length = events.length := by simpa using length
      rw [conclude_of_stored (committed.trans whole)] at concluded
      obtain ⟨failures, rfl⟩ := report_eq_ok concluded
      exact
        { known := knownOctets
          written := ⟨none, written⟩
          file := by
            rw [whole]
            exact done.file
          records := LogFile.records_append_lines endedOctets written.isRecord
          kept := fun leave => by
            let octetsAfter := octets ++ lines.flatMap LogFile.encodeLine
            have reports : Act.Keeps (DiskStore.SameLog path octetsAfter)
                (report handlers ref command receiver events) :=
              keeps_report (fun _ _ _ => id) (leave _) ref command receiver events
            have kept := reports { stored with log } done.file
            rwa [concluded] at kept
          reported := fun _ => by
            rw [all, List.take_length]
            exact ⟨rfl, fun _ => rfl⟩
          unreported := fun _ less => absurd all (Nat.ne_of_lt less) }
  | @failed raise fault failed =>
      obtain ⟨raised, last, broken, files, -, -⟩ :=
        DiskStore.conclude_fault path lines.length fault stored
      have whole := appended.trans broken
      have less : lines.length < events.length := by simpa using length
      obtain ⟨message, failing⟩ : ∃ message,
          conclude handlers ref command _ receiver events ended = (.ok (.failure _), _) :=
        conclude_of_raised (committed.trans whole)
      have file : last.files.HasFile path (octets ++ lines.flatMap LogFile.encodeLine) := by
        rw [files]
        exact failed.file
      cases failing.symm.trans concluded
      exact
        { known := knownOctets
          written := ⟨_, written⟩
          file := by
            rw [whole]
            exact file
          records := LogFile.records_append_lines endedOctets written.isRecord
          kept := fun _ => file
          reported := fun part => by
            obtain rfl := part.resolve_right (Nat.ne_of_lt less)
            exact ⟨rfl, fun some => absurd rfl some⟩
          unreported := fun _ _ => ⟨rfl, rfl⟩ }

end Sending

/-- The result of a command over a log says what was added to the log. A command whose events do
not come to be stored adds nothing, and its result lists nothing. Otherwise the log gets a line
for each event up to the first that cannot be written; the result lists these events and has the
receiver's id, unless only a part of the batch is written. -/
theorem result_reports_added (handlers : Handlers D) {ref : Ref .application}
    {command : Ref .command} {store : Ref .store} {path : Path} {clock : Ref .clock}
    {known : List UInt8 → Prop} {start after : System D} {result : CommandResult}
    (logs : Logs ref store path clock known start)
    (calls : ∀ before after, Calls handlers ref command start before after →
      Logs ref store path clock known before → Logs ref store path clock known after)
    (sound : ∀ receiver events stamped,
      Stamps handlers ref command start receiver events stamped → Sound clock events stamped)
    (ran : send handlers ref command start = (.ok result, after)) :
    (Logs ref store path clock known after ∧ result.events = [] ∧ result.aggregateId = "" ∧
      ∀ receiver events stamped, ¬ Stamps handlers ref command start receiver events stamped) ∨
    ∃ receiver events stamped octets lines,
      Stamps handlers ref command start receiver events stamped ∧
      Added handlers store path clock known receiver events stamped after result octets lines := by
  by_cases stored : ∃ receiver events stamped,
      Stamps handlers ref command start receiver events stamped
  · obtain ⟨receiver, events, stamped, stamps⟩ := stored
    obtain ⟨octets, lines, added⟩ :=
      added_of_stamps calls logs stamps (sound receiver events stamped stamps) ran
    exact .inr ⟨receiver, events, stamped, octets, lines, stamps, added⟩
  · have unstamped (receiver : Ref .aggregate) (events : List (Ref .event)) (stamped : System D)
        (stamps : Stamps handlers ref command start receiver events stamped) : False :=
      stored ⟨receiver, events, stamped, stamps⟩
    obtain ⟨logsAfter, noEvents, noId⟩ := nothing_added calls logs ran unstamped
    exact .inl ⟨logsAfter, noEvents, noId, unstamped⟩

/-- An application over an empty log, and a command whose receiver publishes two open events.
The payload of the first is a mapping. -/
def publishingOnDisk (payload : Datum) : System Domain.publishing :=
  let event (payload : Datum) : LiveEvent :=
    { name := .text "added", streamId := .text "x", id := .text "", occurredOn := .null
      persistedAt := .null, payload := .own payload }
  { events := ⟨#[event (.mapping []), event payload]⟩
    commands := ⟨#[{
      name := "add", fields := [], idField := "id", errors := ⟨0⟩, factory := some ⟨0⟩
      receiver := none, hasImplicitId := true }]⟩
    faults := ⟨#[.validation []]⟩
    aggregates := ⟨#[{
      id := "x", publisher := none, seen := [], handled := [], script := some [⟨0⟩, ⟨1⟩] }]⟩
    stores := ⟨#[.disk ⟨["log"]⟩ ⟨0⟩]⟩
    files := ⟨[(["log"], .file [])]⟩
    clocks := ⟨#[.showing .unixEpoch]⟩
    applications := ⟨#[{
      name := .text "app", store := ⟨0⟩, clock := ⟨0⟩, logger := "app", projections := [] }]⟩
    domain := () }

/-- Where no aggregate is bound to the application's store, publishing leaves the log alone. -/
private theorem logs_publishing {ref : Ref .application} {command : Ref .command}
    {store : Ref .store} {path : Path} {clock : Ref .clock} {known : List UInt8 → Prop}
    {start before after : System Domain.publishing} (unbound : Unbound ref start)
    (logs : Logs ref store path clock known start)
    (calls : Calls Handlers.publishing ref command start before after)
    (logsBefore : Logs ref store path clock known before) :
    Logs ref store path clock known after := by
  have native (description : Domain.publishing.Store) :
      start.stores.get (start.applications.get ref).store ≠ .foreign description := by
    rw [logs.same, logs.disk]
    nofun
  cases calls with
  | construct => exact logsBefore
  | @serves receiver found _ _ finds serves =>
      have shuns {before after : System Domain.publishing}
          (serves : Serves Handlers.publishing ref command receiver found before after) :
          Shuns ref before after ∧ after.files = before.files := by
        cases serves with
        | onEvent | construct => exact ⟨Act.Frame.refl _, rfl⟩
        | onCommand =>
            have publishes (receiver : Ref .aggregate) (event : Ref .event) :
                Act.Keeps (Act.Same fun system : System Domain.publishing => system.files)
                  (Aggregate.publish receiver event) :=
              Aggregate.keeps_publish (fun _ _ => rfl) (fun _ _ _ => rfl) receiver event
            exact ⟨Act.keeps_forEach (fun event _ => shuns_publish ref _ event) _,
              Act.keeps_forEach (fun event _ => publishes _ event) _⟩
      have unboundBefore := serves.unbound finds unbound native (fun factory => Act.keeps_pure _)
        fun serves => (shuns serves).1
      obtain ⟨shunned, files⟩ := shuns serves
      obtain ⟨-, spares⟩ := shunned unboundBefore
      obtain rfl := logsBefore.same
      exact
        { same := spares.store
          made := spares.made logsBefore.made
          disk := (spares.held logsBefore.made).trans logsBefore.disk
          log := by
            rw [files]
            exact logsBefore.log }

private theorem logs_publishingOnDisk (payload : Datum) :
    Logs ⟨0⟩ ⟨0⟩ ⟨["log"]⟩ ⟨0⟩ (· = []) (publishingOnDisk payload) where
  same := rfl
  made := Nat.zero_lt_one
  disk := rfl
  log := ⟨[], rfl, .inl rfl, .inl (FileTree.hasFile_read.mp rfl)⟩

/-- The events of the command are the two that its receiver publishes. -/
private theorem sound_publishingOnDisk {receiver : Ref .aggregate} {events : List (Ref .event)}
    {stamped : System Domain.publishing}
    (stamps : Stamps Handlers.publishing ⟨0⟩ ⟨0⟩ (publishingOnDisk (.mapping [])) receiver events
      stamped) : Sound ⟨0⟩ events stamped := by
  let start := publishingOnDisk (.mapping [])
  let about := aboutFrom Handlers.publishing ⟨0⟩ ⟨0⟩ ⟨0⟩ start
  let ended := (Command.execute Handlers.publishing ⟨0⟩ about).2
  obtain ⟨found, last, finds, ⟨rehydrated, opened, opens, executes, published⟩, ran⟩ := stamps
  obtain rfl : (⟨0⟩ : Ref .aggregate) = receiver := by
    have resolved : ((foundFrom Handlers.publishing ⟨0⟩ ⟨0⟩ start).commands.get ⟨0⟩).receiver =
        some ⟨0⟩ := by
      decide +kernel
    exact Option.some.inj (resolved.symm.trans finds.receiver_eq)
  obtain ⟨rfl, rfl⟩ := opens.systems_eq finds
  obtain rfl : ended = last := congrArg Prod.snd executes
  obtain rfl : [⟨0⟩, ⟨1⟩] = events := by
    rw [← published]
    decide +kernel
  obtain rfl := finds.found_eq
  let application := (foundFrom Handlers.publishing ⟨0⟩ ⟨0⟩ start).applications.get ⟨0⟩
  let stamping := stampEach application.logger application.clock [⟨0⟩, ⟨1⟩] ended
  obtain rfl : stamping.2 = stamped := congrArg Prod.snd ran
  have whole : ∀ event ∈ ([⟨0⟩, ⟨1⟩] : List (Ref .event)),
      let known := stamping.2.events.get event
      known.replaced.isEmpty = true ∧ known.lacking = [] := by
    decide +kernel
  have reads : ∀ place < 2,
      let known := stamping.2.clocks.get ⟨0⟩
      (known.readings (known.taken + place)).toBool = true := by
    decide +kernel
  refine ⟨by decide, fun event member => ?_, fun place less raise raised => ?_⟩
  · obtain ⟨replaced, lacking⟩ := whole event member
    have none := List.isEmpty_iff.mp replaced
    exact ⟨by rw [none]; rfl, by rw [none]; rfl, lacking⟩
  · have read := reads place less
    dsimp only at read
    rw [raised] at read
    cases read

theorem result_reports_added_publishingOnDisk :
    let start := publishingOnDisk (.mapping [])
    ∃ result after receiver events stamped octets lines,
      send Handlers.publishing ⟨0⟩ ⟨0⟩ start = (.ok result, after) ∧ result.events = [⟨0⟩, ⟨1⟩] ∧
      Added Handlers.publishing ⟨0⟩ ⟨["log"]⟩ ⟨0⟩ (· = []) receiver events stamped after result
        octets lines := by
  intro start
  have unbound : Unbound ⟨0⟩ start := unbound_of_all Nat.zero_lt_one (by decide +kernel)
  have logs := logs_publishingOnDisk (.mapping [])
  have listed : (send Handlers.publishing ⟨0⟩ ⟨0⟩ start).1.toOption.map (·.events) =
      some [⟨0⟩, ⟨1⟩] := by
    decide +kernel
  rcases ran : send Handlers.publishing ⟨0⟩ ⟨0⟩ start with ⟨halt | result, after⟩
  · rw [ran] at listed
    cases listed
  rw [ran] at listed
  have listed : result.events = [⟨0⟩, ⟨1⟩] := Option.some.inj listed
  rcases result_reports_added Handlers.publishing logs
      (fun before after calls => logs_publishing unbound logs calls)
      (fun receiver events stamped => sound_publishingOnDisk) ran with
    ⟨-, none, -, -⟩ | ⟨receiver, events, stamped, octets, lines, -, added⟩
  · rw [none] at listed
    cases listed
  · exact ⟨result, after, receiver, events, stamped, octets, lines, rfl, listed, added⟩

/-- A batch of which the second event has no line leaves the first in the log, but the result
lists no event and names no receiver. -/
theorem result_misses_added :
    let outcome := send Handlers.publishing ⟨0⟩ ⟨0⟩
      (publishingOnDisk (.mapping [(.text "at", .object 0)]))
    outcome.1.toOption.map (fun result => (result.events, result.aggregateId)) = some ([], "") ∧
      (outcome.2.files.read ⟨["log"]⟩).toOption.map (fun octets =>
        (LogFile.records octets).length) = some 1 := by
  decide +kernel

end EventSourcing.Application
