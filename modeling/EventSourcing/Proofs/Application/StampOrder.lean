import EventSourcing.Proofs.Application.NestedPublishing
import EventSourcing.Proofs.Application.StampedWriting
import EventSourcing.Proofs.Store.LogContents

/-!
# Time stamps along a log

Commands that are sent inside one another take turns with the clock: a command is acknowledged,
the commands inside it are sent, and only then are its own events stamped and stored. `Chronicle`
says which batches a run adds to the log in this way, however its commands end. With a clock that
does not go back, lines are stored in the order of their times, and what one command led to has
occurred before what a later batch tells of. Within a batch this fails for an event that was
published twice, which has the later time though its line is the first.
-/

set_option autoImplicit false

namespace EventSourcing.Application

open LiveEvent (nextReading ticked)

variable {D : Domain}

/-! ## Runs of commands -/

/-- A run in which an application is sent commands, which may fail in any way. What the code of
the domain does for a command is such a run again: it may send further commands, and otherwise
leaves the log alone while time passes. -/
inductive Sends (place : Place) : System D → System D → Prop
  | elapses {before after : System D} : Elapses place before after → Sends place before after
  | trans {before middle after : System D} :
      Sends place before middle → Sends place middle after → Sends place before after
  | send {handlers : Handlers D} {command : Ref .command} {start : System D} :
      (∀ before after, Calls handlers place.application command start before after →
        Sends place before after) →
      (∀ projection event system,
        Sends place system (handlers.onProject projection event system).2) →
      Sends place start (Application.send handlers place.application command start).2

/-- The batches that a run adds to the log, in their order. -/
inductive Chronicle (place : Place) : System D → List Batch → System D → Prop
  | elapses {before after : System D} :
      Elapses place before after → Chronicle place before [] after
  | trans {before middle after : System D} {first second : List Batch} :
      Chronicle place before first middle → Chronicle place middle second after →
      Chronicle place before (first ++ second) after
  /-- A command is acknowledged and executed, which may add batches already. Then the events that
  its receiver has published are committed. -/
  | commits {handlers : Handlers D} {command : Ref .command} {receiver : Ref .aggregate}
      {start acknowledged found ended after : System D} {inner : List Batch} {batch : Batch}
      {outcome : Except Halt Unit} :
      nextReading start place.clock = .ok batch.acknowledged →
      Command.acknowledge command place.clock start = (.ok (), acknowledged) →
      Finds handlers place.application command start receiver found →
      Executes handlers place.application command receiver found ended batch.events →
      Chronicle place acknowledged inner ended →
      commit handlers (found.applications.get place.application) batch.events ended =
        (outcome, after) →
      Commits place batch ended after →
      Chronicle place start (inner ++ [batch]) after

/-- The place of the log is kept, and some batches were added. -/
abbrev Chronicles (place : Place) : System D → System D → Prop :=
  Act.Under place.Holds fun before after => ∃ batches, Chronicle place before batches after

section Chronicling

variable {place : Place} {handlers : Handlers D} {command : Ref .command}
  {receiver : Ref .aggregate} {origin before after start acknowledged found ended : System D}
  {events : List (Ref .event)}

theorem Elapses.chronicles (elapses : Elapses place before after) :
    Chronicles place before after :=
  fun holds => ⟨(elapses holds).1, [], .elapses elapses⟩

instance (place : Place) : Act.Frame (Chronicles (D := D) place) where
  refl system := Elapses.chronicles (Act.Frame.refl system)
  trans first second holds := by
    obtain ⟨holdsMiddle, batches, chronicle⟩ := first holds
    obtain ⟨holdsAfter, more, chronicleMore⟩ := second holdsMiddle
    exact ⟨holdsAfter, batches ++ more, .trans chronicle chronicleMore⟩

/-- Acknowledging a command reads the clock once; then time passes. -/
theorem acknowledge_reads
    (acknowledges : Command.acknowledge command place.clock start = (.ok (), acknowledged)) :
    ∃ moment, nextReading start place.clock = .ok moment ∧
      Elapses place (ticked start place.clock) acknowledged :=
  Command.acknowledge_eq_ok_of_steps Discreet.newFault Discreet.newParameter
    (fun _ => Discreet.changeCommand command _ fun _ => rfl) acknowledges

/-- A system that is reached from another one, at which the place of the log is known. -/
private def Reached (place : Place) (origin system : System D) : Prop :=
  place.Holds system ∧ ∃ batches, Chronicle place origin batches system

private theorem Reached.chronicles (reached : Reached place origin before)
    (chronicles : Chronicles place before after) : Reached place origin after := by
  obtain ⟨holds, batches, chronicle⟩ := reached
  obtain ⟨holdsAfter, more, chronicleMore⟩ := chronicles holds
  exact ⟨holdsAfter, batches ++ more, .trans chronicle chronicleMore⟩

private theorem Reached.moved (before after : System D) (reached : Reached place origin before)
    (elapses : Elapses place before after) : Reached place origin after :=
  reached.chronicles elapses.chronicles

private theorem Reached.lasts
    (calls : ∀ before after, Calls handlers place.application command start before after →
      Chronicles place before after)
    (finds : Finds handlers place.application command start receiver found)
    (reached : Reached place origin found) :
    Lasts handlers place.application command receiver found (Elapses place)
      (Reached place origin) where
  native description foreign := by
    rw [reached.1.store, reached.1.disk] at foreign
    cases foreign
  moved := Reached.moved
  offered offers := by
    rw [offers.same]
    exact elapses_of_same rfl (fun _ => rfl) rfl rfl
  served before after known serves := known.chronicles (calls before after (.serves finds serves))

/-- The events of a command are committed and reported. -/
private theorem Reached.conclude {moment : Moment}
    (reading : nextReading start place.clock = .ok moment)
    (acknowledges : Command.acknowledge command place.clock start = (.ok (), acknowledged))
    (finds : Finds handlers place.application command start receiver found)
    (executes : Executes handlers place.application command receiver found ended events)
    (projects : ∀ projection event,
      Act.Keeps (Chronicles place) (handlers.onProject projection event))
    (holdsFound : place.Holds found) (reached : Reached place acknowledged ended) :
    Reached place start (conclude handlers place.application command
      (found.applications.get place.application) receiver events ended).2 := by
  obtain ⟨holdsEnded, inner, chronicle⟩ := reached
  obtain ⟨lines, commits⟩ :=
    commit_commits handlers holdsEnded holdsFound.store holdsFound.clock moment events
  rcases ran : commit handlers (found.applications.get place.application) events ended with
    ⟨outcome, committed⟩
  rw [ran] at commits
  let batch : Batch := ⟨moment, events, lines⟩
  have stored : Reached place start committed := by
    refine ⟨commits.holds, inner ++ [batch], ?_⟩
    exact .commits reading acknowledges finds executes chronicle ran commits
  cases outcome with
  | error halt =>
      let last (outcome : Except Halt CommandResult × System D) : Prop :=
        Reached place start outcome.2
      refine conclude_of_error (motive := last) ran (fun _ => stored) fun fault message => ?_
      exact stored.moved _ _ (Discreet.logRecord _ _ _ committed)
  | ok =>
      rw [conclude_of_stored ran]
      refine stored.chronicles
        (keeps_report (fun system log calls => ?_) projects _ _ _ _ committed)
      exact Elapses.chronicles (elapses_of_same rfl (fun _ => rfl) rfl rfl)

/-- A command that has a receiver is delivered. -/
private theorem chronicles_deliver
    (calls : ∀ before after, Calls handlers place.application command start before after →
      Chronicles place before after)
    (projects : ∀ projection event,
      Act.Keeps (Chronicles place) (handlers.onProject projection event))
    (holds : place.Holds start)
    (finds : Finds handlers place.application command start receiver found) :
    Reached place start (deliver handlers place.application command receiver found).2 := by
  obtain ⟨acknowledged, acknowledges, resolves⟩ := id finds
  have elapses : Elapses place start _ :=
    keeps_acknowledge command (start.applications.get place.application).clock start
  rw [acknowledges] at elapses
  have asked (factory : D.Factory) (none : (acknowledged.commands.get command).receiver = none)
      (made : (acknowledged.commands.get command).factory = some factory) :
      Reached place acknowledged (handlers.construct factory command acknowledged).2 := by
    have here : Reached place acknowledged acknowledged :=
      ⟨(elapses holds).1, [], .elapses (Act.Frame.refl acknowledged)⟩
    exact here.chronicles (calls _ _ (.construct acknowledges none made))
  have reached : Reached place acknowledged found := by
    have resolved : Reached place acknowledged _ := holds_resolveReceiver Reached.moved asked
      ⟨(elapses holds).1, [], .elapses (Act.Frame.refl acknowledged)⟩
    rwa [resolves] at resolved
  have further (system : System D) (known : Reached place acknowledged system) :
      Reached place start system := by
    obtain ⟨holdsAfter, batches, chronicle⟩ := known
    exact ⟨holdsAfter, [] ++ batches, .trans (.elapses elapses) chronicle⟩
  rw [holds.clock] at acknowledges
  obtain ⟨moment, reading, -⟩ := acknowledge_reads acknowledges
  have delivers := (Reached.lasts calls finds reached).deliver reached
  generalize deliver handlers place.application command receiver found = outcome at delivers ⊢
  cases delivers with
  | halts known => exact further _ known
  | fails known => exact further _ known
  | commits executes known =>
      exact known.conclude reading acknowledges finds executes projects reached.1

/-- However the sending of a command ends, it has added batches to the log, as its calls do. -/
private theorem chronicles_send
    (calls : ∀ before after, Calls handlers place.application command start before after →
      Chronicles place before after)
    (projects : ∀ projection event,
      Act.Keeps (Chronicles place) (handlers.onProject projection event)) :
    Chronicles place start (send handlers place.application command start).2 := by
  intro holds
  have here : Reached place start start := ⟨holds, [], .elapses (Act.Frame.refl start)⟩
  have asked {acknowledged : System D} {factory : D.Factory}
      (acknowledges : Command.acknowledge command
        (start.applications.get place.application).clock start = (.ok (), acknowledged))
      (none : (acknowledged.commands.get command).receiver = none)
      (made : (acknowledged.commands.get command).factory = some factory)
      (known : Reached place start acknowledged) :
      Reached place start (handlers.construct factory command acknowledged).2 :=
    known.chronicles (calls _ _ (.construct acknowledges none made))
  rcases send_cases Reached.moved asked here with
    ⟨halt, after, ran, known⟩ | ⟨receiver, found, finds, -, ran⟩
  · rw [ran]
    exact known
  · rw [ran]
    exact chronicles_deliver calls projects holds finds

/-- A run adds batches to the log, however deep commands are sent inside one another. -/
theorem Sends.chronicles (sends : Sends place before after) : Chronicles place before after := by
  induction sends with
  | elapses elapses => exact elapses.chronicles
  | trans _ _ first second => exact Act.Frame.trans first second
  | send _ _ calls projects => exact chronicles_send calls projects

end Chronicling

/-! ## The order of times -/

def Batch.allLines (batches : List Batch) : List StampedLine :=
  batches.flatMap (·.lines)

/-- The times of occurrence on the lines of some batches are in order. Where an event was
published more than once, what is behind it in its own batch may have occurred before. -/
structure InOrder (batches : List Batch) : Prop where
  acknowledged : ∀ batch ∈ batches, ∀ line ∈ batch.lines,
    batch.acknowledged.NotAfter line.occurredOn
  stored : ∀ batch ∈ batches, ∀ line ∈ batch.lines, line.occurredOn.NotAfter line.persistedAt
  apart : batches.Pairwise fun batch later =>
    ∀ line ∈ batch.lines, ∀ other ∈ later.lines, line.occurredOn.NotAfter other.occurredOn
  within : ∀ batch ∈ batches, batch.lines.Pairwise fun line later =>
    batch.events.count line.event ≤ 1 → line.occurredOn.NotAfter later.occurredOn

/-- The lines of some batches are added to the log, for events that have occurred in order and
since. -/
structure Spans (place : Place) (batches : List Batch) (before after : System D) : Prop
    extends Adds place (Batch.allLines batches) before after where
  begun : ∀ line ∈ Batch.allLines batches, ∀ moment, (place.time before).Ahead moment →
    moment.NotAfter line.occurredOn
  inOrder : InOrder batches

section Ordering

variable {place : Place} {before middle after : System D} {batches more : List Batch}

theorem Batch.mem_allLines {batch : Batch} {line : StampedLine} (member : batch ∈ batches)
    (inside : line ∈ batch.lines) : line ∈ Batch.allLines batches :=
  List.mem_flatMap.mpr ⟨batch, member, inside⟩

theorem Batch.allLines_append (batches more : List Batch) :
    Batch.allLines (batches ++ more) = Batch.allLines batches ++ Batch.allLines more :=
  List.flatMap_append

/-- Batches in order stay so behind others, if none of their events occurred before those were
stored. -/
theorem InOrder.append (first : InOrder batches) (second : InOrder more)
    (behind : ∀ line ∈ Batch.allLines batches, ∀ other ∈ Batch.allLines more,
      line.persistedAt.NotAfter other.occurredOn) : InOrder (batches ++ more) where
  acknowledged batch member := by
    rcases List.mem_append.mp member with earlier | later
    · exact first.acknowledged batch earlier
    · exact second.acknowledged batch later
  stored batch member := by
    rcases List.mem_append.mp member with earlier | later
    · exact first.stored batch earlier
    · exact second.stored batch later
  apart := by
    refine List.pairwise_append.mpr ⟨first.apart, second.apart, ?_⟩
    intro batch earlier next later line inside other among
    exact (first.stored batch earlier line inside).trans
      (behind line (Batch.mem_allLines earlier inside) other (Batch.mem_allLines later among))
  within batch member := by
    rcases List.mem_append.mp member with earlier | later
    · exact first.within batch earlier
    · exact second.within batch later

theorem Elapses.spans (elapses : Elapses place before after) (holds : place.Holds before) :
    Spans place [] before after :=
  ⟨elapses.adds holds, by simp [Batch.allLines], by simp, by simp, .nil, by simp⟩

theorem Spans.trans (first : Spans place batches before middle)
    (second : Spans place more middle after) : Spans place (batches ++ more) before after where
  toAdds := by
    rw [Batch.allLines_append]
    exact first.toAdds.trans second.toAdds
  begun line member moment known := by
    rw [Batch.allLines_append] at member
    rcases List.mem_append.mp member with earlier | later
    · exact first.begun line earlier moment known
    · exact second.begun line later moment (first.ahead moment known)
  inOrder := first.inOrder.append second.inOrder fun line earlier other later =>
    second.begun other later _ (first.past line earlier)

/-- A batch that is committed once its command was acknowledged is in order. -/
theorem Commits.spans {batch : Batch} (commits : Commits place batch before after)
    (acknowledged : (place.time before).Ahead batch.acknowledged) :
    Spans place [batch] before after := by
  have lines : Batch.allLines [batch] = batch.lines := List.flatMap_singleton _ _
  refine ⟨?_, ?_, ?_, ?_, List.pairwise_singleton _ _, ?_⟩
  · rw [lines]
    exact commits.toAdds
  · rw [lines]
    exact commits.begun
  · exact List.forall_mem_singleton.mpr fun line member => commits.begun line member _ acknowledged
  · exact List.forall_mem_singleton.mpr commits.stored
  · exact List.forall_mem_singleton.mpr commits.within

/-- The batches of a run are in order. The clock carries the induction: it is ahead of every line
that is stored, and no later line has a time that it is ahead of. -/
theorem Chronicle.spans (chronicle : Chronicle place before batches after)
    (holds : place.Holds before) : Spans place batches before after := by
  induction chronicle with
  | elapses elapses => exact elapses.spans holds
  | trans _ _ first second =>
      have spans := first holds
      exact spans.trans (second spans.holds)
  | @commits _ _ _ start acknowledged _ ended _ inner batch _ reading acknowledges _ _ _ _ commits
      within =>
      obtain ⟨-, -, elapses⟩ := acknowledge_reads acknowledges
      obtain ⟨holdsTicked, -⟩ := elapses_ticked place.clock start holds
      have ticks : Elapses place start acknowledged :=
        Act.Frame.trans (elapses_ticked place.clock start) elapses
      have passed : (place.time acknowledged).Ahead batch.acknowledged :=
        (elapses holdsTicked).2.ahead _ (holds.ahead_ticked reading)
      have inside := within (ticks holds).1
      have all := inside.trans (commits.spans (inside.ahead _ passed))
      exact (ticks.spans holds).trans all

/-- From an empty log on, a run of commands, which may be sent inside one another and may fail at
any stage, leaves a log whose records are the lines of its batches, one behind another, with
times in order: records were stored in their order, every command was acknowledged before its
events occurred, and these were stored after that; and what has a record in an earlier batch
occurred before what has one in a later batch. Within a batch, events have occurred in the order
of their records, unless an event was published again behind others. -/
theorem log_times_in_order {start after : System D} (holds : place.Holds start)
    (empty : place.log start = []) (sends : Sends place start after) :
    ∃ batches, Chronicle place start batches after ∧
      LogFile.records (place.log after) =
        (Batch.allLines batches).map (fun line => LogFile.encodeLine line.text) ∧
      ((Batch.allLines batches).Pairwise fun line later =>
        line.persistedAt.NotAfter later.persistedAt) ∧
      InOrder batches := by
  obtain ⟨-, batches, chronicle⟩ := sends.chronicles holds
  have spans := chronicle.spans holds
  refine ⟨batches, chronicle, ?_, spans.persisted, spans.inOrder⟩
  have log : place.log after =
      [] ++ ((Batch.allLines batches).map (·.text)).flatMap LogFile.encodeLine := by
    rw [spans.log, empty, StampedLine.octets, List.flatMap_map]
  have isRecord : ∀ text ∈ (Batch.allLines batches).map (·.text), LogFile.IsRecord text := by
    rintro _ member
    obtain ⟨line, -, rfl⟩ := List.mem_map.mp member
    exact LogFile.isRecord_of_logLine line.written
  rw [log, LogFile.records_append_lines (.inl rfl) isRecord, List.map_map]
  rfl

end Ordering

/-! ## Two runs -/

/-- A moment in the first minute of the epoch. -/
def secondOf (second : Nat) (inRange : second < 60) : Moment :=
  { date := .unixEpoch
    time := { TimeOfDay.midnight with second, secondInRange := inRange }
    offset := some .universal }

/-- A clock that moves on by a second at every reading, and fails from the eighth one on. -/
def briefClock : Clock :=
  { kind := .ticking
    readings := fun place =>
      if inside : place < 7 then .ok (secondOf place (by omega))
      else .error (.fresh .outOfCalendar) }

theorem advances_briefClock : briefClock.Advances := by
  intro place later first second _ ordered reading readingLater
  simp only [briefClock] at reading readingLater
  split at reading
  · split at readingLater
    · cases reading
      cases readingLater
      refine ⟨_, _, rfl, rfl, ?_⟩
      simp only [secondOf, Moment.localMicroseconds, TimeOfDay.sinceMidnight,
        microsecondsPerSecond]
      omega
    · cases readingLater
  · cases reading

def logPlace : Place :=
  { application := ⟨0⟩, store := ⟨0⟩, path := ⟨["log"]⟩, clock := ⟨0⟩ }

/-- Two aggregates with the same script, for commands to an application with an empty log. -/
def timed (script : Domain.choosing.Script) : System Domain.choosing :=
  let aggregate : Aggregate Domain.choosing :=
    { id := "x", publisher := none, seen := [], handled := [], script := some script }
  { sendingInside ⟨1⟩ with
    aggregates := ⟨#[aggregate, aggregate]⟩
    stores := ⟨#[.disk ⟨["log"]⟩ ⟨0⟩]⟩
    clocks := ⟨#[briefClock]⟩
    files := ⟨[(["log"], .file [])]⟩ }

private theorem holds_timed (script : Domain.choosing.Script) : logPlace.Holds (timed script) :=
  ⟨rfl, rfl, rfl, ⟨[], FileTree.hasFile_read.mp rfl⟩, advances_briefClock⟩

theorem elapses_publish {place : Place} {system : System D} {aggregate : Ref .aggregate}
    (elsewhere : (system.aggregates.get aggregate).publisher ≠ some place.store)
    (event : Ref .event) :
    Elapses place system (Aggregate.publish aggregate event system).2 := by
  cases publisher : (system.aggregates.get aggregate).publisher with
  | none =>
      simp only [Aggregate.publish, bind, Act.bind, Act.read, publisher]
      exact elapses_of_same rfl (fun _ => rfl) rfl rfl
  | some store =>
      rw [publisher] at elsewhere
      simp only [Aggregate.publish, bind, Act.bind, Act.read, publisher]
      refine elapses_of_same rfl (fun _ => ?_) rfl rfl
      refine (Table.get_set _ _ _ _).trans (if_neg ?_)
      rintro rfl
      exact elsewhere rfl

/-- Sending a command to choosing code is a run if the steps are that its receiver's script has
for it. -/
private theorem sends_choosing {handlers : Handlers Domain.choosing} {command : Ref .command}
    {start : System Domain.choosing} (receiver : Ref .aggregate)
    (about given : System Domain.choosing) {script : Domain.choosing.Script}
    {sends : Ref .command → Act Domain.choosing CommandResult}
    (code : handlers = Handlers.choosingBy sends)
    (found : ((foundFrom handlers ⟨0⟩ command start).commands.get command).receiver =
      some receiver)
    (reaches : aboutFrom handlers ⟨0⟩ command receiver start = about)
    (still : (about.commands.get command).receiver = some receiver)
    (gives : Aggregate.commanded receiver command about = given)
    (known : (given.aggregates.get receiver).script = some script)
    (steps : Sends logPlace given (Act.forEach (fun step => Relay.insist sends receiver step.2)
      (script.filter (·.1 = command)) given).2) :
    Sends logPlace start (send handlers ⟨0⟩ command start).2 := by
  subst code
  refine .send (fun before after call => ?_) nofun
  cases call with
  | construct => exact .elapses (Act.Frame.refl before)
  | serves finds serves =>
      obtain rfl := Option.some.inj (found.symm.trans finds.receiver_eq)
      cases serves with
      | onEvent | construct => exact .elapses (Act.Frame.refl _)
      | onCommand accepts scripted =>
          obtain ⟨rehydrated, last, opens, accepted, resolved⟩ := accepts
          obtain ⟨rfl, rfl⟩ := opens.systems_eq finds
          subst reaches gives
          cases (Command.resolveReceiver_of_receiver still).symm.trans resolved
          obtain rfl := Option.some.inj (known.symm.trans scripted)
          exact steps

/-- What an aggregate does for a command, one step after another. -/
private def stepping (sends : Ref .command → Act Domain.choosing CommandResult)
    (aggregate : Ref .aggregate) (steps : Domain.choosing.Script) : Act Domain.choosing Unit :=
  Act.forEach (fun step => Relay.insist sends aggregate step.2) steps

private theorem sends_publish {sends : Ref .command → Act Domain.choosing CommandResult}
    {aggregate : Ref .aggregate} {command : Ref .command} {event : Ref .event}
    {steps : Domain.choosing.Script} {before middle : System Domain.choosing}
    (ran : Aggregate.publish aggregate event before = (.ok (), middle))
    (elsewhere : (before.aggregates.get aggregate).publisher ≠ some logPlace.store)
    (rest : Sends logPlace middle (stepping sends aggregate steps middle).2) :
    Sends logPlace before
      (stepping sends aggregate ((command, .publish event) :: steps) before).2 := by
  have elapses : Elapses logPlace before _ := elapses_publish elsewhere event
  have insists : Relay.insist sends aggregate (.publish event) before = (.ok (), middle) := ran
  rw [ran] at elapses
  show Sends logPlace before
    ((Relay.insist sends aggregate (.publish event) >>= fun _ =>
      stepping sends aggregate steps) before).2
  rw [Act.bind_of_ok insists]
  exact .trans (.elapses elapses) rest

private theorem sends_further {sends : Ref .command → Act Domain.choosing CommandResult}
    {aggregate : Ref .aggregate} {command other : Ref .command}
    {steps : Domain.choosing.Script} {before middle : System Domain.choosing}
    (ran : Relay.insist sends aggregate (.send other) before = (.ok (), middle))
    (sent : Sends logPlace before (sends other before).2)
    (rest : Sends logPlace middle (stepping sends aggregate steps middle).2) :
    Sends logPlace before
      (stepping sends aggregate ((command, .send other) :: steps) before).2 := by
  obtain ⟨result, answered, -⟩ := insist_send_eq_ok ran
  rw [answered] at sent
  show Sends logPlace before
    ((Relay.insist sends aggregate (.send other) >>= fun _ =>
      stepping sends aggregate steps) before).2
  rw [Act.bind_of_ok ran]
  exact .trans sent rest

private theorem sends_nothing (sends : Ref .command → Act Domain.choosing CommandResult)
    (aggregate : Ref .aggregate) (system : System Domain.choosing) :
    Sends logPlace system (stepping sends aggregate [] system).2 :=
  .elapses (Act.Frame.refl system)

/-- The command inside another one is stored as a whole. -/
private theorem sends_inner :
    let given := Aggregate.commanded ⟨0⟩ ⟨0⟩
      (aboutFrom (Handlers.choosing ⟨0⟩ 1) ⟨0⟩ ⟨0⟩ ⟨0⟩ (timed sendingInsideScript))
    let first := (Aggregate.publish ⟨0⟩ ⟨0⟩ given).2
    Sends logPlace first (send (Handlers.choosing ⟨0⟩ 0) ⟨0⟩ ⟨1⟩ first).2 := by
  intro given first
  let about := aboutFrom (Handlers.choosing ⟨0⟩ 0) ⟨0⟩ ⟨1⟩ ⟨1⟩ first
  let inside := Aggregate.commanded ⟨1⟩ ⟨1⟩ about
  have scripted : (inside.aggregates.get ⟨1⟩).script = some sendingInsideScript := by
    decide +kernel
  have steps : sendingInsideScript.filter (·.1 = ⟨1⟩) = [(⟨1⟩, .publish ⟨1⟩)] := by decide
  have publishes : Aggregate.publish ⟨1⟩ ⟨1⟩ inside = (.ok (), _) :=
    Act.run_of_answer (by decide +kernel)
  refine sends_choosing ⟨1⟩ about inside rfl (by decide +kernel) rfl (by decide +kernel) rfl
    scripted ?_
  rw [steps]
  exact sends_publish publishes (by decide +kernel) (sends_nothing _ _ _)

/-- The clock fails when the last event of the outer command is to be stored. -/
private theorem sends_sendingInside :
    Sends logPlace (timed sendingInsideScript)
      (send (Handlers.choosing ⟨0⟩ 1) ⟨0⟩ ⟨0⟩ (timed sendingInsideScript)).2 := by
  let start := timed sendingInsideScript
  let inner := Handlers.choosing ⟨0⟩ 0
  let about := aboutFrom (Handlers.choosing ⟨0⟩ 1) ⟨0⟩ ⟨0⟩ ⟨0⟩ start
  let given := Aggregate.commanded ⟨0⟩ ⟨0⟩ about
  let first := (Aggregate.publish ⟨0⟩ ⟨0⟩ given).2
  let second := (Relay.insist (send inner ⟨0⟩) ⟨0⟩ (.send ⟨1⟩) first).2
  have scripted : (given.aggregates.get ⟨0⟩).script = some sendingInsideScript := by
    decide +kernel
  have steps : sendingInsideScript.filter (·.1 = ⟨0⟩) =
      [(⟨0⟩, .publish ⟨0⟩), (⟨0⟩, .send ⟨1⟩), (⟨0⟩, .publish ⟨2⟩)] := by
    decide
  have publishes : Aggregate.publish ⟨0⟩ ⟨0⟩ given = (.ok (), first) :=
    Act.run_of_answer (by decide +kernel)
  have insists : Relay.insist (send inner ⟨0⟩) ⟨0⟩ (.send ⟨1⟩) first = (.ok (), second) :=
    Act.run_of_answer (by decide +kernel)
  have publishesAgain : Aggregate.publish ⟨0⟩ ⟨2⟩ second = (.ok (), _) :=
    Act.run_of_answer (by decide +kernel)
  have elsewhere : (second.aggregates.get ⟨0⟩).publisher ≠ some logPlace.store := by
    decide +kernel
  have last : Sends logPlace second
      (stepping (send inner ⟨0⟩) ⟨0⟩ [(⟨0⟩, .publish ⟨2⟩)] second).2 :=
    sends_publish publishesAgain elsewhere (sends_nothing _ _ _)
  refine sends_choosing ⟨0⟩ about given rfl (by decide +kernel) rfl (by decide +kernel) rfl
    scripted ?_
  rw [steps]
  exact sends_publish publishes (by decide +kernel) (sends_further insists sends_inner last)

theorem log_times_in_order_sendingInside :
    let start := timed sendingInsideScript
    let after := (send (Handlers.choosing ⟨0⟩ 1) ⟨0⟩ ⟨0⟩ start).2
    (LogFile.records (logPlace.log after)).length = 2 ∧
      ∃ batches, Chronicle logPlace start batches after ∧
        (Batch.allLines batches).length = 2 ∧ InOrder batches := by
  intro start after
  have count : (LogFile.records (logPlace.log after)).length = 2 := by decide +kernel
  obtain ⟨batches, chronicle, records, -, inOrder⟩ :=
    log_times_in_order (holds_timed sendingInsideScript) rfl sends_sendingInside
  refine ⟨count, batches, chronicle, ?_, inOrder⟩
  rw [records, List.length_map] at count
  exact count

/-- For the command an aggregate publishes an event, another one, and the first one again. -/
def republishingScript : Domain.choosing.Script :=
  [(⟨0⟩, .publish ⟨0⟩), (⟨0⟩, .publish ⟨1⟩), (⟨0⟩, .publish ⟨0⟩)]

private theorem sends_republishing :
    Sends logPlace (timed republishingScript)
      (send (Handlers.choosing ⟨0⟩ 0) ⟨0⟩ ⟨0⟩ (timed republishingScript)).2 := by
  let start := timed republishingScript
  let about := aboutFrom (Handlers.choosing ⟨0⟩ 0) ⟨0⟩ ⟨0⟩ ⟨0⟩ start
  let given := Aggregate.commanded ⟨0⟩ ⟨0⟩ about
  let first := (Aggregate.publish ⟨0⟩ ⟨0⟩ given).2
  let second := (Aggregate.publish ⟨0⟩ ⟨1⟩ first).2
  have scripted : (given.aggregates.get ⟨0⟩).script = some republishingScript := by
    decide +kernel
  have steps : republishingScript.filter (·.1 = ⟨0⟩) =
      [(⟨0⟩, .publish ⟨0⟩), (⟨0⟩, .publish ⟨1⟩), (⟨0⟩, .publish ⟨0⟩)] := by
    decide
  have publishes : Aggregate.publish ⟨0⟩ ⟨0⟩ given = (.ok (), first) :=
    Act.run_of_answer (by decide +kernel)
  have other : Aggregate.publish ⟨0⟩ ⟨1⟩ first = (.ok (), second) :=
    Act.run_of_answer (by decide +kernel)
  have again : Aggregate.publish ⟨0⟩ ⟨0⟩ second = (.ok (), _) :=
    Act.run_of_answer (by decide +kernel)
  refine sends_choosing ⟨0⟩ about given rfl (by decide +kernel) rfl (by decide +kernel) rfl
    scripted ?_
  rw [steps]
  exact sends_publish publishes (by decide +kernel) (sends_publish other (by decide +kernel)
    (sends_publish again (by decide +kernel) (sends_nothing _ _ _)))

def instantOf : Datum → Option Int
  | .moment moment => moment.instant?
  | _ => none

/-- The event that is published again is stamped a third time, and the log is not in the order in
which events occurred: its first record has a later time than the second one. -/
theorem republished_event_out_of_order :
    let start := timed republishingScript
    let after := (send (Handlers.choosing ⟨0⟩ 0) ⟨0⟩ ⟨0⟩ start).2
    let third := secondOf 3 (by decide)
    let second := secondOf 2 (by decide)
    logPlace.Holds start ∧ logPlace.log start = [] ∧ Sends logPlace start after ∧
      (LogFile.eventsOf? (LogFile.records (logPlace.log after))).map
        (·.map fun event => instantOf event.occurredOn) =
          some [third.instant?, second.instant?] ∧
      ¬ third.NotAfter second := by
  refine ⟨holds_timed republishingScript, rfl, sends_republishing, by decide +kernel, ?_⟩
  rintro ⟨later, earlier, shown, shownEarlier, ordered⟩
  cases shown
  cases shownEarlier
  exact absurd ordered (by decide)

end EventSourcing.Application
