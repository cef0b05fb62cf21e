import EventSourcing.Proofs.Store.AppendReadable
import EventSourcing.Proofs.Store.GrowingReplay
import EventSourcing.Proofs.Store.LogCourse
import EventSourcing.Proofs.Store.LogGrowth

/-!
# Replays up to the first stop

A replay of the store on disk goes through the lines of the log in order. Blank lines and events of
other streams are passed over, and it stops at the first line that is refused or at the first event
on which the code that it calls raises. `UpToStop` says where a replay of given lines ended, what
was handed over until then and what was raised; a fault of that code is raised as it is, and only
a refused line becomes a fault of reading, with its number among all lines. If that code stores
events in the log, the lines that were there come first (`LogFirst`).
-/

set_option autoImplicit false

namespace EventSourcing

variable {D : Domain} {State : Type}

namespace LogFile

/-- A line that is blank, describes an event, or is refused with a fault of the value family. -/
def Legible (line : List UInt8) : Prop :=
  line.all isBlankOctet = true ∨ ∀ fault, decodeLine line = .error fault → fault.family = .value

instance (line : List UInt8) : Decidable (Legible line) :=
  match decoded : decodeLine line with
  | .ok _ => isTrue (.inr fun _ failed => by cases decoded.symm.trans failed)
  | .error fault =>
    decidable_of_iff (line.all isBlankOctet = true ∨ fault.family = .value) <| or_congr_right
      ⟨fun isValue _ failed => by cases decoded.symm.trans failed; exact isValue,
        fun all => all fault decoded⟩

end LogFile

namespace DiskStore

open LiveEvent (contentIn)
open Store (Hands Offers)

/-- Where a replay of lines ended, the first of which has a number. -/
inductive UpToStop (path : Path) (streamId : AnyText) (step : State → Ref .event → Act D State)
    (number : Nat) (lines : List (List UInt8)) :
    List (System D × Ref .event) → Except Halt State × System D → Prop
  | returned {handed : List (System D × Ref .event)} {state : State} {after : System D} :
      Handover streamId lines handed →
      UpToStop path streamId step number lines handed (.ok state, after)
  /-- A line describes no event. -/
  | rejected {front rest : List (List UInt8)} {line : List UInt8} {cause : Fault}
      {handed : List (System D × Ref .event)} {fault : Ref .fault} {after : System D} :
      lines = front ++ line :: rest → Handover streamId front handed →
      line.all LogFile.isBlankOctet = false → LogFile.decodeLine line = .error cause →
      after.faults.get fault =
        .storeRead (.text s!"{path.text}:{number + front.length}") (.text cause.message) →
      UpToStop path streamId step number lines handed (.error (.raised fault), after)
  /-- The step raised when it was called for the event of a line. -/
  | raised {front rest : List (List UInt8)} {line : List UInt8} {content : Event}
      {handed : List (System D × Ref .event)} {state : State} {event : Ref .event}
      {given after : System D} {halt : Halt} :
      lines = front ++ line :: rest → Handover streamId front handed →
      line.all LogFile.isBlankOctet = false → LogFile.decodeLine line = .ok content →
      content.matchesStream streamId = true → contentIn given event = content.closed →
      step state event given = (.error halt, after) →
      UpToStop path streamId step number lines (handed ++ [(given, event)]) (.error halt, after)

/-- A replay that takes the lines of a log first: it ends within them, or it has read them all and
goes on with octets that were added behind them meanwhile. -/
inductive LogFirst (path : Path) (clock : Ref .clock) (streamId : AnyText)
    (step : State → Ref .event → Act D State) (state : State) (system : System D)
    (content : List UInt8) : List (System D × Ref .event) → Except Halt State × System D → Prop
  | within {handed : List (System D × Ref .event)} {outcome : Except Halt State × System D} :
      UpToStop path streamId step 1 (LogFile.records content) handed outcome →
      LogFirst path clock streamId step state system content handed outcome
  | behind {own further : List (System D × Ref .event)} {last : State} {reached : System D}
      {added : List UInt8} {lines : Nat} {outcome : Except Halt State × System D} :
      Covers path clock streamId step state system (LogFile.records content) own last reached →
      reached.files.HasFile path (content ++ added) → added ≠ [] → growthAllowance ≤ lines →
      Reads path clock streamId step lines content.length last reached further outcome →
      LogFirst path clock streamId step state system content (own ++ further) outcome

section Lines

variable {path : Path} {clock : Ref .clock} {streamId : AnyText}
  {step : State → Ref .event → Act D State} {number : Nat} {line : List UInt8}
  {lines : List (List UInt8)} {state : State} {system : System D}
  {handed : List (System D × Ref .event)} {outcome : Except Halt State × System D}
  {content : Event}

theorem UpToStop.matched (stop : UpToStop path streamId step number lines handed outcome) :
    ∀ pair ∈ handed, (contentIn pair.1 pair.2).matchesStream streamId = true := by
  cases stop with
  | returned handover => exact handover.matched
  | rejected _ handover => exact handover.matched
  | raised _ handover _ _ matching made =>
    intro pair member
    rcases List.mem_append.mp member with earlier | last
    · exact handover.matched pair earlier
    · rw [List.mem_singleton.mp last, made, Event.matchesStream_closed]
      exact matching

private theorem decoded_of_described (shown : describe path number line = .ok (some content)) :
    line.all LogFile.isBlankOctet = false ∧ LogFile.decodeLine line = .ok content := by
  rw [describe] at shown
  split at shown
  · cases shown
  · rename_i blank
    split at shown
    · rename_i decoded
      cases shown
      exact ⟨eq_false_of_ne_true blank, decoded⟩
    · cases shown

private theorem refused_of_legible {fault : Fault} (legible : LogFile.Legible line)
    (refused : describe path number line = .error fault) :
    ∃ cause, line.all LogFile.isBlankOctet = false ∧ LogFile.decodeLine line = .error cause ∧
      fault = .storeRead (.text s!"{path.text}:{number}") (.text cause.message) := by
  rw [describe] at refused
  split at refused
  · cases refused
  · rename_i blank
    split at refused
    · cases refused
    · rename_i cause failed
      rw [if_pos (legible.resolve_left blank cause failed)] at refused
      cases refused
      exact ⟨cause, eq_false_of_ne_true blank, failed, rfl⟩

/-- A replay of legible lines hands over their events up to the first stop. -/
theorem Course.upToStop
    (course : Course path clock streamId step number state system lines handed outcome)
    (legible : ∀ line ∈ lines, LogFile.Legible line) :
    UpToStop path streamId step number lines handed outcome := by
  cases course with
  | whole covers => exact .returned covers.handover
  | @refused _ _ line _ _ _ reached shape covers refused =>
    obtain ⟨cause, some, failed, rfl⟩ := refused_of_legible (legible line (by simp [shape])) refused
    exact .rejected shape covers.handover some failed (Table.get_push_nextRef reached.faults _)
  | raised shape covers described matching _ made ran =>
    obtain ⟨some, decoded⟩ := decoded_of_described described
    exact .raised shape covers.handover some decoded matching made ran

theorem LogFirst.matched {content : List UInt8}
    (first : LogFirst path clock streamId step state system content handed outcome) :
    ∀ pair ∈ handed, (contentIn pair.1 pair.2).matchesStream streamId = true := by
  cases first with
  | within stop => exact stop.matched
  | behind covers _ _ _ reads =>
    intro pair member
    rcases List.mem_append.mp member with own | further
    · exact covers.handover.matched pair own
    · exact reads.matched pair further

end Lines

section Logs

variable (handlers : Handlers D) {system : System D} {store : Ref .store} {path : Path}
  {clock : Ref .clock} {content : List UInt8} {step : State → Ref .event → Act D State}

private theorem replay_upToStop (holds : system.stores.get store = .disk path clock)
    (file : system.files.HasFile path content)
    (legible : ∀ line ∈ LogFile.records content, LogFile.Legible line)
    (leaves : ∀ state event, Act.Keeps (SameLog path content) (step state event))
    (streamId : AnyText) (state : State) :
    ∃ handed, Hands (Offers (.disk path clock)) step state system handed
        (Store.replay handlers store streamId state step system) ∧
      UpToStop path streamId step 1 (LogFile.records content) handed
        (Store.replay handlers store streamId state step system) := by
  obtain ⟨handed, course⟩ := replayRecords_course path clock streamId step
    (LogFile.records content) 1 state system
  rw [← replay_eq leaves state file, ← store_replay holds] at course
  exact ⟨handed, course.hands, course.upToStop legible⟩

private theorem replay_logFirst (holds : system.stores.get store = .disk path clock)
    (file : system.files.HasFile path content)
    (legible : ∀ line ∈ LogFile.records content, LogFile.Legible line)
    (ended : LogFile.Ended content)
    (grows : ∀ state event, Act.Keeps (SameBeginning path content) (step state event))
    (streamId : AnyText) (state : State) :
    ∃ handed, Hands (Offers (.disk path clock)) step state system handed
        (Store.replay handlers store streamId state step system) ∧
      LogFirst path clock streamId step state system content handed
        (Store.replay handlers store streamId state step system) := by
  obtain ⟨left, room, splits⟩ := replay_grown streamId grows ended file state
  rw [store_replay holds, splits]
  obtain ⟨own, course⟩ := replayRecords_course path clock streamId step
    (LogFile.records content) 1 state system
  rcases ran : replayRecords path streamId step 1 state (LogFile.records content) system with
    ⟨halt | last, reached⟩
  · rw [ran] at course
    rw [Act.bind_of_error ran]
    exact ⟨own, course.hands, .within (course.upToStop legible)⟩
  · rw [ran] at course
    have covers := course.covers
    obtain ⟨added, there⟩ := covers.beginsWith grows file.beginsWith
    rw [Act.bind_of_ok ran]
    by_cases none : added = []
    · subst none
      obtain ⟨lines, rfl⟩ := Nat.exists_eq_add_of_le' (Nat.le_trans (by decide) room : 1 ≤ left)
      rw [List.append_nil] at there
      rw [replayFrom_end there List.drop_length]
      exact ⟨own, covers.hands, .within (.returned covers.handover)⟩
    · obtain ⟨further, reads⟩ := replayFrom_reads path clock streamId step left last content.length
        (1 + (LogFile.records content).length) reached
      exact ⟨own ++ further, covers.hands.append reads.hands,
        .behind covers there none room reads⟩

end Logs

end DiskStore

open DiskStore (LogFirst UpToStop SameBeginning SameLog) in
/-- A replay of a log of which every line is blank, describes an event or is refused with a fault of
values. Whatever the step does, every event that is handed over matches and is closed, and nothing
is handed over behind a call that raises. While the step leaves the log alone, all events that match
are handed over in order up to the first line that is refused, wherever it belongs, or the first
call that raises. While it only adds to a log that has an end for every line, the lines that the log
had are taken first in this way, and then those that were added. -/
theorem Store.replay_stops_at_first (handlers : Handlers D) {system : System D}
    {store : Ref .store} {path : Path} {clock : Ref .clock} {content : List UInt8}
    (holds : system.stores.get store = .disk path clock)
    (file : system.files.HasFile path content)
    (legible : ∀ line ∈ LogFile.records content, LogFile.Legible line) (streamId : AnyText)
    (state : State) (step : State → Ref .event → Act D State) :
    ∃ handed, Hands (Offers (.disk path clock)) step state system handed
        (replay handlers store streamId state step system) ∧
      (∀ pair ∈ handed, LiveEvent.Closed pair.1 pair.2 ∧
        (LiveEvent.contentIn pair.1 pair.2).matchesStream streamId = true) ∧
      ((∀ state event, Act.Keeps (SameLog path content) (step state event)) →
        UpToStop path streamId step 1 (LogFile.records content) handed
          (replay handlers store streamId state step system)) ∧
      (LogFile.Ended content →
        (∀ state event, Act.Keeps (SameBeginning path content) (step state event)) →
        LogFirst path clock streamId step state system content handed
          (replay handlers store streamId state step system)) := by
  have closed {handed : List (System D × Ref .event)} {outcome : Except Halt State × System D}
      (hands : Hands (Offers (.disk path clock)) step state system handed outcome) :
      ∀ pair ∈ handed, LiveEvent.Closed pair.1 pair.2 := by
    intro pair member
    obtain ⟨before, offers⟩ := hands.offered pair member
    exact offers.closed
  by_cases leaves : ∀ state event, Act.Keeps (SameLog path content) (step state event)
  · obtain ⟨handed, hands, stop⟩ :=
      DiskStore.replay_upToStop handlers holds file legible leaves streamId state
    exact ⟨handed, hands, fun pair member => ⟨closed hands pair member, stop.matched pair member⟩,
      fun _ => stop, fun _ _ => .within stop⟩
  by_cases grows : LogFile.Ended content ∧
      ∀ state event, Act.Keeps (SameBeginning path content) (step state event)
  · obtain ⟨handed, hands, first⟩ := DiskStore.replay_logFirst handlers holds file legible
      grows.1 grows.2 streamId state
    exact ⟨handed, hands, fun pair member => ⟨closed hands pair member, first.matched pair member⟩,
      fun all => absurd all leaves, fun _ _ => first⟩
  · have native : ∀ description, system.stores.get store ≠ .foreign description := by
      intro description foreign
      cases holds.symm.trans foreign
    obtain ⟨handed, replayed⟩ := replay_replayed handlers native streamId state step
    rw [holds] at replayed
    exact ⟨handed, replayed.hands,
      fun pair member => ⟨closed replayed.hands pair member, replayed.matched pair member⟩,
      fun all => absurd all leaves, fun ended all => absurd ⟨ended, all⟩ grows⟩

/-- A log with a line of another stream between two blank lines, a matching one before them, and a
last line, of no stream, that has neither an object nor an end. -/
def interruptedLog : List UInt8 :=
  Utf8.encode ("\n\x7b\"Name\": \"a\", \"StreamId\": \"x\"\x7d\n" ++
    "\x7b\"Name\": \"b\", \"StreamId\": \"y\"\x7d\n \t\n[]").toList

/-- A blank line and one event, of the stream of the event that `collectsAndStores` stores. -/
def spacedLog : List UInt8 :=
  Utf8.encode "\n\x7b\"Name\": \"a\", \"StreamId\": \"x\"\x7d\n".toList

private theorem Store.keeps_collectsAndStores (path : Path) (content : List UInt8)
    (seen : List (Ref .event)) (event : Ref .event) :
    Act.Keeps (DiskStore.SameBeginning path content) (collectsAndStores seen event) := by
  have appends : Act.Keeps (DiskStore.SameBeginning path content)
      (append Handlers.bare ⟨0⟩ [⟨0⟩]) :=
    keeps_append (fun description => Empty.elim description) ⟨0⟩ [⟨0⟩]
  rw [collectsAndStores]
  split
  · exact appends.bind fun _ => Act.keeps_pure _
  · exact Act.keeps_pure _

/-- In the first log the event of one line is handed over, and the last line is the fifth. The
second log grows. -/
theorem Store.replay_stops_at_first_interruptedLog :
    let start := DiskStore.overFile interruptedLog
    let outcome := replay Handlers.bare ⟨0⟩ "x" [] collect start
    let growing := replay Handlers.bare ⟨0⟩ "x" [] collectsAndStores (DiskStore.overFile spacedLog)
    start.files.HasFile ⟨["log"]⟩ interruptedLog ∧
      (∀ line ∈ LogFile.records interruptedLog, LogFile.Legible line) ∧
      (∀ state event, Act.Keeps (DiskStore.SameLog ⟨["log"]⟩ interruptedLog)
        (collect (D := Domain.bare) state event)) ∧
      (∃ handed, Hands (Offers (.disk ⟨["log"]⟩ ⟨0⟩)) collect [] start handed outcome ∧
        DiskStore.UpToStop ⟨["log"]⟩ "x" collect 1 (LogFile.records interruptedLog) handed
          outcome) ∧
      outcome.1 = .error (.raised ⟨0⟩) ∧
      (outcome.2.faults.get ⟨0⟩).message =
        "Cannot replay events from log:5: expected a JSON object, got list" ∧
      LogFile.Ended spacedLog ∧
      (∀ state event, Act.Keeps (DiskStore.SameBeginning ⟨["log"]⟩ spacedLog)
        (collectsAndStores state event)) ∧
      ∃ handed, DiskStore.LogFirst ⟨["log"]⟩ ⟨0⟩ "x" collectsAndStores []
        (DiskStore.overFile spacedLog) spacedLog handed growing := by
  intro start outcome growing
  have file := DiskStore.overFile_file interruptedLog
  have legible : ∀ line ∈ LogFile.records interruptedLog, LogFile.Legible line := by
    decide +kernel
  have leaves : ∀ state event, Act.Keeps (DiskStore.SameLog ⟨["log"]⟩ interruptedLog)
      (collect (D := Domain.bare) state event) :=
    fun state event => Act.keeps_pure _
  have ended : LogFile.Ended spacedLog := .inr (by decide +kernel)
  have grows := keeps_collectsAndStores ⟨["log"]⟩ spacedLog
  obtain ⟨handed, hands, -, stop, -⟩ := replay_stops_at_first Handlers.bare
    (DiskStore.overFile_holds interruptedLog) file legible "x" [] collect
  obtain ⟨further, -, -, -, first⟩ := replay_stops_at_first Handlers.bare
    (DiskStore.overFile_holds spacedLog) (DiskStore.overFile_file spacedLog) (by decide +kernel)
    "x" [] collectsAndStores
  exact ⟨file, legible, leaves, ⟨handed, hands, stop leaves⟩, by decide +kernel, by decide +kernel,
    ended, grows, further, first ended grows⟩

/-- Code that stores in the log that is replayed is called for the line that it added as well. -/
theorem Store.replay_reads_on_behind_log :
    let outcome := replay Handlers.bare ⟨0⟩ "x" [] collectsAndStores (DiskStore.overFile spacedLog)
    (∀ line ∈ LogFile.records spacedLog, LogFile.Legible line) ∧
      (LogFile.eventsOf? (LogFile.records spacedLog)).map List.length = some 1 ∧
      outcome.1.toOption.map List.length = some 2 := by
  decide +kernel

end EventSourcing
