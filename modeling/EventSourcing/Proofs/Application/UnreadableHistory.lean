import EventSourcing.Proofs.Application.Reporting
import EventSourcing.Proofs.Store.ReadFaults

/-!
# Unreadable history

What comes of a log that cannot be read. A replay of it ends with a fault of reading, and so
does the application that is rebuilt from it, since projections that raise hold nothing up.
What is wrong in a line without being a fault of the value family comes out as it is instead,
such as a time that is a number.
-/

set_option autoImplicit false

namespace EventSourcing.Application

open DiskStore (LeavesLog Reported Returns SameLog)

variable {D : Domain} {handlers : Handlers D} {path : Path}

/-- Projections end with a value or a fault whenever they are called, and leave the log a file
that can be read. -/
def ProjectionsEnd (handlers : Handlers D) (path : Path) : Prop :=
  ∀ {content} projection event (system : System D), system.files.HasFile path content →
    (∀ halt, (handlers.onProject projection event system).1 = .error halt →
      ∃ fault, halt = .raised fault) ∧
    ∃ later, (handlers.onProject projection event system).2.files.HasFile path later

/-- Projections leave the octets of the log alone. -/
def ProjectionsLeaveLog (handlers : Handlers D) (path : Path) : Prop :=
  ∀ content projection event, Act.Keeps (SameLog path content) (handlers.onProject projection event)

/-- Rebuilding takes an event whatever projections raise, and keeps what they keep. -/
private theorem initStep_keeps {ref : Ref .application} {event : Ref .event} {system : System D}
    {holds : System D → Prop}
    (passes : Passes handlers ref event fun _ system => holds system) (known : holds system)
    (result : ReplayResult) :
    ∃ next after, initStep handlers ref result event system = (.ok next, after) ∧ holds after := by
  obtain ⟨failures, after, projected, kept⟩ :
      ∃ failures after, project handlers ref event system = (.ok failures, after) ∧
        holds after := by
    rw [project, Act.bind_of_ok (Act.read_run _ _)]
    exact projectEach_run passes _ known
  have taken : ∃ next, initStep handlers ref result event system = (.ok next, after) := by
    rw [initStep, Act.bind_of_ok projected, Act.bind_of_ok (Act.read_run _ _)]
    exact ⟨_, rfl⟩
  obtain ⟨next, taken⟩ := taken
  exact ⟨next, after, taken, kept⟩

theorem initStep_returns (ends : ProjectionsEnd handlers path) (ref : Ref .application) :
    Returns path (initStep handlers ref) := by
  intro content result event system file
  have passes : Passes handlers ref event fun _ system =>
      ∃ content, system.files.HasFile path content :=
    { noted := fun _ known => known
      called := fun known => by
        obtain ⟨content, file⟩ := known
        exact ends _ event _ file }
  obtain ⟨next, after, ran, later, kept⟩ := initStep_keeps passes ⟨content, file⟩ result
  exact ⟨next, after, later, ran, kept⟩

theorem initStep_leavesLog (ends : ProjectionsEnd handlers path)
    (leave : ProjectionsLeaveLog handlers path) (ref : Ref .application) :
    LeavesLog path (initStep handlers ref) := by
  intro content result event system file
  have passes : Passes handlers ref event fun _ system => system.files.HasFile path content :=
    { noted := fun _ known => known
      called := fun known =>
        ⟨fun halt => (ends _ event _ (by exact known)).1 halt, leave content _ event _ known⟩ }
  obtain ⟨next, after, ran, kept⟩ := initStep_keeps passes file result
  rw [ran]
  exact kept

/-- Of a log that cannot be read, replays and the rebuilding of an application raise a fault of
reading, whatever its octets are and whether it is there; but a line with a time that is neither
a text nor void, or with values nested too deep, raises its own fault. -/
theorem unreadable_history_reported (handlers : Handlers D) (path : Path) (clock : Ref .clock)
    (system : System D) :
    (∀ {State : Type} {step : State → Ref .event → Act D State} {store : Ref .store},
      system.stores.get store = .disk path clock → Returns path step → ∀ streamId state,
      Reported path (¬ LeavesLog path step)
        (Store.replay handlers store streamId state step system)) ∧
    ∀ {ref : Ref .application},
      system.stores.get (system.applications.get ref).store = .disk path clock →
      ProjectionsEnd handlers path →
      Reported path (¬ ProjectionsLeaveLog handlers path) (init handlers ref system) := by
  constructor
  · intro State step store disk returns streamId state
    rw [DiskStore.store_replay disk]
    exact DiskStore.replay_reported returns streamId state system
  · intro ref disk ends
    have replays : Store.replay handlers _ Event.allStreams {} (initStep handlers ref) system = _ :=
      DiskStore.store_replay disk Event.allStreams {} (initStep handlers ref)
    have reported :=
      DiskStore.replay_reported (initStep_returns ends ref) Event.allStreams {} system
    rw [← replays] at reported
    rw [init, Act.bind_of_ok (Act.read_run _ _)]
    generalize shown : Store.replay handlers (system.applications.get ref).store Event.allStreams {}
      (initStep handlers ref) system = outcome at reported
    cases reported with
    | returned result after =>
        rw [Act.bind_of_ok shown]
        exact .returned result _
    | unreadable location detail kept =>
        rw [Act.bind_of_error shown]
        exact .unreadable location detail kept
    | illegible offset file decoded escapes =>
        rw [Act.bind_of_error shown]
        exact .illegible offset file decoded escapes
    | unusable null kept =>
        rw [Act.bind_of_error shown]
        exact .unusable null kept
    | unending after grows =>
        rw [Act.bind_of_error shown]
        exact .unending after fun leave => grows (initStep_leavesLog ends leave ref)

/-- An application over a log of given octets. -/
def overLog (octets : List UInt8) : System Domain.bare :=
  { stores := ⟨#[.disk ⟨["log"]⟩ ⟨0⟩]⟩
    files := ⟨[(["log"], .file octets)]⟩
    applications := ⟨#[{
      name := .text "app", store := ⟨0⟩, clock := ⟨0⟩, logger := "app", projections := [] }]⟩
    domain := () }

theorem unreadable_history_reported_truncated :
    let truncated := overLog (Utf8.encode "\x7b\"Name\": \"a\"".toList)
    Reported ⟨["log"]⟩ (¬ LeavesLog ⟨["log"]⟩ (Store.collect (D := Domain.bare)))
        (Store.replay Handlers.bare ⟨0⟩ "a" [] Store.collect truncated) ∧
      Reported ⟨["log"]⟩ (¬ ProjectionsLeaveLog Handlers.bare ⟨["log"]⟩)
        (init Handlers.bare ⟨0⟩ truncated) := by
  intro truncated
  have reported := unreadable_history_reported Handlers.bare ⟨["log"]⟩ ⟨0⟩ truncated
  exact ⟨reported.1 rfl (fun _ _ system file => ⟨_, system, _, rfl, file⟩) "a" [],
    reported.2 rfl nofun⟩

/-- The cause of what an action raises. -/
def causeOf? {Result : Type} (outcome : Except Halt Result × System D) : Option Fault :=
  match outcome with
  | (.error (.raised fault), after) => some (after.faults.get fault)
  | _ => none

/-- A time that is a number is no fault of reading, neither for a replay nor for an application
that is rebuilt. -/
theorem numeric_time_escapes :
    let start := overLog (Utf8.encode "\x7b\"OccurredOn\": 5\x7d\n".toList)
    let replayed := causeOf? (Store.replay Handlers.bare ⟨0⟩ "a" [] Store.collect start)
    let rebuilt := causeOf? (init Handlers.bare ⟨0⟩ start)
    replayed.map Fault.className = some "AttributeError" ∧
      replayed.map Fault.message = some "'int' object has no attribute 'strip'" ∧
      rebuilt.map Fault.className = some "AttributeError" := by
  decide +kernel

end EventSourcing.Application
