import EventSourcing.Proofs.Store.Listing
import EventSourcing.Proofs.Store.LogCourse

/-!
# How far a replay reaches

Code that goes on after every event lets a replay come as far as its log can be read. A store in
memory hands over all events that it holds. Of a file the events of the lines are handed over up to
the first line that is refused, and the replay ends with the fault of that line.
-/

set_option autoImplicit false

namespace EventSourcing

variable {D : Domain} {State : Type}

open LiveEvent (contentIn)

namespace Store

/-- A property of systems under which a step goes on, and which neither the step nor the making of
an event ends. -/
structure Sustains (store : Store D) (step : State → Ref .event → Act D State)
    (holds : System D → Prop) : Prop where
  offered : ∀ {before event given}, holds before → Offers store before event given → holds given
  stepped : ∀ {given} state event, holds given →
    ∃ next after, step state event given = (.ok next, after) ∧ holds after

theorem Sustains.reached {store : Store D} {step : State → Ref .event → Act D State}
    {holds : System D → Prop} {state last : State} {system reached : System D}
    {handed : List (System D × Ref .event)} (sustains : Sustains store step holds)
    (hands : Hands (Offers store) step state system handed (.ok last, reached))
    (here : holds system) : holds reached := by
  generalize ended : (Except.ok last, reached) = outcome at hands
  induction hands with
  | done =>
    cases ended
    exact here
  | stops | exhausted | raises => cases ended
  | @takes state next before given middle event handed outcome offers ran _ ih =>
    obtain ⟨_, _, stepped, kept⟩ := sustains.stepped state event (sustains.offered here offers)
    cases ran.symm.trans stepped
    exact ih kept ended

/-- The answer of a replay, unless a fault keeps it from one. -/
def concluded (fault? : Option Fault) (last : State) : Act D State :=
  match fault? with
  | none => pure last
  | some fault => Act.throw fault

end Store

namespace DiskStore

/-- What is raised about a log that cannot be opened. -/
def unopened (path : Path) (fault : FileFault) : Fault :=
  if (Fault.file fault).family = .system then .storeRead (.text path.text) (.text fault.message)
  else .file fault

end DiskStore

namespace Store

open DiskStore (describe unopened)

/-- The events that a replay of every stream can hand over, and the fault that keeps it from more:
all of those that are held, or those that the lines of a file describe, up to the first line that
is refused. -/
inductive Yields (system : System D) :
    Store D → List (System D × Ref .event) → Option Fault → Prop
  | held {events : List (Ref .event)} {handed : List (System D × Ref .event)} :
      handed.map Prod.snd = events → Yields system (.memory events) handed none
  | whole {path : Path} {clock : Ref .clock} {octets : List UInt8} {contents : List Event}
      {handed : List (System D × Ref .event)} :
      system.files.HasFile path octets →
      LogFile.eventsOf? (LogFile.records octets) = some contents →
      handed.map (fun pair => contentIn pair.1 pair.2) = contents.map Event.closed →
      Yields system (.disk path clock) handed none
  | upTo {path : Path} {clock : Ref .clock} {octets line : List UInt8}
      {front rest : List (List UInt8)} {contents : List Event}
      {handed : List (System D × Ref .event)} {fault : Fault} :
      system.files.HasFile path octets → LogFile.records octets = front ++ line :: rest →
      LogFile.eventsOf? front = some contents →
      handed.map (fun pair => contentIn pair.1 pair.2) = contents.map Event.closed →
      describe path (front.length + 1) line = .error fault →
      Yields system (.disk path clock) handed (some fault)
  | unopened {path : Path} {clock : Ref .clock} {fault : FileFault} :
      system.files.read path = .error fault →
      Yields system (.disk path clock) [] (some (unopened path fault))

end Store

section Reaching

open Store (Sustains Hands Offers Yields concluded FileStays)
open DiskStore (Handover Course)

variable {step : State → Ref .event → Act D State} {holds : System D → Prop} {system : System D}

/-- A store in memory hands over every event to code that goes on. -/
private theorem MemoryStore.fold_hands {held events : List (Ref .event)}
    (sustains : Sustains (.memory held) step holds) (state : State) (here : holds system) :
    ∃ handed last reached,
      Hands (Offers (.memory held)) step state system handed (.ok last, reached) ∧
      handed.map Prod.snd = events ∧
      Act.fold (pick Event.allStreams step) state events system = (.ok last, reached) := by
  induction events generalizing state system with
  | nil => exact ⟨[], state, system, .done, rfl, rfl⟩
  | cons event events ih =>
    obtain ⟨next, middle, ran, kept⟩ := sustains.stepped state event here
    obtain ⟨handed, last, reached, hands, all, folded⟩ := ih next kept
    have picked : pick Event.allStreams step state event system = (.ok next, middle) :=
      (pick_of_matching rfl).trans ran
    refine ⟨(system, event) :: handed, last, reached, .takes rfl ran hands, ?_, ?_⟩
    · rw [List.map_cons, all]
    · rw [Act.fold, Act.bind_of_ok picked, folded]

namespace DiskStore

variable {path : Path} {clock : Ref .clock} {octets : List UInt8}

theorem Handover.every {lines : List (List UInt8)} {handed : List (System D × Ref .event)}
    (handover : Handover Event.allStreams lines handed) :
    ∃ contents, LogFile.eventsOf? lines = some contents ∧
      handed.map (fun pair => contentIn pair.1 pair.2) = contents.map Event.closed := by
  obtain ⟨contents, known, all⟩ := handover
  rw [List.filter_eq_self.mpr fun _ _ => by rfl] at all
  exact ⟨contents, known, all⟩

/-- The lines of a file that are read leave code that goes on where it can go on. -/
private theorem replayLine_sustained {number : Nat} {line : List UInt8} {streamId : AnyText}
    {described : Option Event} {state next : State} {after : System D}
    (sustains : Sustains (.disk path clock) step holds) (here : holds system)
    (shown : describe path number line = .ok described)
    (ran : replayLine streamId state step described system = (.ok next, after)) :
    holds after := by
  rcases replayLine_cases clock streamId step state system shown with
    ⟨_, event, given, _, _, offers, _, _, line⟩ | ⟨_, line⟩
  · obtain ⟨_, _, stepped, kept⟩ := sustains.stepped state event (sustains.offered here offers)
    cases ran.symm.trans (line.trans stepped)
    exact kept
  · cases ran.symm.trans line
    exact here

/-- Code that goes on leaves a course no end but those of the log. -/
private theorem Course.yields {state : State} {handed : List (System D × Ref .event)}
    {outcome : Except Halt State × System D} (file : system.files.HasFile path octets)
    (sustains : Sustains (.disk path clock) step holds) (here : holds system)
    (course : Course path clock Event.allStreams step 1 state system (LogFile.records octets)
      handed outcome) :
    ∃ fault? last reached,
      Hands (Offers (.disk path clock)) step state system handed (.ok last, reached) ∧
      Yields system (.disk path clock) handed fault? ∧ outcome = concluded fault? last reached := by
  cases course with
  | @whole _ last reached covers =>
    obtain ⟨contents, known, all⟩ := covers.handover.every
    exact ⟨none, last, reached, covers.hands, .whole file known all, rfl⟩
  | @refused front rest line fault _ last reached shape covers refused =>
    obtain ⟨contents, known, all⟩ := covers.handover.every
    rw [Nat.add_comm] at refused
    exact ⟨some fault, last, reached, covers.hands, .upTo file shape known all refused, rfl⟩
  | @raised _ _ _ _ _ last _ _ _ event _ _ covers _ _ offers _ ran =>
    have given := sustains.offered (sustains.reached covers.hands here) offers
    obtain ⟨next, after, stepped, -⟩ := sustains.stepped last event given
    cases ran.symm.trans stepped

private theorem replay_of_error {fault : FileFault} (gone : system.files.read path = .error fault)
    (streamId : AnyText) (state : State) :
    replay path streamId state step system =
      (Act.throw (unopened path fault) : Act D State) system := by
  rw [replay, Act.bind_of_ok (Act.read_run _ _), gone, unopened]
  dsimp only
  split <;> rfl

end DiskStore

/-- A replay of every stream by code that goes on hands over what the log yields, and ends with
what its code made of it or with the fault that keeps the log from being read any further. -/
theorem Store.replay_yields (handlers : Handlers D) {store : Ref .store}
    (native : ∀ description, system.stores.get store ≠ .foreign description)
    (sustains : Sustains (system.stores.get store) step holds)
    (stays : ∀ {later}, holds later → FileStays (system.stores.get store) system later)
    (here : holds system) (state : State) :
    ∃ handed fault? last reached,
      Hands (Offers (system.stores.get store)) step state system handed (.ok last, reached) ∧
      Yields system (system.stores.get store) handed fault? ∧
      replay handlers store Event.allStreams state step system =
        concluded fault? last reached := by
  cases kind : system.stores.get store with
  | foreign description => exact absurd kind (native description)
  | memory held =>
    rw [kind] at sustains
    obtain ⟨handed, last, reached, hands, all, folded⟩ :=
      MemoryStore.fold_hands sustains state here
    refine ⟨handed, none, last, reached, hands, .held all, ?_⟩
    have read : MemoryStore.events store system = (.ok held, system) := by
      rw [MemoryStore.events, Act.read_run, MemoryStore.eventsIn_of_get kind]
    rw [MemoryStore.store_replay kind, MemoryStore.replay, Act.bind_of_ok read]
    exact folded
  | disk path clock =>
    rw [kind] at sustains
    rw [DiskStore.store_replay kind]
    cases found : system.files.read path with
    | error fault =>
      rw [DiskStore.replay_of_error found]
      exact ⟨[], _, state, system, .done, .unopened found, rfl⟩
    | ok octets =>
      have file : system.files.HasFile path octets := FileTree.hasFile_read.mp found
      have there {later : System D} (known : holds later) : later.files.HasFile path octets := by
        have kept := (stays known path clock kind).1
        rw [kind] at kept
        exact kept octets file
      obtain ⟨handed, course⟩ := DiskStore.replayRecords_course path clock Event.allStreams step
        (LogFile.records octets) 1 state system
      rw [← DiskStore.replay_eq_of_known there (DiskStore.replayLine_sustained sustains) state
        here] at course
      exact ⟨handed, course.yields file sustains here⟩

end Reaching

end EventSourcing
