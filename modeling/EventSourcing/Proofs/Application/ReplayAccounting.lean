import EventSourcing.Proofs.Application.ProjectionFailures
import EventSourcing.Proofs.Application.UnreadableHistory
import EventSourcing.Proofs.Store.ReplayReach

/-!
# What a rebuild counts

An application is rebuilt by a replay of its log, each event of which is handed to every projection.
Whatever the projections raise, as long as they leave the application and its log alone, what is
counted on the way are the events and how each call ended. A log that cannot be read to its end
raises its fault, once the events in front of it were handed over.
-/

set_option autoImplicit false

namespace EventSourcing.Application

open Store (Hands Offers Yields Sustains)

variable {D : Domain}

/-! ## Calls that end -/

namespace Dispatch

variable (handlers : Handlers D) (dispatch : Dispatch D)

def returns : Bool :=
  (dispatch.outcome handlers).1.isOk

def raises : Bool :=
  (dispatch.raised? handlers).isSome

variable {handlers : Handlers D} {dispatch : Dispatch D} {dispatches : List (Dispatch D)}

theorem Ends.returns_eq (ends : dispatch.Ends handlers) :
    dispatch.returns handlers = !dispatch.raises handlers := by
  unfold Ends at ends
  unfold returns raises raised?
  cases ended : (dispatch.outcome handlers).1 with
  | ok result => rfl
  | error halt =>
    obtain ⟨fault, rfl⟩ := ends halt ended
    rfl

theorem countP_returns_add_raises (ends : ∀ dispatch ∈ dispatches, dispatch.Ends handlers) :
    dispatches.countP (returns handlers) + dispatches.countP (raises handlers) =
      dispatches.length := by
  induction dispatches with
  | nil => rfl
  | cons dispatch dispatches ih =>
    obtain ⟨here, later⟩ := List.forall_mem_cons.mp ends
    have rest := ih later
    rw [List.countP_cons, List.countP_cons, here.returns_eq, List.length_cons]
    cases dispatch.raises handlers <;> simp <;> omega

/-- There is one failure for each call that raised. -/
theorem length_filterMap_failure? :
    (dispatches.filterMap (failure? handlers)).length = dispatches.countP (raises handlers) := by
  rw [List.length_filterMap_eq_countP]
  refine List.countP_congr fun dispatch _ => ?_
  rw [failure?, Option.isSome_map, raises]

end Dispatch

theorem DispatchesEach.ends {handlers : Handlers D} {ref : Ref .application} {event : Ref .event}
    {entries : List (String × D.Projection)} {system after : System D}
    {dispatches : List (Dispatch D)}
    (course : DispatchesEach handlers ref event entries system dispatches after) :
    ∀ dispatch ∈ dispatches, dispatch.Ends handlers := by
  induction course with
  | done => simp
  | next _ _ _ ends _ ih => exact List.forall_mem_cons.mpr ⟨ends, ih⟩

/-! ## Counting -/

/-- What was counted once events were handed over by these calls. -/
structure Accounts (handlers : Handlers D) (events : List (Ref .event))
    (dispatches : List (Dispatch D)) (result : ReplayResult) : Prop where
  processed : result.processed = events.length
  dispatched : result.dispatched = dispatches.countP (Dispatch.returns handlers)
  failed : result.failed = dispatches.countP (Dispatch.raises handlers)
  failures : result.failures = dispatches.filterMap (Dispatch.failure? handlers)

/-- The counts after one more event. -/
def counting (handlers : Handlers D) (result : ReplayResult) (dispatches : List (Dispatch D)) :
    ReplayResult where
  processed := result.processed + 1
  dispatched := result.dispatched + dispatches.countP (Dispatch.returns handlers)
  failed := result.failed + dispatches.countP (Dispatch.raises handlers)
  failures := result.failures ++ dispatches.filterMap (Dispatch.failure? handlers)

section Counting

variable {handlers : Handlers D} {events : List (Ref .event)}
  {dispatches : List (Dispatch D)} {result : ReplayResult}

theorem accounts_nil : Accounts handlers [] [] {} :=
  ⟨rfl, rfl, rfl, rfl⟩

theorem Accounts.next (accounts : Accounts handlers events dispatches result)
    (event : Ref .event) (more : List (Dispatch D)) :
    Accounts handlers (events ++ [event]) (dispatches ++ more)
      (counting handlers result more) := by
  constructor
  · rw [List.length_append, ← accounts.processed]
    rfl
  · rw [List.countP_append, ← accounts.dispatched]
    rfl
  · rw [List.countP_append, ← accounts.failed]
    rfl
  · rw [List.filterMap_append, ← accounts.failures]
    rfl

theorem Accounts.isSuccess_iff (accounts : Accounts handlers events dispatches result) :
    result.isSuccess = true ↔ ∀ dispatch ∈ dispatches, dispatch.raised? handlers = none := by
  rw [ReplayResult.isSuccess, decide_eq_true_iff, accounts.failed, List.countP_eq_zero]
  simp only [Dispatch.raises, Bool.not_eq_true, Option.isSome_eq_false_iff,
    Option.isNone_iff_eq_none]

end Counting

/-! ## The run -/

/-- The calls by which an application is rebuilt: each event that is handed over goes to every
projection before the next one is made. -/
inductive Replays (handlers : Handlers D) (ref : Ref .application) (store : Store D) :
    System D → List (System D × Ref .event) → List (Dispatch D) → System D → Prop
  | done {system : System D} : Replays handlers ref store system [] [] system
  | next {before given middle after : System D} {event : Ref .event}
      {handed : List (System D × Ref .event)} {first rest : List (Dispatch D)} :
      Offers store before event given →
      DispatchesEach handlers ref event (given.applications.get ref).projections given first
        middle →
      Replays handlers ref store middle handed rest after →
      Replays handlers ref store before ((given, event) :: handed) (first ++ rest) after

section Rebuilding

variable {handlers : Handlers D} {ref : Ref .application} {start system reached : System D}
  {store : Store D} {handed : List (System D × Ref .event)} {dispatches : List (Dispatch D)}

theorem Handing.offered {before given : System D} {event : Ref .event}
    (handing : Handing handlers ref start before) (offers : Offers store before event given) :
    Handing handlers ref start given :=
  ⟨handing.watching.offered offers,
    Act.Frame.trans handing.steady ((Moves.of_offers offers).steady ref)⟩

/-- Rebuilding hands an event to every projection and counts how these calls end. -/
theorem Handing.initStep_run (observes : Observes handlers ref start (Quiet ref))
    (handing : Handing handlers ref start system) (result : ReplayResult) (event : Ref .event) :
    ∃ dispatches after,
      initStep handlers ref result event system =
        (.ok (counting handlers result dispatches), after) ∧
      DispatchesEach handlers ref event (system.applications.get ref).projections system dispatches
        after ∧
      Handing handlers ref start after ∧
      projectionCalls ref after = projectionCalls ref system ++
        handings ref (start.applications.get ref).projections event := by
  let application := system.applications.get ref
  obtain ⟨failures, after, ran, watching, steady, calls⟩ :=
    project_run observes handing.watching event
  have reports : Reports handlers _ (project handlers ref event system) :=
    projectEach_reports handlers ref application.logger event application.projections system
  rw [ran] at reports
  cases reports with
  | @ended dispatches _ course =>
    refine ⟨dispatches, after, ?_, course,
      ⟨watching, Act.Frame.trans handing.steady steady⟩, handing.steady.projections ▸ calls⟩
    have each : dispatches.length = (after.applications.get ref).projections.length := by
      rw [steady.projections, ← List.length_map (f := Dispatch.pair), course.pairs, List.length_map]
    have ended := Dispatch.countP_returns_add_raises course.ends
    rw [initStep, Act.bind_of_ok ran, Act.bind_of_ok (Act.read_run _ _), counting,
      Dispatch.length_filterMap_failure?, ← each, ← ended, Nat.add_sub_cancel]
    rfl

/-- A rebuild goes on after every event. -/
theorem sustains_initStep (observes : Observes handlers ref start (Quiet ref)) (store : Store D) :
    Sustains store (initStep handlers ref) (Handing handlers ref start) where
  offered handing offers := handing.offered offers
  stepped result event handing := by
    obtain ⟨_, after, ran, -, kept, -⟩ := handing.initStep_run observes result event
    exact ⟨_, after, ran, kept⟩

theorem Replays.ends (replays : Replays handlers ref store system handed dispatches reached) :
    ∀ dispatch ∈ dispatches, dispatch.Ends handlers := by
  induction replays with
  | done => simp
  | next _ course _ ih => exact List.forall_mem_append.mpr ⟨course.ends, ih⟩

/-- The calls of a rebuild from a system on: each event that was handed over went to each of the
projections once, and to no other. -/
structure Rebuilt (handlers : Handlers D) (ref : Ref .application) (store : Store D)
    (entries : List (String × D.Projection)) (system : System D)
    (handed : List (System D × Ref .event)) (dispatches : List (Dispatch D))
    (reached : System D) : Prop where
  replays : Replays handlers ref store system handed dispatches reached
  pairs : dispatches.map Dispatch.pair = (handed.map Prod.snd).flatMap fun event =>
    entries.map fun entry => (event, entry)
  calls : projectionCalls ref reached = projectionCalls ref system ++
    (handed.map Prod.snd).flatMap (handings ref entries)

theorem Rebuilt.next {entries : List (String × D.Projection)} {given middle : System D}
    {event : Ref .event} {first : List (Dispatch D)} (offers : Offers store system event given)
    (course : DispatchesEach handlers ref event (given.applications.get ref).projections given first
      middle)
    (registered : (given.applications.get ref).projections = entries)
    (calls : projectionCalls ref middle = projectionCalls ref given ++ handings ref entries event)
    (rest : Rebuilt handlers ref store entries middle handed dispatches reached) :
    Rebuilt handlers ref store entries system ((given, event) :: handed) (first ++ dispatches)
      reached := by
  constructor
  · exact .next offers course rest.replays
  · rw [List.map_append, course.pairs, rest.pairs, registered]
    rfl
  · have same : projectionCalls ref given = projectionCalls ref system :=
      (Moves.of_offers offers).projected ref
    rw [rest.calls, calls, same, List.append_assoc]
    rfl

/-- The counts of a rebuild are right after every event, and so they are at its end. -/
theorem Accounts.run (observes : Observes handlers ref start (Quiet ref))
    {result last : ReplayResult} {events : List (Ref .event)} {sofar : List (Dispatch D)}
    (handing : Handing handlers ref start system)
    (accounts : Accounts handlers events sofar result)
    (hands : Hands (Offers store) (initStep handlers ref) result system handed
      (.ok last, reached)) :
    ∃ dispatches,
      Rebuilt handlers ref store (start.applications.get ref).projections system handed dispatches
        reached ∧
      Accounts handlers (events ++ handed.map Prod.snd) (sofar ++ dispatches) last := by
  generalize ended : (Except.ok last, reached) = outcome at hands
  induction hands generalizing events sofar with
  | done =>
    cases ended
    refine ⟨[], ⟨.done, rfl, (List.append_nil _).symm⟩, ?_⟩
    rw [List.map_nil, List.append_nil, List.append_nil]
    exact accounts
  | stops | exhausted | raises => cases ended
  | @takes result _ _ given _ event _ _ offers ran _ ih =>
    have given := handing.offered offers
    obtain ⟨first, middle, stepped, course, kept, calls⟩ := given.initStep_run observes result event
    cases ran.symm.trans stepped
    obtain ⟨rest, rebuilt, counted⟩ := ih kept (accounts.next event first) ended
    refine ⟨first ++ rest, rebuilt.next offers course given.steady.projections calls, ?_⟩
    rw [List.map_cons, ← List.append_assoc, List.append_cons events]
    exact counted

/-- The answer of a rebuild agrees with itself, and with the calls that were made. -/
structure Balances (handlers : Handlers D) (entries : List (String × D.Projection))
    (events : List (Ref .event)) (dispatches : List (Dispatch D)) (result : ReplayResult) : Prop
    extends Accounts handlers events dispatches result where
  listed : result.failures.length = result.failed
  total : result.dispatched + result.failed = result.processed * entries.length
  success : result.isSuccess = true ↔
    ∀ dispatch ∈ dispatches, dispatch.raised? handlers = none

theorem Rebuilt.balances {entries : List (String × D.Projection)} {result : ReplayResult}
    (rebuilt : Rebuilt handlers ref store entries system handed dispatches reached)
    (accounts : Accounts handlers (handed.map Prod.snd) dispatches result) :
    Balances handlers entries (handed.map Prod.snd) dispatches result := by
  refine ⟨accounts, ?_, ?_, accounts.isSuccess_iff⟩
  · rw [accounts.failures, accounts.failed, Dispatch.length_filterMap_failure?]
  · have made := congrArg List.length rebuilt.pairs
    simp only [List.length_map, List.length_flatMap, List.map_const',
      List.sum_replicate_nat] at made
    rw [accounts.dispatched, accounts.failed, accounts.processed, List.length_map,
      Dispatch.countP_returns_add_raises rebuilt.replays.ends, made]

/-- Rebuilding an application hands every event that its log yields to every projection, in the
order of the log and then of the registration, whatever the projections raise. If all of the log
can be read, the answer counts the events, the calls that returned and those that raised, and
lists the failures in the order of the calls. Otherwise the fault that keeps the log from being
read any further is raised as it is, once the events in front of it were handed over. -/
theorem init_counts_every_call
    (made : (start.applications.get ref).store.index < start.stores.nextRef.index)
    (native : ∀ description,
      start.stores.get (start.applications.get ref).store ≠ .foreign description)
    (observes : Observes handlers ref start (Quiet ref)) :
    let application := start.applications.get ref
    let history := start.stores.get application.store
    ∃ handed fault? dispatches reached,
      Yields start history handed fault? ∧
      Rebuilt handlers ref history application.projections start handed dispatches reached ∧
      match fault? with
      | none => ∃ result log, init handlers ref start = (.ok result, { reached with log }) ∧
          Balances handlers application.projections (handed.map Prod.snd) dispatches result
      | some fault => init handlers ref start = Act.throw fault reached := by
  intro application history
  have handing := Handing.refl handlers ref start
  obtain ⟨handed, fault?, last, reached, hands, yields, ran⟩ := Store.replay_yields handlers native
    (sustains_initStep observes history) (fun kept => kept.steady.logged made) handing {}
  obtain ⟨dispatches, rebuilt, accounts⟩ := accounts_nil.run observes handing hands
  refine ⟨handed, fault?, dispatches, reached, yields, rebuilt, ?_⟩
  cases fault? with
  | none =>
    obtain ⟨log, answered⟩ := init_of_replayed ran
    exact ⟨last, log, answered, rebuilt.balances accounts⟩
  | some fault =>
    rw [init, Act.bind_of_ok (Act.read_run _ _)]
    exact Act.bind_of_error ran

end Rebuilding

/-- An application over a history, with a projection that raises and one that does not. -/
def overHistory (events : List LiveEvent) (store : Store Domain.publishing)
    (octets : List UInt8) : System Domain.publishing :=
  { events := ⟨events.toArray⟩
    stores := ⟨#[store]⟩
    clocks := ⟨#[.showing .unixEpoch]⟩
    files := ⟨[(["log"], .file octets)]⟩
    applications := ⟨#[{
      name := .text "app", store := ⟨0⟩, clock := ⟨0⟩, logger := "app"
      projections := [("raises", some .clockWithoutOffset), ("copies", none)] }]⟩
    domain := () }

/-- The history of two events that are held, and that of a log with two events in front of a line
that has no object. -/
def heldHistory : System Domain.publishing :=
  let event : LiveEvent :=
    { name := .text "added", streamId := .text "x", id := .text "", occurredOn := .null
      persistedAt := .null, payload := .own (.mapping []) }
  overHistory [event, event] (.memory [⟨0⟩, ⟨1⟩]) []

def brokenHistory : System Domain.publishing :=
  overHistory [] (.disk ⟨["log"]⟩ ⟨0⟩)
    (Utf8.encode "\x7b\"Name\": \"a\"\x7d\n\n\x7b\"Name\": \"b\"\x7d\n[]\n\x7b\x7d\n".toList)

/-- A projection that raises at the first of two events is counted once, and the fault of the
fourth line of a log comes out after the events of the first three. -/
theorem init_counts_every_call_twoEvents :
    let calls : List Call := [.project ⟨0⟩ "raises" ⟨0⟩, .project ⟨0⟩ "copies" ⟨0⟩,
      .project ⟨0⟩ "raises" ⟨1⟩, .project ⟨0⟩ "copies" ⟨1⟩]
    (∃ result last dispatches, init raisingAtFirst ⟨0⟩ heldHistory = (.ok result, last) ∧
      Balances raisingAtFirst (heldHistory.applications.get ⟨0⟩).projections [⟨0⟩, ⟨1⟩] dispatches
        result ∧
      (result.processed, result.dispatched, result.failed) = (2, 3, 1) ∧
      projectionCalls ⟨0⟩ last = calls) ∧
    ∃ fault reached, init raisingAtFirst ⟨0⟩ brokenHistory = Act.throw fault reached ∧
      fault.message = "Cannot replay events from log:4: expected a JSON object, got list" ∧
      projectionCalls ⟨0⟩ reached = calls := by
  intro calls
  have counted : (init raisingAtFirst ⟨0⟩ heldHistory).1.toOption.map
      (fun result => (result.processed, result.dispatched, result.failed)) = some (2, 3, 1) := by
    decide +kernel
  have refused : (causeOf? (init raisingAtFirst ⟨0⟩ brokenHistory)).map Fault.message =
      some "Cannot replay events from log:4: expected a JSON object, got list" := by
    decide +kernel
  constructor
  · have made : (heldHistory.applications.get ⟨0⟩).store.index <
        heldHistory.stores.nextRef.index := Nat.zero_lt_one
    obtain ⟨handed, fault?, dispatches, reached, yields, rebuilt, ended⟩ :=
      init_counts_every_call made nofun observes_raisingAtFirst
    change Yields heldHistory (.memory [⟨0⟩, ⟨1⟩]) handed fault? at yields
    cases yields with
    | held all =>
      obtain ⟨result, log, answered, balances⟩ := ended
      rw [all] at balances
      rw [answered] at counted
      have called := rebuilt.calls
      rw [all] at called
      exact ⟨result, _, dispatches, answered, balances, Option.some.inj counted, called⟩
  · have made : (brokenHistory.applications.get ⟨0⟩).store.index <
        brokenHistory.stores.nextRef.index := Nat.zero_lt_one
    obtain ⟨handed, fault?, dispatches, reached, yields, rebuilt, ended⟩ :=
      init_counts_every_call made nofun observes_raisingAtFirst
    cases fault? with
    | none =>
      obtain ⟨result, log, answered, -⟩ := ended
      rw [answered] at refused
      cases refused
    | some fault =>
      have calls : projectionCalls ⟨0⟩ (init raisingAtFirst ⟨0⟩ brokenHistory).2 = calls := by
        decide +kernel
      rw [ended] at calls refused
      have kept := Table.get_push_nextRef reached.faults fault
      have cause : causeOf? ((Act.throw fault : Act _ ReplayResult) reached) = some fault :=
        congrArg some kept
      rw [cause] at refused
      exact ⟨fault, reached, ended, Option.some.inj refused, calls⟩

end EventSourcing.Application
