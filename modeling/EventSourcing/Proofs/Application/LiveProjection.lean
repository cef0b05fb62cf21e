import EventSourcing.Proofs.Application.Relaying

/-!
# Projections that are kept up to date

An application that was rebuilt once hands what it stores to its projections from then on.
These receive, over any run of commands, what another application receives that is rebuilt from
the log afterwards.
-/

set_option autoImplicit false

namespace EventSourcing.Application

open LiveEvent (Closable contentIn)

variable {D : Domain}

/-- Each projection of an application that was rebuilt and then sent commands has received what
the log lists, and so does each projection of another application that is rebuilt from the same
log. It does not matter which commands failed, as long as no storing did, which projections
raised, or how deep commands were sent inside one another. -/
theorem live_projection_eq_rebuild (handlers rebuilding : Handlers D)
    {ref other : Ref .application} {start last : System D}
    (made : (start.applications.get ref).store.index < start.stores.nextRef.index)
    (readable : Store.Readable start (start.stores.get (start.applications.get ref).store))
    (unhanded : projectionCalls ref start = [])
    (distinct : ((start.applications.get ref).projections.map Prod.fst).Nodup)
    (observes : Observes handlers ref start (Quiet ref))
    (live : Live ref (init handlers ref start).2 last)
    (shared : (last.applications.get other).store = (start.applications.get ref).store)
    (unhandedOther : projectionCalls other last = [])
    (distinctOther : ((last.applications.get other).projections.map Prod.fst).Nodup)
    (observesOther : Observes rebuilding other last (Quiet other)) :
    ∃ first events result final, (init handlers ref start).1 = .ok first ∧
      Store.Lists last events (last.stores.get (start.applications.get ref).store) ∧
      init rebuilding other last = (.ok result, final) ∧
      ∀ name ∈ (start.applications.get ref).projections.map Prod.fst,
        received ref name last = events ∧
        ∀ copy ∈ (last.applications.get other).projections.map Prod.fst,
          (received ref name last).map (contentIn final) =
            (received other copy final).map (contentIn final) := by
  obtain ⟨first, rebuilt, ran, -, fed⟩ := fed_of_init made readable unhanded distinct observes
  rw [ran] at live
  obtain ⟨-, madeLast, -, events, lists, known⟩ := live.fed distinct fed
  refine ⟨first, events, ?_⟩
  rw [← shared] at madeLast lists ⊢
  obtain ⟨result, final, again, steady, fedOther⟩ :=
    fed_of_init madeLast lists.readable unhandedOther distinctOther observesOther
  obtain ⟨-, -, -, others, listsOther, knownOther⟩ := fedOther
  have listsFinal := lists.stays (steady.logged madeLast)
  rw [steady.spares.held madeLast] at listsOther
  refine ⟨result, final, congrArg Prod.fst ran, lists, again, fun name member =>
    ⟨known name member, fun copy inside => ?_⟩⟩
  rw [known name member, knownOther copy inside]
  exact listsFinal.agree listsOther

/-- Two applications over one log, and commands of which the first leads to the second between
the events that it publishes itself. The third publishes an event that is stored by then, and
fails. -/
def relayed (store : Store Domain.relaying) (files : FileTree) : System Domain.relaying :=
  let event (name : String) (sealing : Bool) : LiveEvent :=
    { name := .text name, streamId := .text "x", id := .text "", occurredOn := .null
      persistedAt := .null, payload := .own (.mapping [(.text "paid", .list [.bool true])])
      sealing := .bool sealing }
  let command (receiver : Nat) : EventSourcing.Command Domain.relaying :=
    { name := "go", fields := [], idField := "id", errors := ⟨0⟩, factory := some ⟨receiver⟩
      receiver := none, hasImplicitId := true }
  let aggregate (id : String) (script : List Relay) : Aggregate Domain.relaying :=
    { id, publisher := none, seen := [], handled := [], script := some script }
  let application (name : String) (projection : Option Fault) : Application Domain.relaying :=
    { name := .text name, store := ⟨0⟩, clock := ⟨0⟩, logger := name
      projections := [(name, projection)] }
  { events := ⟨#[event "old" true, event "before" false, event "within" false,
      event "behind" false]⟩
    commands := ⟨#[command 0, command 1, command 2]⟩
    faults := ⟨#[.validation []]⟩
    aggregates := ⟨#[
      aggregate "outer" [.publish ⟨1⟩, .send ⟨1⟩, .publish ⟨3⟩],
      aggregate "inner" [.publish ⟨2⟩], aggregate "fails" [.publish ⟨1⟩]]⟩
    stores := ⟨#[store]⟩
    clocks := ⟨#[.showing .unixEpoch]⟩
    applications := ⟨#[application "raises" (some .clockWithoutOffset), application "copies" none]⟩
    files
    domain := () }

def relayedInMemory : System Domain.relaying :=
  relayed (.memory [⟨0⟩]) .empty

def relayedOnDisk : System Domain.relaying :=
  relayed (.disk ⟨["log"]⟩ ⟨0⟩) ⟨[(["log"], .file [])]⟩

private theorem closable_relayed (event : Ref .event) : Closable relayedInMemory event := by
  rcases event with ⟨_ | _ | _ | _ | index⟩ <;> exact ⟨rfl, rfl, _, rfl⟩

private theorem ready_begun :
    Ready ⟨0⟩ ⟨0⟩ (init (Handlers.relaying ⟨0⟩ 1) ⟨0⟩ relayedInMemory).2 where
  same := rfl
  unbound := unbound_of_all (by decide +kernel) (by decide +kernel)
  memory := ⟨[⟨0⟩], rfl⟩
  closable event := by
    have events : (init (Handlers.relaying ⟨0⟩ 1) ⟨0⟩ relayedInMemory).2.events =
        relayedInMemory.events := rfl
    refine (closable_iff_of_restamped ?_ ?_).mpr (closable_relayed event)
    · rw [events]
      rfl
    · rfl

/-- Whether an event is a stamped one of those that are published. -/
private def isPublished (event : Event) : Bool :=
  match event with
  | ⟨.text (.whole _), .text (.whole _), .text (.whole _), .moment _, _,
      .mapping [(.text (.whole _), .list [.bool _])]⟩ => true
  | _ => false

private theorem lossless_of_isPublished {event : Event} (published : isPublished event = true) :
    event.Lossless := by
  unfold isPublished at published
  split at published
  · refine ⟨fun moment => ?_, rfl⟩
    exact
      { name := ⟨_, rfl⟩
        streamId := ⟨_, rfl⟩
        id := ⟨_, rfl⟩
        occurredOn := .inr ⟨_, rfl⟩
        persistedAt := .inr ⟨_, rfl⟩
        payload := by
          refine ⟨_, .inl rfl, .mapping (by simp) (by simp) ?_⟩
          rw [List.forall_mem_singleton]
          exact .list (List.forall_mem_singleton.mpr .bool) }
  · cases published

/-- What a command publishes is stored on disk. -/
private theorem storesAll_onDisk :
    let handlers := Handlers.relaying ⟨0⟩ 0
    StoresAll handlers ⟨0⟩ ⟨1⟩ (init handlers ⟨0⟩ relayedOnDisk).2 := by
  intro handlers
  let begun := (init handlers ⟨0⟩ relayedOnDisk).2
  let acknowledged := (Command.acknowledge ⟨1⟩ (begun.applications.get ⟨0⟩).clock begun).2
  let found := (Command.resolveReceiver handlers ⟨1⟩ acknowledged).2
  let application := found.applications.get ⟨0⟩
  let rehydrated := (rehydrate handlers application.store ⟨1⟩ found).2
  let about := opened application.logger ⟨1⟩ ⟨1⟩ rehydrated
  let ended := (Command.execute handlers ⟨1⟩ about).2
  let stamped := (stampEach application.logger application.clock [⟨2⟩] ended).2
  have finds : Finds handlers ⟨0⟩ ⟨1⟩ begun ⟨1⟩ found :=
    ⟨acknowledged, Act.run_of_answer (by decide +kernel), Act.run_of_answer (by decide +kernel)⟩
  have executes : Executes handlers ⟨0⟩ ⟨1⟩ ⟨1⟩ found ended [⟨2⟩] :=
    ⟨rehydrated, about, ⟨Act.run_of_answer (by decide +kernel), rfl⟩,
      Act.run_of_answer (by decide +kernel), by decide +kernel⟩
  have stamps : stampEach application.logger application.clock [⟨2⟩] ended = (.ok (), stamped) :=
    Act.run_of_answer (by decide +kernel)
  have stores : Store.append handlers application.store [⟨2⟩] stamped =
      (.ok (), (Store.append handlers application.store [⟨2⟩] stamped).2) :=
    Act.run_of_answer (by decide +kernel)
  intro receiver foundAgain endedAgain events stampedAgain findsAgain executesAgain ran
  obtain ⟨rfl, rfl⟩ := finds.unique findsAgain
  obtain ⟨rfl, rfl⟩ := executes.unique executesAgain
  obtain ⟨-, rfl⟩ := Prod.mk.inj (stamps.symm.trans ran)
  refine ⟨fun path clock _ event member => ?_, _, stores,
    observes_relaying (quiet_newFault ⟨0⟩) ⟨0⟩⟩
  obtain rfl := List.mem_singleton.mp member
  exact lossless_of_isPublished (by decide +kernel)

theorem live_projection_eq_rebuild_relayed :
    (let handlers := Handlers.relaying ⟨0⟩ 1
    let begun := (init handlers ⟨0⟩ relayedInMemory).2
    let middle := (send handlers ⟨0⟩ ⟨0⟩ begun).2
    let last := (send handlers ⟨0⟩ ⟨2⟩ middle).2
    Live ⟨0⟩ begun last ∧ received ⟨0⟩ "raises" last = [⟨0⟩, ⟨2⟩, ⟨1⟩, ⟨3⟩] ∧
      ∃ result final, init handlers ⟨1⟩ last = (.ok result, final) ∧
        (received ⟨0⟩ "raises" last).map (contentIn final) =
          (received ⟨1⟩ "copies" final).map (contentIn final)) ∧
    let handlers := Handlers.relaying ⟨0⟩ 0
    let begun := (init handlers ⟨0⟩ relayedOnDisk).2
    let last := (send handlers ⟨0⟩ ⟨1⟩ begun).2
    Live ⟨0⟩ begun last ∧ received ⟨0⟩ "raises" last = [⟨2⟩] ∧
      ∃ result final, init handlers ⟨1⟩ last = (.ok result, final) ∧
        [contentIn final ⟨2⟩] = (received ⟨1⟩ "copies" final).map (contentIn final) := by
  constructor
  · intro handlers begun middle last
    have relays (command : Ref .command) :
        Act.Keeps (Relays ⟨0⟩ ⟨0⟩) (send handlers ⟨0⟩ command) :=
      relays_relaying 1 command
    obtain ⟨readyMiddle, first⟩ := relays ⟨0⟩ begun ready_begun
    obtain ⟨-, second⟩ := relays ⟨2⟩ middle readyMiddle
    have live : Live ⟨0⟩ begun last := .trans first second
    obtain ⟨_, _, result, final, -, -, again, same⟩ := live_projection_eq_rebuild handlers handlers
      (by decide +kernel) .memory (by decide +kernel) (by decide +kernel)
      (observes_relaying (quiet_newFault ⟨0⟩) ⟨0⟩) live (by decide +kernel) (by decide +kernel)
      (by decide +kernel) (observes_relaying (quiet_newFault ⟨1⟩) ⟨1⟩)
    refine ⟨live, by decide +kernel, result, final, again, ?_⟩
    exact (same "raises" (by decide +kernel)).2 "copies" (by decide +kernel)
  · intro handlers begun last
    have live : Live ⟨0⟩ begun last := live_of_storesAll
      (unbound_of_all (by decide +kernel) (by decide +kernel)) nofun storesAll_onDisk
    have file : relayedOnDisk.files.HasFile ⟨["log"]⟩ [] := FileTree.hasFile_read.mp rfl
    obtain ⟨_, _, result, final, -, -, again, same⟩ := live_projection_eq_rebuild handlers handlers
      (by decide +kernel) (.disk file (.inl rfl) rfl) (by decide +kernel) (by decide +kernel)
      (observes_relaying (quiet_newFault ⟨0⟩) ⟨0⟩) live (by decide +kernel) (by decide +kernel)
      (by decide +kernel) (observes_relaying (quiet_newFault ⟨1⟩) ⟨1⟩)
    have received : received ⟨0⟩ "raises" last = [⟨2⟩] := by
      decide +kernel
    refine ⟨live, received, result, final, again, ?_⟩
    have shown := (same "raises" (by decide +kernel)).2 "copies" (by decide +kernel)
    rwa [received] at shown

end EventSourcing.Application
