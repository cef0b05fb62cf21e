import EventSourcing.Proofs.Application.Handling

/-!
# Stamping and storing a batch

The events that a command led to are stamped one after another, each with a reading of its
own, and then stored in memory. Stamping stops at the first event that is sealed and at the
first reading that fails, storing at the first event that cannot be sealed.
-/

set_option autoImplicit false

namespace EventSourcing.Application

open LiveEvent (Closable changed ticked occurredAt contentIn)

variable {D : Domain}

/-- Every event of a batch was open, and has the time of one of its readings. -/
structure Stamped (system after : System D) (clock : Ref .clock)
    (events : List (Ref .event)) : Prop where
  unsealed : ∀ event ∈ events, (system.events.get event).isSealed = false
  occurred : ∀ event ∈ events, ∃ place moment, events[place]? = some event ∧
    (system.clocks.get clock).readings ((system.clocks.get clock).taken + place) = .ok moment ∧
    after.events.get event = occurredAt moment (system.events.get event)
  others : ∀ event, event ∉ events → after.events.get event = system.events.get event
  mappings : after.mappings = system.mappings

section Stamping

variable {system after : System D} {clock : Ref .clock} {event : Ref .event}
  {events : List (Ref .event)}

private theorem Stamped.cons {middle : System D} {moment : Moment}
    (unsealed : (system.events.get event).isSealed = false)
    (reading : LiveEvent.nextReading system clock = .ok moment)
    (events : middle.events = (changed system event (occurredAt moment)).events)
    (clocks : middle.clocks = (ticked system clock).clocks)
    (mappings : middle.mappings = system.mappings)
    {batch : List (Ref .event)} (rest : Stamped middle after clock batch) :
    Stamped system after clock (event :: batch) := by
  have shown (other : Ref .event) : middle.events.get other =
      if event = other then occurredAt moment (system.events.get event)
      else system.events.get other := by
    rw [events]
    exact LiveEvent.get_changed _ _ _ _
  have known : middle.clocks.get clock = (system.clocks.get clock).read.2 := by
    rw [clocks, LiveEvent.get_ticked, if_pos rfl]
  refine ⟨?_, ?_, ?_, rest.mappings.trans mappings⟩
  · intro other member
    rcases List.mem_cons.mp member with rfl | member
    · exact unsealed
    · by_cases same : event = other
      · exact same ▸ unsealed
      · have unsealedLater := rest.unsealed other member
        rwa [shown, if_neg same] at unsealedLater
  · intro other member
    -- An event that is published twice keeps the later time.
    by_cases later : other ∈ batch
    · obtain ⟨place, time, found, read, stamped⟩ := rest.occurred other later
      refine ⟨place + 1, time, found, ?_, ?_⟩
      · rw [known] at read
        rwa [← Nat.add_assoc, Nat.add_right_comm]
      · rw [stamped, shown]
        split
        · rename_i same
          rw [same]
          rfl
        · rfl
    · obtain rfl := (List.mem_cons.mp member).resolve_right later
      refine ⟨0, moment, rfl, reading, ?_⟩
      rw [rest.others other later, shown, if_pos rfl]
  · intro other outside
    rw [List.mem_cons, not_or] at outside
    rw [rest.others other outside.2, shown, if_neg (Ne.symm outside.1)]

theorem stampEach_eq_ok {logger : String}
    (ran : stampEach logger clock events system = (.ok (), after)) :
    Stamped system after clock events := by
  induction events generalizing system with
  | nil =>
    cases ran
    exact ⟨by simp, by simp, fun _ _ => rfl, rfl⟩
  | cons event events ih =>
    obtain ⟨_, middle, first, rest⟩ := Act.bind_eq_ok ran
    obtain ⟨_, stamped, occurred, noted⟩ := Act.bind_eq_ok first
    obtain ⟨moment, reading, unsealed, rfl⟩ := LiveEvent.occur_eq_ok occurred
    cases noted
    have later := ih rest
    refine .cons unsealed reading ?_ ?_ ?_ later <;> rfl

theorem Stamped.closable_iff (stamped : Stamped system after clock events) (event : Ref .event) :
    Closable after event ↔ Closable system event := by
  refine closable_iff_of_restamped ?_ stamped.mappings
  by_cases member : event ∈ events
  · obtain ⟨_, moment, -, -, shown⟩ := stamped.occurred event member
    rw [shown]
    rfl
  · rw [stamped.others event member]
    rfl

theorem Stamped.isSealed_eq (stamped : Stamped system after clock events)
    (event : Ref .event) :
    (after.events.get event).isSealed = (system.events.get event).isSealed := by
  by_cases member : event ∈ events
  · obtain ⟨_, moment, -, -, shown⟩ := stamped.occurred event member
    rw [shown]
    rfl
  · rw [stamped.others event member]

end Stamping

/-- How a batch ends: it is not stamped as a whole, or it is stored, or it has a first event
that cannot be sealed. -/
inductive Committed (handlers : Handlers D) (ref : Ref .application) (store : Ref .store)
    (clock : Ref .clock) (events : List (Ref .event)) (system : System D) :
    Except Halt Unit × System D → Prop
  | unstamped {halt : Halt} {after : System D} :
      Aside ref system after →
      Committed handlers ref store clock events system (.error halt, after)
  | stored {stamped : System D} {known : Table .event LiveEvent} :
      Aside ref system stamped → Stamped system stamped clock events →
      Store.append handlers store events stamped =
        (.ok (), MemoryStore.storing stamped store events known) →
      (∀ event ∈ events, (known.get event).isSealed = true ∧
        (known.get event).occurredOn = (stamped.events.get event).occurredOn) →
      Committed handlers ref store clock events system
        (.ok (), MemoryStore.storing stamped store events known)
  | refused {stamped : System D} {known : Table .event LiveEvent} {fault : Ref .fault}
      {faults : Table .fault Fault} {first rest : List (Ref .event)} {event : Ref .event} :
      Aside ref system stamped → Stamped system stamped clock events →
      events = first ++ event :: rest → (∀ other ∈ first, Closable system other) →
      ¬ Closable system event → (∀ other ∈ first, (known.get other).isSealed = true) →
      (∀ other, other ∉ first → known.get other = stamped.events.get other) →
      Committed handlers ref store clock events system (.error (.raised fault),
        { stamped with
          events := known, faults, calls := stamped.calls.push (.storeEvents store events) })

theorem commit_cases (handlers : Handlers D) (ref : Ref .application)
    (application : Application D) {system : System D} {held : List (Ref .event)}
    (holds : system.stores.get application.store = .memory held)
    (made : application.store.index < system.stores.nextRef.index)
    (events : List (Ref .event)) :
    Committed handlers ref application.store application.clock events system
      (commit handlers application events system) := by
  have aside : Aside ref system _ :=
    keeps_stampEach application.logger application.clock events system
  rcases ran : stampEach application.logger application.clock events system with
    ⟨halt | _, stamped⟩
  · rw [ran] at aside
    rw [commit, Act.bind_of_error ran]
    exact .unstamped aside
  rw [ran] at aside
  rw [commit, Act.bind_of_ok ran]
  have stamps := stampEach_eq_ok ran
  have holdsStamped : stamped.stores.get application.store = .memory held := by
    rw [aside.kept _ made, holds]
  -- Stamping does not change which events can be sealed, so the first that cannot is known.
  rcases LiveEvent.closable_or_first_not system events with
    closable | ⟨first, event, rest, rfl, closable, notClosable⟩
  · obtain ⟨known, stored, only, isSealed, -⟩ :=
      MemoryStore.append_of_closable handlers holdsStamped fun event member =>
        (stamps.closable_iff event).mpr (closable event member)
    rw [stored]
    refine .stored aside stamps stored fun event member => ⟨isSealed event member, ?_⟩
    rcases only.events event with same | ⟨entries, -, closed⟩
    · exact congrArg LiveEvent.occurredOn same
    · have occurredOn := congrArg LiveEvent.occurredOn closed
      exact occurredOn
  · have unsealed : (stamped.events.get event).isSealed = false := by
      rw [stamps.isSealed_eq]
      exact stamps.unsealed event (by simp)
    obtain ⟨known, fault, faults, stopped, isSealed, others⟩ :=
      MemoryStore.append_of_not_closable handlers rest holdsStamped
        (fun other member => (stamps.closable_iff other).mpr (closable other member)) unsealed
        (fun able => notClosable ((stamps.closable_iff event).mp able))
    rw [stopped]
    exact .refused aside stamps rfl closable notClosable isSealed others

end EventSourcing.Application
