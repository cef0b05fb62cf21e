import EventSourcing.Proofs.Event.Sealing
import EventSourcing.Store.Basic

/-!
# The store in memory

The store in memory seals the events that it is given and keeps them in their order. What
it does to events is to close them: every event is afterwards as it was, or sealed with
the entries that its payload had.
-/

set_option autoImplicit false

namespace EventSourcing

variable {D : Domain}

theorem Datum.same_text_iff (datum : Datum) (text : AnyText) :
    datum.same (.text text) = true ↔ datum = .text text := by
  cases datum <;> simp [Datum.same, Datum.sameScalar, Datum.number?]

theorem Event.matchesStream_iff (event : Event) (streamId : AnyText) :
    event.matchesStream streamId = true ↔
      streamId = allStreams ∨ event.streamId = .text streamId := by
  rw [matchesStream, Bool.or_eq_true, decide_eq_true_eq, Datum.same_text_iff]

namespace LiveEvent

/-- Every event is as before or was closed with the entries that its payload had. -/
structure SealsOnly (before after : System D) : Prop where
  mappings : after.mappings = before.mappings
  events : ∀ event, after.events.get event = before.events.get event ∨
    ∃ entries, (contentIn before event).payload.toEntries? = .ok entries ∧
      after.events.get event = closedWith entries (before.events.get event)

theorem contentIn_of_closed {before after : System D} {event : Ref .event} {entries : Entries}
    (closed : after.events.get event = closedWith entries (before.events.get event)) :
    contentIn after event = { contentIn before event with payload := .frozen entries } := by
  simp only [contentIn, closed]
  rfl

namespace SealsOnly

variable {before middle after : System D}

theorem refl (system : System D) : SealsOnly system system :=
  ⟨rfl, fun _ => .inl rfl⟩

theorem trans (first : SealsOnly before middle) (second : SealsOnly middle after) :
    SealsOnly before after := by
  refine ⟨second.mappings.trans first.mappings, fun event => ?_⟩
  rcases first.events event with same | ⟨entries, holds, closed⟩
  · have content := contentIn_of_get_eq same first.mappings
    rcases second.events event with again | ⟨entries, holds, closed⟩
    · exact .inl (again.trans same)
    · exact .inr ⟨entries, content ▸ holds, same ▸ closed⟩
  · refine .inr ⟨entries, holds, ?_⟩
    rcases second.events event with again | ⟨others, kept, closedAgain⟩
    · exact again.trans closed
    · rw [contentIn_of_closed closed] at kept
      obtain rfl : entries = others := Except.ok.inj kept
      rw [closedAgain, closed]
      rfl

theorem isSealed (only : SealsOnly before after) {event : Ref .event}
    (isSealed : (before.events.get event).isSealed = true) :
    (after.events.get event).isSealed = true := by
  rcases only.events event with same | ⟨entries, -, closed⟩
  · rw [same, isSealed]
  · rw [closed, isSealed_closedWith]

theorem closable (only : SealsOnly before after) {event : Ref .event}
    (closable : Closable before event) : Closable after event := by
  rcases only.events event with same | ⟨entries, holds, closed⟩
  · refine ⟨same ▸ closable.closes, same ▸ closable.present, ?_⟩
    rw [contentIn_of_get_eq same only.mappings]
    exact closable.entries
  · refine ⟨closed ▸ closable.closes, closed ▸ closable.present, entries, ?_⟩
    rw [contentIn_of_closed closed]
    rfl

theorem matchesStream (only : SealsOnly before after) (event : Ref .event) (streamId : AnyText) :
    (contentIn after event).matchesStream streamId =
      (contentIn before event).matchesStream streamId := by
  rcases only.events event with same | ⟨entries, -, closed⟩
  · rw [contentIn_of_get_eq same only.mappings]
  · rw [contentIn_of_closed closed]
    rfl

theorem keepsClosed (only : SealsOnly before after) : KeepsClosed before after := by
  intro event closed
  rcases only.events event with same | ⟨entries, holds, shown⟩
  · exact same
  · obtain ⟨known, closed⟩ := closed
    have payload : (contentIn before event).payload = .frozen known := by
      rw [contentIn_of_closed closed]
    rw [payload] at holds
    obtain rfl : known = entries := Except.ok.inj holds
    exact shown.trans closed.symm

/-- An open event that was sealed is closed and belongs to the stream that it did. -/
theorem closed (only : SealsOnly before after) {event : Ref .event}
    (unsealed : (before.events.get event).isSealed = false)
    (isSealed : (after.events.get event).isSealed = true) :
    Closed after event ∧ (contentIn after event).streamId = (contentIn before event).streamId := by
  rcases only.events event with same | ⟨entries, -, shown⟩
  · rw [same, unsealed] at isSealed
    cases isSealed
  · refine ⟨closed_of_get shown, ?_⟩
    rw [contentIn_of_closed shown]

end SealsOnly

theorem sealEvent_of_closable {system : System D} {event : Ref .event}
    (closable : Closable system event) :
    ∃ events, sealEvent event system = (.ok (), { system with events }) ∧
      SealsOnly system { system with events } ∧ (events.get event).isSealed = true ∧
      ∀ other, other ≠ event → events.get other = system.events.get other := by
  cases known : (system.events.get event).isSealed with
  | true =>
      exact ⟨system.events, sealEvent_of_isSealed closable.closes known, .refl system, known,
        fun _ _ => rfl⟩
  | false =>
      obtain ⟨entries, holds⟩ := closable.entries
      have closed : (changed system event (closedWith entries)).events.get event =
          closedWith entries (system.events.get event) := by
        rw [get_changed, if_pos rfl]
      have others (other : Ref .event) (different : other ≠ event) :
          (changed system event (closedWith entries)).events.get other =
            system.events.get other := by
        rw [get_changed, if_neg (Ne.symm different)]
      refine ⟨_, sealEvent_of_open closable.closes closable.present known holds,
        ⟨rfl, fun other => ?_⟩, ?_, others⟩
      · by_cases same : other = event
        · subst same
          exact .inr ⟨entries, holds, closed⟩
        · exact .inl (others other same)
      · exact (congrArg LiveEvent.isSealed closed).trans (isSealed_closedWith _ _)

theorem sealAll_of_closable {system : System D} {events : List (Ref .event)}
    (closable : ∀ event ∈ events, Closable system event) :
    ∃ known, Act.forEach sealEvent events system = (.ok (), { system with events := known }) ∧
      SealsOnly system { system with events := known } ∧
      (∀ event ∈ events, (known.get event).isSealed = true) ∧
      ∀ event, event ∉ events → known.get event = system.events.get event := by
  induction events generalizing system with
  | nil => exact ⟨system.events, rfl, .refl system, by simp, fun _ _ => rfl⟩
  | cons event events ih =>
      obtain ⟨middle, ran, first, sealedFirst, othersFirst⟩ :=
        sealEvent_of_closable (closable event (by simp))
      have closableNext : ∀ other ∈ events, Closable { system with events := middle } other :=
        fun other member => first.closable (closable other (.tail _ member))
      obtain ⟨known, rest, second, sealedRest, othersRest⟩ := ih closableNext
      refine ⟨known, ?_, first.trans second, ?_, ?_⟩
      · rw [Act.forEach, Act.bind_of_ok ran, rest]
      · intro other member
        rcases List.mem_cons.mp member with rfl | member
        · exact second.isSealed sealedFirst
        · exact sealedRest other member
      · intro other outside
        rw [List.mem_cons, not_or] at outside
        exact (othersRest other outside.2).trans (othersFirst other outside.1)

/-- A batch can be sealed as a whole, or it has a first event that cannot be sealed. -/
theorem closable_or_first_not (system : System D) (events : List (Ref .event)) :
    (∀ event ∈ events, Closable system event) ∨
    ∃ first event rest, events = first ++ event :: rest ∧
      (∀ other ∈ first, Closable system other) ∧ ¬ Closable system event := by
  classical
  cases found : events.find? fun event => ¬ Closable system event with
  | none =>
      left
      intro event member
      simpa using List.find?_eq_none.mp found event member
  | some event =>
      right
      obtain ⟨refused, first, rest, split, before⟩ := List.find?_eq_some_iff_append.mp found
      exact ⟨first, event, rest, split, by simpa using before, by simpa using refused⟩

/-- Sealing stops at the first open event that cannot be sealed: those before it are sealed
then, and no others. -/
theorem sealAll_of_not_closable {system : System D} {first : List (Ref .event)}
    {event : Ref .event} (rest : List (Ref .event))
    (closable : ∀ other ∈ first, Closable system other)
    (unsealed : (system.events.get event).isSealed = false)
    (notClosable : ¬ Closable system event) :
    ∃ known fault faults, Act.forEach sealEvent (first ++ event :: rest) system =
        (.error (.raised fault), { system with events := known, faults }) ∧
      (∀ other ∈ first, (known.get other).isSealed = true) ∧
      ∀ other, other ∉ first → known.get other = system.events.get other := by
  have fresh : event ∉ first := fun member => notClosable (closable event member)
  obtain ⟨known, ran, only, isSealed, others⟩ := sealAll_of_closable closable
  have same : known.get event = system.events.get event := others event fresh
  have stillNot : ¬ Closable { system with events := known } event := by
    rintro ⟨closes, present, entries, holds⟩
    rw [contentIn_of_get_eq same only.mappings] at holds
    exact notClosable ⟨same ▸ closes, same ▸ present, entries, holds⟩
  have stillOpen : (known.get event).isSealed = false := by
    rw [same]
    exact unsealed
  obtain ⟨cause, refused⟩ := sealEvent_of_not_closable stillOpen stillNot
  rw [Act.throw_run] at refused
  refine ⟨known, system.faults.nextRef, system.faults.push cause, ?_, isSealed, others⟩
  rw [Act.forEach_append, Act.bind_of_ok ran, Act.forEach, Act.bind_of_error refused]

end LiveEvent

namespace MemoryStore

open LiveEvent (Closable Closed KeepsClosed SealsOnly contentIn)

theorem eventsIn_of_get {system : System D} {store : Ref .store} {held : List (Ref .event)}
    (holds : system.stores.get store = .memory held) : eventsIn system store = held := by
  rw [eventsIn, holds]

private theorem store_append {handlers : Handlers D} {system : System D} {store : Ref .store}
    {held : List (Ref .event)} (holds : system.stores.get store = .memory held)
    (events : List (Ref .event)) :
    Store.append handlers store events system =
      append store events
        { system with calls := system.calls.push (.storeEvents store events) } := by
  simp only [Store.append, bind, Act.bind, Act.noteCall, Act.update, Act.read, holds]

def storing (system : System D) (store : Ref .store) (events : List (Ref .event))
    (known : Table .event LiveEvent) : System D :=
  { system with
    events := known
    stores := system.stores.set store (.memory (eventsIn system store ++ events))
    calls := system.calls.push (.storeEvents store events)
    log := system.log.push
      ⟨storeLogger, .debug, s!"Stored {events.length} event(s) in memory"⟩ }

/-- Storing events that can be sealed seals them and no others, and keeps them behind those
held. -/
theorem append_of_closable (handlers : Handlers D) {system : System D} {store : Ref .store}
    {held events : List (Ref .event)} (holds : system.stores.get store = .memory held)
    (closable : ∀ event ∈ events, Closable system event) :
    ∃ known, Store.append handlers store events system =
        (.ok (), storing system store events known) ∧
      SealsOnly system { system with events := known } ∧
      (∀ event ∈ events, (known.get event).isSealed = true) ∧
      ∀ event, event ∉ events → known.get event = system.events.get event := by
  let noted : System D := { system with calls := system.calls.push (.storeEvents store events) }
  have closableNoted : ∀ event ∈ events, Closable noted event := fun event member =>
    ⟨(closable event member).closes, (closable event member).present,
      (closable event member).entries⟩
  obtain ⟨known, ran, only, isSealed, others⟩ := LiveEvent.sealAll_of_closable closableNoted
  refine ⟨known, ?_, ⟨only.mappings, only.events⟩, isSealed, others⟩
  rw [store_append holds, append, Act.bind_of_ok ran]
  rfl

theorem get_storing {system : System D} {store : Ref .store} {held : List (Ref .event)}
    (holds : system.stores.get store = .memory held) (events : List (Ref .event))
    (known : Table .event LiveEvent) :
    (storing system store events known).stores.get store = .memory (held ++ events) := by
  rw [storing, eventsIn_of_get holds, Table.get_set, if_pos rfl]

/-- A batch with an open event that cannot be sealed is not stored, but the events before
it are sealed. -/
theorem append_of_not_closable (handlers : Handlers D) {system : System D} {store : Ref .store}
    {held first : List (Ref .event)} {event : Ref .event} (rest : List (Ref .event))
    (holds : system.stores.get store = .memory held)
    (closable : ∀ other ∈ first, Closable system other)
    (unsealed : (system.events.get event).isSealed = false)
    (notClosable : ¬ Closable system event) :
    ∃ known fault faults, Store.append handlers store (first ++ event :: rest) system =
        (.error (.raised fault),
          { system with
            events := known, faults
            calls := system.calls.push (.storeEvents store (first ++ event :: rest)) }) ∧
      (∀ other ∈ first, (known.get other).isSealed = true) ∧
      ∀ other, other ∉ first → known.get other = system.events.get other := by
  let noted : System D :=
    { system with calls := system.calls.push (.storeEvents store (first ++ event :: rest)) }
  have closableNoted : ∀ other ∈ first, Closable noted other := fun other member =>
    ⟨(closable other member).closes, (closable other member).present,
      (closable other member).entries⟩
  have notClosableNoted : ¬ Closable noted event := fun found =>
    notClosable ⟨found.closes, found.present, found.entries⟩
  have unsealedNoted : (noted.events.get event).isSealed = false := unsealed
  obtain ⟨known, fault, faults, ran, isSealed, others⟩ :=
    LiveEvent.sealAll_of_not_closable rest closableNoted unsealedNoted notClosableNoted
  refine ⟨known, fault, faults, ?_, isSealed, others⟩
  rw [store_append holds, append, Act.bind_of_error ran]

/-- Storing open events in memory ends in one of two ways: all of them are closed and stored
behind those held, or nothing is stored. What was closed before stays as it was. -/
theorem append_cases (handlers : Handlers D) {system : System D} {store : Ref .store}
    {held events : List (Ref .event)} (holds : system.stores.get store = .memory held)
    (unsealed : ∀ event ∈ events, (system.events.get event).isSealed = false) :
    (∃ known, Store.append handlers store events system =
        (.ok (), storing system store events known) ∧
      KeepsClosed system (storing system store events known) ∧
      ∀ event ∈ events, Closed (storing system store events known) event ∧
        (contentIn (storing system store events known) event).streamId =
          (contentIn system event).streamId) ∨
    ∃ known fault faults, Store.append handlers store events system =
        (.error (.raised fault),
          { system with
            events := known, faults, calls := system.calls.push (.storeEvents store events) }) ∧
      KeepsClosed system { system with events := known } := by
  rcases LiveEvent.closable_or_first_not system events with
    closable | ⟨first, event, rest, rfl, closable, notClosable⟩
  · left
    obtain ⟨known, stored, only, isSealed, -⟩ := append_of_closable handlers holds closable
    refine ⟨known, stored, only.keepsClosed, fun event member => ?_⟩
    exact only.closed (unsealed event member) (isSealed event member)
  · right
    obtain ⟨known, fault, faults, stopped, -, others⟩ := append_of_not_closable handlers rest
      holds closable (unsealed event (by simp)) notClosable
    refine ⟨known, fault, faults, stopped, fun other closed => others other fun member => ?_⟩
    have open_ := unsealed other (List.mem_append_left _ member)
    rw [closed.isSealed] at open_
    cases open_

theorem appendAll_of_closable (handlers : Handlers D) {system : System D} {store : Ref .store}
    {held : List (Ref .event)} {batches : List (List (Ref .event))}
    (holds : system.stores.get store = .memory held)
    (closable : ∀ event ∈ batches.flatten, Closable system event) :
    ∃ after, Act.forEach (Store.append handlers store) batches system = (.ok (), after) ∧
      SealsOnly system after ∧ after.stores.get store = .memory (held ++ batches.flatten) ∧
      ∀ event ∈ batches.flatten, (after.events.get event).isSealed = true := by
  induction batches generalizing system held with
  | nil =>
      refine ⟨system, rfl, .refl system, ?_, by simp⟩
      rw [List.flatten_nil, List.append_nil, holds]
  | cons batch batches ih =>
      rw [List.flatten_cons] at closable ⊢
      obtain ⟨known, ran, only, sealedFirst, -⟩ := append_of_closable handlers holds
        fun event member => closable event (List.mem_append_left _ member)
      have kept := get_storing holds batch known
      have first : SealsOnly system (storing system store batch known) :=
        ⟨only.mappings, only.events⟩
      obtain ⟨after, rest, second, keptAll, sealedRest⟩ := ih kept fun event member =>
        first.closable (closable event (List.mem_append_right _ member))
      refine ⟨after, ?_, first.trans second, ?_, fun event member => ?_⟩
      · rw [Act.forEach, Act.bind_of_ok ran, rest]
      · rw [keptAll, List.append_assoc]
      · rcases List.mem_append.mp member with member | member
        · exact second.isSealed (sealedFirst event member)
        · exact sealedRest event member

end MemoryStore

def Store.collect (seen : List (Ref .event)) (event : Ref .event) :
    Act D (List (Ref .event)) :=
  pure (seen ++ [event])

namespace MemoryStore

private theorem fold_collect (streamId : AnyText) (system : System D)
    (events seen : List (Ref .event)) :
    Act.fold
        (fun state event => do
          let content ← LiveEvent.content event
          if content.matchesStream streamId then Store.collect state event else pure state)
        seen events system =
      (.ok (seen ++ events.filter fun event =>
        (LiveEvent.contentIn system event).matchesStream streamId), system) := by
  induction events generalizing seen with
  | nil => rw [List.filter_nil, List.append_nil]; rfl
  | cons event events ih =>
      rw [Act.fold]
      by_cases matching : (LiveEvent.contentIn system event).matchesStream streamId = true
      · rw [List.filter_cons, if_pos matching, List.append_cons, ← ih]
        simp only [bind, Act.bind, LiveEvent.content, Act.read, matching, if_true]
        rfl
      · rw [List.filter_cons, if_neg matching, ← ih]
        simp only [bind, Act.bind, LiveEvent.content, Act.read, matching]
        rfl

theorem store_replay {State : Type} {handlers : Handlers D} {system : System D}
    {store : Ref .store} {held : List (Ref .event)}
    (holds : system.stores.get store = .memory held) (streamId : AnyText) (state : State)
    (step : State → Ref .event → Act D State) :
    Store.replay handlers store streamId state step system =
      replay store streamId state step system := by
  simp only [Store.replay, bind, Act.bind, Act.read, holds]

theorem replay_collect {handlers : Handlers D} {system : System D} {store : Ref .store}
    {held : List (Ref .event)} (holds : system.stores.get store = .memory held)
    (streamId : AnyText) :
    Store.replay handlers store streamId [] Store.collect system =
      (.ok (held.filter fun event =>
        (LiveEvent.contentIn system event).matchesStream streamId), system) := by
  have read : events store system = (.ok held, system) := by
    rw [events, Act.read_run, eventsIn_of_get holds]
  rw [store_replay holds, replay, Act.bind_of_ok read, fold_collect, List.nil_append]

end MemoryStore

end EventSourcing
