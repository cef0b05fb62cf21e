import EventSourcing.Proofs.Store.MemoryLaws

/-!
# Stored history

A store in memory keeps the events themselves, so what it replays later is what can still
be done to them. `Operation` names what the holder of an event can do: call its builders,
assign to its parts, assign to the items of its payload at any depth, and give other entries
to a mapping that it was made from. A stored event withstands all of it but one thing. The
seal covers the entries of the payload and not the lists and mappings inside them, and who
assigns to an item of these changes the history.
-/

set_option autoImplicit false

namespace EventSourcing

variable {D : Domain}

namespace Datum

/-- The values whose items can be assigned to. -/
def isOpen : Datum → Bool
  | .mapping _ | .list _ => true
  | _ => false

theorem isOpen_of_assign {value key new changed : Datum}
    (assigned : value.assign key new = .ok changed) : value.isOpen = true := by
  cases value <;> first
    | rfl
    | cases assigned
    | (simp only [assign] at assigned
       split at assigned <;> cases assigned)

end Datum

namespace LiveEvent

/-! ## Operations -/

/-- What can be done to an event that one holds, or to a mapping that it was made from. Lists and
mappings inside a payload are known by their contents only. One that is reached in another way, by
the mapping that an event was made from or by another event that shares it, counts as inside the
payload: an assignment to it is a `put` with a path. -/
inductive Operation where
  | forStream (streamId : Datum)
  | add (name value : Datum)
  | occur (clock : Ref .clock)
  | persist (clock : Ref .clock)
  | close
  | assign (assignment : Assignment)
  | put (path : List Datum) (key value : Datum)
  /-- The mapping is given other entries of its own. -/
  | refill (mapping : Ref .mapping) (entries : Entries)

def Operation.run (event : Ref .event) : Operation → Act D Unit
  | .forStream streamId => LiveEvent.forStream event streamId
  | .add name value => LiveEvent.add event name value
  | .occur clock => LiveEvent.occur event clock
  | .persist clock => LiveEvent.persist event clock
  | .close => sealEvent event
  | .assign assignment => LiveEvent.assign event assignment
  | .put path key value => LiveEvent.put event path key value
  | .refill mapping entries => Act.update fun system =>
    { system with mappings := system.mappings.set mapping entries }

/-- The operation assigns to an item of something inside the payload, and is not refused. -/
def Operation.Reaches (payload : Datum) : Operation → Prop
  | .put (step :: path) key value =>
    ∃ changed, payload.assignAt key value (step :: path) = .ok changed
  | _ => False

/-- The system after operations on events, each of which ends as it may. -/
def operate (system : System D) (operations : List (Ref .event × Operation)) : System D :=
  operations.foldl (fun system entry => (entry.2.run entry.1 system).2) system

/-! ## What an operation leaves alone -/

/-- Of some events, those that are closed stay as they are, and so do all stores. -/
structure Spares (events : List (Ref .event)) (before after : System D) : Prop where
  closed : ∀ event ∈ events, Closed before event →
    after.events.get event = before.events.get event
  stores : after.stores = before.stores

instance (events : List (Ref .event)) : Act.Frame (Spares (D := D) events) where
  refl _ := ⟨fun _ _ _ => rfl, rfl⟩
  trans first second :=
    { closed := fun event member closed => by
        obtain ⟨entries, shown⟩ := closed
        have same := first.closed event member ⟨entries, shown⟩
        rw [second.closed event member (closed_of_get (same.trans shown)), same]
      stores := second.stores.trans first.stores }

section Sparing

variable {events : List (Ref .event)} {system after : System D} {event : Ref .event}

private theorem KeepsClosed.spares (keeps : KeepsClosed system after)
    (stores : after.stores = system.stores) : Spares events system after :=
  ⟨fun event _ closed => keeps event closed, stores⟩

private theorem spares_of_events (sameEvents : after.events = system.events)
    (stores : after.stores = system.stores) : Spares events system after :=
  (keepsClosed_of_events sameEvents).spares stores

private theorem spares_newFault (fault : Fault) :
    Act.Keeps (Spares (D := D) events) (Act.newFault fault) :=
  fun _ => spares_of_events rfl rfl

private theorem spares_change
    (unsealed : (system.events.get event).isSealed = false) (edit : LiveEvent → LiveEvent) :
    Spares events system (change event edit system).2 :=
  (keepsClosed_changed unsealed edit).spares rfl

private theorem spares_newPayload (value : Datum) :
    Act.Keeps (Spares (D := D) events) (newPayload value) := by
  intro system
  cases value with
  | mapping entries => exact spares_of_events rfl rfl
  | _ => exact Act.Frame.refl system

private theorem events_newPayload (value : Datum) :
    Act.Keeps (Act.Same fun system : System D => system.events) (newPayload value) := by
  intro system
  cases value <;> rfl

/-- A payload is made first, and then an event that is still open is changed. -/
private theorem spares_repay (unsealed : (system.events.get event).isSealed = false)
    (value : Datum) (edit : Payload → LiveEvent → LiveEvent) :
    Spares events system
      ((newPayload value >>= fun payload => change event (edit payload)) system).2 := by
  have made : Spares events system (newPayload value system).2 := spares_newPayload value system
  have same := events_newPayload value system
  rcases ran : newPayload value system with ⟨halt | payload, middle⟩
  · rw [Act.bind_of_error ran]
    rwa [ran] at made
  · rw [Act.bind_of_ok ran]
    rw [ran] at made same
    refine Act.Frame.trans made (spares_change ?_ (edit payload))
    rw [show middle.events = system.events from same]
    exact unsealed

private theorem spares_apply (unsealed : (system.events.get event).isSealed = false)
    (assignment : Assignment) : Spares events system (assignment.apply event system).2 := by
  cases assignment with
  | payload value => exact spares_repay unsealed value _
  | parts entries => exact spares_repay unsealed _ fun payload _ => ofParts entries payload
  | refused part fault => exact Act.keeps_throw spares_newFault fault system
  | other part => exact Act.Frame.refl system
  | _ => exact spares_change unsealed _

private theorem spares_assign (event : Ref .event) (assignment : Assignment) :
    Act.Keeps (Spares (D := D) events) (assign event assignment) := by
  intro system
  cases known : (system.events.get event).isSealed with
  | true =>
      rw [assign_of_isSealed known]
      exact keeps_refuse spares_newFault event _ system
  | false =>
      rw [assign_of_open known]
      exact spares_apply known assignment

private theorem spares_now (clock : Ref .clock) :
    Act.Keeps (Spares (D := D) events) (now clock) := by
  refine (Act.keeps_read _).bind fun shown => Act.Keeps.bind
    (fun system => spares_of_events rfl rfl) fun _ => ?_
  split
  · exact Act.keeps_pure _
  · exact Act.keeps_raise spares_newFault _

/-- Sealing changes an event that is open into one that is closed, or nothing. -/
theorem sealEvent_cases (system : System D) (event : Ref .event) :
    ((system.events.get event).isSealed = false ∧ ∃ entries,
        sealEvent event system = (.ok (), changed system event (closedWith entries))) ∨
      ((system.events.get event).isSealed = true ∧ sealEvent event system = (.ok (), system)) ∨
      ∃ fault, sealEvent event system = Act.throw fault system := by
  cases known : (system.events.get event).isSealed with
  | false =>
      by_cases closable : Closable system event
      · obtain ⟨entries, holds⟩ := closable.entries
        exact .inl ⟨rfl, entries, sealEvent_of_open closable.closes closable.present known holds⟩
      · exact .inr (.inr (sealEvent_of_not_closable known closable))
  | true =>
      cases own : (system.events.get event).replaced.lookup .close with
      | none => exact .inr (.inl ⟨rfl, sealEvent_of_isSealed own known⟩)
      | some value => exact .inr (.inr ⟨_, sealEvent_of_replaced own⟩)

theorem spares_sealEvent (event : Ref .event) :
    Act.Keeps (Spares (D := D) events) (sealEvent event) := by
  intro system
  rcases sealEvent_cases system event with ⟨unsealed, entries, ran⟩ | ⟨-, ran⟩ | ⟨fault, ran⟩
  · rw [ran]
    exact spares_change unsealed _
  · rw [ran]
    exact Act.Frame.refl system
  · rw [ran]
    exact Act.keeps_throw spares_newFault fault system

/-- What the payload of an event is assigned is kept where the event is not one of those that
are closed. -/
private theorem spares_written (event : Ref .event) (value : Datum)
    (elsewhere : event ∈ events → ¬ Closed system event) :
    Spares events system
      (change event (fun known => { known with payload := .own value }) system).2 := by
  refine ⟨fun other member closed => ?_, rfl⟩
  refine (Table.get_set _ _ _ _).trans (if_neg ?_)
  rintro rfl
  exact elsewhere member closed

/-- The payload of a closed event gets no new item, unless one of a list or a mapping inside
it. -/
private theorem not_assignAt_of_closed (closed : Closed system event) {path : List Datum}
    {key value changed : Datum}
    (outside : ¬ (Operation.put path key value).Reaches (contentIn system event).payload) :
    (contentIn system event).payload.assignAt key value path ≠ .ok changed := by
  intro assigned
  cases path with
  | nil =>
      obtain ⟨entries, shown⟩ := closed
      have own : (system.events.get event).payload = .own (.frozen entries) := by
        rw [shown]
        rfl
      have payload : (contentIn system event).payload = .frozen entries := by
        simp only [contentIn, data, own]
      have isOpen := Datum.isOpen_of_assign assigned
      rw [payload] at isOpen
      cases isOpen
  | cons step path => exact outside ⟨changed, assigned⟩

private theorem spares_put (path : List Datum) (key value : Datum)
    (outside : event ∈ events → Closed system event →
      ¬ (Operation.put path key value).Reaches (contentIn system event).payload) :
    Spares events system (put event path key value system).2 := by
  have required : Spares events system (requirePart event "payload" system).2 :=
    keeps_requirePart spares_newFault event "payload" system
  have same : Act.Keeps (Act.Same fun system : System D => (system.events, system.mappings))
      (requirePart event "payload") :=
    keeps_requirePart (fun _ _ => rfl) event "payload"
  have same := same system
  rcases ran : requirePart event "payload" system with ⟨halt | _, middle⟩
  · rw [put, Act.bind_of_error ran]
    rwa [ran] at required
  rw [ran] at required same
  rw [Act.Same, Prod.mk.injEq] at same
  obtain ⟨sameEvents, sameMappings⟩ := same
  rw [put, Act.bind_of_ok ran]
  refine Act.Frame.trans required ?_
  have content : contentIn middle event = contentIn system event :=
    contentIn_of_get_eq (congrArg (Table.get · event) sameEvents) sameMappings
  have closedBefore (closed : Closed middle event) : Closed system event := by
    obtain ⟨entries, shown⟩ := closed
    exact ⟨entries, by rwa [show middle.events = system.events from sameEvents] at shown⟩
  show Spares events middle
    ((Act.ofExcept (((contentIn middle event).payload.assignAt key value path).mapError
      Fault.access) >>= _) middle).2
  rcases assigned : (contentIn middle event).payload.assignAt key value path with fault | changed
  · exact Act.keeps_throw spares_newFault (.access fault) middle
  have elsewhere (member : event ∈ events) (closed : Closed middle event) : False :=
    not_assignAt_of_closed (closedBefore closed) (outside member (closedBefore closed))
      (content ▸ assigned)
  have written : Spares events middle
      (change event (fun known => { known with payload := .own changed }) middle).2 :=
    spares_written event changed elsewhere
  have accepted : Act.ofExcept ((Except.ok changed).mapError Fault.access) middle =
      (.ok changed, middle) :=
    rfl
  rw [Act.bind_of_ok accepted, Act.bind_of_ok (Act.read_run _ _)]
  cases own : (middle.events.get event).payload with
  | own value => exact written
  | live mapping =>
      cases changed with
      | mapping entries => exact spares_of_events rfl rfl
      | _ => exact written

/-- An operation leaves a closed event as it is, unless it assigns to an item of a list or a
mapping inside the payload. -/
theorem Operation.spares (operation : Operation)
    (outside : event ∈ events → Closed system event →
      ¬ operation.Reaches (contentIn system event).payload) :
    Spares events system (operation.run event system).2 := by
  cases operation with
  | forStream streamId =>
      exact ((keeps_requireBuilder spares_newFault event .forStream).bind fun _ =>
        spares_assign event _) system
  | add name value =>
      refine ((keeps_requireBuilder spares_newFault event .add).bind fun _ => ?_) system
      intro middle
      cases known : (middle.events.get event).isSealed with
      | true =>
          simp only [bind, Act.bind, Act.read, known, if_true]
          exact keeps_refuse spares_newFault event _ middle
      | false =>
          simp only [bind, Act.bind, Act.read, known, Bool.false_eq_true, if_false]
          refine spares_put [] name value fun _ closed => ?_
          rw [closed.isSealed] at known
          cases known
  | occur clock =>
      exact ((keeps_requireBuilder spares_newFault event .occur).bind fun _ =>
        (spares_now clock).bind fun _ => spares_assign event _) system
  | persist clock =>
      exact ((keeps_requireBuilder spares_newFault event .persist).bind fun _ =>
        (spares_now clock).bind fun _ => spares_assign event _) system
  | close => exact spares_sealEvent event system
  | assign assignment => exact spares_assign event assignment system
  | put path key value => exact spares_put path key value outside
  | refill mapping entries => exact spares_of_events rfl rfl

/-- Operations one after another leave closed events as they are. -/
theorem operate_spares (operations : List (Ref .event × Operation))
    (closed : ∀ event ∈ events, Closed system event)
    (outside : ∀ entry ∈ operations, entry.1 ∈ events →
      ¬ entry.2.Reaches (contentIn system entry.1).payload) :
    Spares events system (operate system operations) := by
  induction operations generalizing system with
  | nil => exact Act.Frame.refl system
  | cons entry operations ih =>
      have first : Spares events system (entry.2.run entry.1 system).2 :=
        entry.2.spares fun member _ => outside entry List.mem_cons_self member
      refine Act.Frame.trans first (ih ?_ ?_)
      · intro event member
        obtain ⟨entries, shown⟩ := closed event member
        exact closed_of_get ((first.closed event member (closed event member)).trans shown)
      · intro other later member
        have stays := first.closed other.1 member (closed other.1 member)
        rw [(closed other.1 member).contentIn_eq stays]
        exact outside other (.tail _ later) member

end Sparing

/-! ## What is stored -/

/-- An event that counts as sealed was closed; its seal was not just assigned. -/
def SealHolds (system : System D) (event : Ref .event) : Prop :=
  (system.events.get event).isSealed = true → Closed system event

section Storing

variable {system after : System D} {event : Ref .event}

/-- Sealing an event leaves it closed, where its seal holds, and other events as they are or
closed. -/
private theorem closed_of_sealEvent (ran : sealEvent event system = (.ok (), after)) :
    (SealHolds system event → Closed after event) ∧
      ∀ other, Closed after other ∨ after.events.get other = system.events.get other := by
  rcases sealEvent_cases system event with ⟨-, entries, closes⟩ | ⟨isSealed, stays⟩ | ⟨_, refused⟩
  · rw [closes] at ran
    cases ran
    have closed : Closed (changed system event (closedWith entries)) event :=
      closed_of_get ((get_changed _ _ _ _).trans (if_pos rfl))
    refine ⟨fun _ => closed, fun other => ?_⟩
    by_cases same : event = other
    · exact .inl (same ▸ closed)
    · exact .inr ((get_changed _ _ _ _).trans (if_neg same))
  · rw [stays] at ran
    cases ran
    exact ⟨fun holds => holds isSealed, fun _ => .inr rfl⟩
  · rw [refused] at ran
    cases ran

private theorem SealHolds.next (holds : SealHolds system event)
    (next : Closed after event ∨ after.events.get event = system.events.get event) :
    SealHolds after event := by
  intro isSealed
  rcases next with closed | same
  · exact closed
  · rw [same] at isSealed
    obtain ⟨entries, shown⟩ := holds isSealed
    exact closed_of_get (same.trans shown)

private theorem keepsClosed_sealEvent (event : Ref .event) :
    Act.Keeps (KeepsClosed (D := D)) (sealEvent event) :=
  fun system _ closed =>
    (spares_sealEvent event system).closed _ (List.mem_singleton.mpr rfl) closed

/-- Sealing a batch leaves those of its events closed whose seals hold. -/
theorem closed_of_sealAll {batch : List (Ref .event)}
    (ran : Act.forEach sealEvent batch system = (.ok (), after))
    (holds : SealHolds system event) (member : event ∈ batch) : Closed after event := by
  induction batch generalizing system with
  | nil => cases member
  | cons first rest ih =>
      obtain ⟨_, middle, sealsFirst, sealsRest⟩ := Act.bind_eq_ok ran
      obtain ⟨closes, others⟩ := closed_of_sealEvent sealsFirst
      by_cases later : event ∈ rest
      · exact ih sealsRest (holds.next (others event)) later
      · obtain rfl : event = first := by simpa [later] using member
        have kept : KeepsClosed middle (Act.forEach sealEvent rest middle).2 :=
          Act.keeps_forEach (fun other _ => keepsClosed_sealEvent other) middle
        rw [sealsRest] at kept
        exact kept.closed (closes holds)

end Storing

end LiveEvent

namespace MemoryStore

open LiveEvent (Closed Operation SealHolds contentIn operate)

/-- A store in memory that ends storing a batch holds it behind what it held before, and has
closed those of its events whose seals hold. -/
theorem append_eq_ok {handlers : Handlers D} {system stored : System D} {store : Ref .store}
    {held batch : List (Ref .event)} (memory : system.stores.get store = .memory held)
    (ran : Store.append handlers store batch system = (.ok (), stored)) :
    stored.stores.get store = .memory (held ++ batch) ∧
      ∀ event ∈ batch, SealHolds system event → Closed stored event := by
  let noted := { system with calls := system.calls.push (.storeEvents store batch) }
  have appends : Store.append handlers store batch system = append store batch noted := by
    simp only [Store.append, bind, Act.bind, Act.noteCall, Act.update, Act.read, memory, noted]
  obtain ⟨_, middle, seals, adds⟩ := Act.bind_eq_ok (appends.symm.trans ran)
  have stores : middle.stores = system.stores := by
    have kept : LiveEvent.Spares [] noted (Act.forEach LiveEvent.sealEvent batch noted).2 :=
      Act.keeps_forEach (fun event _ => LiveEvent.spares_sealEvent event) noted
    rw [seals] at kept
    exact kept.stores
  have held_middle : eventsIn middle store = held :=
    eventsIn_of_get ((congrArg (Table.get · store) stores).trans memory)
  cases adds
  refine ⟨(Table.get_set _ _ _ _).trans ?_, fun event member holds => ?_⟩
  · rw [if_pos rfl, held_middle]
  · have closed : Closed middle event :=
      LiveEvent.closed_of_sealAll seals holds member
    exact closed

/-- What is stored in memory is handed over by every later replay as it was when it was stored,
whatever operations there were on it in between, but for assignments to the items of lists and
mappings inside its payload. -/
theorem stored_history_stays (handlers : Handlers D) {system stored : System D}
    {store : Ref .store} {held batch : List (Ref .event)}
    (memory : system.stores.get store = .memory held)
    (ran : Store.append handlers store batch system = (.ok (), stored))
    {event : Ref .event} (member : event ∈ batch) (holds : SealHolds system event)
    {operations : List (Ref .event × Operation)}
    (outside : ∀ entry ∈ operations, entry.1 = event →
      ¬ entry.2.Reaches (contentIn stored event).payload) :
    let later := operate stored operations
    contentIn later event = contentIn stored event ∧
      ∀ streamId, ∃ handed,
        Store.replay handlers store streamId [] Store.collect later = (.ok handed, later) ∧
        handed = (held ++ batch).filter (fun other =>
          (contentIn later other).matchesStream streamId) ∧
        (event ∈ handed ↔ (contentIn stored event).matchesStream streamId = true) := by
  intro later
  obtain ⟨holdsAll, closes⟩ := append_eq_ok memory ran
  have closed := closes event member holds
  have spares : LiveEvent.Spares [event] stored later := by
    refine LiveEvent.operate_spares operations ?_ ?_
    · intro other among
      rwa [List.mem_singleton.mp among]
    · intro entry applied among
      have same := List.mem_singleton.mp among
      rw [same]
      exact outside entry applied same
  have content : contentIn later event = contentIn stored event :=
    closed.contentIn_eq (spares.closed event (List.mem_singleton.mpr rfl) closed)
  have stays : later.stores.get store = .memory (held ++ batch) := by
    rw [spares.stores]
    exact holdsAll
  refine ⟨content, fun streamId => ⟨_, replay_collect stays streamId, rfl, ?_⟩⟩
  rw [List.mem_filter, content]
  exact and_iff_right (List.mem_append_right held member)

/-- A store in memory and an open event, with a mapping inside its payload. -/
def withDetails : System Domain.bare :=
  { events := ⟨#[{
      name := .text "opened", streamId := .text "a", id := .text "", occurredOn := .null
      persistedAt := .null, payload := .live ⟨0⟩ }]⟩
    mappings := ⟨#[[(.text "details", .mapping [(.text "count", .int 1)])]]⟩
    stores := ⟨#[.memory []]⟩
    domain := () }

theorem stored_history_stays_withDetails :
    let stored := (Store.append Handlers.bare ⟨0⟩ [⟨0⟩] withDetails).2
    let later := operate stored [(⟨0⟩, .assign (.name (.text "closed"))),
      (⟨0⟩, .put [] (.text "details") .null), (⟨0⟩, .refill ⟨0⟩ [])]
    contentIn later ⟨0⟩ = contentIn stored ⟨0⟩ ∧ ∃ handed,
      Store.replay Handlers.bare ⟨0⟩ "a" [] Store.collect later = (.ok handed, later) ∧
      (⟨0⟩ : Ref .event) ∈ handed := by
  intro stored later
  have ran : Store.append Handlers.bare ⟨0⟩ [⟨0⟩] withDetails = (.ok (), stored) := rfl
  have memory : withDetails.stores.get ⟨0⟩ = .memory [] := rfl
  have member : (⟨0⟩ : Ref .event) ∈ [⟨0⟩] := List.mem_singleton.mpr rfl
  have outside : ∀ entry ∈ [((⟨0⟩ : Ref .event), Operation.assign (.name (.text "closed"))),
      (⟨0⟩, .put [] (.text "details") .null), (⟨0⟩, .refill ⟨0⟩ [])],
      entry.1 = ⟨0⟩ → ¬ entry.2.Reaches (contentIn stored ⟨0⟩).payload := by
    simp [Operation.Reaches]
  obtain ⟨same, replays⟩ :=
    stored_history_stays Handlers.bare memory ran member nofun outside
  obtain ⟨handed, replayed, -, among⟩ := replays "a"
  exact ⟨same, handed, replayed, among.mpr (by decide +kernel)⟩

/-- An item of a mapping inside the payload of a stored event can be assigned to, and then
the replays hand over another payload than was stored. -/
theorem nested_assignment_changes_history :
    let stored := (Store.append Handlers.bare ⟨0⟩ [⟨0⟩] withDetails).2
    let later := operate stored
      [(⟨0⟩, .put [.text "details"] (.text "count") (.int 2))]
    Store.append Handlers.bare ⟨0⟩ [⟨0⟩] withDetails = (.ok (), stored) ∧
      SealHolds withDetails ⟨0⟩ ∧
      Store.replay Handlers.bare ⟨0⟩ "a" [] Store.collect later = (.ok [⟨0⟩], later) ∧
      (contentIn stored ⟨0⟩).payload =
        .frozen [(.text "details", .mapping [(.text "count", .int 1)])] ∧
      (contentIn later ⟨0⟩).payload =
        .frozen [(.text "details", .mapping [(.text "count", .int 2)])] := by
  intro stored later
  have held : later.stores.get ⟨0⟩ = .memory [⟨0⟩] := by with_unfolding_all rfl
  have replayed : Store.replay Handlers.bare ⟨0⟩ "a" [] Store.collect later = _ :=
    replay_collect held "a"
  have all : ([⟨0⟩] : List (Ref .event)).filter (fun event =>
      (contentIn later event).matchesStream "a") = [⟨0⟩] := by
    decide +kernel
  rw [all] at replayed
  exact ⟨rfl, nofun, replayed, rfl, by with_unfolding_all rfl⟩

end MemoryStore

end EventSourcing
