import EventSourcing.Event.Live
import EventSourcing.Proofs.System.Running

/-!
# Stamping and sealing events

What the steps of storing one event do to a system: reading a clock, stamping, writing
the line and sealing. An event is intact when its parts are there and its own builders
stamp and seal it. Each law gives the system after the step, so that what the step leaves
alone can be read off.
-/

set_option autoImplicit false

namespace EventSourcing.LiveEvent

variable {D : Domain}

/-- No part was left out, and no value stands in for the builders that a store uses. -/
structure Intact (event : LiveEvent) : Prop where
  persists : event.replaced.lookup .persist = none
  closes : event.replaced.lookup .close = none
  complete : event.lacking = []

def changed (system : System D) (ref : Ref .event) (edit : LiveEvent → LiveEvent) : System D :=
  { system with events := system.events.set ref (edit (system.events.get ref)) }

def ticked (system : System D) (clock : Ref .clock) : System D :=
  { system with clocks := system.clocks.set clock (system.clocks.get clock).read.2 }

def nextReading (system : System D) (clock : Ref .clock) : Except Raise Moment :=
  (system.clocks.get clock).read.1

def stampedAt (moment : Moment) (event : LiveEvent) : LiveEvent :=
  { event with persistedAt := .moment moment }

def occurredAt (moment : Moment) (event : LiveEvent) : LiveEvent :=
  { event with occurredOn := .moment moment }

def closedWith (entries : Entries) (event : LiveEvent) : LiveEvent :=
  { event with payload := .own (.frozen entries), sealing := .bool true }

theorem get_changed (system : System D) (ref other : Ref .event)
    (edit : LiveEvent → LiveEvent) :
    (changed system ref edit).events.get other =
      if ref = other then edit (system.events.get ref) else system.events.get other :=
  Table.get_set _ _ _ _

theorem get_ticked (system : System D) (clock other : Ref .clock) :
    (ticked system clock).clocks.get other =
      if clock = other then (system.clocks.get clock).read.2 else system.clocks.get other :=
  Table.get_set _ _ _ _

theorem isSealed_closedWith (entries : Entries) (event : LiveEvent) :
    (closedWith entries event).isSealed = true :=
  rfl

/-! ## Steps -/

theorem now_of_ok {system : System D} {clock : Ref .clock} {moment : Moment}
    (reading : nextReading system clock = .ok moment) :
    now clock system = (.ok moment, ticked system clock) := by
  have shown : (system.clocks.get clock).read.1 = .ok moment := reading
  simp only [now, bind, Act.bind, Act.read, Act.update, shown]
  rfl

theorem now_of_error {system : System D} {clock : Ref .clock} {raise : Raise}
    (reading : nextReading system clock = .error raise) :
    now clock system = Act.raise raise (ticked system clock) := by
  have shown : (system.clocks.get clock).read.1 = .error raise := reading
  simp only [now, bind, Act.bind, Act.read, Act.update, shown]
  rfl

theorem requireBuilder_of_none {system : System D} {event : Ref .event}
    {builder : Builder} (own : (system.events.get event).replaced.lookup builder = none) :
    requireBuilder event builder system = (.ok (), system) := by
  simp only [requireBuilder, bind, Act.bind, Act.read, own]
  rfl

theorem requirePart_of_present {system : System D} {event : Ref .event} {part : String}
    (present : (system.events.get event).lacking.contains part = false) :
    requirePart event part system = (.ok (), system) := by
  simp only [requirePart, bind, Act.bind, Act.read, present]
  rfl

theorem requirePart_of_complete {system : System D} {event : Ref .event}
    (complete : (system.events.get event).lacking = []) (part : String) :
    requirePart event part system = (.ok (), system) := by
  apply requirePart_of_present
  rw [complete]
  rfl

theorem assign_of_open {system : System D} {event : Ref .event}
    (unsealed : (system.events.get event).isSealed = false) (assignment : Assignment) :
    assign event assignment system = assignment.apply event system := by
  simp only [assign, bind, Act.bind, Act.read, unsealed]
  rfl

theorem assign_of_isSealed {system : System D} {event : Ref .event}
    (isSealed : (system.events.get event).isSealed = true) (assignment : Assignment) :
    assign event assignment system = refuse event assignment.part system := by
  simp only [assign, bind, Act.bind, Act.read, isSealed]
  rfl

theorem refuse_of_complete {system : System D} {event : Ref .event}
    (complete : (system.events.get event).lacking = []) (part : String) :
    refuse event part system =
      Act.throw (.eventSealed (system.events.get event).name (.text part)) system := by
  rw [refuse, Act.bind_of_ok (requirePart_of_complete complete "name")]
  rfl

theorem persist_of_ok {system : System D} {event : Ref .event} {clock : Ref .clock}
    {moment : Moment} (intact : (system.events.get event).Intact)
    (unsealed : (system.events.get event).isSealed = false)
    (reading : nextReading system clock = .ok moment) :
    persist event clock system =
      (.ok (), changed (ticked system clock) event (stampedAt moment)) := by
  rw [persist, Act.bind_of_ok (requireBuilder_of_none intact.persists),
    Act.bind_of_ok (now_of_ok reading)]
  have unsealed : ((ticked system clock).events.get event).isSealed = false := unsealed
  exact assign_of_open unsealed _

theorem persist_of_isSealed {system : System D} {event : Ref .event} {clock : Ref .clock}
    {moment : Moment} (intact : (system.events.get event).Intact)
    (isSealed : (system.events.get event).isSealed = true)
    (reading : nextReading system clock = .ok moment) :
    persist event clock system =
      Act.throw (.eventSealed (system.events.get event).name (.text "persisted_at"))
        (ticked system clock) := by
  rw [persist, Act.bind_of_ok (requireBuilder_of_none intact.persists),
    Act.bind_of_ok (now_of_ok reading)]
  have isSealed : ((ticked system clock).events.get event).isSealed = true := isSealed
  have complete : ((ticked system clock).events.get event).lacking = [] := intact.complete
  rw [assign_of_isSealed isSealed]
  exact refuse_of_complete complete _

theorem persist_of_error {system after : System D} {event : Ref .event} {clock : Ref .clock}
    {raise : Raise} {halt : Halt} (intact : (system.events.get event).Intact)
    (reading : nextReading system clock = .error raise)
    (raised : (Act.raise raise : Act D Moment) (ticked system clock) = (.error halt, after)) :
    persist event clock system = (.error halt, after) := by
  rw [persist, Act.bind_of_ok (requireBuilder_of_none intact.persists)]
  exact Act.bind_of_error ((now_of_error reading).trans raised)

private theorem requireBuilder_eq_ok {system after : System D} {event : Ref .event}
    {builder : Builder} (ran : requireBuilder event builder system = (.ok (), after)) :
    system = after ∧ (system.events.get event).replaced.lookup builder = none := by
  cases own : (system.events.get event).replaced.lookup builder with
  | some value =>
    simp only [requireBuilder, bind, Act.bind, Act.read, own] at ran
    cases ran
  | none =>
    rw [requireBuilder_of_none own] at ran
    cases ran
    exact ⟨rfl, rfl⟩

private theorem requirePart_eq_ok {system after : System D} {event : Ref .event} {part : String}
    (ran : requirePart event part system = (.ok (), after)) :
    system = after ∧ (system.events.get event).lacking.contains part = false := by
  cases lacks : (system.events.get event).lacking.contains part with
  | true =>
    simp only [requirePart, bind, Act.bind, Act.read, lacks, if_true] at ran
    cases ran
  | false =>
    rw [requirePart_of_present lacks] at ran
    cases ran
    exact ⟨rfl, rfl⟩

/-- A builder that assigns a reading of a clock has read it, and the event was open. -/
private theorem stamp_eq_ok {system after : System D} {event : Ref .event} {clock : Ref .clock}
    {builder : Builder} {assignment : Moment → Assignment}
    (ran : (do
      requireBuilder event builder
      assign event (assignment (← now clock)) : Act D Unit) system = (.ok (), after)) :
    ∃ moment, nextReading system clock = .ok moment ∧
      (system.events.get event).isSealed = false ∧
      (assignment moment).apply event (ticked system clock) = (.ok (), after) := by
  obtain ⟨_, middle, required, rest⟩ := Act.bind_eq_ok ran
  obtain ⟨rfl, -⟩ := requireBuilder_eq_ok required
  obtain ⟨moment, middle, read, assigned⟩ := Act.bind_eq_ok rest
  cases reading : nextReading system clock with
  | error raise =>
    rw [now_of_error reading] at read
    exact absurd read (Act.raise_ne_ok _ _ _ _)
  | ok shown =>
    rw [now_of_ok reading] at read
    cases read
    cases known : (system.events.get event).isSealed with
    | true =>
      have still : ((ticked system clock).events.get event).isSealed = true := known
      rw [assign_of_isSealed still] at assigned
      obtain ⟨_, middle, -, thrown⟩ := Act.bind_eq_ok assigned
      cases thrown
    | false =>
      have still : ((ticked system clock).events.get event).isSealed = false := known
      rw [assign_of_open still] at assigned
      exact ⟨moment, rfl, rfl, assigned⟩

theorem occur_eq_ok {system after : System D} {event : Ref .event} {clock : Ref .clock}
    (ran : occur event clock system = (.ok (), after)) :
    ∃ moment, nextReading system clock = .ok moment ∧
      (system.events.get event).isSealed = false ∧
      after = changed (ticked system clock) event (occurredAt moment) := by
  obtain ⟨moment, reading, unsealed, assigned⟩ := stamp_eq_ok ran
  cases assigned
  exact ⟨moment, reading, unsealed, rfl⟩

theorem persist_eq_ok {system after : System D} {event : Ref .event} {clock : Ref .clock}
    (ran : persist event clock system = (.ok (), after)) :
    ∃ moment, nextReading system clock = .ok moment ∧
      (system.events.get event).isSealed = false ∧
      after = changed (ticked system clock) event (stampedAt moment) := by
  obtain ⟨moment, reading, unsealed, assigned⟩ := stamp_eq_ok ran
  cases assigned
  exact ⟨moment, reading, unsealed, rfl⟩

/-- Nothing keeps the event from being sealed. -/
structure Closable (system : System D) (event : Ref .event) : Prop where
  closes : (system.events.get event).replaced.lookup .close = none
  present : (system.events.get event).lacking.contains "payload" = false
  entries : ∃ entries, (contentIn system event).payload.toEntries? = .ok entries

theorem Intact.present {event : LiveEvent} (intact : event.Intact) (part : String) :
    event.lacking.contains part = false := by
  rw [intact.complete]
  rfl

theorem logLine_run {system : System D} {event : Ref .event}
    (complete : (system.events.get event).lacking = []) :
    logLine event system = Act.ofExcept (contentIn system event).logLine system := by
  have parts : contentWith ["payload", "name"] event system =
      (.ok (contentIn system event), system) := by
    rw [contentWith, Act.forEach, Act.forEach, Act.forEach]
    simp only [bind, Act.bind, requirePart_of_complete complete]
    rfl
  rw [logLine, Act.bind_of_ok parts]

theorem sealEvent_of_open {system : System D} {event : Ref .event} {entries : Entries}
    (closes : (system.events.get event).replaced.lookup .close = none)
    (present : (system.events.get event).lacking.contains "payload" = false)
    (unsealed : (system.events.get event).isSealed = false)
    (holds : (contentIn system event).payload.toEntries? = .ok entries) :
    sealEvent event system = (.ok (), changed system event (closedWith entries)) := by
  have made : Act.ofExcept ((contentIn system event).payload.toEntries?.mapError .pairs) system =
      (.ok entries, system) := by
    rw [holds]
    rfl
  rw [sealEvent, Act.bind_of_ok (requireBuilder_of_none closes)]
  simp only [bind, Act.bind, Act.read, unsealed, Bool.false_eq_true, if_false,
    requirePart_of_present present, content, made]
  rfl

theorem sealEvent_of_isSealed {system : System D} {event : Ref .event}
    (closes : (system.events.get event).replaced.lookup .close = none)
    (isSealed : (system.events.get event).isSealed = true) :
    sealEvent event system = (.ok (), system) := by
  rw [sealEvent, Act.bind_of_ok (requireBuilder_of_none closes)]
  simp only [bind, Act.bind, Act.read, isSealed, if_true]
  rfl

theorem sealEvent_of_replaced {system : System D} {event : Ref .event} {value : Datum}
    (replaced : (system.events.get event).replaced.lookup .close = some value) :
    sealEvent event system = Act.throw (.notBuilder value.qualifiedKindName) system := by
  have gone : requireBuilder event .close system =
      Act.throw (.notBuilder value.qualifiedKindName) system := by
    simp only [requireBuilder, bind, Act.bind, Act.read, replaced]
  rw [sealEvent, Act.bind_of_error gone]
  rfl

/-- What keeps an open event from being sealed is raised, and nothing else happens. -/
theorem sealEvent_of_not_closable {system : System D} {event : Ref .event}
    (unsealed : (system.events.get event).isSealed = false)
    (notClosable : ¬ Closable system event) :
    ∃ fault, sealEvent event system = Act.throw fault system := by
  cases own : (system.events.get event).replaced.lookup .close with
  | some value => exact ⟨_, sealEvent_of_replaced own⟩
  | none =>
    rw [sealEvent, Act.bind_of_ok (requireBuilder_of_none own)]
    simp only [bind, Act.bind, Act.read, unsealed, Bool.false_eq_true, if_false]
    cases present : (system.events.get event).lacking.contains "payload" with
    | true =>
      have lacks : requirePart event "payload" system =
          Act.throw (.lacksAttribute "Event" "payload") system := by
        simp only [requirePart, bind, Act.bind, Act.read, present]
        rfl
      exact ⟨_, by rw [lacks]; rfl⟩
    | false =>
      rw [requirePart_of_present present]
      cases holds : (contentIn system event).payload.toEntries? with
      | ok entries => exact absurd ⟨own, present, entries, holds⟩ notClosable
      | error reason =>
        have refused : Act.ofExcept ((contentIn system event).payload.toEntries?.mapError .pairs)
            system = Act.throw (.pairs reason) system := by
          rw [holds]
          rfl
        exact ⟨.pairs reason, by simp only [content, Act.read, refused]; rfl⟩

theorem logLine_eq_ok {system after : System D} {event : Ref .event} {line : String}
    (ran : logLine event system = (.ok line, after)) :
    system = after ∧ (contentIn system event).logLine = .ok line := by
  obtain ⟨content, middle, parts, computed⟩ := Act.bind_eq_ok ran
  obtain ⟨_, last, required, read⟩ := Act.bind_eq_ok parts
  obtain ⟨_, next, payload, required⟩ := Act.bind_eq_ok required
  obtain ⟨_, other, name, rest⟩ := Act.bind_eq_ok required
  obtain ⟨rfl, -⟩ := requirePart_eq_ok payload
  obtain ⟨rfl, -⟩ := requirePart_eq_ok name
  cases rest
  cases read
  cases shown : (contentIn system event).logLine with
  | error fault =>
    rw [shown] at computed
    cases computed
  | ok known =>
    rw [shown] at computed
    cases computed
    exact ⟨rfl, rfl⟩

theorem sealEvent_eq_ok {system after : System D} {event : Ref .event}
    (unsealed : (system.events.get event).isSealed = false)
    (ran : sealEvent event system = (.ok (), after)) :
    ∃ entries, (contentIn system event).payload.toEntries? = .ok entries ∧
      after = changed system event (closedWith entries) := by
  by_cases closable : Closable system event
  · obtain ⟨entries, holds⟩ := closable.entries
    rw [sealEvent_of_open closable.closes closable.present unsealed holds] at ran
    cases ran
    exact ⟨entries, holds, rfl⟩
  · obtain ⟨fault, refused⟩ := sealEvent_of_not_closable unsealed closable
    rw [refused] at ran
    cases ran

/-! ## Contents after a step -/

theorem contentIn_of_get_eq {system after : System D} {ref : Ref .event}
    (events : after.events.get ref = system.events.get ref)
    (mappings : after.mappings = system.mappings) :
    contentIn after ref = contentIn system ref := by
  simp only [contentIn, data, events, mappings]

theorem contentIn_stamped (system : System D) (clock : Ref .clock) (event : Ref .event)
    (moment : Moment) :
    contentIn (changed (ticked system clock) event (stampedAt moment)) event =
      { contentIn system event with persistedAt := .moment moment } := by
  have shown : (changed (ticked system clock) event (stampedAt moment)).events.get event =
      stampedAt moment (system.events.get event) := by
    rw [get_changed, if_pos rfl]
    rfl
  simp only [contentIn, shown]
  rfl

/-! ## Closed events -/

/-- The event can only be read: it is as closing leaves an event with some entries. -/
def Closed (system : System D) (event : Ref .event) : Prop :=
  ∃ entries, system.events.get event = closedWith entries (system.events.get event)

theorem closed_of_get {system : System D} {event : Ref .event} {entries : Entries}
    {known : LiveEvent} (shown : system.events.get event = closedWith entries known) :
    Closed system event := by
  refine ⟨entries, ?_⟩
  rw [shown]
  rfl

theorem Closed.isSealed {system : System D} {event : Ref .event} (closed : Closed system event) :
    (system.events.get event).isSealed = true := by
  obtain ⟨entries, shown⟩ := closed
  rw [shown, isSealed_closedWith]

/-- What a closed event shows is its own, whatever becomes of mappings. -/
theorem Closed.contentIn_eq {system after : System D} {event : Ref .event}
    (closed : Closed system event) (same : after.events.get event = system.events.get event) :
    contentIn after event = contentIn system event := by
  obtain ⟨entries, shown⟩ := closed
  have payload : (system.events.get event).payload = .own (.frozen entries) := by
    rw [shown]
    rfl
  simp only [contentIn, data, same, payload]

theorem not_closed_nextRef (system : System D) : ¬ Closed system system.events.nextRef := by
  intro closed
  have isSealed := closed.isSealed
  rw [Table.get_nextRef] at isSealed
  cases isSealed

/-- Every event that is closed stays as it is. -/
def KeepsClosed (before after : System D) : Prop :=
  ∀ event, Closed before event → after.events.get event = before.events.get event

theorem KeepsClosed.closed {before after : System D} (keeps : KeepsClosed before after)
    {event : Ref .event} (closed : Closed before event) : Closed after event := by
  obtain ⟨entries, shown⟩ := closed
  exact closed_of_get ((keeps event ⟨entries, shown⟩).trans shown)

theorem KeepsClosed.contentIn_eq {before after : System D} (keeps : KeepsClosed before after)
    {event : Ref .event} (closed : Closed before event) :
    contentIn after event = contentIn before event :=
  closed.contentIn_eq (keeps event closed)

theorem keepsClosed_of_events {before after : System D} (events : after.events = before.events) :
    KeepsClosed before after := by
  intro event _
  rw [events]

theorem keepsClosed_changed {system : System D} {event : Ref .event}
    (unsealed : (system.events.get event).isSealed = false) (edit : LiveEvent → LiveEvent) :
    KeepsClosed system (changed system event edit) := by
  intro other closed
  rw [get_changed, if_neg]
  rintro rfl
  rw [closed.isSealed] at unsealed
  cases unsealed

instance : Act.Frame (KeepsClosed (D := D)) where
  refl _ _ _ := rfl
  trans first second event closed :=
    (second event (first.closed closed)).trans (first event closed)

/-! ## New events -/

def sealedAs (content : Event) (entries : Entries) : LiveEvent :=
  closedWith entries
    { name := content.name, streamId := content.streamId, id := content.id
      occurredOn := content.occurredOn, persistedAt := content.persistedAt
      payload := .own .null }

theorem contentIn_sealedAs {system : System D} {event : Ref .event} {content : Event}
    {entries : Entries} (new : system.events.get event = sealedAs content entries) :
    contentIn system event = { content with payload := .frozen entries } := by
  simp only [contentIn, new]
  rfl

theorem create_run (content : Event) {entries : Entries}
    (holds : content.payload = .mapping entries) (system : System D) :
    create content system = (.ok system.events.nextRef, { system with
      events := system.events.push
        { name := content.name, streamId := content.streamId, id := content.id
          occurredOn := content.occurredOn, persistedAt := content.persistedAt
          payload := .live system.mappings.nextRef }
      mappings := system.mappings.push entries }) := by
  have payload : newPayload content.payload system =
      (.ok (.live system.mappings.nextRef),
        { system with mappings := system.mappings.push entries }) := by
    rw [holds]
    rfl
  exact Act.bind_of_ok payload

theorem create_sealEvent {content : Event} {entries : Entries}
    (holds : content.payload = .mapping entries) (system : System D) :
    ∃ made after, create content system = (.ok system.events.nextRef, made) ∧
      sealEvent system.events.nextRef made = (.ok (), after) ∧
      (∀ other, after.events.get other =
        if system.events.nextRef = other then sealedAs content entries
        else system.events.get other) ∧
      after.events.nextRef.index = system.events.nextRef.index + 1 ∧
      after = { system with events := after.events, mappings := after.mappings } := by
  let made : System D :=
    { system with
      events := system.events.push
        { name := content.name, streamId := content.streamId, id := content.id
          occurredOn := content.occurredOn, persistedAt := content.persistedAt
          payload := .live system.mappings.nextRef }
      mappings := system.mappings.push entries }
  have created : create content system = (.ok system.events.nextRef, made) :=
    create_run content holds system
  have shown : made.events.get system.events.nextRef = { sealedAs content entries with
      payload := .live system.mappings.nextRef, sealing := .bool false } := by
    rw [Table.get_push, if_pos rfl]
    rfl
  have read : (contentIn made system.events.nextRef).payload.toEntries? = .ok entries := by
    have mapping : made.mappings.get system.mappings.nextRef = entries := by
      rw [Table.get_push, if_pos rfl]
    simp only [contentIn, shown, data, mapping]
    rfl
  have closed : sealEvent system.events.nextRef made =
      (.ok (), changed made system.events.nextRef (closedWith entries)) := by
    refine sealEvent_of_open ?_ ?_ ?_ read <;> rw [shown] <;> rfl
  refine ⟨made, _, created, closed, fun other => ?_, ?_, rfl⟩
  · rw [get_changed, shown, Table.get_push]
    split <;> rfl
  · have size : made.events.nextRef.index = system.events.nextRef.index + 1 :=
      Table.nextRef_push _ _
    rw [changed, Table.nextRef_set _ (by omega), size]

/-! ## What every step leaves alone -/

section Keeping

variable {relation : System D → System D → Prop} [Act.Frame relation] {clock : Ref .clock}

theorem keeps_requireBuilder (making : ∀ fault, Act.Keeps relation (Act.newFault fault))
    (event : Ref .event) (builder : Builder) :
    Act.Keeps relation (requireBuilder event builder) := by
  refine (Act.keeps_read _).bind fun known => ?_
  split
  · exact Act.keeps_pure ()
  · exact Act.keeps_throw making _

theorem keeps_requirePart (making : ∀ fault, Act.Keeps relation (Act.newFault fault))
    (event : Ref .event) (part : String) : Act.Keeps relation (requirePart event part) := by
  refine (Act.keeps_read _).bind fun known => ?_
  split
  · exact Act.keeps_throw making _
  · exact Act.keeps_pure ()

theorem keeps_refuse (making : ∀ fault, Act.Keeps relation (Act.newFault fault))
    (event : Ref .event) (part : String) : Act.Keeps relation (refuse event part) :=
  (keeps_requirePart making event "name").bind fun _ =>
    (Act.keeps_read _).bind fun _ => Act.keeps_throw making _

/-- Reading a clock moves it on by one reading and may make a fault. -/
theorem keeps_now_of_ticked
    (making : ∀ fault, Act.Keeps relation (Act.newFault fault))
    (ticking : ∀ system, relation system (ticked system clock)) :
    Act.Keeps relation (now clock) := by
  intro system
  cases reading : nextReading system clock with
  | ok moment =>
    rw [now_of_ok reading]
    exact ticking system
  | error raise =>
    rw [now_of_error reading]
    exact Act.Frame.trans (ticking system) (Act.keeps_raise making raise _)

/-- Stamping an event reads a clock, and assigns the reading where the event is open. -/
private theorem keeps_stamp {event : Ref .event} {builder : Builder}
    {assignment : Moment → Assignment}
    (making : ∀ fault, Act.Keeps relation (Act.newFault fault))
    (ticking : ∀ system, relation system (ticked system clock))
    (assigning : ∀ moment system, (system.events.get event).isSealed = false →
      relation system ((assignment moment).apply event system).2) :
    Act.Keeps relation (do
      requireBuilder event builder
      assign event (assignment (← now clock))) := by
  refine (keeps_requireBuilder making event builder).bind fun _ => ?_
  refine (keeps_now_of_ticked making ticking).bind fun moment system => ?_
  cases known : (system.events.get event).isSealed with
  | true =>
    rw [assign_of_isSealed known]
    exact keeps_refuse making event _ system
  | false =>
    rw [assign_of_open known]
    exact assigning moment system known

theorem keeps_occur {event : Ref .event}
    (making : ∀ fault, Act.Keeps relation (Act.newFault fault))
    (ticking : ∀ system, relation system (ticked system clock))
    (restamping : ∀ moment system, (system.events.get event).isSealed = false →
      relation system (changed system event (occurredAt moment))) :
    Act.Keeps relation (occur event clock) :=
  keeps_stamp making ticking restamping

theorem keeps_persist {event : Ref .event}
    (making : ∀ fault, Act.Keeps relation (Act.newFault fault))
    (ticking : ∀ system, relation system (ticked system clock))
    (restamping : ∀ moment system, (system.events.get event).isSealed = false →
      relation system (changed system event (stampedAt moment))) :
    Act.Keeps relation (persist event clock) :=
  keeps_stamp making ticking restamping

theorem keeps_logLine (making : ∀ fault, Act.Keeps relation (Act.newFault fault))
    (event : Ref .event) : Act.Keeps relation (logLine event) := by
  refine Act.Keeps.bind ?_ fun content => Act.keeps_ofExcept making _
  refine Act.Keeps.bind ?_ fun _ => Act.keeps_read _
  exact Act.keeps_forEach fun part _ => keeps_requirePart making event part

/-- Sealing changes one event, into one that is closed, and may make a fault. -/
theorem keeps_sealEvent (making : ∀ fault, Act.Keeps relation (Act.newFault fault))
    {event : Ref .event}
    (closing : ∀ entries, Act.Keeps relation (change event (closedWith entries))) :
    Act.Keeps relation (sealEvent event) := by
  refine (keeps_requireBuilder making event .close).bind fun _ => ?_
  refine (Act.keeps_read _).bind fun known => ?_
  split
  · exact Act.keeps_pure ()
  · refine (keeps_requirePart making event "payload").bind fun _ => ?_
    refine (Act.keeps_read _).bind fun content => ?_
    exact (Act.keeps_ofExcept making _).bind fun entries => closing entries

end Keeping

end EventSourcing.LiveEvent
