import EventSourcing.Proofs.Event.OpenEvent

/-!
# The seal is one way

From the first seal on an event refuses every builder and every assignment in its own way, accepts
to be sealed again, and keeps its contents as they were then (`Refused`), also when the mapping
that it was made from is given other entries.
-/

set_option autoImplicit false

namespace EventSourcing.LiveEvent

variable {D : Domain}

/-! ## A sealed event -/

/-- What a sealed event calls the part that it refuses to set. -/
def Operation.part? : Operation → Option String
  | .forStream _ => some "stream_id"
  | .add name _ => some ("payload[" ++ name.literal ++ "]")
  | .occur _ => some "occurred_on"
  | .persist _ => some "persisted_at"
  | .assign assignment => some assignment.part
  | .put .. | .close | .refill .. => none

/-- The operation is refused by a sealed event, unless it is to seal it again or done elsewhere.
The event stays sealed and keeps the contents that it was sealed with. -/
structure Operation.Refused (operation : Operation) (event : Ref .event)
    (sealed system : System D) : Prop where
  refuses : ∀ part, operation.part? = some part →
    ∃ fault, (operation.run event system).1 = .error (.raised fault) ∧
      (operation.run event system).2.faults.get fault =
        .eventSealed (contentIn sealed event).name (.text part)
  item : ∀ path key value, operation = .put path key value →
    ∃ fault, (operation.run event system).1 = .error (.raised fault) ∧
      ((operation.run event system).2.faults.get fault).className = "TypeError"
  returns : operation.part? = none → operation.key? = none →
    (operation.run event system).1 = .ok ()
  isSealed : ((operation.run event system).2.events.get event).isSealed = true
  content : contentIn (operation.run event system).2 event = contentIn sealed event

/-- The event was sealed while it had its parts and its own builders. -/
structure Shut (system : System D) (event : Ref .event) : Prop where
  own : (system.events.get event).replaced = []
  complete : (system.events.get event).lacking = []
  closed : Closed system event

section Sealed

variable {system sealed : System D} {event : Ref .event}

theorem Building.shut (building : Building system event) :
    Shut (Operation.close.run event system).2 event := by
  obtain ⟨mapping, live⟩ := building.mapping
  have shown : (changed system event (closedWith (system.mappings.get mapping))).events.get event =
      closedWith (system.mappings.get mapping) (system.events.get event) := by
    rw [get_changed, if_pos rfl]
  rw [Operation.run, building.close_run live]
  refine ⟨?_, ?_, closed_of_get shown⟩ <;> rw [shown]
  · exact building.own
  · exact building.complete

theorem Shut.requireBuilder_run (shut : Shut system event) (builder : Builder) :
    requireBuilder event builder system = (.ok (), system) := by
  refine requireBuilder_of_none ?_
  rw [shut.own]
  rfl

theorem Shut.assign_run (shut : Shut system event) (assignment : Assignment) :
    assign event assignment system =
      Act.throw (.eventSealed (contentIn system event).name (.text assignment.part)) system := by
  rw [assign_of_isSealed shut.closed.isSealed, refuse_of_complete shut.complete]
  rfl

theorem Shut.ticked (shut : Shut system event) (clock : Ref .clock) :
    Shut (ticked system clock) event :=
  ⟨shut.own, shut.complete, shut.closed⟩

/-- A builder that assigns a reading of a clock has read it when it is refused. -/
private theorem Shut.stamp_run (shut : Shut system event) {clock : Ref .clock}
    (never : NeverRaises system clock) (builder : Builder) (assignment : Moment → Assignment)
    {part : String} (names : ∀ moment, (assignment moment).part = part) :
    (do requireBuilder event builder
        assign event (assignment (← now clock)) : Act D Unit) system =
      Act.throw (.eventSealed (contentIn system event).name (.text part))
        (LiveEvent.ticked system clock) := by
  obtain ⟨moment, reading⟩ := never _
  rw [Act.bind_of_ok (shut.requireBuilder_run builder), Act.bind_of_ok (now_of_ok reading),
    (shut.ticked clock).assign_run, names]
  rfl

/-- What names a part is refused with its name. -/
private theorem Shut.part_run (shut : Shut system event) {operation : Operation}
    (mutator : operation.IsMutator system) {part : String} (names : operation.part? = some part) :
    ∃ middle, operation.run event system =
      Act.throw (.eventSealed (contentIn system event).name (.text part)) middle := by
  cases operation with
  | forStream streamId =>
    cases names
    refine ⟨system, ?_⟩
    rw [Operation.run, forStream, Act.bind_of_ok (shut.requireBuilder_run .forStream)]
    exact shut.assign_run _
  | add name value =>
    cases names
    refine ⟨system, ?_⟩
    rw [Operation.run, add, Act.bind_of_ok (shut.requireBuilder_run .add),
      Act.bind_of_ok (Act.read_run _ _), shut.closed.isSealed]
    exact refuse_of_complete shut.complete _
  | occur clock =>
    cases names
    exact ⟨_, shut.stamp_run mutator .occur (fun moment => .occurredOn (.moment moment))
      fun _ => rfl⟩
  | persist clock =>
    cases names
    exact ⟨_, shut.stamp_run mutator .persist (fun moment => .persistedAt (.moment moment))
      fun _ => rfl⟩
  | assign assignment =>
    cases names
    exact ⟨system, shut.assign_run assignment⟩
  | put | close | refill => cases names

/-- The payload of a sealed event takes no assignment to a key of it. -/
theorem Shut.put_run (shut : Shut system event) (key value : Datum) :
    put event [] key value system =
      Act.throw (.access (.readOnly "mappingproxy")) system := by
  obtain ⟨entries, shown⟩ := shut.closed
  have own : (system.events.get event).payload = .own (.frozen entries) := by
    rw [shown]
    rfl
  have payload : (contentIn system event).payload = .frozen entries := by
    simp only [contentIn, data, own]
  refine put_of_error ?_ ?_
  · rw [shut.complete]
    rfl
  · rw [payload]
    rfl

/-- A sealed event refuses every operation on it but to be sealed again, and stays as it is. -/
theorem Shut.refused (shut : Shut system event)
    (kept : contentIn system event = contentIn sealed event) {operation : Operation}
    (mutator : operation.IsMutator system) :
    operation.Refused event sealed system ∧ Shut (operation.run event system).2 event := by
  have outside : ¬ operation.Reaches (contentIn system event).payload := by
    cases operation with
    | put path key value =>
      obtain rfl : path = [] := mutator
      exact not_false
    | _ => exact not_false
  have spares : Spares [event] system (operation.run event system).2 :=
    operation.spares fun _ _ => outside
  have stays := spares.closed event (List.mem_singleton.mpr rfl) shut.closed
  have after : Shut (operation.run event system).2 event := by
    obtain ⟨entries, shown⟩ := shut.closed
    refine ⟨?_, ?_, closed_of_get (stays.trans shown)⟩ <;> rw [stays]
    · exact shut.own
    · exact shut.complete
  refine ⟨⟨fun part names => ?_, fun path key value puts => ?_, fun noPart noKey => ?_,
    after.closed.isSealed, (shut.closed.contentIn_eq stays).trans kept⟩, after⟩
  · obtain ⟨middle, ran⟩ := shut.part_run mutator names
    rw [ran, kept]
    exact ⟨_, rfl, Table.get_push_nextRef _ _⟩
  · subst puts
    obtain rfl : path = [] := mutator
    rw [Operation.run, shut.put_run]
    exact ⟨_, rfl, congrArg Fault.className (Table.get_push_nextRef _ _)⟩
  · cases operation with
    | close =>
      rw [Operation.run, sealEvent, Act.bind_of_ok (shut.requireBuilder_run .close)]
      simp only [bind, Act.bind, Act.read, shut.closed.isSealed]
      rfl
    | refill mapping entries => rfl
    | put => cases noKey
    | _ => cases noPart

end Sealed

/-! ## Clocks go on as they are -/

/-- What clocks show, reading by reading. -/
def readings (system : System D) (clock : Ref .clock) : Nat → Except Raise Moment :=
  (system.clocks.get clock).readings

section Reading

theorem readings_ticked (system : System D) (clock : Ref .clock) :
    readings (ticked system clock) = readings system := by
  funext other
  rw [readings, get_ticked]
  split
  · rename_i same
    rw [← same]
    rfl
  · rfl

private theorem keepsReadings_newFault (fault : Fault) :
    Act.Keeps (Act.Same (readings (D := D))) (Act.newFault fault) :=
  fun _ => rfl

private theorem keepsReadings_now (clock : Ref .clock) :
    Act.Keeps (Act.Same (readings (D := D))) (now clock) := by
  intro system
  -- What is put back is the clock of one reading later, so the read and the update are one step.
  have reads : Act.Same readings system (ticked system clock) := readings_ticked system clock
  cases reading : nextReading system clock with
  | ok moment =>
    rw [now_of_ok reading]
    exact reads
  | error raise =>
    rw [now_of_error reading]
    exact Act.Frame.trans reads (Act.keeps_raise keepsReadings_newFault raise _)

private theorem keepsReadings_newPayload (value : Datum) :
    Act.Keeps (Act.Same (readings (D := D))) (newPayload value) := by
  intro system
  cases value <;> rfl

private theorem keepsReadings_assign (event : Ref .event) (assignment : Assignment) :
    Act.Keeps (Act.Same (readings (D := D))) (assign event assignment) := by
  refine (Act.keeps_read _).bind fun known => ?_
  split
  · exact keeps_refuse keepsReadings_newFault event _
  · cases assignment with
    | payload value | parts value =>
      exact (keepsReadings_newPayload _).bind fun _ _ => rfl
    | refused part fault => exact Act.keeps_throw keepsReadings_newFault fault
    | other part => exact Act.keeps_pure ()
    | _ => exact fun _ => rfl

private theorem keepsReadings_put (event : Ref .event) (path : List Datum) (key value : Datum) :
    Act.Keeps (Act.Same (readings (D := D))) (put event path key value) := by
  refine (keeps_requirePart keepsReadings_newFault event "payload").bind fun _ =>
    (Act.keeps_read _).bind fun _ => (Act.keeps_ofExcept keepsReadings_newFault _).bind fun _ =>
    (Act.keeps_read _).bind fun _ => ?_
  split <;> exact fun _ => rfl

/-- Whatever is done to an event, clocks show later what they would have shown. -/
theorem Operation.keeps_readings (operation : Operation) (event : Ref .event) :
    Act.Keeps (Act.Same (readings (D := D))) (operation.run event) := by
  have requires (builder : Builder) :=
    keeps_requireBuilder (D := D) keepsReadings_newFault event builder
  cases operation with
  | forStream streamId => exact (requires _).bind fun _ => keepsReadings_assign event _
  | add name value =>
    refine (requires _).bind fun _ => (Act.keeps_read _).bind fun _ => ?_
    split
    · exact keeps_refuse keepsReadings_newFault event _
    · exact keepsReadings_put event [] name value
  | occur clock | persist clock =>
    exact (requires _).bind fun _ => (keepsReadings_now clock).bind fun _ =>
      keepsReadings_assign event _
  | close => exact keeps_sealEvent keepsReadings_newFault fun _ _ => rfl
  | assign assignment => exact keepsReadings_assign event assignment
  | put path key value => exact keepsReadings_put event path key value
  | refill mapping entries => exact fun _ => rfl

theorem Operation.IsMutator.of_readings {before after : System D} {operation : Operation}
    (mutator : operation.IsMutator before) (kept : Act.Same readings before after) :
    operation.IsMutator after := by
  have stays (clock : Ref .clock) (never : NeverRaises before clock) :
      NeverRaises after clock := by
    intro reading
    have same : (after.clocks.get clock).readings = (before.clocks.get clock).readings :=
      congrFun kept clock
    rw [same]
    exact never reading
  cases operation with
  | occur clock | persist clock => exact stays clock mutator
  | _ => exact mutator

end Reading

/-! ## Any number of operations -/

/-- The system after operations on one event, each of which ends as it may. -/
def operateOn (event : Ref .event) (system : System D) (operations : List Operation) : System D :=
  operate system (operations.map (event, ·))

section Running

variable {system : System D} {event : Ref .event} {operations first rest : List Operation}

theorem operateOn_append (event : Ref .event) (system : System D) (first rest : List Operation) :
    operateOn event system (first ++ rest) =
      operateOn event (operateOn event system first) rest := by
  rw [operateOn, List.map_append, operate, List.foldl_append]
  rfl

theorem keeps_readings_operateOn (event : Ref .event) (operations : List Operation)
    (system : System D) : Act.Same readings system (operateOn event system operations) := by
  induction operations generalizing system with
  | nil => rfl
  | cons operation operations ih =>
    exact Act.Frame.trans (operation.keeps_readings event system) (ih _)

/-- Without being sealed, an event stays open. -/
theorem Building.operateOn (building : Building system event)
    (mutators : ∀ operation ∈ operations, operation.IsMutator system)
    (unsealed : Operation.close ∉ operations) :
    Building (operateOn event system operations) event := by
  induction operations generalizing system with
  | nil => exact building
  | cons operation operations ih =>
    obtain ⟨notFirst, notLater⟩ := not_or.mp (mt List.mem_cons.mpr unsealed)
    have still := (building.performed (mutators operation List.mem_cons_self)).2
      fun isClose => notFirst isClose.symm
    exact ih still (fun later member => (mutators later (.tail _ member)).of_readings
      (operation.keeps_readings event system)) notLater

/-- A sealed event stays as it is. -/
theorem Shut.operateOn {sealed : System D} (shut : Shut system event)
    (kept : contentIn system event = contentIn sealed event)
    (mutators : ∀ operation ∈ operations, operation.IsMutator system) :
    Shut (operateOn event system operations) event ∧
      contentIn (LiveEvent.operateOn event system operations) event = contentIn sealed event := by
  induction operations generalizing system with
  | nil => exact ⟨shut, kept⟩
  | cons operation operations ih =>
    obtain ⟨refused, still⟩ := shut.refused kept (mutators operation List.mem_cons_self)
    exact ih still refused.content fun later member => (mutators later (.tail _ member)).of_readings
      (operation.keeps_readings event system)

/-- From where it is first sealed, an event stays sealed and keeps its contents. -/
theorem Building.shut_of_close (building : Building system event)
    (mutators : ∀ operation ∈ first ++ .close :: rest, operation.IsMutator system)
    (unsealed : Operation.close ∉ first) :
    Shut (LiveEvent.operateOn event system (first ++ .close :: rest)) event ∧
      contentIn (LiveEvent.operateOn event system (first ++ .close :: rest)) event =
        contentIn (LiveEvent.operateOn event system (first ++ [.close])) event := by
  have opened := building.operateOn
    (fun next member => mutators next (List.mem_append_left _ member)) unsealed
  have shut : Shut (LiveEvent.operateOn event system (first ++ [.close])) event := by
    rw [operateOn_append]
    exact opened.shut
  have mutators (next : Operation) (member : next ∈ rest) :
      next.IsMutator (LiveEvent.operateOn event system (first ++ [.close])) :=
    (mutators next (List.mem_append_right _ (.tail _ member))).of_readings
      (keeps_readings_operateOn event _ system)
  -- What comes after the seal is a run of its own, from the system that sealing left.
  rw [← List.singleton_append, ← List.append_assoc, operateOn_append]
  exact shut.operateOn rfl mutators

/-- Every call before an event is first sealed does what it says. From then on every builder and
every assignment is refused, sealing goes on to be accepted, and the event keeps what it had. -/
theorem seal_guards_every_mutator (building : Building system event)
    (mutators : ∀ operation ∈ operations, operation.IsMutator system)
    {earlier later : List Operation} {operation : Operation}
    (split : operations = earlier ++ operation :: later) :
    (.close ∉ earlier → operation.Performed event (operateOn event system earlier)) ∧
      ∀ first rest, earlier = first ++ .close :: rest → .close ∉ first →
        operation.Refused event (operateOn event system (first ++ [.close]))
          (operateOn event system earlier) := by
  subst split
  have before (next : Operation) (member : next ∈ earlier) : next.IsMutator system :=
    mutators next (List.mem_append_left _ member)
  have mutator : operation.IsMutator (operateOn event system earlier) :=
    (mutators operation (List.mem_append_right _ List.mem_cons_self)).of_readings
      (keeps_readings_operateOn event earlier system)
  refine ⟨fun unsealed => ?_, fun first rest shown unsealed => ?_⟩
  · exact ((building.operateOn before unsealed).performed mutator).1
  · subst shown
    obtain ⟨shut, kept⟩ := building.shut_of_close before unsealed
    exact (shut.refused kept mutator).1

/-- What a new event holds: a payload without entries. -/
def newlyOpened : Event :=
  { name := .text "opened", streamId := .text "a", id := .text "", occurredOn := .null
    persistedAt := .null, payload := .mapping [] }

/-- A clock and the new event. -/
def withNewlyOpened : System Domain.bare :=
  (create newlyOpened { clocks := ⟨#[.showing default]⟩, domain := () }).2

theorem building_newlyOpened : Building withNewlyOpened ⟨0⟩ := by
  obtain ⟨made, created, building⟩ := Building.create newlyOpened rfl
    ({ clocks := ⟨#[.showing default]⟩, domain := () } : System Domain.bare)
  have same : withNewlyOpened = made := congrArg Prod.snd created
  rw [same]
  exact building

theorem seal_guards_every_mutator_newlyOpened :
    let earlier : List Operation :=
      [.add (.text "count") (.int 1), .occur ⟨0⟩, .close, .refill ⟨0⟩ []]
    let late : Operation := .add (.text "count") (.int 2)
    let before := operateOn ⟨0⟩ withNewlyOpened earlier
    Building withNewlyOpened ⟨0⟩ ∧
      (∀ operation ∈ earlier ++ [late], operation.IsMutator withNewlyOpened) ∧
      ((Operation.occur ⟨0⟩).run ⟨0⟩ (operateOn ⟨0⟩ withNewlyOpened (earlier.take 1))).1 = .ok () ∧
      (∃ fault, (late.run ⟨0⟩ before).1 = .error (.raised fault) ∧
        (late.run ⟨0⟩ before).2.faults.get fault =
          .eventSealed (.text "opened") (.text "payload['count']")) ∧
      (contentIn (late.run ⟨0⟩ before).2 ⟨0⟩).payload = .frozen [(.text "count", .int 1)] := by
  intro earlier late before
  have mutators : ∀ operation ∈ earlier ++ [late], operation.IsMutator withNewlyOpened := by
    have never : NeverRaises withNewlyOpened ⟨0⟩ := fun _ => ⟨default, rfl⟩
    simpa [earlier, late, Operation.IsMutator] using never
  have occurs : earlier ++ [late] =
      earlier.take 1 ++ .occur ⟨0⟩ :: (earlier.drop 2 ++ [late]) :=
    rfl
  obtain ⟨performed, -⟩ := seal_guards_every_mutator building_newlyOpened mutators occurs
  have ends : earlier ++ [late] = earlier ++ late :: [] := rfl
  obtain ⟨-, refused⟩ := seal_guards_every_mutator building_newlyOpened mutators ends
  have early := performed (by simp [earlier])
  have refused := refused (earlier.take 2) (earlier.drop 3) rfl (by simp [earlier])
  obtain ⟨fault, raised, shown⟩ := refused.refuses _ rfl
  refine ⟨building_newlyOpened, mutators, (early.returns nofun).1, ⟨fault, raised, shown⟩, ?_⟩
  rw [refused.content]
  rfl

/-- A list is no key, and is refused also by an open event. -/
theorem unhashable_key_refused :
    let listed : Operation := .put [] (.list []) (.int 1)
    Building withNewlyOpened ⟨0⟩ ∧ listed.IsMutator withNewlyOpened ∧
      ∃ fault, (listed.run ⟨0⟩ withNewlyOpened).1 = .error (.raised fault) ∧
        ((listed.run ⟨0⟩ withNewlyOpened).2.faults.get fault).className = "TypeError" := by
  exact ⟨building_newlyOpened, rfl, ⟨0⟩, rfl, rfl⟩

end Running

end EventSourcing.LiveEvent
