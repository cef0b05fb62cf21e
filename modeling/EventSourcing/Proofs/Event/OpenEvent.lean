import EventSourcing.Proofs.Store.StoredHistory

/-!
# Filling an open event

An event is filled by its builders, by assignments to its parts and by assignments to the entries
of its payload. Until it is sealed each of these does what it says and changes one part or one
entry (`Performed`); other entries of the mapping that the event was made from are seen in it. A
value that can change is no key and is refused.
-/

set_option autoImplicit false

namespace EventSourcing

variable {D : Domain}

namespace Entries

/-- A key is given a value: in the place that the key has, or else at the end. No other entry
changes. -/
inductive Rebinds (key value : Datum) : Entries → Entries → Prop where
  | inPlace (before after : Entries) {known old : Datum} :
      (∀ entry ∈ before, key.same entry.1 = false) → key.same known = true →
      Rebinds key value (before ++ (known, old) :: after) (before ++ (known, value) :: after)
  | atEnd (entries : Entries) :
      (∀ entry ∈ entries, key.same entry.1 = false) →
      Rebinds key value entries (entries ++ [(key, value)])

theorem rebinds_put (entries : Entries) (key value : Datum) :
    Rebinds key value entries (entries.put key value) := by
  induction entries with
  | nil => exact .atEnd [] nofun
  | cons entry rest ih =>
    obtain ⟨known, old⟩ := entry
    cases same : key.same known with
    | true =>
      have put : Entries.put ((known, old) :: rest) key value = (known, value) :: rest := by
        rw [Entries.put, if_pos same]
      rw [put]
      exact .inPlace [] rest nofun same
    | false =>
      have put : Entries.put ((known, old) :: rest) key value =
          (known, old) :: Entries.put rest key value := by
        rw [Entries.put, if_neg (by simp [same])]
      rw [put]
      -- Only how the rest was changed matters now, and not that `put` did it.
      generalize Entries.put rest key value = changed at ih ⊢
      cases ih with
      | inPlace before after apart there =>
        exact .inPlace ((known, old) :: before) after (List.forall_mem_cons.mpr ⟨same, apart⟩) there
      | atEnd _ nowhere => exact .atEnd _ (List.forall_mem_cons.mpr ⟨same, nowhere⟩)

end Entries

namespace LiveEvent

/-! ## Operations on an event -/

/-- An assignment to one of the six parts that are open to all; a payload is a mapping. -/
def Assignment.IsPublic : Assignment → Prop
  | .name _ | .streamId _ | .id _ | .occurredOn _ | .persistedAt _ | .payload (.mapping _) => True
  | _ => False

/-- The contents with the part that a public assignment names. -/
def Assignment.assigned (content : Event) : Assignment → Event
  | .name value => { content with name := value }
  | .streamId value => { content with streamId := value }
  | .id value => { content with id := value }
  | .occurredOn value => { content with occurredOn := value }
  | .persistedAt value => { content with persistedAt := value }
  | .payload value => { content with payload := value }
  | _ => content

/-- Every reading of the clock is a moment. -/
def NeverRaises (system : System D) (clock : Ref .clock) : Prop :=
  ∀ reading, ∃ moment, (system.clocks.get clock).readings reading = .ok moment

namespace Operation

/-- The calls that fill an event, with clocks that can be read, the public assignments, those to
the entries of the payload, sealing, and what becomes of mappings elsewhere. -/
def IsMutator (system : System D) : Operation → Prop
  | .occur clock | .persist clock => NeverRaises system clock
  | .assign assignment => assignment.IsPublic
  | .put path _ _ => path = []
  | .forStream _ | .add _ _ | .close | .refill _ _ => True

/-- The key of the payload that is given a value. -/
def key? : Operation → Option Datum
  | .add name _ => some name
  | .put _ key _ => some key
  | _ => none

/-- What an operation does to the contents of an open event. A mapping that the event has is its
payload, and other entries of the mapping are seen there. -/
inductive Effect (system : System D) (event : Ref .event) : Operation → Event → Event → Prop where
  | forStream {content : Event} {streamId : Datum} :
      Effect system event (.forStream streamId) content { content with streamId := streamId }
  | add {content : Event} {name value : Datum} {entries changed : Entries} :
      content.payload = .mapping entries → entries.Rebinds name value changed →
      Effect system event (.add name value) content { content with payload := .mapping changed }
  | occur {content : Event} {clock : Ref .clock} {moment : Moment} :
      nextReading system clock = .ok moment →
      Effect system event (.occur clock) content { content with occurredOn := .moment moment }
  | persist {content : Event} {clock : Ref .clock} {moment : Moment} :
      nextReading system clock = .ok moment →
      Effect system event (.persist clock) content { content with persistedAt := .moment moment }
  | assign {content : Event} {assignment : Assignment} :
      Effect system event (.assign assignment) content (assignment.assigned content)
  | put {content : Event} {key value : Datum} {entries changed : Entries} :
      content.payload = .mapping entries → entries.Rebinds key value changed →
      Effect system event (.put [] key value) content { content with payload := .mapping changed }
  | close {content : Event} {entries : Entries} :
      content.payload = .mapping entries →
      Effect system event .close content { content with payload := .frozen entries }
  | refillOwn {content : Event} {mapping : Ref .mapping} {entries : Entries} :
      (system.events.get event).payload = .live mapping →
      Effect system event (.refill mapping entries) content
        { content with payload := .mapping entries }
  | refillOther {content : Event} {mapping : Ref .mapping} {entries : Entries} :
      (system.events.get event).payload ≠ .live mapping →
      Effect system event (.refill mapping entries) content content

end Operation

/-- The event can be filled: it has its parts and its own builders, it is not sealed, and its
payload is a mapping. -/
structure Building (system : System D) (event : Ref .event) : Prop where
  own : (system.events.get event).replaced = []
  complete : (system.events.get event).lacking = []
  unsealed : (system.events.get event).isSealed = false
  mapping : ∃ mapping, (system.events.get event).payload = .live mapping

/-- The operation does to an open event what it says, and nothing to other events. A key that is
none because it can change is refused. -/
structure Operation.Performed (operation : Operation) (event : Ref .event) (system : System D) :
    Prop where
  returns : (∀ key, operation.key? = some key → key.unhashableKind? = none) →
    (operation.run event system).1 = .ok () ∧
      Operation.Effect system event operation (contentIn system event)
        (contentIn (operation.run event system).2 event)
  refuses : ∀ key kind, operation.key? = some key → key.unhashableKind? = some kind →
    (∃ fault, (operation.run event system).1 = .error (.raised fault) ∧
      ((operation.run event system).2.faults.get fault).className = "TypeError") ∧
      contentIn (operation.run event system).2 event = contentIn system event
  seals : ((operation.run event system).2.events.get event).isSealed = true ↔ operation = .close
  others : ∀ other, other ≠ event →
    (operation.run event system).2.events.get other = system.events.get other

/-! ## An open event -/

section Open

variable {system middle : System D} {event : Ref .event}

theorem Building.lookup (building : Building system event) (builder : Builder) :
    (system.events.get event).replaced.lookup builder = none := by
  rw [building.own]
  rfl

theorem Building.intact (building : Building system event) :
    (system.events.get event).Intact :=
  ⟨building.lookup .persist, building.lookup .close, building.complete⟩

theorem Building.payload (building : Building system event) :
    ∃ mapping, (system.events.get event).payload = .live mapping ∧
      (contentIn system event).payload = .mapping (system.mappings.get mapping) := by
  obtain ⟨mapping, live⟩ := building.mapping
  exact ⟨mapping, live, by simp only [contentIn, data, live]⟩

theorem contentIn_changed (system : System D) (event : Ref .event)
    (edit : LiveEvent → LiveEvent) :
    contentIn (changed system event edit) event =
      let known := edit (system.events.get event)
      { name := known.name, streamId := known.streamId, id := known.id
        occurredOn := known.occurredOn, persistedAt := known.persistedAt
        payload := known.data system } := by
  simp only [contentIn, get_changed, if_true]
  rfl

theorem Building.forStream_run (building : Building system event) (streamId : Datum) :
    forStream event streamId system =
      (.ok (), changed system event fun known => { known with streamId }) := by
  rw [forStream, Act.bind_of_ok (requireBuilder_of_none (building.lookup .forStream))]
  exact assign_of_open building.unsealed _

theorem Building.occur_run (building : Building system event) {clock : Ref .clock}
    {moment : Moment} (reading : nextReading system clock = .ok moment) :
    occur event clock system =
      (.ok (), changed (ticked system clock) event (occurredAt moment)) := by
  rw [occur, Act.bind_of_ok (requireBuilder_of_none (building.lookup .occur)),
    Act.bind_of_ok (now_of_ok reading)]
  have unsealed : ((ticked system clock).events.get event).isSealed = false := building.unsealed
  exact assign_of_open unsealed _

theorem put_of_error {key value : Datum} {fault : AccessFault}
    (present : (system.events.get event).lacking.contains "payload" = false)
    (refused : (contentIn system event).payload.assign key value = .error fault) :
    put event [] key value system = Act.throw (.access fault) system := by
  have thrown : Act.ofExcept (((contentIn system event).payload.assignAt key value []).mapError
      .access) system = Act.throw (.access fault) system := by
    rw [Datum.assignAt, refused]
    rfl
  rw [put, Act.bind_of_ok (requirePart_of_present present), content,
    Act.bind_of_ok (Act.read_run _ _)]
  exact Act.bind_of_error thrown

theorem Building.put_run (building : Building system event) {mapping : Ref .mapping}
    (live : (system.events.get event).payload = .live mapping) {key : Datum}
    (isKey : key.unhashableKind? = none) (value : Datum) :
    put event [] key value system = (.ok (), { system with
      mappings := system.mappings.set mapping ((system.mappings.get mapping).put key value) }) := by
  have payload : (contentIn system event).payload = .mapping (system.mappings.get mapping) := by
    simp only [contentIn, data, live]
  have assigned : Act.ofExcept (((contentIn system event).payload.assignAt key value []).mapError
      Fault.access) system =
      (.ok (.mapping ((system.mappings.get mapping).put key value)), system) := by
    rw [payload, Datum.assignAt, Datum.assign, Datum.asKey, isKey]
    rfl
  rw [put, Act.bind_of_ok (requirePart_of_complete building.complete "payload"), content,
    Act.bind_of_ok (Act.read_run _ _), Act.bind_of_ok assigned, Act.bind_of_ok (Act.read_run _ _),
    live]
  rfl

theorem Building.put_of_unhashable (building : Building system event) {key : Datum} {kind : String}
    (noKey : key.unhashableKind? = some kind) (value : Datum) :
    put event [] key value system = Act.throw (.access (.unhashable kind)) system := by
  obtain ⟨mapping, -, payload⟩ := building.payload
  refine put_of_error (building.intact.present _) ?_
  rw [payload, Datum.assign, Datum.asKey, noKey]
  rfl

theorem Building.add_eq_put (building : Building system event) (name value : Datum) :
    add event name value system = put event [] name value system := by
  rw [add, Act.bind_of_ok (requireBuilder_of_none (building.lookup .add)),
    Act.bind_of_ok (Act.read_run _ _), building.unsealed]
  rfl

def paidBy (mapping : Ref .mapping) (known : LiveEvent) : LiveEvent :=
  { known with payload := .live mapping, lacking := known.lacking.erase "payload" }

/-- A payload is a new mapping with the entries of the one that is assigned. -/
theorem Building.repay_run (building : Building system event) (entries : Entries) :
    assign event (.payload (.mapping entries)) system =
      (.ok (), changed { system with mappings := system.mappings.push entries } event
        (paidBy system.mappings.nextRef)) :=
  assign_of_open building.unsealed _

theorem Building.close_run (building : Building system event) {mapping : Ref .mapping}
    (live : (system.events.get event).payload = .live mapping) :
    sealEvent event system =
      (.ok (), changed system event (closedWith (system.mappings.get mapping))) := by
  refine sealEvent_of_open (building.lookup .close) (building.intact.present _) building.unsealed ?_
  simp only [contentIn, data, live]
  rfl

/-! ## What filling leaves open -/

theorem Building.of_edit (building : Building system event) (edit : LiveEvent → LiveEvent)
    (events : middle.events = system.events)
    (own : (edit (system.events.get event)).replaced = (system.events.get event).replaced)
    (complete : (edit (system.events.get event)).lacking = [])
    (unsealed : (edit (system.events.get event)).sealing = (system.events.get event).sealing)
    (mapping : ∃ mapping, (edit (system.events.get event)).payload = .live mapping) :
    Building (changed middle event edit) event := by
  have shown : (changed middle event edit).events.get event =
      edit (system.events.get event) := by
    rw [get_changed, if_pos rfl, events]
  refine ⟨?_, ?_, ?_, ?_⟩
  · rw [shown, own, building.own]
  · rw [shown, complete]
  · rw [shown, isSealed, unsealed]
    exact building.unsealed
  · rw [shown]
    exact mapping

theorem Building.of_events {after : System D} (building : Building system event)
    (events : after.events = system.events) : Building after event := by
  obtain ⟨own, complete, unsealed, mapping⟩ := building
  rw [← events] at own complete unsealed mapping
  exact ⟨own, complete, unsealed, mapping⟩

/-- An operation that edits a part of the event, and not its payload's entries. -/
private theorem Building.performed_of_changed (building : Building system event)
    {operation : Operation} {edit : LiveEvent → LiveEvent}
    (ran : operation.run event system = (.ok (), changed middle event edit))
    (events : middle.events = system.events) (noKey : operation.key? = none)
    (noClose : operation ≠ .close)
    (unsealed : (edit (system.events.get event)).sealing = (system.events.get event).sealing)
    (effect : Operation.Effect system event operation (contentIn system event)
      (contentIn (changed middle event edit) event)) :
    operation.Performed event system := by
  refine ⟨fun _ => ?_, fun key kind known => ?_, ?_, fun other differs => ?_⟩
  · rw [ran]
    exact ⟨rfl, effect⟩
  · rw [noKey] at known
    cases known
  · have known := building.unsealed
    rw [isSealed, ← unsealed] at known
    rw [ran, get_changed, if_pos rfl, events, isSealed, known]
    simp [noClose]
  · rw [ran, get_changed, if_neg (Ne.symm differs), events]

/-- An assignment that edits the event in place. -/
private theorem Building.performed_edit (building : Building system event)
    {assignment : Assignment} (edit : LiveEvent → LiveEvent)
    (applies : (assignment.apply event : Act D Unit) = change event edit)
    (content : contentIn (changed system event edit) event =
      assignment.assigned (contentIn system event))
    (own : (edit (system.events.get event)).replaced = (system.events.get event).replaced)
    (complete : (edit (system.events.get event)).lacking = [])
    (unsealed : (edit (system.events.get event)).sealing = (system.events.get event).sealing)
    (payload : (edit (system.events.get event)).payload = (system.events.get event).payload) :
    (Operation.assign assignment).Performed event system ∧
      Building ((Operation.assign assignment).run event system).2 event := by
  have ran : (Operation.assign assignment).run event system =
      (.ok (), changed system event edit) := by
    rw [Operation.run, assign_of_open building.unsealed, applies]
    rfl
  refine ⟨building.performed_of_changed ran rfl rfl nofun unsealed (content ▸ .assign), ?_⟩
  rw [ran]
  exact building.of_edit edit rfl own complete unsealed (payload ▸ building.mapping)

private theorem Building.performed_assign (building : Building system event)
    {assignment : Assignment} (isPublic : assignment.IsPublic) :
    (Operation.assign assignment).Performed event system ∧
      Building ((Operation.assign assignment).run event system).2 event := by
  have complete (part : String) : (system.events.get event).lacking.erase part = [] := by
    rw [building.complete]
    rfl
  cases assignment with
  | name value =>
    exact building.performed_edit
      (fun known => { known with name := value, lacking := known.lacking.erase "name" })
      rfl (contentIn_changed _ _ _) rfl (complete "name") rfl rfl
  | streamId value =>
    exact building.performed_edit (fun known => { known with streamId := value })
      rfl (contentIn_changed _ _ _) rfl building.complete rfl rfl
  | id value =>
    exact building.performed_edit (fun known => { known with id := value })
      rfl (contentIn_changed _ _ _) rfl building.complete rfl rfl
  | occurredOn value =>
    exact building.performed_edit (fun known => { known with occurredOn := value })
      rfl (contentIn_changed _ _ _) rfl building.complete rfl rfl
  | persistedAt value =>
    exact building.performed_edit (fun known => { known with persistedAt := value })
      rfl (contentIn_changed _ _ _) rfl building.complete rfl rfl
  | payload value =>
    cases value with
    | mapping entries =>
      have ran : (Operation.assign (.payload (.mapping entries))).run event system = _ :=
        building.repay_run entries
      have content : contentIn ((Operation.assign (.payload (.mapping entries))).run event system).2
          event = { contentIn system event with payload := .mapping entries } := by
        rw [ran, contentIn_changed]
        simp only [data, paidBy, Table.get_push_nextRef]
        rfl
      have effect : Operation.Effect system event (.assign (.payload (.mapping entries)))
          (contentIn system event) { contentIn system event with payload := .mapping entries } :=
        .assign
      rw [ran] at content
      refine ⟨building.performed_of_changed ran rfl rfl (by simp) rfl (content ▸ effect), ?_⟩
      rw [ran]
      exact building.of_edit (paidBy system.mappings.nextRef) rfl rfl (complete "payload") rfl
        ⟨_, rfl⟩
    | _ => exact isPublic.elim
  | _ => exact isPublic.elim

theorem contentIn_set {mapping : Ref .mapping}
    (live : (system.events.get event).payload = .live mapping) (entries : Entries) :
    contentIn { system with mappings := system.mappings.set mapping entries } event =
      { contentIn system event with payload := .mapping entries } := by
  simp only [contentIn, data, live, Table.get_set, if_true]

/-- A key of the payload is given a value. What can change is refused as a key. -/
private theorem Building.performed_keyed (building : Building system event)
    (operation : Operation) {key value : Datum} (keyed : operation.key? = some key)
    (noClose : operation ≠ .close)
    (puts : operation.run event system = put event [] key value system)
    (effect : ∀ {entries changed : Entries}, (contentIn system event).payload = .mapping entries →
      entries.Rebinds key value changed → Operation.Effect system event operation
        (contentIn system event) { contentIn system event with payload := .mapping changed }) :
    operation.Performed event system ∧
      Building (operation.run event system).2 event := by
  obtain ⟨mapping, live, payload⟩ := building.payload
  have seals : (system.events.get event).isSealed = true ↔ operation = .close := by
    rw [building.unsealed]
    simp [noClose]
  cases noKey : key.unhashableKind? with
  | none =>
    rw [building.put_run live noKey value] at puts
    refine ⟨⟨fun _ => ?_, fun other kind known refused => ?_, ?_, fun other _ => ?_⟩, ?_⟩
    · rw [puts, contentIn_set live]
      exact ⟨rfl, effect payload (Entries.rebinds_put _ _ _)⟩
    · rw [keyed, Option.some.injEq] at known
      rw [← known, noKey] at refused
      cases refused
    · rw [puts]
      exact seals
    · rw [puts]
    · rw [puts]
      exact building.of_events rfl
  | some kind =>
    rw [building.put_of_unhashable noKey value] at puts
    refine ⟨⟨fun isKey => ?_, fun other kind known refused => ?_, ?_, fun other _ => ?_⟩, ?_⟩
    · rw [isKey key keyed] at noKey
      cases noKey
    · rw [puts]
      refine ⟨⟨_, rfl, ?_⟩, rfl⟩
      exact congrArg Fault.className (Table.get_push_nextRef _ _)
    · rw [puts]
      exact seals
    · rw [puts]
      rfl
    · rw [puts]
      exact building.of_events rfl

/-- Until it is sealed, every operation does to the event what it says, and leaves it open. -/
theorem Building.performed (building : Building system event) {operation : Operation}
    (mutator : operation.IsMutator system) :
    operation.Performed event system ∧
      (operation ≠ .close → Building (operation.run event system).2 event) := by
  cases operation with
  | forStream streamId =>
    have ran := building.forStream_run streamId
    refine ⟨building.performed_of_changed ran rfl rfl nofun rfl ?_, fun _ => ?_⟩
    · rw [contentIn_changed]
      exact .forStream
    · rw [Operation.run, ran]
      exact building.of_edit (fun known => { known with streamId }) rfl rfl building.complete rfl
        building.mapping
  | add name value =>
    obtain ⟨performed, stays⟩ := building.performed_keyed (.add name value) rfl nofun
      (building.add_eq_put name value) .add
    exact ⟨performed, fun _ => stays⟩
  | occur clock =>
    obtain ⟨moment, reading⟩ := mutator _
    have ran := building.occur_run reading
    refine ⟨building.performed_of_changed ran rfl rfl nofun rfl ?_, fun _ => ?_⟩
    · rw [contentIn_changed]
      exact .occur reading
    · rw [Operation.run, ran]
      exact building.of_edit (occurredAt moment) rfl rfl building.complete rfl building.mapping
  | persist clock =>
    obtain ⟨moment, reading⟩ := mutator _
    have ran := persist_of_ok building.intact building.unsealed reading
    refine ⟨building.performed_of_changed ran rfl rfl nofun rfl ?_, fun _ => ?_⟩
    · rw [contentIn_changed]
      exact .persist reading
    · rw [Operation.run, ran]
      exact building.of_edit (stampedAt moment) rfl rfl building.complete rfl building.mapping
  | close =>
    obtain ⟨mapping, live, payload⟩ := building.payload
    have ran := building.close_run live
    refine ⟨⟨fun _ => ?_, nofun, ?_, fun other differs => ?_⟩, fun noClose => absurd rfl noClose⟩
    · rw [Operation.run, ran, contentIn_changed]
      exact ⟨rfl, .close payload⟩
    · rw [Operation.run, ran, get_changed, if_pos rfl, isSealed_closedWith]
      simp
    · rw [Operation.run, ran, get_changed, if_neg (Ne.symm differs)]
  | assign assignment =>
    obtain ⟨performed, stays⟩ := building.performed_assign mutator
    exact ⟨performed, fun _ => stays⟩
  | put path key value =>
    obtain rfl : path = [] := mutator
    obtain ⟨performed, stays⟩ := building.performed_keyed (.put [] key value) rfl nofun
      rfl .put
    exact ⟨performed, fun _ => stays⟩
  | refill mapping entries =>
    have ran : (Operation.refill mapping entries).run event system = (.ok (), { system with
        mappings := system.mappings.set mapping entries }) := rfl
    refine ⟨⟨fun _ => ⟨rfl, ?_⟩, nofun, ?_, fun _ _ => rfl⟩, fun _ => ?_⟩
    · rw [ran]
      obtain ⟨own, live⟩ := building.mapping
      by_cases same : own = mapping
      · subst same
        rw [contentIn_set live]
        exact .refillOwn live
      · have content : contentIn { system with mappings := system.mappings.set mapping entries }
            event = contentIn system event := by
          simp only [contentIn, data, live, Table.get_set, if_neg (Ne.symm same)]
        rw [content]
        exact .refillOther fun other => same (Payload.live.inj (live.symm.trans other))
    · rw [ran, building.unsealed]
      simp
    · rw [ran]
      exact building.of_events rfl

theorem Building.create (content : Event) {entries : Entries}
    (payload : content.payload = .mapping entries) (system : System D) :
    ∃ made, LiveEvent.create content system = (.ok system.events.nextRef, made) ∧
      Building made system.events.nextRef := by
  refine ⟨_, create_run content payload system, ?_⟩
  refine ⟨?_, ?_, ?_, ⟨system.mappings.nextRef, ?_⟩⟩ <;> rw [Table.get_push_nextRef]
  rfl

end Open

end LiveEvent

end EventSourcing
