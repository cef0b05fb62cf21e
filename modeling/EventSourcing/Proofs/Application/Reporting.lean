import EventSourcing.Proofs.Application.Handling

/-!
# Projecting and reporting

What an application does once the events of a command are stored. `Projecting` holds of the
systems that are reached then: each event is handed to every projection, and a projection
that raises holds nothing up. The domain's code is apart from an application when it leaves
the application's store alone, keeps sealed events as they are, and its projections come to
an end.
-/

set_option autoImplicit false

namespace EventSourcing.Application

variable {D : Domain}

/-! ## Handing events to projections -/

/-- A property of systems while an event is handed to projections, for those that it has still
to be handed to: records do not matter to it, and a projection that is called ends with a value
or a fault and leaves the property for the rest. -/
structure Passes (handlers : Handlers D) (ref : Ref .application) (event : Ref .event)
    (holds : List (String × D.Projection) → System D → Prop) : Prop where
  noted : ∀ {rest system} log, holds rest system → holds rest { system with log }
  called : ∀ {name projection rest system}, holds ((name, projection) :: rest) system →
    let given := { system with calls := system.calls.push (.project ref name event) }
    (∀ halt, (handlers.onProject projection event given).1 = .error halt →
      ∃ fault, halt = .raised fault) ∧
    holds rest (handlers.onProject projection event given).2

section Passing

variable {handlers : Handlers D} {ref : Ref .application} {event : Ref .event}
  {system : System D}

/-- A projection is handed an event and the application goes on, whether it raises or not. -/
theorem projectTo_run {holds : List (String × D.Projection) → System D → Prop}
    (passes : Passes handlers ref event holds) (logger : String) {name : String}
    {projection : D.Projection} {rest : List (String × D.Projection)}
    (known : holds ((name, projection) :: rest) system) :
    ∃ failure after, projectTo handlers ref logger event name projection system =
      (.ok failure, after) ∧ holds rest after := by
  let shown := (LiveEvent.contentIn system event).name.plain
  let noted : System D :=
    { system with log := system.log.push ⟨logger, .info, s!"PROJECT {shown} TO {name}"⟩ }
  let given : System D := { noted with calls := system.calls.push (.project ref name event) }
  obtain ⟨ends, called⟩ := passes.called (passes.noted noted.log known)
  change ∀ halt, (handlers.onProject projection event given).1 = .error halt → _ at ends
  change holds rest (handlers.onProject projection event given).2 at called
  rcases ran : handlers.onProject projection event given with ⟨halt | result, after⟩
  · rw [ran] at called ends
    obtain ⟨fault, rfl⟩ := ends halt rfl
    have attempted := Act.attempt_of_raised ran
    let content := LiveEvent.contentIn after event
    let cause := after.faults.get fault
    let failure : ProjectionFailure :=
      { projection := name, eventName := content.name, error := cause.message
        errorType := cause.className, exception := some fault }
    let log := after.log.push ⟨logger, .error,
      s!"Projection failed: {name} for {content.name.plain} " ++
        s!"(stream: {content.streamId.plain}): {cause.message}"⟩
    refine ⟨some failure, { after with log }, ?_, passes.noted log called⟩
    show (Act.attempt (handlers.onProject projection event) >>= _) given = _
    rw [Act.bind_of_ok attempted]
    rfl
  · rw [ran] at called
    have attempted := Act.attempt_of_ok ran
    refine ⟨none, after, ?_, called⟩
    show (Act.attempt (handlers.onProject projection event) >>= _) given = _
    rw [Act.bind_of_ok attempted]
    rfl

theorem projectEach_run {holds : List (String × D.Projection) → System D → Prop}
    (passes : Passes handlers ref event holds) (logger : String)
    {entries : List (String × D.Projection)} (known : holds entries system) :
    ∃ failures after, projectEach handlers ref logger event entries system =
      (.ok failures, after) ∧ holds [] after := by
  induction entries generalizing system with
  | nil => exact ⟨[], system, rfl, known⟩
  | cons entry entries ih =>
    obtain ⟨name, projection⟩ := entry
    obtain ⟨failure, middle, ran, kept⟩ := projectTo_run passes logger known
    obtain ⟨failures, after, rest, keptRest⟩ := ih kept
    refine ⟨failure.toList ++ failures, after, ?_, keptRest⟩
    rw [projectEach, Act.bind_of_ok ran, Act.bind_of_ok rest]
    rfl

theorem projectAll_run {holds : List (Ref .event) → System D → Prop}
    (each : ∀ {event events system}, holds (event :: events) system →
      ∃ failures after, project handlers ref event system = (.ok failures, after) ∧
        holds events after)
    {events : List (Ref .event)} (known : holds events system) :
    ∃ failures after, projectAll handlers ref events system = (.ok failures, after) ∧
      holds [] after := by
  induction events generalizing system with
  | nil => exact ⟨[], system, rfl, known⟩
  | cons event events ih =>
    obtain ⟨failures, middle, ran, kept⟩ := each known
    obtain ⟨further, after, rest, keptRest⟩ := ih kept
    refine ⟨failures ++ further, after, ?_, keptRest⟩
    rw [projectAll, Act.bind_of_ok ran, Act.bind_of_ok rest]
    rfl

/-- Whatever projections raise, the events are reported. -/
theorem report_of_projected {middle : System D} {events : List (Ref .event)}
    {failures : List ProjectionFailure} (command : Ref .command) (receiver : Ref .aggregate)
    (ran : projectAll handlers ref events system = (.ok failures, middle)) :
    ∃ log, report handlers ref command receiver events system =
      (.ok (.success (middle.aggregates.get receiver).id events failures),
        { middle with log }) := by
  rw [report, Act.bind_of_ok (Act.read_run _ _), Act.bind_of_ok ran]
  cases none : failures.isEmpty with
  | true => exact ⟨middle.log, rfl⟩
  | false => exact ⟨_, rfl⟩

end Passing

section Keeping

variable {handlers : Handlers D} {relation : System D → System D → Prop} [Act.Frame relation]

/-- What records do not matter to, and projections keep, is kept when an event is handed to
projections. -/
theorem keeps_project (notes : ∀ (system : System D) log calls,
      relation system { system with log, calls })
    (projects : ∀ projection event, Act.Keeps relation (handlers.onProject projection event))
    (ref : Ref .application) (event : Ref .event) :
    Act.Keeps relation (project handlers ref event) := by
  have records (logger : String) (level : Level) (message : String) :
      Act.Keeps relation (Act.logRecord logger level message) := fun system => notes system _ _
  have each (logger : String) (name : String) (projection : D.Projection) :
      Act.Keeps relation (projectTo handlers ref logger event name projection) := by
    refine (Act.keeps_read _).bind fun content => (records _ _ _).bind fun _ =>
      Act.Keeps.bind (fun system => notes system _ _) fun _ =>
      (projects projection event).attempt.bind fun outcome => ?_
    split
    · exact Act.keeps_pure none
    · exact (Act.keeps_read _).bind fun content => (Act.keeps_read _).bind fun cause =>
        (records _ _ _).bind fun _ => Act.keeps_pure _
  refine (Act.keeps_read _).bind fun application => ?_
  induction application.projections with
  | nil => exact Act.keeps_pure []
  | cons entry rest ih =>
      exact (each _ entry.1 entry.2).bind fun failure => ih.bind fun failures => Act.keeps_pure _

theorem keeps_report (notes : ∀ (system : System D) log calls,
      relation system { system with log, calls })
    (projects : ∀ projection event, Act.Keeps relation (handlers.onProject projection event))
    (ref : Ref .application) (command : Ref .command) (receiver : Ref .aggregate)
    (events : List (Ref .event)) :
    Act.Keeps relation (report handlers ref command receiver events) := by
  have all : Act.Keeps relation (projectAll handlers ref events) := by
    induction events with
    | nil => exact Act.keeps_pure []
    | cons event events ih =>
        exact (keeps_project notes projects ref event).bind fun failures =>
          ih.bind fun rest => Act.keeps_pure _
  refine (Act.keeps_read _).bind fun application => all.bind fun failures => ?_
  have last : Act.Keeps relation (do
      let aggregate ← Act.read (D := D) (·.aggregates.get receiver)
      return CommandResult.success aggregate.id events failures) :=
    (Act.keeps_read _).bind fun aggregate => Act.keeps_pure _
  cases failures.isEmpty with
  | true => exact last
  | false =>
      exact (Act.keeps_read _).bind fun shown =>
        Act.Keeps.bind (fun system => notes system _ _) fun _ => last

end Keeping

/-! ## Code apart from the store -/

/-- The application keeps its store, its clock and its projections, and the store what it
holds. -/
structure Spares (ref : Ref .application) (before after : System D) : Prop where
  store : (after.applications.get ref).store = (before.applications.get ref).store
  clock : (after.applications.get ref).clock = (before.applications.get ref).clock
  projections : ∀ entry ∈ (before.applications.get ref).projections,
    entry ∈ (after.applications.get ref).projections
  made : (before.applications.get ref).store.index < before.stores.nextRef.index →
    (before.applications.get ref).store.index < after.stores.nextRef.index
  held : (before.applications.get ref).store.index < before.stores.nextRef.index →
    after.stores.get (before.applications.get ref).store =
      before.stores.get (before.applications.get ref).store

def StaySealed (before after : System D) : Prop :=
  ∀ event, (before.events.get event).isSealed = true →
    (after.events.get event).isSealed = true ∧
      (after.events.get event).occurredOn = (before.events.get event).occurredOn

instance (ref : Ref .application) : Act.Frame (Spares (D := D) ref) where
  refl system := ⟨rfl, rfl, fun _ member => member, id, fun _ => rfl⟩
  trans {before middle after} first second := by
    refine ⟨second.store.trans first.store, second.clock.trans first.clock,
      fun entry member => second.projections entry (first.projections entry member), ?_, ?_⟩
    · intro there
      have made := second.made
      rw [first.store] at made
      exact made (first.made there)
    · intro there
      have held := second.held
      rw [first.store] at held
      exact (held (first.made there)).trans (first.held there)

instance : Act.Frame (StaySealed (D := D)) where
  refl system event isSealed := ⟨isSealed, rfl⟩
  trans first second event isSealed := by
    obtain ⟨still, same⟩ := first event isSealed
    obtain ⟨isSealed, again⟩ := second event still
    exact ⟨isSealed, again.trans same⟩

/-- What leaves the applications as they were, and the stores that had been made. -/
theorem Spares.of_applications {ref : Ref .application} {before after : System D}
    (applications : after.applications = before.applications)
    (made : before.stores.nextRef.index ≤ after.stores.nextRef.index)
    (kept : ∀ store, store.index < before.stores.nextRef.index →
      after.stores.get store = before.stores.get store) : Spares ref before after := by
  refine ⟨?_, ?_, ?_, fun there => Nat.lt_of_lt_of_le there made, kept _⟩
  · rw [applications]
  · rw [applications]
  · rw [applications]
    exact fun _ member => member

/-- What leaves the applications and the stores as they were. -/
theorem Spares.of_stores {ref : Ref .application} {before after : System D}
    (applications : after.applications = before.applications)
    (stores : after.stores = before.stores) : Spares ref before after := by
  have made : before.stores.nextRef = after.stores.nextRef := by rw [stores]
  refine .of_applications applications ?_ fun store _ => ?_
  · exact Nat.le_of_eq (congrArg Ref.index made)
  · rw [stores]

theorem Aside.spares {ref : Ref .application} {before after : System D}
    (aside : Aside ref before after) : Spares ref before after :=
  .of_applications aside.applications aside.made aside.kept

inductive Projects (handlers : Handlers D) (ref : Ref .application) :
    System D → System D → Prop
  | onProject {system : System D} {name : String} {projection : D.Projection}
      (event : Ref .event) : (name, projection) ∈ (system.applications.get ref).projections →
      Projects handlers ref system (handlers.onProject projection event system).2

/-- The systems that are reached once events are stored, until the result is reported. -/
inductive Projecting (handlers : Handlers D) (ref : Ref .application) (command : Ref .command)
    (start : System D) : System D → Prop
  | stored {before after : System D} {events : List (Ref .event)} :
      Handling handlers ref command start before →
      Store.append handlers (start.applications.get ref).store events before = (.ok (), after) →
      Projecting handlers ref command start after
  | noted {system : System D} (log : Array LogRecord) (calls : Array Call) :
      Projecting handlers ref command start system →
      Projecting handlers ref command start { system with log, calls }
  | projects {before after : System D} :
      Projecting handlers ref command start before → Projects handlers ref before after →
      Projecting handlers ref command start after

/-- On the systems that a command leads to, the domain's code neither touches the store of
the application nor gets around a seal, and projections return or raise. -/
structure Apart (handlers : Handlers D) (ref : Ref .application) (command : Ref .command)
    (start : System D) : Prop where
  handling : Leaves handlers ref command start (Spares ref)
  projecting : ∀ before after, Projecting handlers ref command start before →
    Projects handlers ref before after → Spares ref before after
  staySealed : ∀ before after, Projecting handlers ref command start before →
    Projects handlers ref before after → StaySealed before after
  ends : ∀ system name projection event halt, Projecting handlers ref command start system →
    (name, projection) ∈ (system.applications.get ref).projections →
    (handlers.onProject projection event system).1 = .error halt →
    ∃ fault, halt = .raised fault

structure Proceeds (handlers : Handlers D) (ref : Ref .application) (command : Ref .command)
    (start before after : System D) : Prop where
  reached : Projecting handlers ref command start after
  spares : Spares ref before after
  staySealed : StaySealed before after

section Projections

variable {handlers : Handlers D} {ref : Ref .application} {command : Ref .command}
  {start before system : System D}

theorem Proceeds.noted (proceeds : Proceeds handlers ref command start before system)
    (log : Array LogRecord) (calls : Array Call) :
    Proceeds handlers ref command start before { system with log, calls } :=
  ⟨proceeds.reached.noted log calls,
    ⟨proceeds.spares.store, proceeds.spares.clock, proceeds.spares.projections,
      proceeds.spares.made, proceeds.spares.held⟩, proceeds.staySealed⟩

private theorem Proceeds.passes (apart : Apart handlers ref command start)
    (event : Ref .event) : Passes handlers ref event fun rest system =>
      (∀ entry ∈ rest, entry ∈ (before.applications.get ref).projections) ∧
        Proceeds handlers ref command start before system := by
  refine ⟨fun log known => ⟨known.1, known.2.noted log _⟩, ?_⟩
  intro name projection rest system ⟨registered, proceeds⟩ given
  have noted : Proceeds handlers ref command start before given := proceeds.noted _ _
  have member := noted.spares.projections _ (registered (name, projection) List.mem_cons_self)
  have call : Projects handlers ref given (handlers.onProject projection event given).2 :=
    .onProject event member
  refine ⟨fun halt => apart.ends given name projection event halt noted.reached member,
    fun entry inside => registered entry (.tail _ inside), noted.reached.projects call, ?_, ?_⟩
  · exact Act.Frame.trans noted.spares (apart.projecting _ _ noted.reached call)
  · exact Act.Frame.trans noted.staySealed (apart.staySealed _ _ noted.reached call)

private theorem Proceeds.project (apart : Apart handlers ref command start) (event : Ref .event)
    (proceeds : Proceeds handlers ref command start before system) :
    ∃ failures after, project handlers ref event system = (.ok failures, after) ∧
      Proceeds handlers ref command start before after := by
  have here : Proceeds handlers ref command start system system :=
    ⟨proceeds.reached, Act.Frame.refl system, Act.Frame.refl system⟩
  obtain ⟨failures, after, ran, -, kept⟩ := projectEach_run (Proceeds.passes apart event)
    (system.applications.get ref).logger ⟨fun _ member => member, here⟩
  exact ⟨failures, after, ran, kept.reached, Act.Frame.trans proceeds.spares kept.spares,
    Act.Frame.trans proceeds.staySealed kept.staySealed⟩

theorem report_run (apart : Apart handlers ref command start)
    (reached : Projecting handlers ref command start system) (receiver : Ref .aggregate)
    (events : List (Ref .event)) :
    ∃ failures after, report handlers ref command receiver events system =
        (.ok (.success (after.aggregates.get receiver).id events failures), after) ∧
      Spares ref system after ∧ StaySealed system after := by
  let holds (_ : List (Ref .event)) (middle : System D) : Prop :=
    Proceeds handlers ref command start system middle
  have here : holds events system := ⟨reached, Act.Frame.refl system, Act.Frame.refl system⟩
  obtain ⟨failures, middle, ran, kept⟩ :=
    projectAll_run (fun proceeds => Proceeds.project apart _ proceeds) here
  obtain ⟨log, reported⟩ := report_of_projected command receiver ran
  have noted := Proceeds.noted kept log middle.calls
  exact ⟨failures, _, reported, noted.spares, noted.staySealed⟩

end Projections

end EventSourcing.Application
