import EventSourcing.Proofs.Application.HandedHistory
import EventSourcing.Proofs.Application.Outcome
import EventSourcing.Proofs.Application.OwnHistory

/-!
# Commands that are sent again

A command keeps the receiver that was found for it, and every time it is sent the receiver is
handed its whole history. `Rounds` holds of runs in which commands are sent, some of them more
than once, with the events that each of these rounds handed to the receiver. A receiver that
handles a command has been handed what the earlier rounds of the same command handed to it, and
then the stream of its id. Hence it has each stored event once if those rounds handed nothing to
it, and else not.
-/

set_option autoImplicit false

namespace EventSourcing.Application

open LiveEvent (Closed KeepsClosed contentIn)

variable {D : Domain}

/-! ## Code that leaves histories alone -/

/-- Aggregates keep what they were handed, and commands their receivers. -/
structure KeepsHistories (before after : System D) : Prop where
  seen : ∀ aggregate,
    (after.aggregates.get aggregate).seen = (before.aggregates.get aggregate).seen
  receiver : ∀ command,
    (after.commands.get command).receiver = (before.commands.get command).receiver

instance : Act.Frame (KeepsHistories (D := D)) where
  refl _ := ⟨fun _ => rfl, fun _ => rfl⟩
  trans first second :=
    ⟨fun aggregate => (second.seen aggregate).trans (first.seen aggregate),
      fun command => (second.receiver command).trans (first.receiver command)⟩

theorem KeepsHistories.of_tables {before after : System D}
    (aggregates : after.aggregates = before.aggregates)
    (commands : after.commands = before.commands) : KeepsHistories before after :=
  ⟨fun _ => by rw [aggregates], fun _ => by rw [commands]⟩

theorem Undisturbed.of_tables {ref : Ref .application} {before after : System D}
    (applications : after.applications = before.applications)
    (stores : after.stores = before.stores)
    (events : after.events = before.events) : Undisturbed ref before after :=
  ⟨.of_stores applications stores, LiveEvent.keepsClosed_of_events events⟩

/-- The application and its log are left alone, and so is what aggregates and commands know of
each other. -/
abbrev Retains (ref : Ref .application) : System D → System D → Prop :=
  Act.Both (Undisturbed ref) KeepsHistories

/-- Code that publishes new events or raises, while a command is sent: it retains what there is,
a factory makes a new aggregate every time, and no event is published twice. -/
structure PublishesNew (handlers : Handlers D) (ref : Ref .application) (command : Ref .command)
    (start : System D) : Prop where
  calls : ∀ before after, Calls handlers ref command start before after → Retains ref before after
  makes : ∀ {acknowledged factory receiver after},
    Command.acknowledge command (start.applications.get ref).clock start = (.ok (), acknowledged) →
    (acknowledged.commands.get command).receiver = none →
    (acknowledged.commands.get command).factory = some factory →
    handlers.construct factory command acknowledged = (.ok (some receiver), after) →
    (acknowledged.aggregates.get receiver).seen = [] ∧
      ∀ other, (acknowledged.commands.get other).receiver ≠ some receiver
  distinct : ∀ {receiver found ended published},
    Finds handlers ref command start receiver found →
    Executes handlers ref command receiver found ended published → published.Nodup
  observes : ∀ {receiver found ended published stored},
    Finds handlers ref command start receiver found →
    Executes handlers ref command receiver found ended published →
    commit handlers (found.applications.get ref) published ended = (.ok (), stored) →
    Observes handlers ref stored (Retains ref)

/-! ## Rounds -/

/-- The events that the receiver of a command is handed when the command is sent; there are none
if no receiver is found. -/
inductive Handed (handlers : Handlers D) (ref : Ref .application) (command : Ref .command)
    (start : System D) : List (Ref .event) → Prop
  | unfound : (∀ receiver found, ¬ Finds handlers ref command start receiver found) →
      Handed handlers ref command start []
  | found {receiver : Ref .aggregate} {found : System D} {pairs : List (System D × Ref .event)} :
      Finds handlers ref command start receiver found →
      Rehydrates handlers ref receiver found pairs →
      Handed handlers ref command start (pairs.map Prod.snd)

/-- A run of commands that are sent one after another, with the events that each time were handed
to the receiver. However a round ends, its command may be sent again. In between anything may
happen that leaves the application and the histories alone. -/
inductive Rounds (handlers : Handlers D) (ref : Ref .application) (start : System D) :
    List (Ref .command × List (Ref .event)) → System D → Prop
  | start : Rounds handlers ref start [] start
  | between {rounds : List (Ref .command × List (Ref .event))} {before after : System D} :
      Rounds handlers ref start rounds before → Retains ref before after →
      Rounds handlers ref start rounds after
  | sent {rounds : List (Ref .command × List (Ref .event))} {before : System D}
      {command : Ref .command} {events : List (Ref .event)} :
      Rounds handlers ref start rounds before → PublishesNew handlers ref command before →
      Handed handlers ref command before events →
      Rounds handlers ref start (rounds ++ [(command, events)])
        (send handlers ref command before).2

/-- What the rounds of a command handed to its receiver. -/
def handedTo (command : Ref .command) (rounds : List (Ref .command × List (Ref .event))) :
    List (Ref .event) :=
  (rounds.filter (·.1 = command)).flatMap (·.2)

section Histories

variable {handlers : Handlers D} {ref : Ref .application} {command other : Ref .command}
  {receiver : Ref .aggregate} {start found ended before after : System D}
  {rounds : List (Ref .command × List (Ref .event))} {events held published : List (Ref .event)}

theorem handedTo_own :
    handedTo command (rounds ++ [(command, events)]) = handedTo command rounds ++ events := by
  simp [handedTo]

theorem handedTo_other (different : other ≠ command) :
    handedTo command (rounds ++ [(other, events)]) = handedTo command rounds := by
  simp [handedTo, different]

/-- Every receiver was handed what the rounds of its command handed to it, and is the receiver of
no other command. -/
structure Remembers (rounds : List (Ref .command × List (Ref .event))) (system : System D) :
    Prop where
  seen : ∀ command receiver, (system.commands.get command).receiver = some receiver →
    (system.aggregates.get receiver).seen = handedTo command rounds
  unfound : ∀ command, (system.commands.get command).receiver = none → handedTo command rounds = []
  own : ∀ command other receiver, (system.commands.get command).receiver = some receiver →
    (system.commands.get other).receiver = some receiver → command = other

theorem Remembers.kept (remembers : Remembers rounds before)
    (keeps : KeepsHistories before after) : Remembers rounds after where
  seen command receiver known := by
    rw [keeps.receiver] at known
    rw [keeps.seen, remembers.seen command receiver known]
  unfound command none := by
    rw [keeps.receiver] at none
    exact remembers.unfound command none
  own command other receiver known again := by
    rw [keeps.receiver] at known again
    exact remembers.own command other receiver known again

/-- A round that handed nothing over is as good as none. -/
theorem Remembers.nothing (remembers : Remembers rounds after) (command : Ref .command) :
    Remembers (rounds ++ [(command, [])]) after := by
  have same (other : Ref .command) :
      handedTo other (rounds ++ [(command, [])]) = handedTo other rounds := by
    by_cases own : command = other
    · rw [own, handedTo_own, List.append_nil]
    · exact handedTo_other own
  exact ⟨fun other receiver known => (remembers.seen other receiver known).trans (same other).symm,
    fun other none => (same other).trans (remembers.unfound other none), remembers.own⟩

/-! ## Finding the receiver -/

/-- The receiver of a command is the one that was known, or a new one that was handed nothing. -/
structure FindsOwn (ref : Ref .application) (command : Ref .command) (receiver : Ref .aggregate)
    (start found : System D) : Prop where
  undisturbed : Undisturbed ref start found
  seen : ∀ aggregate,
    (found.aggregates.get aggregate).seen = (start.aggregates.get aggregate).seen
  others : ∀ other, other ≠ command →
    (found.commands.get other).receiver = (start.commands.get other).receiver
  known : (found.commands.get command).receiver = some receiver
  origin : (start.commands.get command).receiver = some receiver ∨
    (start.commands.get command).receiver = none ∧ (start.aggregates.get receiver).seen = [] ∧
      ∀ other, (start.commands.get other).receiver ≠ some receiver

theorem retains_acknowledge (command : Ref .command) (clock : Ref .clock) :
    Act.Keeps (Retains (D := D) ref) (Command.acknowledge command clock) := by
  refine Command.keeps_acknowledge_of_steps (fun fault system => ?_) (fun system => ?_)
    (fun parameter system => ?_) fun edit system => ?_
  · exact ⟨.of_tables rfl rfl rfl, .of_tables rfl rfl⟩
  · exact ⟨.of_tables rfl rfl rfl, .of_tables rfl rfl⟩
  · exact ⟨.of_tables rfl rfl rfl, .of_tables rfl rfl⟩
  · refine ⟨.of_tables rfl rfl rfl, fun _ => rfl, fun other => ?_⟩
    refine (congrArg Command.receiver (Table.get_set _ _ _ _)).trans ?_
    split
    · rename_i same
      rw [← same]
      rfl
    · rfl

/-- The table of commands once a command was given a receiver. -/
private theorem receiver_changed (command other : Ref .command)
    (receiver : Option (Ref .aggregate)) (system : System D) :
    ((Command.change command (fun known => { known with receiver }) system).2.commands.get
        other).receiver =
      if command = other then receiver else (system.commands.get other).receiver := by
  refine (congrArg Command.receiver (Table.get_set _ _ _ _)).trans ?_
  split <;> rfl

private theorem FindsOwn.made {acknowledged made : System D} {factory : D.Factory}
    (publishes : PublishesNew handlers ref command start)
    (acknowledges : Command.acknowledge command (start.applications.get ref).clock start =
      (.ok (), acknowledged))
    (retained : Retains ref start acknowledged) (called : Retains ref acknowledged made)
    (none : (acknowledged.commands.get command).receiver = none)
    (known : (acknowledged.commands.get command).factory = some factory)
    (makes : handlers.construct factory command acknowledged = (.ok (some receiver), made)) :
    FindsOwn ref command receiver start
      (Command.change command (fun known => { known with receiver := some receiver }) made).2 := by
  have kept : Retains ref start made := Act.Frame.trans retained called
  obtain ⟨fresh, own⟩ := publishes.makes acknowledges none known makes
  refine ⟨Act.Frame.trans kept.1 (.of_tables rfl rfl rfl), kept.2.seen, ?_, ?_, .inr ⟨?_, ?_, ?_⟩⟩
  · intro other different
    rw [receiver_changed, if_neg (Ne.symm different), kept.2.receiver]
  · rw [receiver_changed, if_pos rfl]
  · rw [← none, retained.2.receiver]
  · rw [← retained.2.seen, fresh]
  · intro other
    rw [← retained.2.receiver]
    exact own other

/-- Asking for the receiver of a command finds one of its own, or none. -/
private theorem resolves_own {acknowledged : System D}
    (publishes : PublishesNew handlers ref command start)
    (acknowledges : Command.acknowledge command (start.applications.get ref).clock start =
      (.ok (), acknowledged)) (retained : Retains ref start acknowledged) :
    let outcome := Command.resolveReceiver handlers command acknowledged
    (∀ receiver, outcome.1 ≠ .ok (some receiver)) ∧ Retains ref start outcome.2 ∨
      ∃ receiver found, outcome = (.ok (some receiver), found) ∧
        FindsOwn ref command receiver start found := by
  intro outcome
  cases known : (acknowledged.commands.get command).receiver with
  | some receiver =>
    refine .inr ⟨receiver, acknowledged, Command.resolveReceiver_of_receiver known, retained.1,
      retained.2.seen, fun other _ => retained.2.receiver other, known, .inl ?_⟩
    rw [← known, retained.2.receiver]
  | none =>
    cases factory : (acknowledged.commands.get command).factory with
    | none =>
      have refused : outcome = _ := Command.resolveReceiver_of_no_factory known factory
      rw [Act.throw_run] at refused
      rw [refused]
      exact .inl ⟨nofun, Act.Frame.trans retained ⟨.of_tables rfl rfl rfl, .of_tables rfl rfl⟩⟩
    | some description =>
      have resolves : outcome = _ := Command.resolveReceiver_of_factory known factory
      have called := publishes.calls _ _ (.construct acknowledges known factory)
      rcases made : handlers.construct description command acknowledged with ⟨halt | answer, after⟩
      · rw [made] at called
        rw [resolves, Act.bind_of_error made]
        exact .inl ⟨nofun, Act.Frame.trans retained called⟩
      rw [made] at called
      rw [Act.bind_of_ok made] at resolves
      cases answer with
      | some receiver =>
        exact .inr ⟨receiver, _, resolves,
          .made publishes acknowledges retained called known factory made⟩
      | none =>
        have still : (after.commands.get command).receiver = none :=
          (called.2.receiver command).trans known
        have changed : Retains ref after
            (Command.change command (fun known => { known with receiver := none }) after).2 := by
          refine ⟨.of_tables rfl rfl rfl, fun _ => rfl, fun other => ?_⟩
          rw [receiver_changed]
          split
          · rename_i same
            rw [← same, still]
          · rfl
        rw [resolves]
        exact .inl ⟨nofun, Act.Frame.trans (Act.Frame.trans retained called) changed⟩

/-- A command that is sent comes to have a receiver of its own, or ends before it has one. -/
theorem send_finds_own (publishes : PublishesNew handlers ref command start) :
    (∀ receiver found, ¬ Finds handlers ref command start receiver found) ∧
        Retains ref start (send handlers ref command start).2 ∨
      ∃ receiver found, Finds handlers ref command start receiver found ∧
        FindsOwn ref command receiver start found := by
  have retained : Retains ref start _ :=
    retains_acknowledge command (start.applications.get ref).clock start
  rcases acknowledges : Command.acknowledge command (start.applications.get ref).clock start with
    ⟨halt | _, acknowledged⟩
  · rw [acknowledges] at retained
    refine .inl ⟨?_, ?_⟩
    · rintro receiver found ⟨_, again, -⟩
      cases acknowledges.symm.trans again
    · rw [send, Act.bind_of_ok (Act.read_run _ _), Act.bind_of_error acknowledges]
      exact retained
  rw [acknowledges] at retained
  rcases resolves_own publishes acknowledges retained with
    ⟨nobody, kept⟩ | ⟨receiver, found, resolves, finds⟩
  · refine .inl ⟨?_, ?_⟩
    · rintro receiver found ⟨_, again, resolves⟩
      cases acknowledges.symm.trans again
      exact nobody receiver (congrArg Prod.fst resolves)
    · rw [send, Act.bind_of_ok (Act.read_run _ _), Act.bind_of_ok acknowledges]
      rcases resolved : Command.resolveReceiver handlers command acknowledged with
        ⟨halt | answer, last⟩
      · rw [resolved] at kept
        rw [Act.bind_of_error resolved]
        exact kept
      rw [resolved] at kept nobody
      rw [Act.bind_of_ok resolved]
      cases answer with
      | none => exact Act.Frame.trans kept ⟨.of_tables rfl rfl rfl, .of_tables rfl rfl⟩
      | some receiver => exact absurd rfl (nobody receiver)
  · exact .inr ⟨receiver, found, ⟨acknowledged, acknowledges, resolves⟩, finds⟩

theorem Remembers.atFound (remembers : Remembers rounds start)
    (finds : FindsOwn ref command receiver start found) : Remembers rounds found := by
  have seenOwn : (start.aggregates.get receiver).seen = handedTo command rounds := by
    rcases finds.origin with known | ⟨none, fresh, -⟩
    · exact remembers.seen command receiver known
    · rw [fresh, remembers.unfound command none]
  -- A receiver that is new belongs to no other command, and one that was known did not before.
  have onlyOwn (other : Ref .command) (different : other ≠ command) :
      (start.commands.get other).receiver ≠ some receiver := by
    intro again
    rcases finds.origin with known | ⟨-, -, own⟩
    · exact different (remembers.own other command receiver again known)
    · exact own other again
  refine ⟨fun other aggregate known => ?_, fun other none => ?_,
    fun one other aggregate known again => ?_⟩
  · rw [finds.seen]
    by_cases same : other = command
    · subst same
      obtain rfl : receiver = aggregate := Option.some.inj (finds.known.symm.trans known)
      exact seenOwn
    · rw [finds.others other same] at known
      exact remembers.seen other aggregate known
  · by_cases same : other = command
    · subst same
      cases none.symm.trans finds.known
    · rw [finds.others other same] at none
      exact remembers.unfound other none
  · by_cases sameOne : one = command
    · subst sameOne
      obtain rfl : receiver = aggregate := Option.some.inj (finds.known.symm.trans known)
      by_contra different
      rw [finds.others other (Ne.symm different)] at again
      exact onlyOwn other (Ne.symm different) again
    · rw [finds.others one sameOne] at known
      by_cases sameOther : other = command
      · subst sameOther
        obtain rfl : receiver = aggregate := Option.some.inj (finds.known.symm.trans again)
        exact absurd known (onlyOwn one sameOne)
      · rw [finds.others other sameOther] at again
        exact remembers.own one other aggregate known again

/-! ## Giving the receiver its history -/

/-- While a receiver is given its history, nothing is handed to other aggregates. -/
structure Retells (ref : Ref .application) (receiver : Ref .aggregate) (before after : System D) :
    Prop where
  undisturbed : Undisturbed ref before after
  others : ∀ aggregate, receiver ≠ aggregate →
    (after.aggregates.get aggregate).seen = (before.aggregates.get aggregate).seen
  receiver : ∀ command,
    (after.commands.get command).receiver = (before.commands.get command).receiver

instance (ref : Ref .application) (receiver : Ref .aggregate) :
    Act.Frame (Retells (D := D) ref receiver) where
  refl system := ⟨Act.Frame.refl system, fun _ _ => rfl, fun _ => rfl⟩
  trans first second :=
    { undisturbed := Act.Frame.trans first.undisturbed second.undisturbed
      others := fun aggregate different =>
        (second.others aggregate different).trans (first.others aggregate different)
      receiver := fun command => (second.receiver command).trans (first.receiver command) }

theorem retells_rehydrate (publishes : PublishesNew handlers ref command start)
    (finds : Finds handlers ref command start receiver found)
    (memory : found.stores.get (found.applications.get ref).store = .memory held) :
    Retells ref receiver found
      (rehydrate handlers (found.applications.get ref).store receiver found).2 := by
  have served (before after : System D)
      (serves : Serves handlers ref command receiver found before after) :
      Retells ref receiver before after := by
    have retained := publishes.calls before after (.serves finds serves)
    exact ⟨retained.1, fun aggregate _ => retained.2.seen aggregate, retained.2.receiver⟩
  refine rehydrate_relates ?_ ?_ ?_ ?_ served
  · rw [memory]
    exact nofun
  · intro before event given offers
    rw [memory] at offers
    cases offers
    exact Act.Frame.refl before
  · intro event system
    exact ⟨.of_tables rfl rfl rfl, fun other different => seen_handed_of_ne different event system,
      fun _ => rfl⟩
  · exact fun fault system => ⟨.of_tables rfl rfl rfl, fun _ _ => rfl, fun _ => rfl⟩

/-- What a receiver was handed is remembered as a round of its command. -/
theorem Remembers.round {pairs : List (System D × Ref .event)}
    (remembers : Remembers rounds found)
    (known : (found.commands.get command).receiver = some receiver)
    (retells : Retells ref receiver found after)
    (seen : (after.aggregates.get receiver).seen =
      (found.aggregates.get receiver).seen ++ pairs.map Prod.snd) :
    Remembers (rounds ++ [(command, pairs.map Prod.snd)]) after where
  seen other aggregate found := by
    rw [retells.receiver] at found
    by_cases same : command = other
    · subst same
      obtain rfl : receiver = aggregate := Option.some.inj (known.symm.trans found)
      rw [handedTo_own, seen, remembers.seen command receiver known]
    · have different : receiver ≠ aggregate := by
        rintro rfl
        exact same (remembers.own command other receiver known found)
      rw [handedTo_other same, retells.others aggregate different,
        remembers.seen other aggregate found]
  unfound other none := by
    rw [retells.receiver] at none
    have same : command ≠ other := by
      rintro rfl
      cases none.symm.trans known
    rw [handedTo_other same]
    exact remembers.unfound other none
  own one other aggregate first second := by
    rw [retells.receiver] at first second
    exact remembers.own one other aggregate first second

/-! ## What the store holds -/

/-- The application's store holds events in memory, closed, and none of them twice. -/
structure Stocked (ref : Ref .application) (held : List (Ref .event)) (system : System D) :
    Prop where
  made : (system.applications.get ref).store.index < system.stores.nextRef.index
  memory : system.stores.get (system.applications.get ref).store = .memory held
  closed : ∀ event ∈ held, Closed system event
  distinct : held.Nodup

theorem Stocked.undisturbed (stocked : Stocked ref held before)
    (undisturbed : Undisturbed ref before after) : Stocked ref held after where
  made := by
    rw [undisturbed.spares.store]
    exact undisturbed.spares.made stocked.made
  memory := by
    rw [undisturbed.spares.store, undisturbed.spares.held stocked.made, stocked.memory]
  closed event member := undisturbed.closed.closed (stocked.closed event member)
  distinct := stocked.distinct

theorem Stocked.native (stocked : Stocked ref held before) (description : D.Store) :
    before.stores.get (before.applications.get ref).store ≠ .foreign description := by
  rw [stocked.memory]
  exact nofun

/-- New events are not among those held, because what is held is closed and cannot be stamped. -/
private theorem Stocked.stored {stamped : System D} {known : Table .event LiveEvent}
    (stocked : Stocked ref held stamped) (distinct : published.Nodup)
    (unsealed : ∀ event ∈ published, (stamped.events.get event).isSealed = false)
    (keeps : KeepsClosed stamped
      (MemoryStore.storing stamped (stamped.applications.get ref).store published known))
    (closed : ∀ event ∈ published, Closed
      (MemoryStore.storing stamped (stamped.applications.get ref).store published known) event) :
    Stocked ref (held ++ published)
      (MemoryStore.storing stamped (stamped.applications.get ref).store published known) where
  made := by
    show _ < (stamped.stores.set (stamped.applications.get ref).store _).nextRef.index
    rw [Table.nextRef_set _ stocked.made]
    exact stocked.made
  memory := MemoryStore.get_storing stocked.memory published known
  closed event member := by
    rcases List.mem_append.mp member with member | member
    · exact keeps.closed (stocked.closed event member)
    · exact closed event member
  distinct := by
    refine List.nodup_append.mpr ⟨stocked.distinct, distinct, ?_⟩
    rintro event inside _ new rfl
    have isSealed := (stocked.closed event inside).isSealed
    rw [unsealed event new] at isSealed
    cases isSealed

/-- The last step of a command leaves histories alone, and adds what was published to the store
or nothing. -/
private theorem concludes (publishes : PublishesNew handlers ref command start)
    (finds : Finds handlers ref command start receiver found)
    (executes : Executes handlers ref command receiver found ended published)
    (same : (ended.applications.get ref).store = (found.applications.get ref).store)
    (stocked : Stocked ref held ended) :
    let after := (conclude handlers ref command (found.applications.get ref) receiver published
      ended).2
    KeepsHistories ended after ∧ ∃ stock, Stocked ref stock after := by
  let application := found.applications.get ref
  have stamping : Act.Keeps (Retains ref)
      (stampEach (D := D) application.logger application.clock published) :=
    keeps_stampEach_of_steps (fun _ _ => ⟨.of_tables rfl rfl rfl, .of_tables rfl rfl⟩)
      (fun _ => ⟨.of_tables rfl rfl rfl, .of_tables rfl rfl⟩)
      (fun _ _ _ _ => ⟨.of_tables rfl rfl rfl, .of_tables rfl rfl⟩)
      (fun event _ moment system unsealed =>
        ⟨⟨.of_stores rfl rfl, LiveEvent.keepsClosed_changed unsealed _⟩, .of_tables rfl rfl⟩)
      application.logger
  have retained := stamping ended
  let Kept (outcome : Except Halt CommandResult × System D) : Prop :=
    KeepsHistories ended outcome.2 ∧ ∃ stock, Stocked ref stock outcome.2
  show Kept (conclude handlers ref command application receiver published ended)
  rcases ran : stampEach application.logger application.clock published ended with
    ⟨halt | _, stamped⟩
  · rw [ran] at retained
    have committed : commit handlers application published ended = (.error halt, stamped) :=
      Act.bind_of_error ran
    have kept := stocked.undisturbed retained.1
    refine conclude_of_error committed (fun halt => ⟨retained.2, held, kept⟩)
      fun fault message => ?_
    exact ⟨⟨retained.2.seen, retained.2.receiver⟩, held,
      kept.undisturbed (.of_tables rfl rfl rfl)⟩
  rw [ran] at retained
  have stocked := stocked.undisturbed retained.1
  have store : (stamped.applications.get ref).store = application.store :=
    retained.1.spares.store.trans same
  have stamps := stampEach_eq_ok ran
  have unsealed (event : Ref .event) (member : event ∈ published) :
      (stamped.events.get event).isSealed = false := by
    rw [stamps.isSealed_eq]
    exact stamps.unsealed event member
  have commits {outcome : Except Halt Unit × System D}
      (appends : Store.append handlers (stamped.applications.get ref).store published stamped =
        outcome) : commit handlers application published ended = outcome := by
    rw [store] at appends
    exact (Act.bind_of_ok ran).trans appends
  rcases MemoryStore.append_cases handlers stocked.memory unsealed with
    ⟨known, appended, keeps, closed⟩ | ⟨known, fault, faults, refused, keeps⟩
  · have added := stocked.stored (publishes.distinct finds executes) unsealed keeps
      fun event member => (closed event member).1
    obtain ⟨failures, after, reported, related⟩ :=
      (publishes.observes finds executes (commits appended)).report_run
        (fun related => related.1.spares)
        (fun _ _ _ => ⟨.of_tables rfl rfl rfl, .of_tables rfl rfl⟩) command receiver published
    rw [conclude_of_stored (commits appended), reported]
    have stored : KeepsHistories stamped (MemoryStore.storing stamped
        (stamped.applications.get ref).store published known) := .of_tables rfl rfl
    exact ⟨Act.Frame.trans retained.2 (Act.Frame.trans stored related.2), _,
      added.undisturbed related.1⟩
  · obtain ⟨message, answered⟩ : ∃ message,
        conclude handlers ref command application receiver published ended =
          (.ok (.failure fault), _) := conclude_of_raised (commits refused)
    rw [answered]
    have changed : KeepsHistories stamped { stamped with events := known } := .of_tables rfl rfl
    exact ⟨Act.Frame.trans retained.2 ⟨changed.seen, changed.receiver⟩, held,
      stocked.undisturbed ⟨.of_stores rfl rfl, keeps⟩⟩

/-! ## Rounds are remembered -/

private theorem retains_opened {rehydrated about : System D}
    (opens : Opens handlers ref command receiver found rehydrated about) :
    Retains ref rehydrated about := by
  have moves : Moves rehydrated about := by
    rw [opens.opens]
    exact moves_opened _ command receiver rehydrated
  refine ⟨moves.undisturbed ref, opens.seen_eq, fun other => ?_⟩
  rw [opens.opens]
  rfl

/-- Executing a command whose receiver is known leaves histories alone. -/
private theorem retains_execute {rehydrated about : System D}
    (publishes : PublishesNew handlers ref command start)
    (finds : Finds handlers ref command start receiver found)
    (opens : Opens handlers ref command receiver found rehydrated about)
    (known : (about.commands.get command).receiver = some receiver) :
    Retains ref about (Command.execute handlers command about).2 := by
  cases accepted : (Command.recordedErrors about command).isEmpty with
  | false =>
    obtain ⟨message, refused⟩ := Command.execute_of_refused handlers accepted
    rw [refused]
    exact ⟨.of_tables rfl rfl rfl, .of_tables rfl rfl⟩
  | true =>
    have resolved : Command.resolveReceiver handlers command about = (.ok (some receiver), about) :=
      Command.resolveReceiver_of_receiver known
    have commanded : Retains ref about (Aggregate.commanded receiver command about) := by
      refine ⟨.of_tables rfl rfl rfl, fun other => ?_, fun _ => rfl⟩
      refine (congrArg Aggregate.seen (Table.get_set _ _ _ _)).trans ?_
      split
      · rename_i same
        rw [← same]
      · rfl
    rw [Command.execute_of_accepted accepted, Act.bind_of_ok resolved]
    show Retains ref about (Aggregate.handleCommand handlers receiver command about).2
    cases script :
      ((Aggregate.commanded receiver command about).aggregates.get receiver).script with
    | none =>
      rw [Aggregate.handleCommand_of_no_script script]
      exact commanded
    | some description =>
      rw [Aggregate.handleCommand_of_script script]
      have accepts : Accepts handlers ref command receiver found receiver about :=
        ⟨rehydrated, about, opens, accepted, resolved⟩
      exact Act.Frame.trans commanded
        (publishes.calls _ _ (.serves finds (.onCommand accepts script)))

/-- However the delivery of a command ends, what its receiver was handed is remembered. -/
private theorem delivers {pairs : List (System D × Ref .event)}
    (publishes : PublishesNew handlers ref command start)
    (finds : Finds handlers ref command start receiver found) (stocked : Stocked ref held found)
    (remembers : Remembers rounds found)
    (rehydrates : Rehydrates handlers ref receiver found pairs) :
    let after := (deliver handlers ref command receiver found).2
    Remembers (rounds ++ [(command, pairs.map Prod.snd)]) after ∧
      ∃ stock, Stocked ref stock after := by
  have retells := retells_rehydrate publishes finds stocked.memory
  have seen := seen_of_rehydrates
    (fun before after serves =>
      (publishes.calls before after (.serves finds serves)).2.seen receiver)
    rehydrates
  have remembered := remembers.round finds.known retells seen
  have stockedStill := stocked.undisturbed retells.undisturbed
  rcases ran : rehydrate handlers (found.applications.get ref).store receiver found with
    ⟨halt | _, rehydrated⟩
  · rw [ran] at remembered stockedStill
    obtain ⟨log, answered⟩ : ∃ log, deliver handlers ref command receiver found = _ :=
      deliver_of_unread ran
    rw [answered]
    exact ⟨⟨remembered.seen, remembered.unfound, remembered.own⟩, held,
      stockedStill.undisturbed (.of_tables rfl rfl rfl)⟩
  rw [ran] at remembered stockedStill retells
  let about := opened (found.applications.get ref).logger command receiver rehydrated
  have opens : Opens handlers ref command receiver found rehydrated about := ⟨ran, rfl⟩
  have known : (about.commands.get command).receiver = some receiver :=
    ((retains_opened opens).2.receiver command).trans
      ((retells.receiver command).trans finds.known)
  have retained : Retains ref rehydrated _ :=
    Act.Frame.trans (retains_opened opens) (retains_execute publishes finds opens known)
  rcases handled : Command.execute handlers command about with ⟨halt | _, ended⟩
  · rw [handled] at retained
    obtain ⟨log, answered⟩ := opens.deliver_of_error handled
    rw [answered]
    have kept := remembered.kept retained.2
    exact ⟨⟨kept.seen, kept.unfound, kept.own⟩, held,
      (stockedStill.undisturbed retained.1).undisturbed (.of_tables rfl rfl rfl)⟩
  · rw [handled] at retained
    have executes : Executes handlers ref command receiver found ended _ :=
      ⟨rehydrated, about, opens, handled, rfl⟩
    have same : (ended.applications.get ref).store = (found.applications.get ref).store :=
      (Act.Frame.trans retells.undisturbed retained.1).spares.store
    obtain ⟨keeps, stock⟩ :=
      concludes publishes finds executes same (stockedStill.undisturbed retained.1)
    rw [executes.deliver_eq]
    exact ⟨(remembered.kept retained.2).kept keeps, stock⟩

/-- A round in which the receiver is given all of its history hands over what the store holds for
its id. -/
theorem Stocked.handed (stocked : Stocked ref held found)
    (publishes : PublishesNew handlers ref command start)
    (finds : Finds handlers ref command start receiver found)
    (ended : (rehydrate handlers (found.applications.get ref).store receiver found).1 = .ok ()) :
    Handed handlers ref command start (held.filter fun event =>
      (contentIn found event).matchesStream (found.aggregates.get receiver).id) := by
  obtain ⟨pairs, rehydrates⟩ := Store.replay_replayed handlers stocked.native
    (found.aggregates.get receiver).id ()
    fun _ event => Aggregate.handleEvent handlers receiver event
  have all := handed_of_held stocked.memory stocked.closed
    (fun before after serves => (publishes.calls before after (.serves finds serves)).1.closed)
    rehydrates ended
  rw [← all]
  exact .found finds rehydrates

/-- One more round: however it ends, its command's receiver was handed the events of the round
behind those of the earlier ones. -/
theorem Remembers.send (publishes : PublishesNew handlers ref command start)
    (stocked : Stocked ref held start) (remembers : Remembers rounds start)
    (handed : Handed handlers ref command start events) :
    let after := (send handlers ref command start).2
    Remembers (rounds ++ [(command, events)]) after ∧ ∃ stock, Stocked ref stock after := by
  rcases send_finds_own publishes with ⟨nobody, retained⟩ | ⟨receiver, found, finds, own⟩
  · cases handed with
    | unfound _ =>
      exact ⟨(remembers.kept retained.2).nothing command, held, stocked.undisturbed retained.1⟩
    | found finds _ => exact absurd finds (nobody _ _)
  · cases handed with
    | unfound nobody => exact absurd finds (nobody _ _)
    | found again rehydrates =>
      obtain ⟨rfl, rfl⟩ := finds.unique again
      rw [finds.send_eq]
      exact delivers publishes finds (stocked.undisturbed own.undisturbed)
        (remembers.atFound own) rehydrates

theorem Rounds.remembered (run : Rounds handlers ref start rounds after)
    (stocked : Stocked ref held start) (remembers : Remembers [] start) :
    Remembers rounds after ∧ ∃ stock, Stocked ref stock after := by
  induction run with
  | start => exact ⟨remembers, held, stocked⟩
  | between _ retained ih =>
    obtain ⟨remembers, stock, stocked⟩ := ih
    exact ⟨remembers.kept retained.2, stock, stocked.undisturbed retained.1⟩
  | sent _ publishes handed ih =>
    obtain ⟨remembers, stock, stocked⟩ := ih
    exact remembers.send publishes stocked handed

end Histories

/-! ## Code that only publishes -/

section Publishing

variable {ref : Ref .application} {command : Ref .command} {receiver : Ref .aggregate}
  {start : System Domain.publishing} {held : List (Ref .event)}

/-- Where no aggregate is bound to the application's store, code that only publishes leaves
histories alone. -/
theorem publishesNew_publishing (unbound : Unbound ref start)
    (memory : start.stores.get (start.applications.get ref).store = .memory held)
    (makes : (start.commands.get command).receiver = none → ∀ factory,
      (start.commands.get command).factory = some factory →
      (start.aggregates.get factory).seen = [] ∧
        ∀ other, (start.commands.get other).receiver ≠ some factory)
    (distinct : ∀ {receiver found ended published},
      Finds Handlers.publishing ref command start receiver found →
      Executes Handlers.publishing ref command receiver found ended published →
      published.Nodup) :
    PublishesNew Handlers.publishing ref command start where
  calls before after calls := by
    have keeps (aggregate : Ref .aggregate) (event : Ref .event) :
        Act.Keeps KeepsHistories (Aggregate.publish (D := Domain.publishing) aggregate event) :=
      Aggregate.keeps_publish (fun _ _ => .of_tables rfl rfl) (fun _ _ _ => .of_tables rfl rfl)
        aggregate event
    refine ⟨undisturbed_publishing unbound memory calls, ?_⟩
    cases calls with
    | construct => exact Act.Frame.refl _
    | serves finds serves => exact serves_publishing keeps serves
  makes {acknowledged factory receiver after} acknowledges none known answers := by
    have retained : Retains ref start _ :=
      retains_acknowledge command (start.applications.get ref).clock start
    have aside : Aside ref start _ :=
      keeps_acknowledge command (start.applications.get ref).clock start
    rw [acknowledges] at retained aside
    obtain rfl : factory = receiver := by
      cases answers
      rfl
    rw [retained.2.receiver] at none
    obtain ⟨fresh, own⟩ := makes none factory ((aside.factory command).symm.trans known)
    refine ⟨(retained.2.seen factory).trans fresh, fun other => ?_⟩
    rw [retained.2.receiver]
    exact own other
  distinct := distinct
  observes _ _ _ := by
    refine ⟨?_, fun _ _ => onProject_publishing⟩
    rintro before after _ ⟨event, -⟩
    exact keeps_onProject (fun _ _ => ⟨.of_tables rfl rfl rfl, .of_tables rfl rfl⟩) _ _ before

end Publishing

/-- In every run in which commands may be sent again, an aggregate that is handed a command has
been handed what the earlier rounds of this command handed to it, and then the events that the
store holds for its id, in order and each of them once. So no event came to it twice if those
rounds handed nothing to it. -/
theorem receiver_has_rounds_and_stream (handlers : Handlers D) {ref : Ref .application}
    {command : Ref .command} {receiver aggregate : Ref .aggregate}
    {start last found given : System D} {held : List (Ref .event)}
    {rounds : List (Ref .command × List (Ref .event))}
    (stocked : Stocked ref held start)
    (unresolved : ∀ command, (start.commands.get command).receiver = none)
    (run : Rounds handlers ref start rounds last)
    (publishes : PublishesNew handlers ref command last)
    (finds : Finds handlers ref command last receiver found)
    (accepts : Accepts handlers ref command receiver found aggregate given) :
    let seen := (given.aggregates.get aggregate).seen
    ∃ stored, found.stores.get (found.applications.get ref).store = .memory stored ∧
      seen = handedTo command rounds ++ stored.filter (fun event =>
        (contentIn found event).matchesStream (found.aggregates.get aggregate).id) ∧
      ∀ event, seen.count event ≤ (handedTo command rounds).count event + 1 := by
  intro seen
  have nothing : Remembers [] start := by
    refine ⟨fun other receiver known => ?_, fun _ _ => rfl, fun one other receiver known => ?_⟩
    · cases (unresolved other).symm.trans known
    · cases (unresolved one).symm.trans known
  obtain ⟨remembersLast, stock, stockedLast⟩ := run.remembered stocked nothing
  obtain ⟨remembers, stockedFound⟩ : Remembers rounds found ∧ Stocked ref stock found := by
    rcases send_finds_own publishes with ⟨nobody, -⟩ | ⟨_, _, again, own⟩
    · exact absurd finds (nobody _ _)
    · obtain ⟨rfl, rfl⟩ := finds.unique again
      exact ⟨remembersLast.atFound own, stockedLast.undisturbed own.undisturbed⟩
  have retained (before after : System D)
      (serves : Serves handlers ref command receiver found before after) :
      Retains ref before after :=
    publishes.calls before after (.serves finds serves)
  obtain ⟨rfl, rehydrated, opens⟩ := accepts.receiver_eq finds stockedFound.native
    fun before after serves => (retained before after serves).2.receiver command
  obtain ⟨pairs, rehydrates⟩ := Store.replay_replayed handlers stockedFound.native
    (found.aggregates.get aggregate).id ()
    fun _ event => Aggregate.handleEvent handlers aggregate event
  have ended := congrArg Prod.fst opens.rehydrates
  have stream := handed_of_held stockedFound.memory stockedFound.closed
    (fun before after serves => (retained before after serves).1.closed) rehydrates ended
  have heard := seen_of_rehydrates
    (fun before after serves => (retained before after serves).2.seen aggregate) rehydrates
  rw [opens.rehydrates, stream, remembers.seen command aggregate finds.known] at heard
  have all : seen = handedTo command rounds ++ stock.filter fun event =>
      (contentIn found event).matchesStream (found.aggregates.get aggregate).id :=
    (opens.seen_eq aggregate).trans heard
  refine ⟨stock, stockedFound.memory, all, fun event => ?_⟩
  rw [all, List.count_append]
  exact Nat.add_le_add_left
    (List.nodup_iff_count_le_one.mp (stockedFound.distinct.filter _) event) _

/-- A log of one event, and two commands for aggregates of its stream. The first of them publishes
an event that the store cannot seal. -/
def retried : System Domain.publishing :=
  let event (payload : Datum) (sealing : Bool) : LiveEvent :=
    { name := .text "added", streamId := .text "x", id := .text "", occurredOn := .null
      persistedAt := .null, payload := .own payload, sealing := .bool sealing }
  let command (receiver : Nat) : EventSourcing.Command Domain.publishing :=
    { name := "go", fields := [], idField := "id", errors := ⟨0⟩, factory := some ⟨receiver⟩
      receiver := none, hasImplicitId := true }
  let aggregate (script : List (Ref .event)) : Aggregate Domain.publishing :=
    { id := "x", publisher := none, seen := [], handled := [], script := some script }
  { events := ⟨#[event (.frozen []) true, event (.int 5) false]⟩
    commands := ⟨#[command 0, command 1]⟩
    faults := ⟨#[.validation []]⟩
    aggregates := ⟨#[aggregate [⟨1⟩], aggregate []]⟩
    stores := ⟨#[.memory [⟨0⟩]]⟩
    clocks := ⟨#[.showing .unixEpoch]⟩
    applications := ⟨#[{
      name := .text "app", store := ⟨0⟩, clock := ⟨0⟩, logger := "app", projections := [] }]⟩
    domain := () }

instance : DecidableEq Domain.publishing.Factory :=
  inferInstanceAs (DecidableEq (Ref .aggregate))

/-- What a command publishes is known from the system in which it is about to be executed. -/
private theorem nodup_published {ref : Ref .application} {command : Ref .command}
    {start : System Domain.publishing} (receiver : Ref .aggregate)
    (resolves : ((foundFrom Handlers.publishing ref command start).commands.get command).receiver =
      some receiver)
    (distinct : (MemoryStore.eventsIn (Command.execute Handlers.publishing command
        (aboutFrom Handlers.publishing ref command receiver start)).2
      (rehydratedFrom Handlers.publishing ref command receiver start).stores.nextRef).Nodup)
    {other : Ref .aggregate} {found ended : System Domain.publishing}
    {published : List (Ref .event)}
    (finds : Finds Handlers.publishing ref command start other found)
    (executes : Executes Handlers.publishing ref command other found ended published) :
    published.Nodup := by
  obtain rfl : receiver = other := Option.some.inj (resolves.symm.trans finds.receiver_eq)
  obtain ⟨rehydrated, about, opens, ran, rfl⟩ := executes
  obtain ⟨rfl, rfl⟩ := opens.systems_eq finds
  rwa [ran] at distinct

private theorem get_of_all {kind : ObjectKind} {Item : Type} [Inhabited Item]
    {table : Table kind Item} {holds : Item → Bool} (all : table.items.all holds = true)
    (new : holds default = true) (ref : Ref kind) : holds (table.get ref) = true :=
  Table.get_of_all (Array.all_eq_true'.mp all) new ref

private theorem stocked_retried : Stocked ⟨0⟩ [⟨0⟩] retried where
  made := Nat.zero_lt_one
  memory := rfl
  closed event member := by
    rw [List.mem_singleton.mp member]
    exact ⟨[], rfl⟩
  distinct := List.nodup_singleton _

private theorem unresolved_retried (command : Ref .command) :
    (retried.commands.get command).receiver = none := by
  let unresolved (known : EventSourcing.Command Domain.publishing) : Bool := known.receiver.isNone
  have all : retried.commands.items.all unresolved = true := by decide +kernel
  exact Option.isNone_iff_eq_none.mp (get_of_all all rfl command)

theorem receiver_has_rounds_and_stream_retried :
    ∃ last found given, Rounds Handlers.publishing ⟨0⟩ retried [(⟨0⟩, [⟨0⟩])] last ∧
      Finds Handlers.publishing ⟨0⟩ ⟨1⟩ last ⟨1⟩ found ∧
      Accepts Handlers.publishing ⟨0⟩ ⟨1⟩ ⟨1⟩ found ⟨1⟩ given ∧
      (given.aggregates.get ⟨1⟩).seen = [⟨0⟩] := by
  let last := (send Handlers.publishing ⟨0⟩ ⟨0⟩ retried).2
  have made : (retried.applications.get ⟨0⟩).store.index < retried.stores.nextRef.index := by
    decide
  have publishesFirst : PublishesNew Handlers.publishing ⟨0⟩ ⟨0⟩ retried :=
    publishesNew_publishing (unbound_of_all made (by decide +kernel)) stocked_retried.memory
      (fun _ factory known => by
        obtain rfl : ⟨0⟩ = factory := Option.some.inj known
        refine ⟨rfl, fun other again => ?_⟩
        rw [unresolved_retried other] at again
        cases again)
      (nodup_published ⟨0⟩ (by decide +kernel) (by decide +kernel))
  have handed : Handed Handlers.publishing ⟨0⟩ ⟨0⟩ retried [⟨0⟩] := by
    let found := foundFrom Handlers.publishing ⟨0⟩ ⟨0⟩ retried
    have finds : Finds Handlers.publishing ⟨0⟩ ⟨0⟩ retried ⟨0⟩ found :=
      ⟨_, Act.run_of_answer (by decide +kernel), Act.run_of_answer (by decide +kernel)⟩
    have stocked : Stocked ⟨0⟩ [⟨0⟩] found := by
      rcases send_finds_own publishesFirst with ⟨nobody, -⟩ | ⟨_, _, again, own⟩
      · exact absurd finds (nobody _ _)
      · obtain ⟨rfl, rfl⟩ := finds.unique again
        exact stocked_retried.undisturbed own.undisturbed
    have handed := stocked.handed publishesFirst finds (by decide +kernel)
    have matching : [(⟨0⟩ : Ref .event)].filter (fun event =>
        (contentIn found event).matchesStream (found.aggregates.get ⟨0⟩).id) = [⟨0⟩] := by
      decide +kernel
    rwa [matching] at handed
  have run : Rounds Handlers.publishing ⟨0⟩ retried [(⟨0⟩, [⟨0⟩])] last :=
    .sent .start publishesFirst handed
  have nothing : Remembers [] retried :=
    ⟨fun command _ known => (by cases (unresolved_retried command).symm.trans known),
      fun _ _ => rfl,
      fun command _ _ known => (by cases (unresolved_retried command).symm.trans known)⟩
  obtain ⟨-, stock, stocked⟩ := run.remembered stocked_retried nothing
  let elsewhere (known : EventSourcing.Command Domain.publishing) : Bool :=
    known.receiver ≠ some ⟨1⟩
  have allElsewhere : last.commands.items.all elsewhere = true := by decide +kernel
  have others (other : Ref .command) : (last.commands.get other).receiver ≠ some ⟨1⟩ :=
    of_decide_eq_true (get_of_all allElsewhere rfl other)
  have described : (last.commands.get ⟨1⟩).factory = some ⟨1⟩ := by decide +kernel
  have publishes : PublishesNew Handlers.publishing ⟨0⟩ ⟨1⟩ last :=
    publishesNew_publishing (unbound_of_all stocked.made (by decide +kernel)) stocked.memory
      (fun _ factory known => by
        obtain rfl : ⟨1⟩ = factory := Option.some.inj (described.symm.trans known)
        exact ⟨by decide +kernel, others⟩)
      (nodup_published ⟨1⟩ (by decide +kernel) (by decide +kernel))
  let found := foundFrom Handlers.publishing ⟨0⟩ ⟨1⟩ last
  let about := aboutFrom Handlers.publishing ⟨0⟩ ⟨1⟩ ⟨1⟩ last
  have finds : Finds Handlers.publishing ⟨0⟩ ⟨1⟩ last ⟨1⟩ found :=
    ⟨_, Act.run_of_answer (by decide +kernel), Act.run_of_answer (by decide +kernel)⟩
  have accepts : Accepts Handlers.publishing ⟨0⟩ ⟨1⟩ ⟨1⟩ found ⟨1⟩ about :=
    ⟨_, about, ⟨Act.run_of_answer (by decide +kernel), rfl⟩, by decide +kernel,
      Command.resolveReceiver_of_receiver (by decide +kernel)⟩
  obtain ⟨stored, memory, seen, -⟩ := receiver_has_rounds_and_stream Handlers.publishing
    stocked_retried unresolved_retried run publishes finds accepts
  have held : MemoryStore.eventsIn found (found.applications.get ⟨0⟩).store = [⟨0⟩] := by
    decide +kernel
  have matching : [(⟨0⟩ : Ref .event)].filter (fun event =>
      (contentIn found event).matchesStream (found.aggregates.get ⟨1⟩).id) = [⟨0⟩] := by
    decide +kernel
  obtain rfl : stored = [⟨0⟩] := (MemoryStore.eventsIn_of_get memory).symm.trans held
  rw [matching] at seen
  exact ⟨last, found, about, run, finds, accepts, seen⟩

/-- A command that is sent again after its events could not be stored hands its receiver every
event of the history a second time, before the receiver handles it again. -/
theorem retried_receiver_has_event_twice :
    let once := send Handlers.publishing ⟨0⟩ ⟨0⟩ retried
    let twice := send Handlers.publishing ⟨0⟩ ⟨0⟩ once.2
    once.1.toOption.map (·.isOk) = some false ∧
      MemoryStore.eventsIn twice.2 ⟨0⟩ = [⟨0⟩] ∧
      (once.2.aggregates.get ⟨0⟩).seen = [⟨0⟩] ∧ (once.2.aggregates.get ⟨0⟩).handled = [⟨0⟩] ∧
      (twice.2.aggregates.get ⟨0⟩).seen = [⟨0⟩, ⟨0⟩] ∧
      (twice.2.aggregates.get ⟨0⟩).handled = [⟨0⟩, ⟨0⟩] := by
  decide +kernel

end EventSourcing.Application
