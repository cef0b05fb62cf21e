import EventSourcing.Proofs.Application.Committing
import EventSourcing.Proofs.Application.Outcome
import EventSourcing.Proofs.Application.Relaying
import Mathlib.Data.List.Perm.Basic

/-!
# Publishing while commands are sent inside one another

Sending a command opens a buffer and binds the receiver to it; what the buffer holds when the
command was executed is stored. Until then the receiver may send further commands, whose buffers
are opened and emptied in the meantime. `Works` holds of runs in which every event is published
to a buffer that is still open, and such runs lose no event, however deep commands are sent.
An aggregate that is sent a command while it handles another one stays bound to the inner
buffer, and what it publishes from then on is not stored.
-/

set_option autoImplicit false

namespace EventSourcing

namespace Application

variable {D : Domain}

/-! ## Runs that publish -/

/-- Nothing is published or stored: the application keeps its store, and the stores that there
were keep what they hold. -/
structure Idle (ref : Ref .application) (before after : System D) : Prop where
  store : (after.applications.get ref).store = (before.applications.get ref).store
  made : before.stores.nextRef.index ≤ after.stores.nextRef.index
  kept : ∀ store, store.index < before.stores.nextRef.index →
    after.stores.get store = before.stores.get store

instance (ref : Ref .application) : Act.Frame (Idle (D := D) ref) where
  refl _ := ⟨rfl, Nat.le_refl _, fun _ _ => rfl⟩
  trans first second :=
    { store := second.store.trans first.store
      made := Nat.le_trans first.made second.made
      kept := fun store there =>
        (second.kept store (Nat.lt_of_lt_of_le there first.made)).trans (first.kept store there) }

theorem Aside.idle {ref : Ref .application} {before after : System D}
    (aside : Aside ref before after) : Idle ref before after where
  store := by rw [aside.applications]
  made := aside.made
  kept := aside.kept

instance (ref : Ref .application) : Discreet (Idle (D := D) ref) :=
  .of_aside ref Aside.idle

/-- A run of the domain's code while some buffers are open, with the events that it publishes.
Each is published to one of the buffers. Commands may be sent to the application, and succeed;
what their receivers do is such a run again, with one buffer more. -/
inductive Works (ref : Ref .application) :
    List (Ref .store) → System D → List (Ref .event) → System D → Prop
  | idle {buffers : List (Ref .store)} {before after : System D} : Idle ref before after →
      Works ref buffers before [] after
  | trans {buffers : List (Ref .store)} {before middle after : System D}
      {first second : List (Ref .event)} :
      Works ref buffers before first middle → Works ref buffers middle second after →
      Works ref buffers before (first ++ second) after
  | publish {buffers : List (Ref .store)} {buffer : Ref .store} {before after : System D}
      {aggregate : Ref .aggregate} {event : Ref .event} :
      (before.aggregates.get aggregate).publisher = some buffer → buffer ∈ buffers →
      Aggregate.publish aggregate event before = (.ok (), after) →
      Works ref buffers before [event] after
  /-- The four stages of a command that succeeds: its receiver is found, is given its history,
  handles the command, and the events that are stored by then are handed to projections. -/
  | send {buffers : List (Ref .store)} {handlers : Handlers D} {command : Ref .command}
      {start after : System D} {result : CommandResult}
      {finding rehydrating handling reporting : List (Ref .event)} :
      send handlers ref command start = (.ok result, after) → result.isOk = true →
      (∀ {receiver found}, Finds handlers ref command start receiver found →
        Works ref buffers start finding found) →
      (∀ {receiver found rehydrated about}, Finds handlers ref command start receiver found →
        Opens handlers ref command receiver found rehydrated about →
        Works ref buffers found rehydrating rehydrated) →
      (∀ {receiver found rehydrated about ended}, Finds handlers ref command start receiver found →
        Opens handlers ref command receiver found rehydrated about →
        Command.execute handlers command about = (.ok (), ended) →
        Works ref (rehydrated.stores.nextRef :: buffers) about handling ended) →
      (∀ {receiver found ended events stored}, Finds handlers ref command start receiver found →
        Executes handlers ref command receiver found ended events →
        commit handlers (found.applications.get ref) events ended = (.ok (), stored) →
        report handlers ref command receiver events stored = (.ok result, after) →
        Works ref buffers stored reporting after) →
      Works ref buffers start (finding ++ rehydrating ++ handling ++ reporting) after

/-! ## What is held -/

/-- What some stores hold, one after another. -/
def gathered (stores : List (Ref .store)) (system : System D) : List (Ref .event) :=
  stores.flatMap (MemoryStore.eventsIn system)

/-- The application's store and the buffers are different stores in memory. -/
structure Buffered (ref : Ref .application) (store : Ref .store) (buffers : List (Ref .store))
    (system : System D) : Prop where
  same : (system.applications.get ref).store = store
  distinct : (store :: buffers).Nodup
  made : ∀ known ∈ store :: buffers, known.index < system.stores.nextRef.index
  memory : ∀ known ∈ store :: buffers, ∃ held, system.stores.get known = .memory held

/-- A run has added the published events to what is held, and the application's store holds
what it held at first. -/
structure Gathers (ref : Ref .application) (store : Ref .store) (buffers : List (Ref .store))
    (before : System D) (published : List (Ref .event)) (after : System D) : Prop where
  buffered : Buffered ref store buffers after
  all : (gathered (store :: buffers) after).Perm (gathered (store :: buffers) before ++ published)
  earlier : MemoryStore.eventsIn before store <+: MemoryStore.eventsIn after store

section Gathering

variable {ref : Ref .application} {store : Ref .store} {buffers : List (Ref .store)}
  {before middle after : System D} {published first second : List (Ref .event)}

private theorem eventsIn_congr {known : Ref .store}
    (same : after.stores.get known = before.stores.get known) :
    MemoryStore.eventsIn after known = MemoryStore.eventsIn before known := by
  rw [MemoryStore.eventsIn, MemoryStore.eventsIn, same]

private theorem gathered_congr {stores : List (Ref .store)}
    (same : ∀ known ∈ stores, after.stores.get known = before.stores.get known) :
    gathered stores after = gathered stores before := by
  rw [gathered, gathered, List.flatMap_def, List.flatMap_def]
  exact congrArg List.flatten (List.map_congr_left fun known member =>
    eventsIn_congr (same known member))

/-- What is added to one of different stores is added to what they hold. -/
private theorem gathered_grows {stores : List (Ref .store)} {grown : Ref .store}
    {added : List (Ref .event)} (distinct : stores.Nodup) (member : grown ∈ stores)
    (grows : MemoryStore.eventsIn after grown = MemoryStore.eventsIn before grown ++ added)
    (others : ∀ known ∈ stores, known ≠ grown →
      after.stores.get known = before.stores.get known) :
    (gathered stores after).Perm (gathered stores before ++ added) := by
  obtain ⟨left, right, rfl⟩ := List.append_of_mem member
  have apart := List.nodup_append.mp distinct
  have elsewhere (known : Ref .store) (among : known ∈ left ∨ known ∈ right) :
      after.stores.get known = before.stores.get known := by
    refine others known ?_ ?_
    · rcases among with among | among <;> simp [among]
    · rintro rfl
      rcases among with among | among
      · exact apart.2.2 known among known List.mem_cons_self rfl
      · exact (List.nodup_cons.mp apart.2.1).1 among
  have sameLeft := gathered_congr fun known among => elsewhere known (.inl among)
  have sameRight := gathered_congr fun known among => elsewhere known (.inr among)
  rw [gathered] at sameLeft sameRight ⊢
  rw [gathered, List.flatMap_append, List.flatMap_append, List.flatMap_cons, List.flatMap_cons,
    grows, sameLeft, sameRight, gathered, gathered, List.append_assoc, List.append_assoc,
    List.append_assoc]
  have swapped : (added ++ right.flatMap (MemoryStore.eventsIn before)).Perm _ :=
    List.perm_append_comm
  exact (swapped.append_left _).append_left _

private theorem Gathers.trans (gathers : Gathers ref store buffers before first middle)
    (further : Gathers ref store buffers middle second after) :
    Gathers ref store buffers before (first ++ second) after where
  buffered := further.buffered
  all := by
    rw [← List.append_assoc]
    exact further.all.trans (gathers.all.append_right second)
  earlier := gathers.earlier.trans further.earlier

private theorem Idle.gathers (idle : Idle ref before after)
    (buffered : Buffered ref store buffers before) : Gathers ref store buffers before [] after := by
  have kept (known : Ref .store) (member : known ∈ store :: buffers) :
      after.stores.get known = before.stores.get known :=
    idle.kept known (buffered.made known member)
  refine ⟨⟨idle.store.trans buffered.same, buffered.distinct, fun known member =>
    Nat.lt_of_lt_of_le (buffered.made known member) idle.made, fun known member => ?_⟩, ?_, ?_⟩
  · rw [kept known member]
    exact buffered.memory known member
  · rw [gathered_congr kept, List.append_nil]
  · exact ⟨[], (List.append_nil _).trans (eventsIn_congr (kept store List.mem_cons_self)).symm⟩

private theorem publish_eq_ok {aggregate : Ref .aggregate} {event : Ref .event}
    {buffer : Ref .store} (bound : (before.aggregates.get aggregate).publisher = some buffer)
    (ran : Aggregate.publish aggregate event before = (.ok (), after)) :
    after = { before with
      stores := before.stores.set buffer
        (.memory (MemoryStore.eventsIn before buffer ++ [event])) } := by
  simp only [Aggregate.publish, bind, Act.bind, Act.read, bound] at ran
  cases ran
  rfl

private theorem gathers_publish {aggregate : Ref .aggregate} {event : Ref .event}
    {buffer : Ref .store} (buffered : Buffered ref store buffers before)
    (bound : (before.aggregates.get aggregate).publisher = some buffer) (opened : buffer ∈ buffers)
    (ran : Aggregate.publish aggregate event before = (.ok (), after)) :
    Gathers ref store buffers before [event] after := by
  have member : buffer ∈ store :: buffers := .tail _ opened
  have changed := publish_eq_ok bound ran
  have shown (known : Ref .store) : after.stores.get known =
      if buffer = known then .memory (MemoryStore.eventsIn before buffer ++ [event])
      else before.stores.get known := by
    rw [changed]
    exact Table.get_set _ _ _ _
  have other : buffer ≠ store := by
    rintro rfl
    exact (List.nodup_cons.mp buffered.distinct).1 opened
  have made : before.stores.nextRef.index ≤ after.stores.nextRef.index := by
    rw [changed]
    exact Table.nextRef_le_set _ _ _
  have same : (after.applications.get ref).store = store := by
    rw [changed]
    exact buffered.same
  refine ⟨⟨same, buffered.distinct, fun known among =>
    Nat.lt_of_lt_of_le (buffered.made known among) made, fun known among => ?_⟩, ?_, ?_⟩
  · rw [shown]
    split
    · exact ⟨_, rfl⟩
    · exact buffered.memory known among
  · refine gathered_grows buffered.distinct member ?_ fun known _ different => ?_
    · rw [MemoryStore.eventsIn, shown, if_pos rfl]
    · exact (shown known).trans (if_neg (Ne.symm different))
  · have same := eventsIn_congr ((shown store).trans (if_neg other))
    exact ⟨[], (List.append_nil _).trans same.symm⟩

/-- The buffer that is opened for a command is a new one, and empty. -/
private theorem Opens.buffered {handlers : Handlers D} {command : Ref .command}
    {receiver : Ref .aggregate} {found rehydrated about : System D}
    (opens : Opens handlers ref command receiver found rehydrated about)
    (buffered : Buffered ref store buffers rehydrated) :
    Buffered ref store (rehydrated.stores.nextRef :: buffers) about ∧
      gathered (store :: rehydrated.stores.nextRef :: buffers) about =
        gathered (store :: buffers) rehydrated ∧
      MemoryStore.eventsIn about store = MemoryStore.eventsIn rehydrated store := by
  obtain ⟨-, rfl⟩ := opens
  let buffer := rehydrated.stores.nextRef
  let about := opened (found.applications.get ref).logger command receiver rehydrated
  have shown (known : Ref .store) : about.stores.get known =
      if buffer = known then .memory [] else rehydrated.stores.get known :=
    Table.get_push _ _ _
  have apart {known : Ref .store} (member : known ∈ store :: buffers) : buffer ≠ known := by
    rintro rfl
    exact Nat.lt_irrefl _ (buffered.made _ member)
  have kept (known : Ref .store) (member : known ∈ store :: buffers) :
      about.stores.get known = rehydrated.stores.get known :=
    (shown known).trans (if_neg (apart member))
  have sameStore : MemoryStore.eventsIn about store = MemoryStore.eventsIn rehydrated store :=
    eventsIn_congr (kept store List.mem_cons_self)
  have reordered : (buffer :: store :: buffers).Perm (store :: buffer :: buffers) :=
    List.Perm.swap store buffer buffers
  refine ⟨⟨buffered.same, ?_, fun known member => ?_, fun known member => ?_⟩, ?_, sameStore⟩
  · have fresh : buffer ∉ store :: buffers := fun member => apart member rfl
    exact reordered.nodup (List.nodup_cons.mpr ⟨fresh, buffered.distinct⟩)
  · have grown : about.stores.nextRef.index = buffer.index + 1 := Table.nextRef_push _ _
    show known.index < about.stores.nextRef.index
    rw [grown]
    rcases List.mem_cons.mp (reordered.mem_iff.mpr member) with rfl | member
    · exact Nat.lt_succ_self _
    · exact Nat.lt_succ_of_lt (buffered.made known member)
  · rcases List.mem_cons.mp (reordered.mem_iff.mpr member) with rfl | member
    · exact ⟨[], (shown buffer).trans (if_pos rfl)⟩
    · obtain ⟨held, memory⟩ := buffered.memory known member
      exact ⟨held, (kept known member).trans memory⟩
  · have empty : MemoryStore.eventsIn about buffer = [] := by
      rw [MemoryStore.eventsIn, shown, if_pos rfl]
    have others : gathered buffers about = gathered buffers rehydrated :=
      gathered_congr fun known member => kept known (.tail _ member)
    show gathered (store :: buffer :: buffers) about = _
    rw [gathered] at others ⊢
    rw [List.flatMap_cons, List.flatMap_cons, sameStore, empty, others]
    rfl

/-- Storing what the buffer of a command holds leaves all that is held, without the buffer. -/
private theorem gathers_commit {handlers : Handlers D} {application : Application D}
    {ended stored : System D} {buffer : Ref .store}
    (buffered : Buffered ref store (buffer :: buffers) ended) (same : application.store = store)
    (committed : commit handlers application (MemoryStore.eventsIn ended buffer) ended =
      (.ok (), stored)) :
    Buffered ref store buffers stored ∧
      (gathered (store :: buffers) stored).Perm (gathered (store :: buffer :: buffers) ended) ∧
      MemoryStore.eventsIn ended store <+: MemoryStore.eventsIn stored store := by
  have storeMade := buffered.made store List.mem_cons_self
  obtain ⟨held, memory⟩ := buffered.memory store List.mem_cons_self
  rw [← same] at memory storeMade
  have commits := commit_cases handlers ref application memory storeMade
    (MemoryStore.eventsIn ended buffer)
  rw [committed] at commits
  cases commits with
  | @stored stamped known aside =>
      let batch := MemoryStore.eventsIn ended buffer
      let after := MemoryStore.storing stamped application.store batch known
      have kept (other : Ref .store) (member : other ∈ store :: buffer :: buffers) :
          stamped.stores.get other = ended.stores.get other :=
        aside.kept other (buffered.made other member)
      have shown (other : Ref .store) : after.stores.get other =
          if store = other then .memory (MemoryStore.eventsIn stamped store ++ batch)
          else stamped.stores.get other := by
        rw [← same]
        exact Table.get_set _ _ _ _
      have added : MemoryStore.eventsIn after store =
          MemoryStore.eventsIn ended store ++ batch := by
        rw [MemoryStore.eventsIn, shown, if_pos rfl, eventsIn_congr (kept store List.mem_cons_self)]
      obtain ⟨apart, rest⟩ := List.nodup_cons.mp buffered.distinct
      have elsewhere (other : Ref .store) (member : other ∈ buffers) :
          after.stores.get other = ended.stores.get other := by
        refine (shown other).trans ((if_neg ?_).trans (kept other (.tail _ (.tail _ member))))
        rintro rfl
        exact apart (.tail _ member)
      refine ⟨⟨?_, List.nodup_cons.mpr ⟨fun member => apart (.tail _ member),
        (List.nodup_cons.mp rest).2⟩, fun other member => ?_, fun other member => ?_⟩, ?_, ?_⟩
      · show (stamped.applications.get ref).store = store
        rw [aside.applications]
        exact buffered.same
      · have madeBefore : other.index < ended.stores.nextRef.index :=
          buffered.made other (by rcases List.mem_cons.mp member with rfl | member <;> simp_all)
        exact Nat.lt_of_lt_of_le madeBefore
          (Nat.le_trans aside.made (Table.nextRef_le_set _ _ _))
      · rcases List.mem_cons.mp member with rfl | member
        · exact ⟨_, (shown other).trans (if_pos rfl)⟩
        · obtain ⟨held, memory⟩ := buffered.memory other (.tail _ (.tail _ member))
          exact ⟨held, (elsewhere other member).trans memory⟩
      · have others : gathered buffers after = gathered buffers ended := gathered_congr elsewhere
        show (gathered (store :: buffers) after).Perm _
        rw [gathered] at others ⊢
        rw [gathered, List.flatMap_cons, List.flatMap_cons, List.flatMap_cons, added, others,
          List.append_assoc]
        rfl
      · show _ <+: MemoryStore.eventsIn after store
        rw [added]
        exact List.prefix_append _ _

/-- What a run publishes is held when it ends, by the application's store or by a buffer that is
still open. -/
theorem Works.gathers (works : Works ref buffers before published after)
    (buffered : Buffered ref store buffers before) :
    Gathers ref store buffers before published after := by
  induction works with
  | idle idle => exact idle.gathers buffered
  | trans _ _ first second =>
      have gathers := first buffered
      exact gathers.trans (second gathers.buffered)
  | publish bound opened ran => exact gathers_publish buffered bound opened ran
  | send sent ok _ _ _ _ finding rehydrating handling reporting =>
      rcases send_eq_ok sent with ⟨fault, rfl⟩ | ⟨receiver, found, ended, events, stored, finds,
        executes, committed, reported⟩
      · cases ok
      obtain ⟨rehydrated, about, opens, handled, shown⟩ := id executes
      have first := finding finds buffered
      have second := rehydrating finds opens first.buffered
      obtain ⟨fresh, empty, sameStore⟩ := opens.buffered second.buffered
      have third := handling finds opens handled fresh
      rw [← shown] at committed
      obtain ⟨emptied, moved, kept⟩ := gathers_commit third.buffered first.buffered.same committed
      rw [shown] at committed
      have fourth := reporting finds executes committed reported emptied
      have handles : Gathers ref store _ rehydrated _ stored :=
        { buffered := emptied
          all := empty ▸ moved.trans third.all
          earlier := sameStore ▸ third.earlier.trans kept }
      exact ((first.trans second).trans handles).trans fourth

end Gathering

/-! ## What makes a run -/

section Stages

variable {handlers : Handlers D} {ref : Ref .application} {command : Ref .command}
  {receiver aggregate : Ref .aggregate} {buffers : List (Ref .store)}
  {start found rehydrated about ended after : System D} {published : List (Ref .event)}
  {result : CommandResult}

private theorem Idle.of_finds
    (constructs : ∀ factory, Act.Keeps (Idle ref) (handlers.construct factory command))
    (finds : Finds handlers ref command start receiver found) : Idle ref start found :=
  finds.lasts (fun _ _ known (idle : Idle ref _ _) => Act.Frame.trans known idle)
    (fun _ _ _ known => Act.Frame.trans known (constructs _ _)) (Act.Frame.refl start)

private theorem Idle.of_opens
    (native : ∀ description,
      found.stores.get (found.applications.get ref).store ≠ .foreign description)
    (sees : ∀ script aggregate event,
      Act.Keeps (Idle ref) (handlers.onEvent script aggregate event))
    (opens : Opens handlers ref command receiver found rehydrated about) :
    Idle ref found rehydrated := by
  obtain ⟨pairs, replayed⟩ := Store.replay_replayed handlers native
    (found.aggregates.get receiver).id () fun _ event =>
      Aggregate.handleEvent handlers receiver event
  have offered {before : System D} {event : Ref .event} {given : System D}
      (offers : Store.Offers (found.stores.get (found.applications.get ref).store) before event
        given) : Idle ref before given := by
    rw [offers.same]
    exact ⟨rfl, Nat.le_refl _, fun _ _ => rfl⟩
  have called (event : Ref .event) (system : System D) :
      Idle ref system (Aggregate.handleEvent handlers receiver event system).2 := by
    have handed : Idle ref system (Aggregate.handed receiver event system) :=
      moves_handed receiver event system
    cases script : ((Aggregate.handed receiver event system).aggregates.get receiver).script with
    | none =>
        rw [Aggregate.handleEvent_of_no_script script]
        exact handed
    | some known =>
        rw [Aggregate.handleEvent_of_script script]
        exact Act.Frame.trans handed (sees known receiver event _)
  have idle : Idle ref found
      (rehydrate handlers (found.applications.get ref).store receiver found).2 :=
    (replayed.hands.relates offered (fun pair _ _ => called pair.2 pair.1) Discreet.newFault).1
  rwa [opens.rehydrates] at idle

/-- Where nothing but the receiver of a command publishes, a run that sends the command is known
from what the receiver does for it. -/
theorem works_of_idle
    (native : ∀ description,
      start.stores.get (start.applications.get ref).store ≠ .foreign description)
    (made : (start.applications.get ref).store.index < start.stores.nextRef.index)
    (constructs : ∀ factory, Act.Keeps (Idle ref) (handlers.construct factory command))
    (sees : ∀ script aggregate event,
      Act.Keeps (Idle ref) (handlers.onEvent script aggregate event))
    (projects : ∀ projection event, Act.Keeps (Idle ref) (handlers.onProject projection event))
    (sent : send handlers ref command start = (.ok result, after)) (ok : result.isOk = true)
    (handles : ∀ {receiver found rehydrated about ended},
      Finds handlers ref command start receiver found →
      Opens handlers ref command receiver found rehydrated about →
      Command.execute handlers command about = (.ok (), ended) →
      Works ref (rehydrated.stores.nextRef :: buffers) about published ended) :
    Works ref buffers start published after := by
  have notes (system : System D) (log : Array LogRecord) (calls : Array Call) :
      Idle ref system { system with log, calls } :=
    ⟨rfl, Nat.le_refl _, fun _ _ => rfl⟩
  have reports (receiver : Ref .aggregate) (events : List (Ref .event)) :
      Act.Keeps (Idle ref) (report handlers ref command receiver events) :=
    keeps_report notes projects ref command receiver events
  have works : Works ref buffers start ([] ++ [] ++ published ++ []) after := by
    refine .send sent ok (fun finds => .idle (.of_finds constructs finds)) (fun finds opens => ?_)
      handles fun {receiver _ _ events stored} _ _ _ reported => ?_
    · have idle := Idle.of_finds constructs finds
      refine .idle (.of_opens (fun description => ?_) sees opens)
      rw [idle.store, idle.kept _ made]
      exact native description
    · have idle := reports receiver events stored
      rw [reported] at idle
      exact .idle idle
  rwa [List.nil_append, List.nil_append, List.append_nil] at works

/-- Executing a command is what the script of its receiver does for it. -/
private theorem works_execute {script : D.Script}
    (resolved : (about.commands.get command).receiver = some aggregate)
    (known : ((Aggregate.commanded aggregate command about).aggregates.get aggregate).script =
      some script)
    (ran : Command.execute handlers command about = (.ok (), ended))
    (handles : handlers.onCommand script aggregate command
        (Aggregate.commanded aggregate command about) = (.ok (), ended) →
      Works ref buffers (Aggregate.commanded aggregate command about) published ended) :
    Works ref buffers about published ended := by
  cases accepted : (Command.recordedErrors about command).isEmpty with
  | false =>
      obtain ⟨message, refused⟩ := Command.execute_of_refused handlers accepted
      cases refused.symm.trans ran
  | true =>
      rw [Command.execute_of_accepted accepted,
        Act.bind_of_ok (Command.resolveReceiver_of_receiver resolved)] at ran
      have given : Idle ref about (Aggregate.commanded aggregate command about) :=
        moves_commanded aggregate command about
      exact (Works.idle given).trans
        (handles ((Aggregate.handleCommand_of_script known).symm.trans ran))

end Stages

/-- Over a store in memory, what a run has published is in the store afterwards, behind what was
there; new events are there exactly once. -/
theorem published_events_stored_once {ref : Ref .application} {start after : System D}
    {held published : List (Ref .event)}
    (memory : start.stores.get (start.applications.get ref).store = .memory held)
    (made : (start.applications.get ref).store.index < start.stores.nextRef.index)
    (works : Works ref [] start published after) (distinct : published.Nodup)
    (fresh : ∀ event ∈ published, event ∉ held) :
    ∃ stored, after.stores.get (start.applications.get ref).store = .memory (held ++ stored) ∧
      stored.Perm published ∧ ∀ event ∈ published, (held ++ stored).count event = 1 := by
  let store := (start.applications.get ref).store
  have buffered : Buffered ref store [] start :=
    { same := rfl
      distinct := List.nodup_singleton store
      made := fun known member => by
        rw [List.mem_singleton.mp member]
        exact made
      memory := fun known member => by
        rw [List.mem_singleton.mp member]
        exact ⟨held, memory⟩ }
  have gathers := works.gathers buffered
  obtain ⟨all, shown⟩ := gathers.buffered.memory store List.mem_cons_self
  have before : MemoryStore.eventsIn start store = held := MemoryStore.eventsIn_of_get memory
  have last : MemoryStore.eventsIn after store = all := MemoryStore.eventsIn_of_get shown
  obtain ⟨stored, rfl⟩ : held <+: all := by
    have earlier := gathers.earlier
    rwa [before, last] at earlier
  have perm : (held ++ stored).Perm (held ++ published) := by
    have all := gathers.all
    rwa [gathered, gathered, List.flatMap_singleton, List.flatMap_singleton, before, last] at all
  refine ⟨stored, shown, (List.perm_append_left_iff held).mp perm, fun event member => ?_⟩
  rw [perm.count_eq, List.count_append, List.count_eq_zero.mpr (fresh event member),
    List.count_eq_one_of_mem distinct member]

end Application

/-- A domain like that of code that relays, but an aggregate does other things for other
commands: each step of its script is for one command. There are no projections. -/
def Domain.choosing : Domain :=
  { Domain.relaying with Script := List (Ref .command × Relay), Projection := Empty }

/-- One step of an aggregate, which fails if a command that it sends is refused. -/
def Relay.insist (send : Ref .command → Act Domain.choosing CommandResult)
    (aggregate : Ref .aggregate) : Relay → Act Domain.choosing Unit
  | .publish event => Aggregate.publish aggregate event
  | .send command => do
    if (← send command).isOk then pure () else Act.throw .failedExpectation

instance : DecidableEq Domain.choosing.Script :=
  inferInstanceAs (DecidableEq (List (Ref .command × Relay)))

def Handlers.choosingBy (send : Ref .command → Act Domain.choosing CommandResult) :
    Handlers Domain.choosing where
  construct factory _ := pure (some factory)
  onEvent _ _ _ := pure ()
  onCommand script aggregate command :=
    Act.forEach (fun step => Relay.insist send aggregate step.2) (script.filter (·.1 = command))
  onProject := nofun
  storeForeign := nofun
  replayForeign := nofun

/-- Code that sends commands to an application, so many inside one another at most. -/
def Handlers.choosing (ref : Ref .application) : Nat → Handlers Domain.choosing
  | 0 => choosingBy fun _ => Act.halt .exhausted
  | depth + 1 => choosingBy (Application.send (choosing ref depth) ref)

namespace Application

/-- For the first command an aggregate publishes two events and sends the second command in
between, for which it publishes one. -/
def sendingInsideScript : Domain.choosing.Script :=
  [(⟨0⟩, .publish ⟨0⟩), (⟨0⟩, .send ⟨1⟩), (⟨0⟩, .publish ⟨2⟩), (⟨1⟩, .publish ⟨1⟩)]

/-- An application with an empty store in memory, and two aggregates with the same script. The
first command is for the first of them, and the second command for the one given. -/
def sendingInside (inner : Ref .aggregate) : System Domain.choosing :=
  let event : LiveEvent :=
    { name := .text "added", streamId := .text "x", id := .text "", occurredOn := .null
      persistedAt := .null, payload := .own (.mapping []) }
  let command (receiver : Ref .aggregate) : Command Domain.choosing :=
    { name := "add", fields := [], idField := "id", errors := ⟨0⟩, factory := some receiver
      receiver := none, hasImplicitId := true }
  let aggregate : Aggregate Domain.choosing :=
    { id := "x", publisher := none, seen := [], handled := [], script := some sendingInsideScript }
  { events := ⟨#[event, event, event]⟩
    commands := ⟨#[command ⟨0⟩, command inner]⟩
    faults := ⟨#[.validation []]⟩
    aggregates := ⟨#[aggregate, aggregate]⟩
    stores := ⟨#[.memory []]⟩
    clocks := ⟨#[.showing .unixEpoch]⟩
    applications := ⟨#[{
      name := .text "app", store := ⟨0⟩, clock := ⟨0⟩, logger := "app", projections := [] }]⟩
    domain := () }

theorem insist_send_eq_ok {sends : Ref .command → Act Domain.choosing CommandResult}
    {aggregate : Ref .aggregate} {command : Ref .command} {before after : System Domain.choosing}
    (ran : Relay.insist sends aggregate (.send command) before = (.ok (), after)) :
    ∃ result, sends command before = (.ok result, after) ∧ result.isOk = true := by
  obtain ⟨result, middle, sent, checked⟩ := Act.bind_eq_ok ran
  cases ok : result.isOk with
  | false =>
      rw [ok] at checked
      cases checked
  | true =>
      rw [ok] at checked
      cases checked
      exact ⟨result, sent, ok⟩

/-- A run that sends a command to choosing code is known from the steps that its receiver's
script has for it. -/
private theorem works_choosing {command : Ref .command} (receiver : Ref .aggregate)
    (buffer : Ref .store) {buffers : List (Ref .store)} {published : List (Ref .event)}
    {start after : System Domain.choosing} {result : CommandResult}
    {sends : Ref .command → Act Domain.choosing CommandResult} {script : Domain.choosing.Script}
    (made : (start.applications.get ⟨0⟩).store.index < start.stores.nextRef.index)
    (sent : send (Handlers.choosingBy sends) ⟨0⟩ command start = (.ok result, after))
    (ok : result.isOk = true) :
    let handlers := Handlers.choosingBy sends
    let about := aboutFrom handlers ⟨0⟩ command receiver start
    let given := Aggregate.commanded receiver command about
    ((foundFrom handlers ⟨0⟩ command start).commands.get command).receiver = some receiver →
    (about.commands.get command).receiver = some receiver →
    (given.aggregates.get receiver).script = some script →
    (rehydratedFrom handlers ⟨0⟩ command receiver start).stores.nextRef = buffer →
    (∀ ended, Act.forEach (fun step => Relay.insist sends receiver step.2)
        (script.filter (·.1 = command)) given = (.ok (), ended) →
      Works ⟨0⟩ (buffer :: buffers) given published ended) →
    Works ⟨0⟩ buffers start published after := by
  intro handlers about given resolved still known fresh handles
  refine works_of_idle nofun made (fun _ => Act.keeps_pure _) (fun _ _ _ => Act.keeps_pure _)
    nofun sent ok fun {other found rehydrated last ended} finds opens ran => ?_
  obtain rfl : receiver = other := Option.some.inj (resolved.symm.trans finds.receiver_eq)
  obtain ⟨rfl, rfl⟩ := opens.systems_eq finds
  rw [fresh]
  exact works_execute still known ran (handles ended)

/-- The command inside another one is sent to an aggregate of its own. -/
private theorem works_sendingInside {after : System Domain.choosing} {result : CommandResult}
    (sent : send (Handlers.choosing ⟨0⟩ 1) ⟨0⟩ ⟨0⟩ (sendingInside ⟨1⟩) = (.ok result, after))
    (ok : result.isOk = true) :
    Works ⟨0⟩ [] (sendingInside ⟨1⟩) [⟨0⟩, ⟨1⟩, ⟨2⟩] after := by
  let start := sendingInside ⟨1⟩
  let inner := Handlers.choosing ⟨0⟩ 0
  let outer := Handlers.choosing ⟨0⟩ 1
  let given := Aggregate.commanded ⟨0⟩ ⟨0⟩ (aboutFrom outer ⟨0⟩ ⟨0⟩ ⟨0⟩ start)
  let first := (Aggregate.publish ⟨0⟩ ⟨0⟩ given).2
  let second := (send inner ⟨0⟩ ⟨1⟩ first).2
  refine works_choosing ⟨0⟩ ⟨1⟩ Nat.zero_lt_one sent ok (by decide +kernel) (by decide +kernel)
    (show _ = some sendingInsideScript by decide +kernel) (by decide +kernel) fun ended ran => ?_
  have steps : sendingInsideScript.filter (·.1 = ⟨0⟩) =
      [(⟨0⟩, .publish ⟨0⟩), (⟨0⟩, .send ⟨1⟩), (⟨0⟩, .publish ⟨2⟩)] := by
    decide
  rw [steps] at ran
  obtain ⟨_, _, publishes, ran⟩ := Act.bind_eq_ok ran
  obtain rfl : first = _ := congrArg Prod.snd publishes
  obtain ⟨_, _, insists, ran⟩ := Act.bind_eq_ok ran
  obtain ⟨resultInside, sentInside, okInside⟩ := insist_send_eq_ok insists
  obtain rfl : second = _ := congrArg Prod.snd sentInside
  obtain ⟨_, _, publishesAgain, ran⟩ := Act.bind_eq_ok ran
  cases ran
  have bound : (given.aggregates.get ⟨0⟩).publisher = some ⟨1⟩ := by decide +kernel
  have boundStill : (second.aggregates.get ⟨0⟩).publisher = some ⟨1⟩ := by decide +kernel
  have worksInside : Works ⟨0⟩ [⟨1⟩] first [⟨1⟩] second := by
    let given := Aggregate.commanded ⟨1⟩ ⟨1⟩ (aboutFrom inner ⟨0⟩ ⟨1⟩ ⟨1⟩ first)
    refine works_choosing ⟨1⟩ ⟨2⟩ (by decide +kernel) sentInside okInside (by decide +kernel)
      (by decide +kernel) (show _ = some sendingInsideScript by decide +kernel) (by decide +kernel)
      fun ended ran => ?_
    have steps : sendingInsideScript.filter (·.1 = ⟨1⟩) = [(⟨1⟩, .publish ⟨1⟩)] := by decide
    rw [steps] at ran
    obtain ⟨_, _, publishes, ran⟩ := Act.bind_eq_ok ran
    cases ran
    have bound : (given.aggregates.get ⟨1⟩).publisher = some ⟨2⟩ := by decide +kernel
    exact .publish bound (by decide) publishes
  exact (Works.publish bound (by decide) publishes).trans
    (worksInside.trans (.publish boundStill (by decide) publishesAgain))

theorem published_events_stored_once_sendingInside :
    let start := sendingInside ⟨1⟩
    let after := (send (Handlers.choosing ⟨0⟩ 1) ⟨0⟩ ⟨0⟩ start).2
    ∃ stored, after.stores.get ⟨0⟩ = .memory stored ∧ stored.Perm [⟨0⟩, ⟨1⟩, ⟨2⟩] := by
  intro start after
  have accepted : (send (Handlers.choosing ⟨0⟩ 1) ⟨0⟩ ⟨0⟩ start).1.toOption.map (·.isOk) =
      some true := by
    decide +kernel
  rcases ran : send (Handlers.choosing ⟨0⟩ 1) ⟨0⟩ ⟨0⟩ start with ⟨halt | result, last⟩
  · rw [ran] at accepted
    cases accepted
  rw [ran] at accepted
  obtain rfl : after = last := congrArg Prod.snd ran
  have memory : start.stores.get (start.applications.get ⟨0⟩).store = .memory [] := rfl
  obtain ⟨stored, holds, perm, -⟩ := published_events_stored_once memory Nat.zero_lt_one
    (works_sendingInside ran (Option.some.inj accepted)) (by decide) nofun
  have same : (start.applications.get ⟨0⟩).store = ⟨0⟩ := rfl
  rw [same, List.nil_append] at holds
  exact ⟨stored, holds, perm⟩

/-- Where both commands are for one aggregate, every command is executed, but what the aggregate
publishes after the inner one is not stored: it is left in the inner buffer. -/
theorem shared_receiver_loses_event :
    let outcome := send (Handlers.choosing ⟨0⟩ 1) ⟨0⟩ ⟨0⟩ (sendingInside ⟨0⟩)
    outcome.1.toOption.map (fun result => (result.isOk, result.events)) = some (true, [⟨0⟩]) ∧
      MemoryStore.eventsIn outcome.2 ⟨2⟩ = [⟨1⟩, ⟨2⟩] ∧
      MemoryStore.eventsIn outcome.2 ⟨0⟩ = [⟨1⟩, ⟨0⟩] := by
  decide +kernel

end Application

end EventSourcing
