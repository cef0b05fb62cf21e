import EventSourcing.Proofs.Store.LogContents
import EventSourcing.Proofs.Store.MemoryLaws

/-!
# What a replay hands over

A replay calls the code that it is given once for every event. `Hands` follows these calls,
whatever the code does in between: it may change the log that is being read, or raise. Every
event handed over matches the selection. As long as the code leaves the log as it reads, a
replay that ends hands over every event of the log that matches, in order, and one of a
log that can be read ends unless the code halts.
-/

set_option autoImplicit false

namespace EventSourcing

variable {D : Domain} {State : Type}

/-! ## The course of a replay -/

namespace Store

open LiveEvent (contentIn)

/-- How a replay comes by an event: a store in memory holds it already, one on disk makes
the event of a line and closes it. -/
def Offers (store : Store D) (before : System D) (event : Ref .event) (given : System D) : Prop :=
  match store with
  | .memory _ => given = before
  | .disk _ _ => ∃ content made, (∃ entries, content.payload = .mapping entries) ∧
      LiveEvent.create content before = (.ok event, made) ∧
      LiveEvent.sealEvent event made = (.ok (), given)
  | .foreign _ => False

/-- A run of a replay: the systems in which its step was called, each with the event that was
handed over, and how the run ended. -/
inductive Hands (offers : System D → Ref .event → System D → Prop)
    (step : State → Ref .event → Act D State) :
    State → System D → List (System D × Ref .event) → Except Halt State × System D → Prop
  | done {state : State} {system : System D} : Hands offers step state system [] (.ok state, system)
  | stops {state : State} {system : System D} (fault : Fault) :
      Hands offers step state system [] ((Act.throw fault : Act D State) system)
  | exhausted {state : State} {system : System D} :
      Hands offers step state system [] (.error .exhausted, system)
  | takes {state next : State} {before given middle : System D} {event : Ref .event}
      {handed : List (System D × Ref .event)} {outcome : Except Halt State × System D} :
      offers before event given → step state event given = (.ok next, middle) →
      Hands offers step next middle handed outcome →
      Hands offers step state before ((given, event) :: handed) outcome
  | raises {state : State} {before given after : System D} {event : Ref .event} {halt : Halt} :
      offers before event given → step state event given = (.error halt, after) →
      Hands offers step state before [(given, event)] (.error halt, after)

/-- What covers the offers, the calls of the step and the making of faults relates the first
system of a replay to those in which the step is called, and these to the last one. -/
theorem Hands.relates {offers : System D → Ref .event → System D → Prop}
    {step : State → Ref .event → Act D State} {state : State} {system : System D}
    {handed : List (System D × Ref .event)} {outcome : Except Halt State × System D}
    {relation : System D → System D → Prop} [Act.Frame relation]
    (hands : Hands offers step state system handed outcome)
    (offered : ∀ {before event given}, offers before event given → relation before given)
    (called : ∀ pair ∈ handed, ∀ state, relation pair.1 (step state pair.2 pair.1).2)
    (making : ∀ fault, Act.Keeps relation (Act.newFault fault)) :
    relation system outcome.2 ∧
      ∀ pair ∈ handed, relation system pair.1 ∧ relation pair.1 outcome.2 := by
  induction hands with
  | done => exact ⟨Act.Frame.refl _, by simp⟩
  | @stops state system fault =>
      have kept : Act.Keeps relation (Act.throw fault : Act D State) :=
        Act.keeps_throw making fault
      exact ⟨kept system, by simp⟩
  | exhausted => exact ⟨Act.Frame.refl _, by simp⟩
  | @takes state next before given middle event handed outcome offer ran _ ih =>
      have first := offered offer
      have second := called (given, event) List.mem_cons_self state
      rw [ran] at second
      obtain ⟨last, each⟩ := ih fun pair member => called pair (.tail _ member)
      have here := Act.Frame.trans first second
      refine ⟨Act.Frame.trans here last, fun pair member => ?_⟩
      rcases List.mem_cons.mp member with rfl | member
      · exact ⟨first, Act.Frame.trans second last⟩
      · obtain ⟨reached, rest⟩ := each pair member
        exact ⟨Act.Frame.trans here reached, rest⟩
  | @raises state before given after event halt offer ran =>
      have first := offered offer
      have second := called (given, event) List.mem_cons_self state
      rw [ran] at second
      refine ⟨Act.Frame.trans first second, fun pair member => ?_⟩
      rw [List.mem_singleton.mp member]
      exact ⟨first, second⟩

theorem Hands.offered {offers : System D → Ref .event → System D → Prop}
    {step : State → Ref .event → Act D State} {state : State} {system : System D}
    {handed : List (System D × Ref .event)} {outcome : Except Halt State × System D}
    (hands : Hands offers step state system handed outcome) :
    ∀ pair ∈ handed, ∃ before, offers before pair.2 pair.1 := by
  induction hands with
  | done | stops | exhausted => simp
  | takes offer _ _ ih =>
      intro pair member
      rcases List.mem_cons.mp member with rfl | member
      · exact ⟨_, offer⟩
      · exact ih pair member
  | raises offer _ =>
      intro pair member
      rw [List.mem_singleton.mp member]
      exact ⟨_, offer⟩

/-- A list that every call extends, and nothing else, collects what the calls add in the order of
the events. -/
theorem Hands.accumulates {Item : Type} {offers : System D → Ref .event → System D → Prop}
    {step : State → Ref .event → Act D State} {state last : State} {system : System D}
    {handed : List (System D × Ref .event)} {outcome : Except Halt State × System D}
    {view : System D → List Item} {added : Ref .event → List Item}
    (hands : Hands offers step state system handed outcome)
    (offered : ∀ {before event given}, offers before event given → view given = view before)
    (called : ∀ pair ∈ handed, ∀ state next after,
      step state pair.2 pair.1 = (.ok next, after) → view after = view pair.1 ++ added pair.2)
    (ended : outcome.1 = .ok last) :
    view outcome.2 = view system ++ handed.flatMap fun pair => added pair.2 := by
  induction hands with
  | done => exact (List.append_nil _).symm
  | stops | exhausted | raises => cases ended
  | @takes state next before given middle event handed outcome offer ran _ ih =>
      have here := called (given, event) List.mem_cons_self state next middle ran
      rw [ih (fun pair member => called pair (.tail _ member)) ended, here, offered offer,
        List.append_assoc, List.flatMap_cons]

theorem Hands.collect {offers : System D → Ref .event → System D → Prop}
    {seen read : List (Ref .event)} {system : System D} {handed : List (System D × Ref .event)}
    {outcome : Except Halt (List (Ref .event)) × System D}
    (hands : Hands offers Store.collect seen system handed outcome)
    (ended : outcome.1 = .ok read) : read = seen ++ handed.map Prod.snd := by
  induction hands with
  | done =>
      cases ended
      exact (List.append_nil _).symm
  | stops fault => cases ended
  | exhausted => cases ended
  | takes _ ran _ ih =>
      cases ran
      rw [ih ended, List.map_cons, List.append_assoc]
      rfl
  | raises _ ran => cases ran

/-! ## Events on offer -/

section Offering

variable {store : Store D} {path : Path} {clock : Ref .clock} {before given : System D}
  {event : Ref .event}

/-- Offering an event changes nothing but the tables of events and mappings. -/
theorem Offers.same (offers : Offers store before event given) :
    given = { before with events := given.events, mappings := given.mappings } := by
  cases store with
  | memory held =>
      obtain rfl : given = before := offers
      rfl
  | disk path clock =>
      obtain ⟨content, made, ⟨entries, payload⟩, created, closed⟩ := offers
      obtain ⟨_, last, creates, closes, -, -, same⟩ := LiveEvent.create_sealEvent payload before
      cases created.symm.trans creates
      cases closed.symm.trans closes
      exact same
  | foreign description => exact offers.elim

theorem Offers.keepsClosed (offers : Offers store before event given) :
    LiveEvent.KeepsClosed before given := by
  cases store with
  | memory held =>
      obtain rfl : given = before := offers
      exact Act.Frame.refl _
  | disk path clock =>
      obtain ⟨content, made, ⟨entries, payload⟩, created, closed⟩ := offers
      obtain ⟨_, last, creates, closes, shown, -⟩ := LiveEvent.create_sealEvent payload before
      cases created.symm.trans creates
      cases closed.symm.trans closes
      intro other known
      rw [shown, if_neg]
      rintro rfl
      exact LiveEvent.not_closed_nextRef before known
  | foreign description => exact offers.elim

theorem Offers.closed (offers : Offers (.disk path clock) before event given) :
    LiveEvent.Closed given event := by
  obtain ⟨content, made, ⟨entries, payload⟩, created, closed⟩ := offers
  obtain ⟨_, last, creates, closes, shown, -⟩ := LiveEvent.create_sealEvent payload before
  cases created.symm.trans creates
  cases closed.symm.trans closes
  exact LiveEvent.closed_of_get ((shown _).trans (if_pos rfl))

end Offering

/-- The contents of the events of a log, if all of it can be read. -/
def contents? (store : Store D) (system : System D) : Option (List Event) :=
  match store with
  | .memory held => some (held.map (contentIn system))
  | .disk path _ =>
    match system.files.read path with
    | .ok octets => (LogFile.eventsOf? (LogFile.records octets)).map (·.map Event.closed)
    | .error _ => none
  | .foreign _ => none

/-- The log reads as before. -/
def LogStays (store : Store D) (before after : System D) : Prop :=
  match store with
  | .memory held => ∀ event ∈ held, contentIn after event = contentIn before event
  | .disk path _ => ∀ octets, before.files.HasFile path octets → after.files.HasFile path octets
  | .foreign _ => True

theorem LogStays.refl (store : Store D) (system : System D) : LogStays store system system := by
  cases store with
  | memory held => exact fun _ _ => rfl
  | disk path clock => exact fun _ there => there
  | foreign description => trivial

/-- A replay that ends has handed over the events of a log that match, in order, and one of a
log that can be read ends unless its step halts. -/
structure Complete (contents? : Option (List Event)) (streamId : AnyText)
    (step : State → Ref .event → Act D State) (handed : List (System D × Ref .event))
    (result : Except Halt State) : Prop where
  all : ∀ state, result = .ok state → ∃ contents, contents? = some contents ∧
    handed.map (fun pair => contentIn pair.1 pair.2) = contents.filter (·.matchesStream streamId)
  halted : ∀ contents halt, contents? = some contents → result = .error halt →
    ∃ pair ∈ handed, ∃ state, (step state pair.2 pair.1).1 = .error halt

namespace Complete

variable {known? : Option (List Event)} {streamId : AnyText}
  {step : State → Ref .event → Act D State} {handed : List (System D × Ref .event)}
  {result : Except Halt State} {content : Event} {given : System D} {event : Ref .event}

theorem nil {state : State} : Complete (some []) streamId step [] (.ok state) := by
  constructor
  · intro _ _
    exact ⟨[], rfl, rfl⟩
  · intro _ _ _ halted
    cases halted

theorem refused {halt : Halt} : Complete none streamId step [] (.error halt) := by
  constructor
  · intro _ ended
    cases ended
  · intro _ _ none _
    cases none

theorem raise {state : State} {halt : Halt} {after : System D}
    (ran : step state event given = (.error halt, after)) :
    Complete known? streamId step [(given, event)] (.error halt) := by
  constructor
  · intro _ ended
    cases ended
  · intro _ _ _ halted
    cases halted
    exact ⟨_, List.mem_cons_self, state, congrArg Prod.fst ran⟩

theorem skip (rest : Complete known? streamId step handed result)
    (other : content.matchesStream streamId = false) :
    Complete (known?.map (content :: ·)) streamId step handed result := by
  constructor
  · intro state ended
    obtain ⟨contents, rfl, shown⟩ := rest.all state ended
    refine ⟨content :: contents, rfl, ?_⟩
    rw [shown, List.filter_cons_of_neg (by simp [other])]
  · intro _ halt shown halted
    obtain ⟨contents, known, rfl⟩ := Option.map_eq_some_iff.mp shown
    exact rest.halted contents halt known halted

theorem take (rest : Complete known? streamId step handed result)
    (shown : contentIn given event = content)
    (matching : content.matchesStream streamId = true) :
    Complete (known?.map (content :: ·)) streamId step ((given, event) :: handed) result := by
  constructor
  · intro state ended
    obtain ⟨contents, rfl, all⟩ := rest.all state ended
    refine ⟨content :: contents, rfl, ?_⟩
    rw [List.map_cons, all, shown, List.filter_cons, if_pos matching]
  · intro _ halt some halted
    obtain ⟨contents, known, rfl⟩ := Option.map_eq_some_iff.mp some
    obtain ⟨pair, member, found⟩ := rest.halted contents halt known halted
    exact ⟨pair, .tail _ member, found⟩

end Complete

/-- A replay of events held in memory ends unless its step halts, and hands over the very events
that match, in order, as long as no call changes which of them do. -/
structure HandsHeld (held : List (Ref .event)) (streamId : AnyText)
    (step : State → Ref .event → Act D State) (system : System D)
    (handed : List (System D × Ref .event)) (result : Except Halt State) : Prop where
  all : (∀ pair ∈ handed, ∀ state, ∀ event ∈ held,
      (contentIn (step state pair.2 pair.1).2 event).matchesStream streamId =
        (contentIn pair.1 event).matchesStream streamId) →
    ∀ state, result = .ok state → handed.map Prod.snd =
      held.filter fun event => (contentIn system event).matchesStream streamId
  halted : ∀ halt, result = .error halt →
    ∃ pair ∈ handed, ∃ state, (step state pair.2 pair.1).1 = .error halt

/-- What is known of a run of a replay: which calls it made, that every event handed over
matches, and that it is complete if no call changes how the log reads. -/
structure Replayed (store : Store D) (streamId : AnyText) (step : State → Ref .event → Act D State)
    (state : State) (system : System D) (handed : List (System D × Ref .event))
    (outcome : Except Halt State × System D) : Prop where
  hands : Hands (Offers store) step state system handed outcome
  matched : ∀ pair ∈ handed, (contentIn pair.1 pair.2).matchesStream streamId = true
  complete : (∀ pair ∈ handed, ∀ state, LogStays store pair.1 (step state pair.2 pair.1).2) →
    Complete (store.contents? system) streamId step handed outcome.1
  held : ∀ held, store = .memory held → HandsHeld held streamId step system handed outcome.1

end Store

/-! ## The store in memory -/

namespace MemoryStore

open LiveEvent (contentIn)
open Store (Replayed Complete)

/-- The step of a replay for one of the events held. -/
def pick (streamId : AnyText) (step : State → Ref .event → Act D State) (state : State)
    (event : Ref .event) : Act D State := do
  let content ← LiveEvent.content event
  if content.matchesStream streamId then step state event else pure state

section Picking

variable {streamId : AnyText} {step : State → Ref .event → Act D State} {state next : State}
  {event : Ref .event} {events : List (Ref .event)} {system middle after : System D}
  {handed : List (System D × Ref .event)} {outcome : Except Halt State × System D}

theorem pick_of_matching
    (matching : (contentIn system event).matchesStream streamId = true) :
    pick streamId step state event system = step state event system := by
  have read : LiveEvent.content event system = (.ok (contentIn system event), system) := rfl
  rw [pick, Act.bind_of_ok read, if_pos matching]

theorem pick_of_other
    (other : (contentIn system event).matchesStream streamId = false) :
    pick streamId step state event system = (.ok state, system) := by
  have read : LiveEvent.content event system = (.ok (contentIn system event), system) := rfl
  rw [pick, Act.bind_of_ok read, if_neg (by simp [other])]
  rfl

private theorem replayed_nil :
    Replayed (.memory []) streamId step state system [] (.ok state, system) := by
  refine ⟨.done, by simp, fun _ => .nil, ?_⟩
  rintro held same
  cases same
  exact ⟨fun _ _ _ => rfl, fun _ halted => by cases halted⟩

private theorem replayed_skip (other : (contentIn system event).matchesStream streamId = false)
    (rest : Replayed (.memory events) streamId step state system handed outcome) :
    Replayed (.memory (event :: events)) streamId step state system handed outcome := by
  refine ⟨rest.hands, rest.matched, fun keeps => ?_, ?_⟩
  · have complete := rest.complete fun pair member state known inside =>
      keeps pair member state known (.tail _ inside)
    exact complete.skip other
  · rintro held same
    cases same
    have kept := rest.held events rfl
    refine ⟨fun keeps state ended => ?_, kept.halted⟩
    rw [kept.all (fun pair member state known inside =>
      keeps pair member state known (.tail _ inside)) state ended,
      List.filter_cons_of_neg (by simp [other])]

private theorem replayed_raise {halt : Halt}
    (matching : (contentIn system event).matchesStream streamId = true)
    (ran : step state event system = (.error halt, after)) :
    Replayed (.memory (event :: events)) streamId step state system [(system, event)]
      (.error halt, after) := by
  refine ⟨.raises rfl ran, ?_, fun _ => .raise ran, ?_⟩
  · intro pair member
    rw [List.mem_singleton.mp member]
    exact matching
  · rintro held same
    refine ⟨fun _ _ ended => (by cases ended), fun _ halted => ?_⟩
    cases halted
    exact ⟨_, List.mem_cons_self, state, congrArg Prod.fst ran⟩

private theorem replayed_take (matching : (contentIn system event).matchesStream streamId = true)
    (ran : step state event system = (.ok next, middle))
    (rest : Replayed (.memory events) streamId step next middle handed outcome) :
    Replayed (.memory (event :: events)) streamId step state system ((system, event) :: handed)
      outcome := by
  have same (keeps : ∀ pair ∈ (system, event) :: handed, ∀ state,
      Store.LogStays (.memory (event :: events)) pair.1 (step state pair.2 pair.1).2) :
      ∀ other ∈ events, contentIn middle other = contentIn system other := by
    intro other inside
    have kept := keeps (system, event) (by simp) state other (.tail _ inside)
    rwa [ran] at kept
  refine ⟨.takes rfl ran rest.hands, ?_, fun keeps => ?_, ?_⟩
  · intro pair member
    rcases List.mem_cons.mp member with rfl | member
    · exact matching
    · exact rest.matched pair member
  · have complete := rest.complete fun pair member state known inside =>
      keeps pair (.tail _ member) state known (.tail _ inside)
    have shown : (Store.memory (D := D) events).contents? middle =
        some (events.map (contentIn system)) :=
      congrArg some (List.map_congr_left (same keeps))
    rw [shown] at complete
    exact complete.take rfl matching
  · rintro held shown
    cases shown
    have kept := rest.held events rfl
    refine ⟨fun keeps last ended => ?_, fun halt halted => ?_⟩
    · rw [List.map_cons, kept.all (fun pair member state known inside =>
        keeps pair (.tail _ member) state known (.tail _ inside)) last ended,
        List.filter_cons, if_pos matching]
      refine congrArg _ (List.filter_congr fun other inside => ?_)
      have unchanged := keeps (system, event) List.mem_cons_self state other (.tail _ inside)
      rwa [ran] at unchanged
    · obtain ⟨pair, member, found⟩ := kept.halted halt halted
      exact ⟨pair, .tail _ member, found⟩

private theorem fold_replayed (streamId : AnyText) (step : State → Ref .event → Act D State)
    (events : List (Ref .event)) (state : State) (system : System D) :
    ∃ handed, Replayed (.memory events) streamId step state system handed
      (Act.fold (pick streamId step) state events system) := by
  induction events generalizing state system with
  | nil => exact ⟨[], replayed_nil⟩
  | cons event events ih =>
      rw [Act.fold]
      cases matching : (contentIn system event).matchesStream streamId with
      | false =>
          obtain ⟨handed, rest⟩ := ih state system
          rw [Act.bind_of_ok (pick_of_other matching)]
          exact ⟨handed, replayed_skip matching rest⟩
      | true =>
          have picked : pick streamId step state event system = step state event system :=
            pick_of_matching matching
          rcases ran : step state event system with ⟨halt | next, middle⟩
          · rw [Act.bind_of_error (picked.trans ran)]
            exact ⟨_, replayed_raise matching ran⟩
          · obtain ⟨handed, rest⟩ := ih next middle
            rw [Act.bind_of_ok (picked.trans ran)]
            exact ⟨_, replayed_take matching ran rest⟩

end Picking

private theorem replay_replayed {handlers : Handlers D} {system : System D} {store : Ref .store}
    {held : List (Ref .event)} (holds : system.stores.get store = .memory held)
    (streamId : AnyText) (state : State) (step : State → Ref .event → Act D State) :
    ∃ handed, Replayed (.memory held) streamId step state system handed
      (Store.replay handlers store streamId state step system) := by
  have read : events store system = (.ok held, system) := by
    rw [events, Act.read_run, eventsIn_of_get holds]
  rw [store_replay holds, replay, Act.bind_of_ok read]
  exact fold_replayed streamId step held state system

end MemoryStore

/-! ## The store on disk -/

namespace DiskStore

open LiveEvent (contentIn)
open Store (Replayed Complete Hands Offers LogStays)

section Reading

variable {path : Path} {clock : Ref .clock} {streamId : AnyText}
  {step : State → Ref .event → Act D State} {state next : State}
  {offset number lines : Nat} {system given middle after : System D} {event : Ref .event}
  {handed : List (System D × Ref .event)} {outcome : Except Halt State × System D}

/-- What is known of a replay that has come to an offset of the file: as `Replayed`, for what
the file has behind it. -/
private structure ReplayedFrom (path : Path) (clock : Ref .clock) (streamId : AnyText)
    (step : State → Ref .event → Act D State) (offset lines : Nat) (state : State)
    (system : System D) (handed : List (System D × Ref .event))
    (outcome : Except Halt State × System D) : Prop where
  hands : Hands (Offers (.disk path clock)) step state system handed outcome
  matched : ∀ pair ∈ handed, (contentIn pair.1 pair.2).matchesStream streamId = true
  complete : (∀ pair ∈ handed, ∀ state,
      LogStays (.disk path clock) pair.1 (step state pair.2 pair.1).2) →
    ∀ content, system.files.HasFile path content →
      (LogFile.records (content.drop offset)).length < lines →
      Complete ((LogFile.eventsOf? (LogFile.records (content.drop offset))).map
        (·.map Event.closed)) streamId step handed outcome.1

private theorem readLine_of_error {fault : FileFault}
    (gone : system.files.read path = .error fault) :
    readLine path offset number system =
      (Act.throw (.file fault) : Act D (List UInt8 × Option Event)) system := by
  have refused : Act.ofExcept ((system.files.read path).mapError .file) system =
      (Act.throw (.file fault) : Act D (List UInt8)) system := by
    rw [gone]
    rfl
  rw [readLine, Act.bind_of_ok (Act.read_run _ _), Act.throw_run]
  exact Act.bind_of_error (refused.trans (Act.throw_run _ _))

private theorem eventsOf?_closed_cons {described : Option Event} {rest : List (List UInt8)}
    {octets : List UInt8} (shown : describe path number octets = .ok described) :
    (LogFile.eventsOf? (octets :: rest)).map (·.map Event.closed) =
      match described with
      | none => (LogFile.eventsOf? rest).map (·.map Event.closed)
      | some event =>
        ((LogFile.eventsOf? rest).map (·.map Event.closed)).map (event.closed :: ·) := by
  rw [eventsOf?_of_described shown]
  cases described <;> cases LogFile.eventsOf? rest <;> rfl

/-- A file that cannot be read stops the replay. -/
private theorem ReplayedFrom.unreadable (clock : Ref .clock) (streamId : AnyText)
    (step : State → Ref .event → Act D State) (lines : Nat) (state : State) {fault : FileFault}
    (gone : system.files.read path = .error fault) :
    ReplayedFrom path clock streamId step offset lines state system []
      ((Act.throw (.file fault) : Act D State) system) := by
  refine ⟨.stops (.file fault), by simp, fun _ content file => ?_⟩
  rw [FileTree.hasFile_read.mpr file] at gone
  cases gone

/-- At the end of the file the replay has its answer. -/
private theorem ReplayedFrom.ended (clock : Ref .clock) (streamId : AnyText)
    (step : State → Ref .event → Act D State) (lines : Nat) (state : State)
    {content : List UInt8} (file : system.files.HasFile path content)
    (none : content.drop offset = []) :
    ReplayedFrom path clock streamId step offset lines state system [] (.ok state, system) := by
  refine ⟨.done, by simp, fun _ known same _ => ?_⟩
  obtain rfl := file.unique same
  rw [none]
  exact .nil

/-- A line that does not describe an event stops the replay. -/
private theorem ReplayedFrom.refuses (clock : Ref .clock) (streamId : AnyText)
    (step : State → Ref .event → Act D State) (lines : Nat) (state : State)
    {content : List UInt8} {fault : Fault} (file : system.files.HasFile path content)
    (some : content.drop offset ≠ [])
    (refused : describe path number (LogFile.firstLine (content.drop offset)) = .error fault) :
    ReplayedFrom path clock streamId step offset lines state system []
      ((Act.throw fault : Act D State) system) := by
  refine ⟨.stops fault, by simp, fun _ known same _ => ?_⟩
  obtain rfl := file.unique same
  rw [LogFile.records_eq_cons some, eventsOf?_of_refused refused]
  exact .refused

/-- A line without an event that matches is passed over. -/
private theorem ReplayedFrom.pass {described : Option Event} {content : List UInt8}
    (file : system.files.HasFile path content) (some : content.drop offset ≠ [])
    (shown : describe path number (LogFile.firstLine (content.drop offset)) = .ok described)
    (other : ∀ event ∈ described, event.matchesStream streamId = false)
    (rest : ReplayedFrom path clock streamId step
      (offset + (LogFile.firstLine (content.drop offset)).length) lines state system handed
      outcome) :
    ReplayedFrom path clock streamId step offset (lines + 1) state system handed outcome := by
  refine ⟨rest.hands, rest.matched, fun keeps known same few => ?_⟩
  obtain rfl := file.unique same
  rw [LogFile.records_eq_cons some, List.drop_drop] at few ⊢
  have complete := rest.complete keeps known file (Nat.lt_of_succ_lt_succ few)
  rw [eventsOf?_closed_cons shown]
  cases described with
  | none => exact complete
  | some event =>
      have unlike : event.closed.matchesStream streamId = false := by
        rw [Event.matchesStream_closed]
        exact other event rfl
      exact complete.skip unlike

/-- The event of a line that matches is made and handed over. -/
private theorem ReplayedFrom.take {content : List UInt8} {described : Event}
    (file : system.files.HasFile path content) (some : content.drop offset ≠ [])
    (shown : describe path number (LogFile.firstLine (content.drop offset)) =
      .ok (Option.some described))
    (matching : described.matchesStream streamId = true)
    (offers : Offers (.disk path clock) system event given) (files : given.files = system.files)
    (made : contentIn given event = described.closed)
    (ran : step state event given = (.ok next, middle))
    (rest : ReplayedFrom path clock streamId step
      (offset + (LogFile.firstLine (content.drop offset)).length) lines next middle handed
      outcome) :
    ReplayedFrom path clock streamId step offset (lines + 1) state system ((given, event) :: handed)
      outcome := by
  rw [← Event.matchesStream_closed] at matching
  refine ⟨.takes offers ran rest.hands, ?_, fun keeps known same few => ?_⟩
  · intro pair member
    rcases List.mem_cons.mp member with rfl | member
    · rw [made]
      exact matching
    · exact rest.matched pair member
  · obtain rfl := file.unique same
    rw [LogFile.records_eq_cons some, List.drop_drop] at few ⊢
    have kept : middle.files.HasFile path known := by
      have stays := keeps (given, event) List.mem_cons_self state known (files ▸ file)
      rwa [ran] at stays
    have complete := rest.complete (fun pair member => keeps pair (.tail _ member)) known kept
      (Nat.lt_of_succ_lt_succ few)
    rw [eventsOf?_closed_cons shown]
    exact complete.take made matching

private theorem ReplayedFrom.raise {described : Event} {halt : Halt}
    (matching : described.matchesStream streamId = true)
    (offers : Offers (.disk path clock) system event given)
    (made : contentIn given event = described.closed)
    (ran : step state event given = (.error halt, after)) :
    ReplayedFrom path clock streamId step offset lines state system [(given, event)]
      (.error halt, after) := by
  refine ⟨.raises offers ran, ?_, fun _ _ _ _ => .raise ran⟩
  intro pair member
  rw [List.mem_singleton.mp member, made, Event.matchesStream_closed]
  exact matching

/-- The event of a line that matches is made, closed and handed over. -/
theorem replayLine_of_matching {content : Event} (path : Path) (clock : Ref .clock)
    (step : State → Ref .event → Act D State) (state : State) (system : System D)
    (holds : ∃ entries, content.payload = .mapping entries)
    (matching : content.matchesStream streamId = true) :
    ∃ event given, Offers (.disk path clock) system event given ∧
      replayLine streamId state step (some content) system = step state event given ∧
      contentIn given event = content.closed ∧ given.files = system.files := by
  obtain ⟨entries, payload⟩ := holds
  obtain ⟨made, given, created, closed, events, -, same⟩ :=
    LiveEvent.create_sealEvent payload system
  refine ⟨system.events.nextRef, given, ⟨_, _, ⟨_, payload⟩, created, closed⟩, ?_, ?_, by rw [same]⟩
  · rw [replayLine, if_pos matching, Act.bind_of_ok created, Act.bind_of_ok closed]
  · rw [Event.closed_of_mapping payload]
    refine LiveEvent.contentIn_sealedAs ?_
    rw [events, if_pos rfl]

theorem replayLine_of_other {described : Option Event}
    (other : ∀ event ∈ described, event.matchesStream streamId = false) :
    replayLine streamId state step described system = (.ok state, system) := by
  cases described with
  | none => rfl
  | some event =>
      rw [replayLine, if_neg (by simp [other event rfl])]
      rfl

/-- A line that is read has an event that is handed over, or it is passed over. -/
theorem replayLine_cases {octets : List UInt8} {described : Option Event} (clock : Ref .clock)
    (streamId : AnyText) (step : State → Ref .event → Act D State) (state : State)
    (system : System D) (shown : describe path number octets = .ok described) :
    (∃ content event given, described = some content ∧ content.matchesStream streamId = true ∧
      Offers (.disk path clock) system event given ∧ contentIn given event = content.closed ∧
      given.files = system.files ∧
      replayLine streamId state step described system = step state event given) ∨
    (∀ event ∈ described, event.matchesStream streamId = false) ∧
      replayLine streamId state step described system = (.ok state, system) := by
  by_cases some : ∃ content, described = Option.some content ∧
    content.matchesStream streamId = true
  · obtain ⟨content, rfl, matching⟩ := some
    obtain ⟨event, given, offers, line, made, files⟩ := replayLine_of_matching path clock step state
      system (payload_of_described shown) matching
    exact .inl ⟨content, event, given, rfl, matching, offers, made, files, line⟩
  · have other : ∀ event ∈ described, event.matchesStream streamId = false := by
      intro event member
      rw [Option.mem_def] at member
      exact eq_false_of_ne_true fun matching => some ⟨event, member, matching⟩
    exact .inr ⟨other, replayLine_of_other other⟩

/-- The course of a replay over the lines of a file, from an offset on: each line is read when it
is its turn, and the replay goes on behind it. -/
inductive Reads (path : Path) (clock : Ref .clock) (streamId : AnyText)
    (step : State → Ref .event → Act D State) :
    Nat → Nat → State → System D → List (System D × Ref .event) →
      Except Halt State × System D → Prop
  | exhausted {offset : Nat} {state : State} {system : System D} :
      Reads path clock streamId step 0 offset state system [] (.error .exhausted, system)
  | gone {lines offset : Nat} {state : State} {system : System D} {fault : FileFault} :
      system.files.read path = .error fault →
      Reads path clock streamId step (lines + 1) offset state system []
        ((Act.throw (.file fault) : Act D State) system)
  | ended {lines offset : Nat} {state : State} {system : System D} {content : List UInt8} :
      system.files.HasFile path content → content.drop offset = [] →
      Reads path clock streamId step (lines + 1) offset state system [] (.ok state, system)
  | refused {lines offset number : Nat} {state : State} {system : System D}
      {content : List UInt8} {fault : Fault} :
      system.files.HasFile path content → content.drop offset ≠ [] →
      describe path number (LogFile.firstLine (content.drop offset)) = .error fault →
      Reads path clock streamId step (lines + 1) offset state system []
        ((Act.throw fault : Act D State) system)
  | passed {lines offset number : Nat} {state : State} {system : System D}
      {content : List UInt8} {described : Option Event} {handed : List (System D × Ref .event)}
      {outcome : Except Halt State × System D} :
      system.files.HasFile path content → content.drop offset ≠ [] →
      describe path number (LogFile.firstLine (content.drop offset)) = .ok described →
      (∀ event ∈ described, event.matchesStream streamId = false) →
      Reads path clock streamId step lines
        (offset + (LogFile.firstLine (content.drop offset)).length) state system handed outcome →
      Reads path clock streamId step (lines + 1) offset state system handed outcome
  | taken {lines offset number : Nat} {state next : State} {system given middle : System D}
      {content : List UInt8} {described : Event} {event : Ref .event}
      {handed : List (System D × Ref .event)} {outcome : Except Halt State × System D} :
      system.files.HasFile path content → content.drop offset ≠ [] →
      describe path number (LogFile.firstLine (content.drop offset)) = .ok (some described) →
      described.matchesStream streamId = true →
      Offers (.disk path clock) system event given → given.files = system.files →
      contentIn given event = described.closed → step state event given = (.ok next, middle) →
      Reads path clock streamId step lines
        (offset + (LogFile.firstLine (content.drop offset)).length) next middle handed outcome →
      Reads path clock streamId step (lines + 1) offset state system ((given, event) :: handed)
        outcome
  | raised {lines offset number : Nat} {state : State} {system given after : System D}
      {content : List UInt8} {described : Event} {event : Ref .event} {halt : Halt} :
      system.files.HasFile path content → content.drop offset ≠ [] →
      describe path number (LogFile.firstLine (content.drop offset)) = .ok (some described) →
      described.matchesStream streamId = true →
      Offers (.disk path clock) system event given →
      contentIn given event = described.closed → step state event given = (.error halt, after) →
      Reads path clock streamId step (lines + 1) offset state system [(given, event)]
        (.error halt, after)

theorem replayFrom_reads (path : Path) (clock : Ref .clock) (streamId : AnyText)
    (step : State → Ref .event → Act D State) (lines : Nat) (state : State) (offset number : Nat)
    (system : System D) :
    ∃ handed, Reads path clock streamId step lines offset state system handed
      (replayFrom path streamId step state offset number lines system) := by
  induction lines generalizing state offset number system with
  | zero => exact ⟨[], .exhausted⟩
  | succ lines ih =>
      cases found : system.files.read path with
      | error fault =>
          have thrown : readLine path offset number system = _ :=
            (readLine_of_error found).trans (Act.throw_run _ _)
          rw [replayFrom, Act.bind_of_error thrown]
          exact ⟨[], .gone found⟩
      | ok content =>
          have file : system.files.HasFile path content := FileTree.hasFile_read.mp found
          by_cases none : content.drop offset = []
          · rw [replayFrom_end file none]
            exact ⟨[], .ended file none⟩
          rw [replayFrom_line file none]
          cases described : describe path number (LogFile.firstLine (content.drop offset)) with
          | error fault => exact ⟨[], .refused file none described⟩
          | ok shown =>
              have answered : Act.ofExcept (Except.ok shown) system = (.ok shown, system) := rfl
              rw [Act.bind_of_ok answered]
              rcases replayLine_cases clock streamId step state system described with
                ⟨event, _, given, rfl, matching, offers, made, files, line⟩ | ⟨other, line⟩
              · rcases ran : step state _ given with ⟨halt | next, middle⟩
                · rw [Act.bind_of_error (line.trans ran)]
                  exact ⟨_, .raised file none described matching offers made ran⟩
                · obtain ⟨handed, rest⟩ := ih next _ (number + 1) middle
                  rw [Act.bind_of_ok (line.trans ran)]
                  exact ⟨_, .taken file none described matching offers files made ran rest⟩
              · obtain ⟨handed, rest⟩ := ih state _ (number + 1) system
                rw [Act.bind_of_ok line]
                exact ⟨handed, .passed file none described other rest⟩

private theorem Reads.replayed
    (reads : Reads path clock streamId step lines offset state system handed outcome) :
    ReplayedFrom path clock streamId step offset lines state system handed outcome := by
  induction reads with
  | exhausted => exact ⟨.exhausted, by simp, fun _ _ _ few => absurd few (Nat.not_lt_zero _)⟩
  | gone found => exact .unreadable clock streamId step _ _ found
  | ended file none => exact .ended clock streamId step _ _ file none
  | refused file some refused => exact .refuses clock streamId step _ _ file some refused
  | passed file some described other _ ih => exact .pass file some described other ih
  | taken file some described matching offers files made ran _ ih =>
      exact .take file some described matching offers files made ran ih
  | raised _ _ _ matching offers made ran => exact .raise matching offers made ran

theorem Reads.hands
    (reads : Reads path clock streamId step lines offset state system handed outcome) :
    Hands (Offers (.disk path clock)) step state system handed outcome :=
  reads.replayed.hands

theorem Reads.matched
    (reads : Reads path clock streamId step lines offset state system handed outcome) :
    ∀ pair ∈ handed, (contentIn pair.1 pair.2).matchesStream streamId = true :=
  reads.replayed.matched

end Reading

/-- A replay of a file that is there reads it from its start. -/
theorem replay_reads (handlers : Handlers D) {system : System D} {store : Ref .store}
    {path : Path} {clock : Ref .clock} {content : List UInt8}
    (holds : system.stores.get store = .disk path clock)
    (file : system.files.HasFile path content) (streamId : AnyText) (state : State)
    (step : State → Ref .event → Act D State) :
    ∃ handed, Reads path clock streamId step (content.length + growthAllowance) 0 state system
      handed (Store.replay handlers store streamId state step system) := by
  rw [store_replay holds, replay, Act.bind_of_ok (Act.read_run _ _),
    FileTree.hasFile_read.mpr file]
  exact replayFrom_reads path clock streamId step _ state 0 1 system

private theorem replay_replayed {handlers : Handlers D} {system : System D} {store : Ref .store}
    {path : Path} {clock : Ref .clock} (holds : system.stores.get store = .disk path clock)
    (streamId : AnyText) (state : State) (step : State → Ref .event → Act D State) :
    ∃ handed, Replayed (.disk path clock) streamId step state system handed
      (Store.replay handlers store streamId state step system) := by
  cases found : system.files.read path with
  | error fault =>
      have none : (Store.disk (D := D) path clock).contents? system = Option.none := by
        rw [Store.contents?, found]
      rw [store_replay holds, replay, Act.bind_of_ok (Act.read_run _ _), found]
      dsimp only
      split <;> exact ⟨[], .stops _, by simp, fun _ => none ▸ .refused, fun _ same => by cases same⟩
  | ok content =>
      have file : system.files.HasFile path content := FileTree.hasFile_read.mp found
      have shown : (Store.disk (D := D) path clock).contents? system =
          (LogFile.eventsOf? (LogFile.records content)).map (·.map Event.closed) := by
        rw [Store.contents?, found]
      have size := LogFile.length_records_le content
      have enough : (LogFile.records (content.drop 0)).length <
          content.length + growthAllowance := by
        rw [List.drop_zero, growthAllowance]
        omega
      obtain ⟨handed, reads⟩ := replay_reads handlers holds file streamId state step
      have replayed := reads.replayed
      refine ⟨handed, replayed.hands, replayed.matched, fun keeps => ?_, ?_⟩
      · rw [shown]
        exact replayed.complete keeps content file enough
      · rintro _ same
        cases same

end DiskStore

/-- Every replay of a store in memory or on disk is known in this way. -/
theorem Store.replay_replayed (handlers : Handlers D) {system : System D} {store : Ref .store}
    (native : ∀ description, system.stores.get store ≠ .foreign description) (streamId : AnyText)
    (state : State) (step : State → Ref .event → Act D State) :
    ∃ handed, Replayed (system.stores.get store) streamId step state system handed
      (Store.replay handlers store streamId state step system) := by
  cases holds : system.stores.get store with
  | memory held => exact MemoryStore.replay_replayed holds streamId state step
  | disk path clock => exact DiskStore.replay_replayed holds streamId state step
  | foreign description => exact absurd holds (native description)

/-- What covers the making of faults, the offering of events and the calls of the step covers a
replay, if the code of a foreign store does. -/
theorem Store.keeps_replay {handlers : Handlers D} {relation : System D → System D → Prop}
    [Act.Frame relation] (making : ∀ fault, Act.Keeps relation (Act.newFault fault))
    (offered : ∀ {store before event given}, Offers store before event given →
      relation before given)
    {step : State → Ref .event → Act D State} (called : ∀ state event, Act.Keeps relation
      (step state event))
    {streamId : AnyText} {state : State} (foreign : ∀ description, Act.Keeps relation
      (handlers.replayForeign description streamId state step)) (store : Ref .store) :
    Act.Keeps relation (replay handlers store streamId state step) := by
  intro system
  by_cases native : ∀ description, system.stores.get store ≠ .foreign description
  · obtain ⟨handed, replayed⟩ := replay_replayed handlers native streamId state step
    exact (replayed.hands.relates offered (fun pair _ state => called state pair.2 pair.1) making).1
  · simp only [ne_eq, not_forall, not_not] at native
    obtain ⟨description, holds⟩ := native
    simp only [replay, bind, Act.bind, Act.read, holds]
    exact foreign description system

end EventSourcing
