import EventSourcing.Proofs.Store.Handover

/-!
# Replays over the lines of a log

While a log stays as it is, a replay takes one line of it after another. `Course` says how that
goes on: the lines are read and their events handed over, until there is no line left, a line is
refused, or the step raises at the event of one. Whatever the step does, the replay takes one of
these courses.
-/

set_option autoImplicit false

namespace EventSourcing

variable {D : Domain} {State : Type}

namespace Store

/-- A run that has handed over some events and goes on with others is one that hands over all. -/
theorem Hands.append {offers : System D → Ref .event → System D → Prop}
    {step : State → Ref .event → Act D State} {state next : State} {system middle : System D}
    {handed further : List (System D × Ref .event)} {outcome : Except Halt State × System D}
    (hands : Hands offers step state system handed (.ok next, middle))
    (rest : Hands offers step next middle further outcome) :
    Hands offers step state system (handed ++ further) outcome := by
  generalize reached : (Except.ok next, middle) = first at hands
  induction hands with
  | done =>
    cases reached
    exact rest
  | stops | exhausted | raises => cases reached
  | takes offer ran _ ih => exact .takes offer ran (ih reached)

end Store

namespace DiskStore

open LiveEvent (contentIn)
open Store (Hands Offers)

/-- All of the lines were read, and the events among them that match were handed over in order. -/
def Handover (streamId : AnyText) (lines : List (List UInt8))
    (handed : List (System D × Ref .event)) : Prop :=
  ∃ contents, LogFile.eventsOf? lines = some contents ∧
    handed.map (fun pair => contentIn pair.1 pair.2) =
      (contents.filter (·.matchesStream streamId)).map Event.closed

section Lines

variable {path : Path} {streamId : AnyText} {number : Nat} {line : List UInt8}
  {lines rest : List (List UInt8)} {handed : List (System D × Ref .event)} {given : System D}
  {content : Event} {event : Ref .event}

theorem Handover.skip {described : Option Event} (handover : Handover streamId rest handed)
    (shown : describe path number line = .ok described)
    (other : ∀ event ∈ described, event.matchesStream streamId = false) :
    Handover streamId (line :: rest) handed := by
  obtain ⟨contents, known, all⟩ := handover
  refine ⟨described.toList ++ contents, ?_, ?_⟩
  · rw [eventsOf?_of_described shown, known]
    rfl
  · rw [all, List.filter_append]
    cases described with
    | none => rfl
    | some event =>
      rw [Option.toList_some, List.filter_singleton, other event rfl]
      rfl

theorem Handover.take (handover : Handover streamId rest handed)
    (shown : describe path number line = .ok (some content))
    (matching : content.matchesStream streamId = true)
    (made : contentIn given event = content.closed) :
    Handover streamId (line :: rest) ((given, event) :: handed) := by
  obtain ⟨contents, known, all⟩ := handover
  refine ⟨content :: contents, ?_, ?_⟩
  · rw [eventsOf?_of_described shown, known]
    rfl
  · rw [List.map_cons, all, made, List.filter_cons, if_pos matching, List.map_cons]

theorem Handover.matched (handover : Handover streamId lines handed) :
    ∀ pair ∈ handed, (contentIn pair.1 pair.2).matchesStream streamId = true := by
  obtain ⟨contents, -, all⟩ := handover
  intro pair member
  have shown := List.mem_map_of_mem (f := fun pair => contentIn pair.1 pair.2) member
  rw [all] at shown
  obtain ⟨content, found, same⟩ := List.mem_map.mp shown
  rw [← same, Event.matchesStream_closed]
  exact (List.mem_filter.mp found).2

theorem handover_nil : Handover (D := D) streamId [] [] :=
  ⟨[], rfl, rfl⟩

end Lines

/-- Lines that a replay has read, and the run that handed over their events. -/
structure Covers (path : Path) (clock : Ref .clock) (streamId : AnyText)
    (step : State → Ref .event → Act D State) (state : State) (system : System D)
    (lines : List (List UInt8)) (handed : List (System D × Ref .event)) (last : State)
    (reached : System D) : Prop where
  handover : Handover streamId lines handed
  hands : Hands (Offers (.disk path clock)) step state system handed (.ok last, reached)

/-- The course of a replay over lines, the first of which has a number. -/
inductive Course (path : Path) (clock : Ref .clock) (streamId : AnyText)
    (step : State → Ref .event → Act D State) (number : Nat) (state : State) (system : System D)
    (lines : List (List UInt8)) :
    List (System D × Ref .event) → Except Halt State × System D → Prop
  | whole {handed : List (System D × Ref .event)} {last : State} {reached : System D} :
      Covers path clock streamId step state system lines handed last reached →
      Course path clock streamId step number state system lines handed (.ok last, reached)
  | refused {front rest : List (List UInt8)} {line : List UInt8} {fault : Fault}
      {handed : List (System D × Ref .event)} {last : State} {reached : System D} :
      lines = front ++ line :: rest →
      Covers path clock streamId step state system front handed last reached →
      describe path (number + front.length) line = .error fault →
      Course path clock streamId step number state system lines handed
        ((Act.throw fault : Act D State) reached)
  | raised {front rest : List (List UInt8)} {line : List UInt8} {content : Event}
      {handed : List (System D × Ref .event)} {last : State} {reached given after : System D}
      {event : Ref .event} {halt : Halt} :
      lines = front ++ line :: rest →
      Covers path clock streamId step state system front handed last reached →
      describe path (number + front.length) line = .ok (some content) →
      content.matchesStream streamId = true → Offers (.disk path clock) reached event given →
      contentIn given event = content.closed → step last event given = (.error halt, after) →
      Course path clock streamId step number state system lines (handed ++ [(given, event)])
        (.error halt, after)

section Courses

variable {path : Path} {clock : Ref .clock} {streamId : AnyText}
  {step : State → Ref .event → Act D State} {number : Nat} {state next : State}
  {system middle : System D} {line : List UInt8} {lines rest : List (List UInt8)}
  {handed : List (System D × Ref .event)} {outcome : Except Halt State × System D}

theorem covers_nil : Covers path clock streamId step state system [] [] state system :=
  ⟨handover_nil, .done⟩

/-- The run of a course is that of the lines that were read, and the stop behind it. -/
theorem Course.hands
    (course : Course path clock streamId step number state system lines handed outcome) :
    Hands (Offers (.disk path clock)) step state system handed outcome := by
  cases course with
  | whole covers => exact covers.hands
  | refused _ covers _ =>
    rw [← List.append_nil handed]
    exact covers.hands.append (.stops _)
  | raised _ covers _ _ offers _ ran => exact covers.hands.append (.raises offers ran)

theorem Course.covers {last : State} {reached : System D}
    (course : Course path clock streamId step number state system lines handed
      (.ok last, reached)) :
    Covers path clock streamId step state system lines handed last reached := by
  generalize ended : (Except.ok last, reached) = outcome at course
  cases course with
  | whole covers =>
    cases ended
    exact covers
  | refused | raised => cases ended

/-- A course over the lines behind a first one is a course over all of them, if what was read
behind it can be put behind what was made of it. -/
private theorem Course.prepend (before : List (System D × Ref .event))
    (course : Course path clock streamId step (number + 1) next middle rest handed outcome)
    (here : ∀ {front handed last reached},
      Covers path clock streamId step next middle front handed last reached →
      Covers path clock streamId step state system (line :: front) (before ++ handed) last
        reached) :
    Course path clock streamId step number state system (line :: rest) (before ++ handed)
      outcome := by
  have place (front : List (List UInt8)) :
      number + 1 + front.length = number + (line :: front).length := by
    rw [List.length_cons]
    omega
  cases course with
  | whole covers => exact .whole (here covers)
  | refused shape covers refused =>
    rw [place] at refused
    exact .refused (congrArg (line :: ·) shape) (here covers) refused
  | raised shape covers described matching offers made ran =>
    rw [place] at described
    rw [← List.append_assoc]
    exact .raised (congrArg (line :: ·) shape) (here covers) described matching offers made ran

theorem replayRecords_course (path : Path) (clock : Ref .clock) (streamId : AnyText)
    (step : State → Ref .event → Act D State) (lines : List (List UInt8)) (number : Nat)
    (state : State) (system : System D) :
    ∃ handed, Course path clock streamId step number state system lines handed
      (replayRecords path streamId step number state lines system) := by
  induction lines generalizing number state system with
  | nil => exact ⟨[], .whole covers_nil⟩
  | cons line rest ih =>
    rw [replayRecords]
    cases shown : describe path number line with
    | error fault => exact ⟨[], .refused rfl covers_nil shown⟩
    | ok described =>
      have read : (Act.ofExcept (.ok described) : Act D (Option Event)) system =
          (.ok described, system) := rfl
      rw [Act.bind_of_ok read]
      rcases replayLine_cases clock streamId step state system shown with
        ⟨content, event, given, rfl, matching, offers, made, -, line⟩ | ⟨other, line⟩
      · rcases ran : step state event given with ⟨halt | next, middle⟩
        · rw [Act.bind_of_error (line.trans ran)]
          exact ⟨_, .raised rfl covers_nil shown matching offers made ran⟩
        · rw [Act.bind_of_ok (line.trans ran)]
          obtain ⟨handed, course⟩ := ih (number + 1) next middle
          exact ⟨_, course.prepend [(given, event)] fun covers =>
            ⟨covers.handover.take shown matching made, .takes offers ran covers.hands⟩⟩
      · rw [Act.bind_of_ok line]
        obtain ⟨handed, course⟩ := ih (number + 1) state system
        exact ⟨_, course.prepend [] fun covers =>
          ⟨covers.handover.skip shown other, covers.hands⟩⟩

end Courses

end DiskStore

end EventSourcing
