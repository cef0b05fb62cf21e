import EventSourcing.Proofs.Application.DeliveredIdentifier
import EventSourcing.Proofs.Command.Interleaving

/-!
# Texts of an acknowledged command

Acknowledging a command writes the field of the time, and the identifying field if it was empty.
`Draft.Settled` is what one acknowledgment keeps: every other field has its text, and an identifier
is there and stays. Two acknowledgments settle a draft as one does, so that any number of them
keeps what the first one left. The field of the time is a field like others, though: a parameter
that is declared under its name is overwritten.
-/

set_option autoImplicit false

namespace EventSourcing

variable {D : Domain}

/-! ## One acknowledgment -/

namespace Draft

variable {draft middle last : Draft}

def textOf (name : String) (draft : Draft) : Option String :=
  (draft.fields.lookup name).map Parameter.shown

theorem aggregateId_eq (draft : Draft) :
    draft.aggregateId = (draft.textOf draft.idField).getD "" := by
  simp only [aggregateId, textOf]
  cases draft.fields.lookup draft.idField <;> rfl

theorem textOf_put (field name : String) (parameter : Parameter) (draft : Draft) :
    (draft.put field parameter).textOf name =
      if name = field then some parameter.shown else draft.textOf name := by
  simp only [textOf, put, lookup_putNamed]
  split <;> rfl

theorem aggregateId_put_idField (parameter : Parameter) (draft : Draft) :
    (draft.put draft.idField parameter).aggregateId = parameter.shown := by
  simp only [aggregateId, put, lookup_putNamed, if_true]

/-- A draft was acknowledged: the texts are as they were, but for the time and an identifier that
was empty, which is empty no longer. -/
structure Settled (draft last : Draft) : Prop where
  idField : last.idField = draft.idField
  texts : ∀ name, name ≠ Command.nowField → (name = draft.idField → draft.aggregateId ≠ "") →
    last.textOf name = draft.textOf name
  named : draft.idField ≠ Command.nowField → last.aggregateId ≠ ""

namespace Settled

theorem aggregateId (settled : Settled draft last) (differs : draft.idField ≠ Command.nowField)
    (given : draft.aggregateId ≠ "") : last.aggregateId = draft.aggregateId := by
  rw [aggregateId_eq, aggregateId_eq, settled.idField,
    settled.texts draft.idField differs fun _ => given]

/-- Where a draft was settled before, no text but the time's is changed. -/
theorem textOf_again (first : Settled draft middle) (second : Settled middle last) {name : String}
    (other : name ≠ Command.nowField) : last.textOf name = middle.textOf name := by
  refine second.texts name other ?_
  rintro rfl
  rw [first.idField] at other
  exact first.named other

theorem trans (first : Settled draft middle) (second : Settled middle last) :
    Settled draft last where
  idField := second.idField.trans first.idField
  texts name other given := (first.textOf_again second other).trans (first.texts name other given)
  named differs := by
    rw [← first.idField] at differs
    exact second.named differs

end Settled

/-- A reading that can be counted from the epoch settles a draft. -/
theorem settled_acknowledge {reading : Moment} {nanoseconds : Int}
    (counted : reading.unixNanoseconds? = some nanoseconds) (draft : Draft) :
    ∃ last, draft.acknowledge reading = .ok last ∧ Settled draft last := by
  let stamped := draft.put Command.nowField (.time (some reading))
  let identifier := String.ofList (DecimalText.ofInt nanoseconds)
  have stampedTexts {name : String} (other : name ≠ Command.nowField) :
      stamped.textOf name = draft.textOf name :=
    (textOf_put _ _ _ _).trans (if_neg other)
  have stampedId (differs : draft.idField ≠ Command.nowField) :
      stamped.aggregateId = draft.aggregateId := by
    rw [aggregateId_eq, aggregateId_eq]
    exact congrArg (·.getD "") (stampedTexts differs)
  by_cases unnamed : stamped.aggregateId = ""
  · refine ⟨stamped.put draft.idField (.exactly identifier), ?_, rfl, ?_, fun _ => ?_⟩
    · simp only [acknowledge, stamped, counted, if_pos unnamed, identifier]
    · intro name other given
      rw [textOf_put, if_neg, stampedTexts other]
      rintro rfl
      exact given rfl ((stampedId other).symm.trans unnamed)
    · have called : (stamped.put draft.idField (.exactly identifier)).aggregateId = identifier :=
        aggregateId_put_idField (.exactly identifier) stamped
      rw [called]
      exact ((Parameter.isIdentifier_iff _).mp (Parameter.isIdentifier_ofInt nanoseconds)).1
  · refine ⟨stamped, ?_, rfl, fun name other _ => stampedTexts other, fun _ => unnamed⟩
    simp only [acknowledge, stamped, if_neg unnamed]

end Draft

/-! ## Any number of acknowledgments -/

/-- The moments that can be counted from the epoch are those with an offset. -/
theorem Moment.isSome_unixNanoseconds? (moment : Moment) :
    moment.unixNanoseconds?.isSome = moment.offset.isSome := by
  simp only [unixNanoseconds?, instant?, Option.isSome_map]

/-- Every reading of the clock is a moment that has an offset. -/
def Clock.IsAware (clock : Clock) : Prop :=
  ∀ number, ∃ moment, clock.readings number = .ok moment ∧ moment.offset.isSome

theorem Clock.isAware_showing {moment : Moment} (aware : moment.offset.isSome) :
    (Clock.showing moment).IsAware :=
  fun _ => ⟨moment, rfl, aware⟩

namespace Command

section Acknowledging

variable {command : Ref .command} {clock : Ref .clock} {system : System D}

def textOf (system : System D) (command : Ref .command) (name : String) : Option String :=
  ((system.commands.get command).fields.lookup name).map fun slot =>
    (system.parameters.get slot).shown

theorem textOf_eq (system : System D) (command : Ref .command) (name : String) :
    textOf system command name = (draftIn system command).textOf name := by
  simp only [textOf, Draft.textOf, draftIn, lookup_map, Option.map_map]
  rfl

private theorem keeps_isAware_acknowledge (command : Ref .command) (clock reader : Ref .clock) :
    Act.Keeps (Act.Along fun system : System D => (system.clocks.get reader).IsAware)
      (acknowledge command clock) := by
  apply keeps_acknowledge_of_steps
  · exact fun fault system => id
  · intro system aware
    simp only [LiveEvent.ticked, Table.get_set]
    split
    · rename_i same
      rw [same]
      exact aware
    · exact aware
  · exact fun parameter system => id
  · exact fun edit system => id

/-- A command is acknowledged by a clock whose readings have an offset, and settled. All such
clocks stay so. -/
theorem acknowledge_settles (owns : Owns command system)
    (aware : (system.clocks.get clock).IsAware) :
    ∃ after, acknowledge command clock system = (.ok (), after) ∧ Owns command after ∧
      (draftIn system command).Settled (draftIn after command) ∧
      ∀ reader, (system.clocks.get reader).IsAware → (after.clocks.get reader).IsAware := by
  obtain ⟨moment, reading, offset⟩ := aware (system.clocks.get clock).taken
  rw [← moment.isSome_unixNanoseconds?] at offset
  obtain ⟨nanoseconds, counted⟩ := Option.isSome_iff_exists.mp offset
  obtain ⟨last, acknowledged, settled⟩ :=
    Draft.settled_acknowledge counted (draftIn system command)
  have redrafts := redrafts_acknowledge owns reading
  rw [acknowledged] at redrafts
  rcases ran : acknowledge command clock system with ⟨halt | _, after⟩
  · rw [ran] at redrafts
    cases redrafts.shows
  · rw [ran] at redrafts
    have shows : Except.ok last = .ok (draftIn after command) := redrafts.shows
    cases shows
    refine ⟨after, rfl, redrafts.owns, settled, fun reader known => ?_⟩
    have kept := keeps_isAware_acknowledge command clock reader system
    rw [ran] at kept
    exact kept known

/-- However often a settled command is acknowledged, it stays settled and keeps its texts. -/
theorem forEach_acknowledge_settles {first : Draft} {clocks : List (Ref .clock)}
    (owns : Owns command system) (settled : first.Settled (draftIn system command))
    (aware : ∀ reader ∈ clocks, (system.clocks.get reader).IsAware) :
    ∃ last, Act.forEach (acknowledge command) clocks system = (.ok (), last) ∧
      first.Settled (draftIn last command) ∧
      ∀ name, name ≠ nowField →
        (draftIn last command).textOf name = (draftIn system command).textOf name := by
  induction clocks generalizing system with
  | nil => exact ⟨system, rfl, settled, fun _ _ => rfl⟩
  | cons clock clocks ih =>
    obtain ⟨after, ran, ownsAfter, again, still⟩ :=
      acknowledge_settles owns (aware clock List.mem_cons_self)
    obtain ⟨last, rest, settledLast, texts⟩ := ih ownsAfter (settled.trans again)
      fun reader member => still reader (aware reader (.tail _ member))
    refine ⟨last, ?_, settledLast, fun name other => ?_⟩
    · rw [Act.forEach, Act.bind_of_ok ran, rest]
    · exact (texts name other).trans (settled.textOf_again again other)

end Acknowledging

/-- Of a command that was made from a definition and filled in any way, acknowledging changes no
text but that of the time and of an identifier that was empty. From then on the identifier is there,
and every text stays through further acknowledgments. For the identifier itself, the identifying
field must not be the field of the time. -/
theorem acknowledging_keeps_texts {start : System D} (grounded : start.Grounded)
    {moves : List (Move D)} (refers : ∀ move ∈ moves, move.Refers start) {label : String}
    {command : Ref .command} (made : (Desk.after start moves).commands label = some command)
    {clock : Ref .clock} {later : List (Ref .clock)}
    (aware : ∀ reader ∈ clock :: later,
      ((Desk.after start moves).system.clocks.get reader).IsAware) :
    let before := (Desk.after start moves).system
    let idField := (before.commands.get command).idField
    ∃ after last, acknowledge command clock before = (.ok (), after) ∧
      Act.forEach (acknowledge command) later after = (.ok (), last) ∧
      (∀ name, name ≠ nowField → (name = idField → aggregateIdIn before command ≠ "") →
        textOf after command name = textOf before command name) ∧
      (∀ name, name ≠ nowField → textOf last command name = textOf after command name) ∧
      (idField ≠ nowField → aggregateIdIn after command ≠ "" ∧
        aggregateIdIn last command = aggregateIdIn after command ∧
        (aggregateIdIn before command ≠ "" →
          aggregateIdIn last command = aggregateIdIn before command)) := by
  intro before idField
  have owns : Owns command before :=
    (((Tidy.opening grounded).run grounded refers).1.made label command made).owns
  obtain ⟨after, ran, ownsAfter, settled, still⟩ :=
    acknowledge_settles owns (aware clock List.mem_cons_self)
  obtain ⟨last, rest, settledLast, texts⟩ := forEach_acknowledge_settles ownsAfter settled
    fun reader member => still reader (aware reader (.tail _ member))
  simp only [textOf_eq, aggregateIdIn_eq]
  refine ⟨after, last, ran, rest, settled.texts, texts, fun differs => ?_⟩
  refine ⟨settled.named differs, ?_, settledLast.aggregateId differs⟩
  rw [Draft.aggregateId_eq, Draft.aggregateId_eq, settledLast.idField, settled.idField,
    texts (draftIn before command).idField differs]

/-- A definition that declares a note and no identifier, one whose identifier is called as the time
is, and clocks that show two hours before the epoch and the epoch. -/
def noted : System Domain.bare :=
  { parameters := ⟨#[.text "" "" Sanitizer.trimming, .identifier ""]⟩
    definitions := ⟨#[
      { name := "post", fields := [("note", ⟨0⟩)], idField := "id", factory := none },
      { name := "tick", fields := [("now", ⟨1⟩)], idField := "now", factory := none }]⟩
    clocks := ⟨#[
      .showing { Moment.unixEpoch with offset := some { microseconds := 7200000000 } },
      .showing Moment.unixEpoch]⟩
    domain := () }

private theorem noted_grounded : noted.Grounded := by
  apply System.grounded_of_all
  · decide
  · intro parameter member
    rcases List.mem_cons.mp (Array.mem_toList_iff.mpr member) with rfl | member
    · intro submitted refusal fault refuses
      cases refuses
    · rw [List.mem_singleton.mp member]
      exact Parameter.grounded_identifier ""

/-- A command without an identifier is called after its first acknowledgment, and keeps that
identifier and its note when it is acknowledged again. -/
theorem acknowledging_keeps_texts_noted :
    let moves : List (Move Domain.bare) :=
      [.create "first" ⟨0⟩ none, .edit "first" (.set "note" " later ")]
    let before := (Desk.after noted moves).system
    noted.Grounded ∧ (∀ move ∈ moves, move.Refers noted) ∧
      (Desk.after noted moves).commands "first" = some ⟨0⟩ ∧
      (∀ reader ∈ [⟨0⟩, ⟨1⟩, ⟨0⟩], (before.clocks.get reader).IsAware) ∧
      aggregateIdIn before ⟨0⟩ = "" ∧
      ∃ after last, acknowledge ⟨0⟩ ⟨0⟩ before = (.ok (), after) ∧
        Act.forEach (acknowledge ⟨0⟩) [⟨1⟩, ⟨0⟩] after = (.ok (), last) ∧
        textOf last ⟨0⟩ "note" = some "later" ∧
        aggregateIdIn last ⟨0⟩ = "-7200000000000" := by
  intro moves before
  have refers : ∀ move ∈ moves, move.Refers noted := by
    intro move member
    rcases List.mem_cons.mp member with rfl | member
    · trivial
    · rw [List.mem_singleton.mp member]
      trivial
  have made : (Desk.after noted moves).commands "first" = some ⟨0⟩ := rfl
  have aware : ∀ reader ∈ [⟨0⟩, ⟨1⟩, ⟨0⟩], (before.clocks.get reader).IsAware := by
    intro reader member
    simp only [List.mem_cons, List.not_mem_nil, or_false] at member
    rcases member with rfl | rfl | rfl <;> exact Clock.isAware_showing rfl
  obtain ⟨after, last, ran, rest, kept, again, named⟩ :=
    acknowledging_keeps_texts noted_grounded refers made aware
  have answers : aggregateIdIn (acknowledge ⟨0⟩ ⟨0⟩ before).2 ⟨0⟩ = "-7200000000000" := by
    decide +kernel
  rw [ran] at answers
  refine ⟨noted_grounded, refers, made, aware, by decide +kernel, after, last, ran, rest, ?_, ?_⟩
  · rw [again "note" (by decide), kept "note" (by decide) (fun same => absurd same (by decide))]
    decide +kernel
  · exact (named (by decide)).2.1.trans answers

/-- An identifier that was given is lost when its field is called as the time is. -/
theorem acknowledging_replaces_given_identifier :
    let before := (Desk.after noted
      [.create "first" ⟨1⟩ none, .edit "first" (.set "now" "post-1")]).system
    aggregateIdIn before ⟨0⟩ = "post-1" ∧
      ∃ after, acknowledge ⟨0⟩ ⟨1⟩ before = (.ok (), after) ∧
        aggregateIdIn after ⟨0⟩ = "1970-01-01T00:00:00+00:00" := by
  intro before
  exact ⟨by decide +kernel, _, Act.run_of_answer (by decide +kernel), by decide +kernel⟩

end Command

end EventSourcing
