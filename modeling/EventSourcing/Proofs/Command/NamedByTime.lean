import EventSourcing.Proofs.Command.Drafts
import EventSourcing.Proofs.Text.DecimalDigits
import EventSourcing.Proofs.Time.Nanoseconds

/-!
# Commands named by their time

A command without an identifier is named when it is acknowledged, by the nanoseconds of the reading
that it is given. The count of nanoseconds tells instants apart and the decimal text tells numbers
apart, so that two such commands share a name exactly when they were acknowledged at one instant.
-/

set_option autoImplicit false

namespace EventSourcing

variable {D : Domain}

namespace Command

/-- The identifying field of a command is empty, is not where its time is put, and, if there is
such a field, its parameter exists. -/
structure Unnamed (system : System D) (command : Ref .command) : Prop where
  apart : (system.commands.get command).idField ≠ nowField
  empty : aggregateIdIn system command = ""
  made : ∀ slot, (system.commands.get command).fields.lookup
    (system.commands.get command).idField = some slot →
      slot.index < system.parameters.nextRef.index

section Fields

variable {system : System D} {command : Ref .command} {name : String} {parameter : Parameter}

/-- A new parameter in the identifying field is the identifier. -/
theorem aggregateIdIn_fielded_own (own : (system.commands.get command).idField = name) :
    aggregateIdIn (fielded system command name parameter) command = parameter.shown := by
  have new : (fielded system command name parameter).parameters.get system.parameters.nextRef =
      parameter :=
    Table.get_push_nextRef system.parameters parameter
  rw [aggregateIdIn, get_fielded]
  simp only [own, lookup_putNamed, if_true, new]

/-- A new parameter in another field leaves the command unnamed. -/
theorem Unnamed.fielded (unnamed : Unnamed system command)
    (other : (system.commands.get command).idField ≠ name) :
    Unnamed (fielded system command name parameter) command := by
  have known : (Command.fielded system command name parameter).commands.get command = _ :=
    get_fielded command name parameter
  have looked : ((Command.fielded system command name parameter).commands.get
        command).fields.lookup (system.commands.get command).idField =
      (system.commands.get command).fields.lookup (system.commands.get command).idField := by
    rw [known]
    exact (lookup_putNamed _ _ _ _).trans (if_neg other)
  have idField : ((Command.fielded system command name parameter).commands.get command).idField =
      (system.commands.get command).idField := by
    rw [known]
  refine ⟨by rw [idField]; exact unnamed.apart, ?_, ?_⟩
  · have empty := unnamed.empty
    rw [aggregateIdIn] at empty ⊢
    rw [idField, looked]
    cases found : (system.commands.get command).fields.lookup
        (system.commands.get command).idField with
    | none => rfl
    | some slot =>
      rw [found] at empty
      have kept : (Command.fielded system command name parameter).parameters.get slot =
          system.parameters.get slot :=
        Table.get_push_of_made _ (unnamed.made slot found) parameter
      simp only [kept]
      exact empty
  · rw [idField, looked]
    intro slot found
    refine Nat.lt_of_lt_of_eq (Nat.lt_succ_of_lt (unnamed.made slot found)) ?_
    exact (Table.nextRef_push system.parameters parameter).symm

end Fields

/-- A command without an identifier is named by the nanoseconds of its reading. -/
theorem acknowledge_of_unnamed {system : System D} {command : Ref .command} {clock : Ref .clock}
    {reading : Moment} {count : Int} (unnamed : Unnamed system command)
    (read : LiveEvent.nextReading system clock = .ok reading)
    (counted : unixNanoseconds reading = .ok count) :
    ∃ after, acknowledge command clock system = (.ok (), after) ∧
      aggregateIdIn after command = String.ofList (DecimalText.ofInt count) := by
  let ticked := LiveEvent.ticked system clock
  let stamped := fielded ticked command nowField (.time (some reading))
  let name := Parameter.exactly (String.ofList (DecimalText.ofInt count))
  have still : Unnamed ticked command := ⟨unnamed.apart, unnamed.empty, unnamed.made⟩
  have empty : aggregateIdIn stamped command = "" := (still.fielded still.apart).empty
  refine ⟨fielded stamped command (stamped.commands.get command).idField name, ?_,
    aggregateIdIn_fielded_own rfl⟩
  have counts : (Act.ofExcept (unixNanoseconds reading) : Act D Int) stamped =
      (.ok count, stamped) := by
    rw [counted]
    rfl
  rw [acknowledge, Act.bind_of_ok (LiveEvent.now_of_ok read), Act.bind_of_ok (putField_run _ _),
    aggregateId, Act.bind_of_ok (Act.read_run _ _), if_pos empty, Act.bind_of_ok counts,
    Act.bind_of_ok (Act.read_run _ _), putField_run]

end Command

/-- The count of nanoseconds goes by the calendar and the clock, and commands that are named by it
have one name exactly when their readings are the same instant. -/
theorem nanoseconds_name_instants :
    CountsNanoseconds unixNanoseconds ∧
      ∀ {first second : System D} {left right : Ref .command} {leftClock rightClock : Ref .clock}
        {leftReading rightReading : Moment},
        Command.Unnamed first left → Command.Unnamed second right →
        LiveEvent.nextReading first leftClock = .ok leftReading →
        LiveEvent.nextReading second rightClock = .ok rightReading →
        leftReading.offset.isSome → rightReading.offset.isSome →
        ∃ afterFirst afterSecond,
          Command.acknowledge left leftClock first = (.ok (), afterFirst) ∧
          Command.acknowledge right rightClock second = (.ok (), afterSecond) ∧
          (Command.aggregateIdIn afterFirst left = Command.aggregateIdIn afterSecond right ↔
            leftReading.same rightReading = true) := by
  refine ⟨countsNanoseconds_unixNanoseconds, ?_⟩
  intro first second left right leftClock rightClock leftReading rightReading leftUnnamed
    rightUnnamed leftRead rightRead leftAware rightAware
  obtain ⟨leftCount, leftCounted⟩ := Moment.exists_unixNanoseconds leftAware
  obtain ⟨rightCount, rightCounted⟩ := Moment.exists_unixNanoseconds rightAware
  obtain ⟨afterFirst, leftRan, leftNamed⟩ :=
    Command.acknowledge_of_unnamed leftUnnamed leftRead leftCounted
  obtain ⟨afterSecond, rightRan, rightNamed⟩ :=
    Command.acknowledge_of_unnamed rightUnnamed rightRead rightCounted
  refine ⟨afterFirst, afterSecond, leftRan, rightRan, ?_⟩
  rw [leftNamed, rightNamed, String.ofList_inj, DecimalText.ofInt_injective.eq_iff]
  exact (Moment.same_iff_unixNanoseconds leftCounted rightCounted).symm

/-- The epoch at an offset of five hours and three quarters. -/
def epochInTheEast : Moment :=
  { Moment.unixEpoch with
    time := .ofMicroseconds 20700000000
    offset := some { microseconds := 20700000000 } }

def unnamedOrder : System Domain.bare :=
  { commands := .push .empty
      { name := "order", fields := [("id", ⟨0⟩)], idField := "id", errors := ⟨0⟩, factory := none,
        receiver := none, hasImplicitId := true }
    parameters := .push .empty (.identifier "")
    faults := .push .empty (.validation [])
    clocks := .push (.push .empty (.showing .unixEpoch)) (.showing epochInTheEast)
    domain := () }

theorem unnamedOrder_named :
    Command.Unnamed unnamedOrder ⟨0⟩ ∧ Moment.unixEpoch.same epochInTheEast = true ∧
      ∃ afterFirst afterSecond,
        Command.acknowledge ⟨0⟩ ⟨0⟩ unnamedOrder = (.ok (), afterFirst) ∧
        Command.acknowledge ⟨0⟩ ⟨1⟩ unnamedOrder = (.ok (), afterSecond) ∧
        (Command.aggregateIdIn afterFirst ⟨0⟩ = Command.aggregateIdIn afterSecond ⟨0⟩ ↔
          Moment.unixEpoch.same epochInTheEast = true) := by
  have unnamed : Command.Unnamed unnamedOrder ⟨0⟩ :=
    ⟨by decide, rfl, fun slot found => by cases found; decide⟩
  exact ⟨unnamed, by decide, nanoseconds_name_instants.2 unnamed unnamed rfl rfl rfl rfl⟩

end EventSourcing
