import EventSourcing.Clock
import EventSourcing.Proofs.Time.TimeLine

/-!
# Nanoseconds since the epoch

`CountsNanoseconds` says of a count of nanoseconds that it starts at the epoch, goes by the calendar
and the clock, and tells instants apart and puts them in order. `unixNanoseconds` is such a count:
between two moments it grows by exactly the time that `Moment.Elapsed` has between them.
-/

set_option autoImplicit false

namespace EventSourcing

def TimeOfDay.nanoseconds (time : TimeOfDay) : Nat :=
  ((time.hour * 60 + time.minute) * 60 + time.second) * 1000000000 + time.microsecond * 1000

namespace Moment

section Counting

variable {left right moment : Moment} {start stop microseconds : Int}

theorem unixNanoseconds_eq_ok_iff :
    unixNanoseconds moment = .ok start ↔
      ∃ position, moment.instant? = some position ∧
        start = (position - unixEpoch.localMicroseconds) * 1000 := by
  rw [unixNanoseconds, unixNanoseconds?]
  cases moment.instant? with
  | none =>
    constructor
    · intro counted
      cases counted
    · rintro ⟨position, known, -⟩
      cases known
  | some position =>
    constructor
    · intro counted
      exact ⟨position, rfl, (Except.ok.inj counted).symm⟩
    · rintro ⟨same, known, rfl⟩
      cases known
      rfl

theorem unixNanoseconds_of_offset {offset : Offset} (shown : moment.offset = some offset) :
    unixNanoseconds moment = .ok ((moment.localMicroseconds - offset.microseconds -
      unixEpoch.localMicroseconds) * 1000) := by
  have known : moment.instant? = some (moment.localMicroseconds - offset.microseconds) := by
    rw [instant?, shown, Option.map_some]
  exact unixNanoseconds_eq_ok_iff.mpr ⟨_, known, rfl⟩

theorem exists_unixNanoseconds (aware : moment.offset.isSome) :
    ∃ count, unixNanoseconds moment = .ok count := by
  obtain ⟨offset, shown⟩ := Option.isSome_iff_exists.mp aware
  exact ⟨_, unixNanoseconds_of_offset shown⟩

/-- The count grows by the time from one moment to the other. -/
theorem elapsed_iff_unixNanoseconds (known : unixNanoseconds left = .ok start)
    (found : unixNanoseconds right = .ok stop) :
    Elapsed left right microseconds ↔ stop = start + 1000 * microseconds := by
  obtain ⟨first, atFirst, rfl⟩ := unixNanoseconds_eq_ok_iff.mp known
  obtain ⟨second, atSecond, rfl⟩ := unixNanoseconds_eq_ok_iff.mp found
  rw [elapsed_iff atFirst atSecond]
  omega

theorem Elapsed.unixNanoseconds (elapsed : Elapsed left right microseconds) :
    ∃ count, EventSourcing.unixNanoseconds left = .ok count ∧
      EventSourcing.unixNanoseconds right = .ok (count + 1000 * microseconds) := by
  obtain ⟨first, second, atFirst, atSecond, distance⟩ := elapsed.instants
  refine ⟨_, unixNanoseconds_eq_ok_iff.mpr ⟨first, atFirst, rfl⟩,
    unixNanoseconds_eq_ok_iff.mpr ⟨second, atSecond, ?_⟩⟩
  omega

theorem same_iff_unixNanoseconds (known : unixNanoseconds left = .ok start)
    (found : unixNanoseconds right = .ok stop) : left.same right = true ↔ start = stop := by
  obtain ⟨first, atFirst, rfl⟩ := unixNanoseconds_eq_ok_iff.mp known
  obtain ⟨second, atSecond, rfl⟩ := unixNanoseconds_eq_ok_iff.mp found
  simp only [same, atFirst, atSecond, decide_eq_true_eq]
  omega

end Counting

end Moment

/-- A count of nanoseconds that goes by the calendar and the clock. Two moments are the same instant
when no time is between them, and one is later than another when it is reached after some time. -/
structure CountsNanoseconds (count : Moment → Except Fault Int) : Prop where
  epoch : count .unixEpoch = .ok 0
  nextDay : ∀ {date next : Date} (offset : Offset), date.Next next → ∃ nanoseconds,
    count { date, time := .midnight, offset := some offset } = .ok nanoseconds ∧
      count { date := next, time := .midnight, offset := some offset } =
        .ok (nanoseconds + 86400 * 1000000000)
  timeOfDay : ∀ (date : Date) (time : TimeOfDay) (offset : Offset), ∃ nanoseconds,
    count { date, time := .midnight, offset := some offset } = .ok nanoseconds ∧
      count { date, time, offset := some offset } = .ok (nanoseconds + time.nanoseconds)
  offset : ∀ (date : Date) (time : TimeOfDay) (first second : Offset), ∃ nanoseconds,
    count { date, time, offset := some first } = .ok nanoseconds ∧
      count { date, time, offset := some second } =
        .ok (nanoseconds - 1000 * (second.microseconds - first.microseconds))
  order : ∀ left right : Moment, left.offset.isSome → right.offset.isSome → ∃ first second,
    count left = .ok first ∧ count right = .ok second ∧
      (first = second ↔ left.same right = true) ∧ (first = second ↔ left.Elapsed right 0) ∧
      (first < second ↔ ∃ microseconds, 0 < microseconds ∧ left.Elapsed right microseconds)

theorem countsNanoseconds_unixNanoseconds : CountsNanoseconds unixNanoseconds where
  epoch := by
    have known : Moment.unixEpoch.instant? =
        some (Moment.unixEpoch.localMicroseconds : Int) := by
      rw [Moment.instant?, Moment.unixEpoch, Option.map_some, Offset.universal, Int.sub_zero]
    exact Moment.unixNanoseconds_eq_ok_iff.mpr ⟨_, known, by omega⟩
  nextDay offset step := by
    obtain ⟨count, known, found⟩ := (Moment.Elapsed.nextDay offset step).unixNanoseconds
    refine ⟨count, known, found.trans ?_⟩
    congr 1
  timeOfDay date time offset := by
    obtain ⟨count, known, found⟩ := (Moment.Elapsed.timeOfDay date time offset).unixNanoseconds
    refine ⟨count, known, found.trans ?_⟩
    congr 2
    simp only [TimeOfDay.sinceMidnight, TimeOfDay.nanoseconds, microsecondsPerSecond]
    omega
  offset date time first second := by
    obtain ⟨count, known, found⟩ :=
      (Moment.Elapsed.offset date time first second).unixNanoseconds
    refine ⟨count, known, found.trans ?_⟩
    congr 1
    omega
  order left right leftAware rightAware := by
    obtain ⟨first, known⟩ := Moment.exists_unixNanoseconds leftAware
    obtain ⟨second, found⟩ := Moment.exists_unixNanoseconds rightAware
    have elapsed (microseconds : Int) :
        left.Elapsed right microseconds ↔ second = first + 1000 * microseconds :=
      Moment.elapsed_iff_unixNanoseconds known found
    refine ⟨first, second, known, found, (Moment.same_iff_unixNanoseconds known found).symm, ?_, ?_⟩
    · rw [elapsed]
      omega
    · constructor
      · intro earlier
        obtain ⟨firstPosition, -, rfl⟩ := Moment.unixNanoseconds_eq_ok_iff.mp known
        obtain ⟨secondPosition, -, rfl⟩ := Moment.unixNanoseconds_eq_ok_iff.mp found
        exact ⟨secondPosition - firstPosition, by omega, (elapsed _).mpr (by omega)⟩
      · rintro ⟨microseconds, positive, between⟩
        have grown := (elapsed microseconds).mp between
        omega

end EventSourcing
