import EventSourcing.Proofs.Time.DayNumbers
import EventSourcing.Time.Moment

/-!
# The time line

`Moment.Elapsed` is the time from one moment to another by the rules of the calendar and of the
clock alone: a day from a midnight to the next one, the time of day from midnight on, and the
difference of two offsets under which the same date and time are read. It knows nothing of day
numbers. A moment's position on the time line, which is computed from them, measures that time
exactly (`Moment.elapsed_iff`). Moving a moment along its own local time reaches the one moment at
that distance, as far as the calendar goes.
-/

set_option autoImplicit false

namespace EventSourcing

namespace TimeOfDay

/-! ## Times of day -/

def last : TimeOfDay := { hour := 23, minute := 59, second := 59, microsecond := 999999 }

theorem sinceMidnight_midnight : midnight.sinceMidnight = 0 := rfl

theorem sinceMidnight_lt (time : TimeOfDay) : time.sinceMidnight < microsecondsPerDay := by
  have hour := time.hourInRange
  have minute := time.minuteInRange
  have second := time.secondInRange
  have microsecond := time.microsecondInRange
  simp only [sinceMidnight, microsecondsPerDay, secondsPerDay, microsecondsPerSecond] at *
  omega

theorem sinceMidnight_mod (time : TimeOfDay) :
    time.sinceMidnight % microsecondsPerSecond = time.microsecond := by
  rw [sinceMidnight, Nat.mul_add_mod_self_right, Nat.mod_eq_of_lt time.microsecondInRange]

theorem sinceMidnight_ofMicroseconds {microseconds : Nat}
    (within : microseconds < microsecondsPerDay) :
    (ofMicroseconds microseconds).sinceMidnight = microseconds := by
  simp only [sinceMidnight, ofMicroseconds, microsecondsPerDay, secondsPerDay,
    microsecondsPerSecond] at *
  omega

/-- Different times of day have different distances from midnight. -/
theorem eq_of_sinceMidnight_eq {left right : TimeOfDay}
    (same : left.sinceMidnight = right.sinceMidnight) : left = right := by
  obtain ⟨leftHour, leftMinute, leftSecond, left, _, _, _, leftInRange⟩ := left
  obtain ⟨rightHour, rightMinute, rightSecond, right, _, _, _, rightInRange⟩ := right
  have leftSmall : left < 1000000 := leftInRange
  have rightSmall : right < 1000000 := rightInRange
  simp only [sinceMidnight, microsecondsPerSecond] at same
  obtain rfl : leftHour = rightHour := by omega
  obtain rfl : leftMinute = rightMinute := by omega
  obtain rfl : leftSecond = rightSecond := by omega
  obtain rfl : left = right := by omega
  rfl

end TimeOfDay

namespace Moment

/-! ## Time by the calendar and the clock -/

/-- The microseconds from one moment to another, by the rules of the calendar and of the clock. -/
inductive Elapsed : Moment → Moment → Int → Prop where
  | nextDay {date next : Date} (offset : Offset) : date.Next next →
      Elapsed { date, time := .midnight, offset := some offset }
        { date := next, time := .midnight, offset := some offset } microsecondsPerDay
  | timeOfDay (date : Date) (time : TimeOfDay) (offset : Offset) :
      Elapsed { date, time := .midnight, offset := some offset }
        { date, time, offset := some offset } time.sinceMidnight
  | offset (date : Date) (time : TimeOfDay) (first second : Offset) :
      Elapsed { date, time, offset := some first } { date, time, offset := some second }
        (first.microseconds - second.microseconds)
  | back {left right : Moment} {microseconds : Int} : Elapsed left right microseconds →
      Elapsed right left (-microseconds)
  | trans {left middle right : Moment} {first second : Int} : Elapsed left middle first →
      Elapsed middle right second → Elapsed left right (first + second)

theorem instant?_eq (date : Date) (time : TimeOfDay) (offset : Offset) :
    ({ date, time, offset := some offset } : Moment).instant? =
      some (date.dayNumber * microsecondsPerDay + time.sinceMidnight - offset.microseconds) := by
  simp only [instant?, localMicroseconds, Option.map_some, Int.natCast_add, Int.natCast_mul]

/-- Positions differ by the time from one to the other. -/
theorem Elapsed.instants {left right : Moment} {microseconds : Int}
    (elapsed : Elapsed left right microseconds) :
    ∃ start stop, left.instant? = some start ∧ right.instant? = some stop ∧
      stop - start = microseconds := by
  induction elapsed with
  | nextDay offset step =>
    refine ⟨_, _, instant?_eq _ _ _, instant?_eq _ _ _, ?_⟩
    rw [step.dayNumber]
    simp only [microsecondsPerDay, secondsPerDay, microsecondsPerSecond]
    omega
  | timeOfDay date time offset =>
    refine ⟨_, _, instant?_eq _ _ _, instant?_eq _ _ _, ?_⟩
    rw [TimeOfDay.sinceMidnight_midnight]
    omega
  | offset date time first second =>
    refine ⟨_, _, instant?_eq _ _ _, instant?_eq _ _ _, ?_⟩
    omega
  | back _ ih =>
    obtain ⟨start, stop, known, found, distance⟩ := ih
    exact ⟨stop, start, found, known, by omega⟩
  | trans _ _ ihFirst ihSecond =>
    obtain ⟨start, middle, known, between, distance⟩ := ihFirst
    obtain ⟨again, stop, same, found, further⟩ := ihSecond
    rw [between, Option.some.injEq] at same
    exact ⟨start, stop, known, found, by omega⟩

/-- From the first midnight every other one is reached day by day. -/
private theorem elapsed_midnight (date : Date) (offset : Offset) :
    Elapsed { date := .first, time := .midnight, offset := some offset }
      { date, time := .midnight, offset := some offset }
      ((date.dayNumber - Date.first.dayNumber) * microsecondsPerDay : Int) := by
  induction number : date.dayNumber generalizing date with
  | zero =>
    have positive := date.one_le_dayNumber
    omega
  | succ count ih =>
    by_cases start : date = .first
    · subst start
      have whole : ((count + 1 : Nat) : Int) - Date.first.dayNumber = 0 := by omega
      rw [whole, Int.zero_mul]
      exact .timeOfDay .first .midnight offset
    · obtain ⟨before, step⟩ := Date.exists_next_of_ne_first start
      have counted := step.dayNumber
      have reached := ih before (by omega)
      have again := reached.trans (.nextDay offset step)
      have sum : ((count : Int) - Date.first.dayNumber) * microsecondsPerDay + microsecondsPerDay =
          (((count + 1 : Nat) : Int) - Date.first.dayNumber) * microsecondsPerDay := by
        have next : ((count + 1 : Nat) : Int) - Date.first.dayNumber =
            count - Date.first.dayNumber + 1 := by omega
        rw [next, Int.add_mul, Int.one_mul]
      rwa [sum] at again

/-- Every moment with an offset is reached from the first midnight in universal time. -/
private theorem elapsed_of_instant {moment : Moment} {position : Int}
    (known : moment.instant? = some position) :
    Elapsed { date := .first, time := .midnight, offset := some .universal } moment
      (position - Date.first.dayNumber * microsecondsPerDay) := by
  obtain ⟨date, time, _ | offset⟩ := moment
  · cases known
  · rw [instant?_eq, Option.some.injEq] at known
    have reached := ((elapsed_midnight date .universal).trans (.timeOfDay date time _)).trans
      (.offset date time .universal offset)
    have sum : ((date.dayNumber - Date.first.dayNumber) * microsecondsPerDay : Int) +
        time.sinceMidnight + (Offset.universal.microseconds - offset.microseconds) =
          position - Date.first.dayNumber * microsecondsPerDay := by
      have zero : Offset.universal.microseconds = 0 := rfl
      rw [Int.sub_mul, zero]
      omega
    rwa [sum] at reached

/-- Positions on the time line measure the time from one moment to another. -/
theorem elapsed_iff {left right : Moment} {start stop microseconds : Int}
    (known : left.instant? = some start) (found : right.instant? = some stop) :
    Elapsed left right microseconds ↔ stop - start = microseconds := by
  constructor
  · intro elapsed
    obtain ⟨first, second, same, again, distance⟩ := elapsed.instants
    rw [known, Option.some.injEq] at same
    rw [found, Option.some.injEq] at again
    omega
  · rintro rfl
    have between := (elapsed_of_instant known).back.trans (elapsed_of_instant found)
    have sum : -(start - Date.first.dayNumber * microsecondsPerDay) +
        (stop - Date.first.dayNumber * microsecondsPerDay) = stop - start := by
      omega
    rwa [sum] at between

/-! ## Moving along the local time -/

theorem localMicroseconds_div (moment : Moment) :
    (moment.localMicroseconds : Int) / microsecondsPerDay = moment.date.dayNumber := by
  have within := moment.time.sinceMidnight_lt
  simp only [localMicroseconds, microsecondsPerDay, secondsPerDay, microsecondsPerSecond] at *
  omega

theorem localMicroseconds_mod (moment : Moment) :
    ((moment.localMicroseconds : Int) % microsecondsPerDay).toNat =
      moment.time.sinceMidnight := by
  have within := moment.time.sinceMidnight_lt
  simp only [localMicroseconds, microsecondsPerDay, secondsPerDay, microsecondsPerSecond] at *
  omega

/-- A moment is moved to the one with its offset at that distance in local time. -/
theorem shift?_eq_some_iff {moment later : Moment} {microseconds : Int} :
    moment.shift? microseconds = some later ↔
      later.offset = moment.offset ∧
        (later.localMicroseconds : Int) = moment.localMicroseconds + microseconds := by
  rw [shift?, Option.map_eq_some_iff]
  constructor
  · rintro ⟨date, found, rfl⟩
    refine ⟨rfl, ?_⟩
    have number := Date.ofDayNumber?_eq_some_iff.mp found
    have positive : 0 ≤ ((moment.localMicroseconds : Int) + microseconds) % microsecondsPerDay :=
      Int.emod_nonneg _ (by decide)
    have small : ((moment.localMicroseconds : Int) + microseconds) % microsecondsPerDay <
        microsecondsPerDay :=
      Int.emod_lt_of_pos _ (by decide)
    have whole := Int.mul_ediv_add_emod ((moment.localMicroseconds : Int) + microseconds)
      microsecondsPerDay
    rw [localMicroseconds, TimeOfDay.sinceMidnight_ofMicroseconds (by omega), Int.natCast_add,
      Int.natCast_mul, ← number, Int.toNat_of_nonneg positive, Int.mul_comm]
    exact whole
  · rintro ⟨offset, distance⟩
    refine ⟨later.date, ?_, ?_⟩
    · rw [Date.ofDayNumber?_eq_some_iff, ← distance, localMicroseconds_div]
    · have time : TimeOfDay.ofMicroseconds later.time.sinceMidnight = later.time :=
        TimeOfDay.eq_of_sinceMidnight_eq
          (TimeOfDay.sinceMidnight_ofMicroseconds later.time.sinceMidnight_lt)
      rw [← distance, localMicroseconds_mod, time, ← offset]

/-- The first and the last local date and time of the calendar. -/
def earliest (offset : Option Offset) : Moment :=
  { date := .first, time := .midnight, offset }

def latest (offset : Option Offset) : Moment :=
  { date := .last, time := .last, offset }

/-- A moment cannot be moved when its local date and time would lie outside the calendar. -/
theorem shift?_eq_none_iff {moment : Moment} {microseconds : Int} (offset : Option Offset) :
    moment.shift? microseconds = none ↔
      (moment.localMicroseconds : Int) + microseconds < (earliest offset).localMicroseconds ∨
        ((latest offset).localMicroseconds : Int) < moment.localMicroseconds + microseconds := by
  have start : (earliest offset).localMicroseconds =
      Date.first.dayNumber * microsecondsPerDay := by
    rw [localMicroseconds, earliest, TimeOfDay.sinceMidnight_midnight, Nat.add_zero]
  have stop : (latest offset).localMicroseconds =
      Date.last.dayNumber * microsecondsPerDay + TimeOfDay.last.sinceMidnight := rfl
  have whole : TimeOfDay.last.sinceMidnight + 1 = microsecondsPerDay := rfl
  rw [shift?, Option.map_eq_none_iff, Date.ofDayNumber?_eq_none_iff, start, stop]
  generalize (moment.localMicroseconds : Int) + microseconds = total
  simp only [microsecondsPerDay, secondsPerDay, microsecondsPerSecond] at whole ⊢
  omega

end Moment

end EventSourcing
