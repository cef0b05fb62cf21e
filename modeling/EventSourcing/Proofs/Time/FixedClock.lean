import EventSourcing.Application.Basic
import EventSourcing.Proofs.Event.Sealing
import EventSourcing.Proofs.Time.Nanoseconds

/-!
# Advancing a fixed clock

A fixed clock is advanced by whole seconds along the local time of its moment, or not at all. The
seconds are first made a duration, which is refused where it has too many days. That bound lies far
outside the calendar, so that the clock is left alone exactly when the date that it would show is
not in the calendar. The instant moves by the same seconds as the local time, unless the zone has
another offset by then.
-/

set_option autoImplicit false

namespace EventSourcing

variable {D : Domain}

/-! ## Durations and the calendar -/

namespace Duration

/-- Whole seconds are an exact duration, unless they fill too many days. -/
theorem ofSeconds?_cases (seconds : Int) :
    ofSeconds? seconds = .ok ⟨seconds * microsecondsPerSecond⟩ ∨
      ∃ fault, ofSeconds? seconds = .error fault ∧
        (EventSourcing.Fault.duration fault).className = "OverflowError" ∧
        maxDays < (seconds * microsecondsPerSecond / microsecondsPerDay).natAbs := by
  simp only [ofSeconds?, ofMicroseconds?]
  split
  · rename_i uncountable
    refine .inr ⟨.uncountableDays, rfl, rfl, ?_⟩
    simp only [dayCountBound, maxDays] at uncountable ⊢
    omega
  · split
    · rename_i tooMany
      exact .inr ⟨_, rfl, rfl, tooMany⟩
    · exact .inl rfl

end Duration

namespace Moment

theorem localMicroseconds_lt (moment : Moment) :
    moment.localMicroseconds < (Date.last.dayNumber + 1) * microsecondsPerDay := by
  have date := moment.date.dayNumber_le_last
  have time := moment.time.sinceMidnight_lt
  simp only [localMicroseconds, microsecondsPerDay, secondsPerDay, microsecondsPerSecond] at *
  omega

/-- A duration of too many days leads out of the calendar. -/
theorem shift?_eq_none_of_tooManyDays {microseconds : Int}
    (tooMany : Duration.maxDays < (microseconds / microsecondsPerDay).natAbs) (moment : Moment) :
    moment.shift? microseconds = none := by
  have within := moment.localMicroseconds_lt
  have lastDay : Date.last.dayNumber = 3652059 := by decide
  have firstDay : Date.first.dayNumber = 1 := by decide
  rw [shift?, Option.map_eq_none_iff, Date.ofDayNumber?_eq_none_iff]
  simp only [lastDay, firstDay, Duration.maxDays, microsecondsPerDay, secondsPerDay,
    microsecondsPerSecond] at *
  omega

/-- The local date and time a number of seconds later are not before the first nor after the last
one of the calendar, under the same offset. -/
def WithinCalendar (moment : Moment) (seconds : Int) : Prop :=
  ∃ start now stop, unixNanoseconds (earliest moment.offset) = .ok start ∧
    unixNanoseconds moment = .ok now ∧ unixNanoseconds (latest moment.offset) = .ok stop ∧
    start ≤ now + seconds * 1000000000 ∧ now + seconds * 1000000000 ≤ stop

theorem withinCalendar_iff {moment : Moment} (aware : moment.offset.isSome) (seconds : Int) :
    moment.WithinCalendar seconds ↔
      moment.shift? (seconds * microsecondsPerSecond) ≠ none := by
  obtain ⟨offset, shown⟩ := Option.isSome_iff_exists.mp aware
  have first := unixNanoseconds_of_offset (show (earliest moment.offset).offset = _ from shown)
  have here := unixNanoseconds_of_offset shown
  have final := unixNanoseconds_of_offset (show (latest moment.offset).offset = _ from shown)
  rw [Ne, shift?_eq_none_iff moment.offset, microsecondsPerSecond]
  constructor
  · rintro ⟨start, now, stop, startAt, nowAt, stopAt, notBefore, notAfter⟩
    cases first.symm.trans startAt
    cases here.symm.trans nowAt
    cases final.symm.trans stopAt
    omega
  · intro inside
    exact ⟨_, _, _, first, here, final, by omega, by omega⟩

end Moment

/-! ## Zones -/

namespace Zone

variable {moment later : Moment} {microseconds : Int}

/-- The local date and time that many seconds after a moment have the offset of the moment. -/
def Keeps (zone : Zone) (moment : Moment) (seconds : Int) : Prop :=
  ∀ later, moment.shift? (seconds * microsecondsPerSecond) = some later →
    zone.offsetAt later = moment.offset

theorem keeps_steady (moment : Moment) (seconds : Int) : steady.Keeps moment seconds :=
  fun _ reached => (Moment.shift?_eq_some_iff.mp reached).1

theorem settle_eq_self {zone : Zone} (same : zone.offsetAt moment = moment.offset) :
    zone.settle moment = moment := by
  rw [settle, same]

theorem isSome_settle (zone : Zone) (aware : moment.offset.isSome) :
    (zone.settle moment).offset.isSome := by
  cases zone with
  | steady => exact aware
  | varying offsetAt => rfl

/-- Local time goes on in a zone as it does with the offset of the moment. -/
theorem shift?_settle (zone : Zone) (moment : Moment) (microseconds : Int) :
    (zone.settle moment).shift? microseconds = (moment.shift? microseconds).map fun later =>
      { later with offset := zone.offsetAt moment } := by
  simp only [Moment.shift?, settle, Moment.localMicroseconds, Option.map_map, Function.comp_def]

/-- Where local time leads to, a zone has one offset, whatever it was on the way. -/
theorem settle_of_shift? (zone : Zone) (reached : moment.shift? microseconds = some later) :
    zone.settle { later with offset := zone.offsetAt moment } = zone.settle later := by
  cases zone with
  | steady =>
    have same := (Moment.shift?_eq_some_iff.mp reached).1
    simp only [settle, offsetAt, same]
  | varying offsetAt => rfl

end Zone

/-! ## Clocks that stand -/

namespace Clock

/-- A fixed clock that shows a moment at every reading and is advanced in a zone. -/
structure StandsAt (clock : Clock) (moment : Moment) (zone : Zone) : Prop where
  kind : clock.kind = .fixed
  readings : ∀ number, clock.readings number = .ok moment
  zone : clock.zone = zone

variable {clock : Clock} {moment : Moment} {zone : Zone}

theorem standsAt_showing (moment : Moment) (zone : Zone) :
    (showing moment zone).StandsAt moment zone :=
  ⟨rfl, fun _ => rfl, rfl⟩

theorem standsAt_of_fixed? (made : fixed? moment zone = .ok clock) :
    clock.StandsAt moment zone ∧ moment.offset.isSome := by
  rw [fixed?] at made
  split at made
  · rename_i aware
    cases made
    exact ⟨standsAt_showing moment zone, aware⟩
  · cases made

/-- A clock that stands is advanced to the moment that is reached, or overflows. -/
theorem StandsAt.advance? (stands : clock.StandsAt moment zone) (seconds : Int) :
    (∃ later, moment.shift? (seconds * microsecondsPerSecond) = some later ∧
        clock.advance? (.int seconds) = .ok (showing (zone.settle later) zone)) ∨
      moment.shift? (seconds * microsecondsPerSecond) = none ∧
        ∃ fault, clock.advance? (.int seconds) = .error fault ∧
          fault.className = "OverflowError" := by
  have advances : clock.advance? (.int seconds) =
      (seconds? (.int seconds) >>= fun duration =>
        moved? moment duration >>= fun later => pure (showing (zone.settle later) zone)) := by
    simp only [Clock.advance?, stands.kind, stands.readings, stands.zone]
  rcases Duration.ofSeconds?_cases seconds with counted | ⟨fault, refused, overflow, tooMany⟩
  · have duration : seconds? (.int seconds) = .ok ⟨seconds * microsecondsPerSecond⟩ := by
      rw [seconds?, counted]
      rfl
    rw [advances, duration]
    cases moved : moment.shift? (seconds * microsecondsPerSecond) with
    | some later =>
      have reached : moved? moment ⟨seconds * microsecondsPerSecond⟩ = .ok later := by
        rw [moved?, Moment.after?, moved]
      exact .inl ⟨later, rfl,
        congrArg (· >>= fun later => pure (showing (zone.settle later) zone)) reached⟩
    | none =>
      have left : moved? moment ⟨seconds * microsecondsPerSecond⟩ = .error .outOfCalendar := by
        rw [moved?, Moment.after?, moved]
      exact .inr ⟨rfl, .outOfCalendar,
        congrArg (· >>= fun later => pure (showing (zone.settle later) zone)) left, rfl⟩
  · have none : seconds? (.int seconds) = .error (.duration fault) := by
      rw [seconds?, refused]
      rfl
    rw [advances, none]
    exact .inr ⟨moment.shift?_eq_none_of_tooManyDays tooMany, .duration fault, rfl, overflow⟩

end Clock

/-- A system's clock is fixed and shows an aware moment of a zone. -/
structure System.ShowsFixed (system : System D) (clock : Ref .clock) (moment : Moment)
    (zone : Zone) : Prop where
  made : clock.index < system.clocks.nextRef.index
  stands : (system.clocks.get clock).StandsAt moment zone
  aware : moment.offset.isSome

namespace Application

variable {system after : System D} {clock : Ref .clock} {moment : Moment} {zone : Zone}

theorem newClock_showsFixed {fixed : Clock} (known : Clock.fixed? moment zone = .ok fixed)
    (ran : newClock fixed system = (.ok clock, after)) : after.ShowsFixed clock moment zone := by
  obtain ⟨stands, aware⟩ := Clock.standsAt_of_fixed? known
  cases ran
  exact ⟨by simp, by rwa [Table.get_push_nextRef], aware⟩

theorem now_of_showsFixed (showing : system.ShowsFixed clock moment zone) :
    LiveEvent.now clock system = (.ok moment, LiveEvent.ticked system clock) :=
  LiveEvent.now_of_ok (showing.stands.readings _)

/-- An advance either shows the moment that is reached from then on, or makes nothing but the
fault that it raises. -/
theorem advanceClock_run (showing : system.ShowsFixed clock moment zone) (seconds : Int) :
    (∃ later, moment.shift? (seconds * microsecondsPerSecond) = some later ∧
        advanceClock clock (.int seconds) system = (.ok (), { system with
          clocks := system.clocks.set clock (.showing (zone.settle later) zone) })) ∨
      moment.shift? (seconds * microsecondsPerSecond) = none ∧
        ∃ fault, fault.className = "OverflowError" ∧
          advanceClock clock (.int seconds) system =
            (.error (.raised system.faults.nextRef),
              { system with faults := system.faults.push fault }) := by
  rw [advanceClock, Act.bind_of_ok (Act.read_run _ _)]
  rcases showing.stands.advance? seconds with
    ⟨later, reached, moved⟩ | ⟨left, fault, refused, overflow⟩
  · exact .inl ⟨later, reached, by rw [moved]; rfl⟩
  · exact .inr ⟨left, fault, overflow, by rw [refused]; rfl⟩

theorem showsFixed_set (showing : system.ShowsFixed clock moment zone) {later : Moment}
    (aware : later.offset.isSome) :
    { system with clocks := system.clocks.set clock (.showing later zone) }.ShowsFixed clock later
      zone where
  made := by
    rw [Table.nextRef_set _ showing.made]
    exact showing.made
  stands := by
    rw [Table.get_set, if_pos rfl]
    exact Clock.standsAt_showing later zone
  aware := aware

/-- An advance that ends has reached a moment that the clock shows from then on. -/
theorem advanceClock_eq_ok_iff (showing : system.ShowsFixed clock moment zone) {seconds : Int} :
    advanceClock clock (.int seconds) system = (.ok (), after) ↔
      ∃ later, moment.shift? (seconds * microsecondsPerSecond) = some later ∧
        after = { system with
          clocks := system.clocks.set clock (.showing (zone.settle later) zone) } := by
  rcases advanceClock_run showing seconds with ⟨reached, known, ran⟩ | ⟨left, fault, -, ran⟩
  · rw [ran, known]
    constructor
    · intro ended
      cases ended
      exact ⟨reached, rfl, rfl⟩
    · rintro ⟨later, same, rfl⟩
      cases same
      rfl
  · rw [ran, left]
    constructor
    · intro ended
      cases ended
    · rintro ⟨later, same, -⟩
      cases same

theorem aware_of_shift? (showing : system.ShowsFixed clock moment zone) {microseconds : Int}
    {later : Moment} (reached : moment.shift? microseconds = some later) :
    (zone.settle later).offset.isSome := by
  refine zone.isSome_settle ?_
  rw [(Moment.shift?_eq_some_iff.mp reached).1]
  exact showing.aware

/-- Two advances that end are one advance by the sum of their seconds. -/
theorem advanceClock_add (showing : system.ShowsFixed clock moment zone) {first second : Int}
    {middle last : System D} (ranFirst : advanceClock clock (.int first) system = (.ok (), middle))
    (ranSecond : advanceClock clock (.int second) middle = (.ok (), last)) :
    advanceClock clock (.int (first + second)) system = (.ok (), last) := by
  obtain ⟨there, reached, rfl⟩ := (advanceClock_eq_ok_iff showing).mp ranFirst
  have settled := showsFixed_set showing (aware_of_shift? showing reached)
  obtain ⟨shown, reachedShown, rfl⟩ := (advanceClock_eq_ok_iff settled).mp ranSecond
  rw [zone.shift?_settle, Option.map_eq_some_iff] at reachedShown
  obtain ⟨later, reachedLater, rfl⟩ := reachedShown
  have toThere := Moment.shift?_eq_some_iff.mp reached
  have toLater := Moment.shift?_eq_some_iff.mp reachedLater
  refine (advanceClock_eq_ok_iff showing).mpr ⟨later, Moment.shift?_eq_some_iff.mpr ?_, ?_⟩
  · refine ⟨toLater.1.trans toThere.1, ?_⟩
    rw [toLater.2, toThere.2, Int.add_mul, Int.add_assoc]
  · rw [zone.settle_of_shift? reachedLater, Table.set_set _ showing.made]

end Application

namespace Moment

/-- Whole seconds later the microsecond is the same. -/
theorem shift?_microsecond {moment later : Moment} {seconds : Int}
    (reached : moment.shift? (seconds * microsecondsPerSecond) = some later) :
    later.time.microsecond = moment.time.microsecond := by
  obtain ⟨-, moved⟩ := shift?_eq_some_iff.mp reached
  rw [← later.time.sinceMidnight_mod, ← moment.time.sinceMidnight_mod]
  simp only [localMicroseconds, microsecondsPerDay, secondsPerDay, microsecondsPerSecond] at *
  omega

/-- Whole seconds later under the same offset the count has grown by exactly them. -/
theorem shift?_unixNanoseconds {moment later : Moment} {seconds : Int}
    (aware : moment.offset.isSome)
    (reached : moment.shift? (seconds * microsecondsPerSecond) = some later) :
    ∃ count, unixNanoseconds moment = .ok count ∧
      unixNanoseconds later = .ok (count + seconds * 1000000000) := by
  obtain ⟨same, moved⟩ := shift?_eq_some_iff.mp reached
  obtain ⟨offset, shown⟩ := Option.isSome_iff_exists.mp aware
  refine ⟨_, unixNanoseconds_of_offset shown, ?_⟩
  rw [unixNanoseconds_of_offset (same.trans shown), moved, microsecondsPerSecond]
  congr 1
  omega

end Moment

/-- The local time of a fixed clock is advanced by exactly the seconds, its microsecond kept, where
its local date stays within the calendar, and so is its instant where the zone has the same offset
by then. Otherwise it overflows and shows what it showed. Two advances are one by their sum. -/
theorem Application.advanceClock_exact_or_unchanged {system : System D} {clock : Ref .clock}
    {moment : Moment} {zone : Zone} (showing : system.ShowsFixed clock moment zone) :
    (∀ seconds, moment.WithinCalendar seconds → ∃ later after,
      advanceClock clock (.int seconds) system = (.ok (), after) ∧
        after.ShowsFixed clock later zone ∧ (LiveEvent.now clock after).1 = .ok later ∧
        (later.localMicroseconds : Int) =
          moment.localMicroseconds + seconds * microsecondsPerSecond ∧
        later.time.microsecond = moment.time.microsecond ∧
        (zone.Keeps moment seconds → later.offset = moment.offset ∧
          ∃ count, unixNanoseconds moment = .ok count ∧
            unixNanoseconds later = .ok (count + seconds * 1000000000))) ∧
    (∀ seconds, ¬ moment.WithinCalendar seconds → ∃ fault after,
      advanceClock clock (.int seconds) system = (.error (.raised fault), after) ∧
        (after.faults.get fault).className = "OverflowError" ∧
        after = { system with faults := after.faults } ∧ after.ShowsFixed clock moment zone ∧
        (LiveEvent.now clock after).1 = .ok moment) ∧
    ∀ first second middle last,
      advanceClock clock (.int first) system = (.ok (), middle) →
      advanceClock clock (.int second) middle = (.ok (), last) →
      advanceClock clock (.int (first + second)) system = (.ok (), last) := by
  refine ⟨fun seconds within => ?_, fun seconds outside => ?_,
    fun _ _ _ _ ranFirst ranSecond => advanceClock_add showing ranFirst ranSecond⟩
  · have reaches := (Moment.withinCalendar_iff showing.aware seconds).mp within
    obtain ⟨later, reached⟩ := Option.ne_none_iff_exists'.mp reaches
    obtain ⟨same, moved⟩ := Moment.shift?_eq_some_iff.mp reached
    have after := showsFixed_set showing (aware_of_shift? showing reached)
    have microsecond := Moment.shift?_microsecond reached
    refine ⟨zone.settle later, _, (advanceClock_eq_ok_iff showing).mpr ⟨later, reached, rfl⟩, after,
      congrArg Prod.fst (now_of_showsFixed after), moved, microsecond, fun keeps => ?_⟩
    rw [Zone.settle_eq_self ((keeps later reached).trans same.symm)]
    exact ⟨same, Moment.shift?_unixNanoseconds showing.aware reached⟩
  · rcases advanceClock_run showing seconds with ⟨later, reached, -⟩ | ⟨-, fault, overflow, ran⟩
    · refine absurd ((Moment.withinCalendar_iff showing.aware seconds).mpr ?_) outside
      rw [reached]
      exact Option.some_ne_none later
    · have still :
          { system with faults := system.faults.push fault }.ShowsFixed clock moment zone :=
        ⟨showing.made, showing.stands, showing.aware⟩
      refine ⟨_, _, ran, ?_, rfl, still, congrArg Prod.fst (now_of_showsFixed still)⟩
      rwa [Table.get_push_nextRef]

/-- Half a second before a month ends, three hours to the east. -/
def aprilNight : Moment :=
  { date := { year := 2020, month := 4, day := 30 }
    time := .ofMicroseconds 86399500000
    offset := some { microseconds := 10800000000 } }

def aprilNightClock : System Domain.bare :=
  (Application.newClock (.showing aprilNight) { domain := () }).2

theorem aprilNightClock_advanced :
    aprilNightClock.ShowsFixed ⟨0⟩ aprilNight .steady ∧
      (∃ later after count,
        Application.advanceClock ⟨0⟩ (.int 1) aprilNightClock = (.ok (), after) ∧
          after.ShowsFixed ⟨0⟩ later .steady ∧ (LiveEvent.now ⟨0⟩ after).1 = .ok later ∧
          later.offset = aprilNight.offset ∧ later.time.microsecond = 500000 ∧
          unixNanoseconds aprilNight = .ok count ∧
          unixNanoseconds later = .ok (count + 1 * 1000000000)) ∧
      ∃ fault after,
        Application.advanceClock ⟨0⟩ (.int 1000000000000000000000) aprilNightClock =
          (.error (.raised fault), after) ∧
        (after.faults.get fault).className = "OverflowError" ∧
        after = { aprilNightClock with faults := after.faults } ∧
        after.ShowsFixed ⟨0⟩ aprilNight .steady ∧
        (LiveEvent.now ⟨0⟩ after).1 = .ok aprilNight := by
  have made : Clock.fixed? aprilNight = .ok (.showing aprilNight) := rfl
  have ran : Application.newClock (.showing aprilNight) { domain := () } =
      (.ok ⟨0⟩, aprilNightClock) := rfl
  have showing := Application.newClock_showsFixed made ran
  have reached (seconds : Int) := Moment.withinCalendar_iff showing.aware seconds
  obtain ⟨moves, unchanged, -⟩ := Application.advanceClock_exact_or_unchanged showing
  obtain ⟨later, after, advanced, still, reading, -, microsecond, exact⟩ :=
    moves 1 ((reached 1).mpr (by decide))
  obtain ⟨same, count, known, grown⟩ := exact (Zone.keeps_steady _ _)
  refine ⟨showing, ⟨later, after, count, advanced, still, reading, same, microsecond, known, grown⟩,
    unchanged _ ?_⟩
  rw [reached]
  decide

/-- The offset that many hours to the east, within a day. -/
def Offset.east (hours : Nat) : Offset :=
  (of? (hours * 3600000000)).getD universal

/-- Berlin in 2025: two hours to the east from the last Sunday of March to the last Sunday of
October, and one hour otherwise. -/
def berlin2025 : Zone :=
  let change : TimeOfDay := .ofMicroseconds 10800000000
  let spring : Moment := ⟨{ year := 2025, month := 3, day := 30 }, change, none⟩
  let autumn : Moment := ⟨{ year := 2025, month := 10, day := 26 }, change, none⟩
  .varying fun date time =>
    let here := Moment.localMicroseconds ⟨date, time, none⟩
    if spring.localMicroseconds ≤ here ∧ here < autumn.localMicroseconds then .east 2 else .east 1

/-- Noon of the day before summer time starts. -/
def lastWinterNoon : Moment :=
  { date := { year := 2025, month := 3, day := 29 }
    time := .ofMicroseconds 43200000000
    offset := some (.east 1) }

def firstSummerNoon : Moment :=
  { date := { year := 2025, month := 3, day := 30 }
    time := .ofMicroseconds 43200000000
    offset := some (.east 2) }

/-- A day later it is noon again, under another offset and only 82800 seconds on. -/
theorem Application.advanceClock_into_summer_time :
    let start : System Domain.bare :=
      (newClock (.showing lastWinterNoon berlin2025) { domain := () }).2
    Clock.fixed? lastWinterNoon berlin2025 = .ok (.showing lastWinterNoon berlin2025) ∧
      (∃ after, advanceClock ⟨0⟩ (.int 86400) start = (.ok (), after) ∧
        (LiveEvent.now ⟨0⟩ after).1 = .ok firstSummerNoon) ∧
      firstSummerNoon.offset ≠ lastWinterNoon.offset ∧
      unixNanoseconds lastWinterNoon = .ok 1743246000000000000 ∧
      unixNanoseconds firstSummerNoon = .ok (1743246000000000000 + 82800 * 1000000000) := by
  intro start
  have moved : (berlin2025.settle <$> lastWinterNoon.shift? (86400 * microsecondsPerSecond)) =
      some firstSummerNoon := by
    decide +kernel
  obtain ⟨later, reached, settled⟩ := Option.map_eq_some_iff.mp moved
  have made : Clock.fixed? lastWinterNoon berlin2025 = .ok (.showing lastWinterNoon berlin2025) :=
    rfl
  have ran : newClock (.showing lastWinterNoon berlin2025) { domain := () } = (.ok ⟨0⟩, start) :=
    rfl
  have showing := newClock_showsFixed made ran
  have advanced := (advanceClock_eq_ok_iff showing).mpr ⟨later, reached, rfl⟩
  have shown := showsFixed_set showing (aware_of_shift? showing reached)
  have counted : lastWinterNoon.unixNanoseconds? = some 1743246000000000000 := by decide +kernel
  have countedLater :
      firstSummerNoon.unixNanoseconds? = some (1743246000000000000 + 82800 * 1000000000) := by
    decide +kernel
  refine ⟨made, ⟨_, advanced, ?_⟩, by decide +kernel, ?_, ?_⟩
  · rw [now_of_showsFixed shown, settled]
  · rw [unixNanoseconds, counted]
  · rw [unixNanoseconds, countedLater]

end EventSourcing
