import EventSourcing.Time.Calendar

/-!
# Days of the calendar

`Date.Next` is the calendar's own step from a day to the following one: within a month, over the
end of a month, or over the end of a year. A step raises the day number by one, whatever it
crosses. Every number up to the last day's is the number of one date, and `Date.ofDayNumber?` finds
that date.
-/

set_option autoImplicit false

namespace EventSourcing

/-! ## Years and months -/

def daysInYear (year : Nat) : Nat :=
  if isLeapYear year then 366 else 365

/-- A day more every fourth year, but not every hundredth, but every four-hundredth. -/
theorem daysInYear_eq (year : Nat) :
    daysInYear year + (if year % 100 = 0 then 1 else 0) =
      365 + (if year % 4 = 0 then 1 else 0) + (if year % 400 = 0 then 1 else 0) := by
  simp only [daysInYear, isLeapYear, Bool.and_eq_true, Bool.or_eq_true, decide_eq_true_eq]
  by_cases fourHundredth : year % 400 = 0
  · have century : year % 100 = 0 := by omega
    have fourth : year % 4 = 0 := by omega
    simp [fourHundredth, century, fourth]
  · by_cases century : year % 100 = 0
    · have fourth : year % 4 = 0 := by omega
      simp [fourHundredth, century, fourth]
    · by_cases fourth : year % 4 = 0
      · simp [fourHundredth, century, fourth]
      · simp [fourHundredth, century, fourth]

private theorem succ_div_eq (past divisor : Nat) :
    (past + 1) / divisor = past / divisor + if (past + 1) % divisor = 0 then 1 else 0 := by
  simp only [Nat.succ_div, Nat.dvd_iff_mod_eq_zero]

theorem daysBeforeYear_succ {year : Nat} (started : 1 ≤ year) :
    daysBeforeYear (year + 1) = daysBeforeYear year + daysInYear year := by
  obtain ⟨past, rfl⟩ := Nat.exists_eq_add_of_le' started
  have rule := daysInYear_eq (past + 1)
  have fourth := succ_div_eq past 4
  have century := succ_div_eq past 100
  have fourHundredth := succ_div_eq past 400
  have fewer : past / 100 ≤ past / 4 := Nat.div_le_div_left (by decide) (by decide)
  have fewerNext : (past + 1) / 100 ≤ (past + 1) / 4 := Nat.div_le_div_left (by decide) (by decide)
  simp only [daysBeforeYear, Nat.add_sub_cancel]
  generalize (past + 1) / 4 = fourths at *
  generalize (past + 1) / 100 = centuries at *
  omega

theorem daysBeforeYear_mono {earlier later : Nat} (ordered : earlier ≤ later) :
    daysBeforeYear earlier ≤ daysBeforeYear later := by
  induction ordered with
  | refl => exact Nat.le_refl _
  | @step year _ ih =>
    cases year with
    | zero => exact ih
    | succ past =>
      rw [daysBeforeYear_succ (Nat.le_add_left 1 past)]
      exact Nat.le_add_right_of_le ih

theorem daysBeforeMonth_succ {year month : Nat} (started : 1 ≤ month) :
    daysBeforeMonth year (month + 1) = daysBeforeMonth year month + daysInMonth year month := by
  obtain ⟨before, rfl⟩ := Nat.exists_eq_add_of_le' started
  rfl

theorem daysBeforeMonth_mono {year earlier later : Nat} (ordered : earlier ≤ later) :
    daysBeforeMonth year earlier ≤ daysBeforeMonth year later := by
  induction ordered with
  | refl => exact Nat.le_refl _
  | @step month _ ih =>
    cases month with
    | zero => exact ih
    | succ month => exact Nat.le_add_right_of_le ih

/-- The twelve months fill the year. -/
theorem daysBeforeMonth_thirteen (year : Nat) : daysBeforeMonth year 13 = daysInYear year := by
  simp only [daysBeforeMonth, daysInMonth, daysInYear]
  cases isLeapYear year <;> rfl

namespace Date

/-! ## From day to day -/

/-- The calendar's step from a day to the following one. -/
inductive Next : Date → Date → Prop where
  | day {date next : Date} : next.year = date.year → next.month = date.month →
      next.day = date.day + 1 → Next date next
  | month {date next : Date} : date.day = daysInMonth date.year date.month →
      next.year = date.year → next.month = date.month + 1 → next.day = 1 → Next date next
  | year {date next : Date} : date.day = daysInMonth date.year date.month → date.month = 12 →
      next.year = date.year + 1 → next.month = 1 → next.day = 1 → Next date next

theorem Next.dayNumber {date next : Date} (step : Next date next) :
    next.dayNumber = date.dayNumber + 1 := by
  cases step with
  | day year month day => simp only [Date.dayNumber, year, month, day, Nat.add_assoc]
  | month full year month day =>
    simp only [Date.dayNumber, year, month, day, daysBeforeMonth_succ date.monthInRange.1, full,
      Nat.add_assoc]
  | year full month year first day =>
    have whole : daysBeforeMonth date.year 12 + daysInMonth date.year 12 = daysInYear date.year :=
      daysBeforeMonth_thirteen date.year
    have newYear : daysBeforeMonth (date.year + 1) 1 = 0 := rfl
    rw [Date.dayNumber, Date.dayNumber, year, first, day, month, full, month, newYear,
      daysBeforeYear_succ date.yearInRange.1, ← whole]
    omega

/-- Every day but the first is the one after another. -/
theorem exists_next_of_ne_first {date : Date} (later : date ≠ first) :
    ∃ before, Next before date := by
  obtain ⟨year, month, day, yearInRange, monthInRange, dayInRange⟩ := date
  by_cases within : 1 < day
  · have shorter : 1 ≤ day - 1 ∧ day - 1 ≤ daysInMonth year month := by omega
    refine ⟨⟨year, month, day - 1, yearInRange, monthInRange, shorter⟩, .day rfl rfl ?_⟩
    show day = day - 1 + 1
    omega
  · have start : day = 1 := by omega
    by_cases inYear : 1 < month
    · have known : 1 ≤ month - 1 ∧ month - 1 ≤ 12 := by omega
      have positive : 1 ≤ daysInMonth year (month - 1) := by
        simp only [daysInMonth]
        split
        · split <;> decide
        · split <;> decide
      refine ⟨⟨year, month - 1, daysInMonth year (month - 1), yearInRange, known, positive,
        Nat.le_refl _⟩, .month rfl rfl ?_ start⟩
      show month = month - 1 + 1
      omega
    · have january : month = 1 := by omega
      have notFirst : year ≠ 1 := by
        rintro rfl
        subst start january
        exact later rfl
      have known : 1 ≤ year - 1 ∧ year - 1 ≤ lastYear := by
        simp only [lastYear] at yearInRange ⊢
        omega
      refine ⟨⟨year - 1, 12, 31, known, by decide, by decide, Nat.le_refl 31⟩,
        .year rfl rfl ?_ january start⟩
      show year = year - 1 + 1
      omega

/-! ## Bounds of day numbers -/

theorem daysBeforeYear_lt_dayNumber (date : Date) :
    daysBeforeYear date.year < date.dayNumber := by
  have positive := date.dayInRange.1
  simp only [dayNumber]
  omega

theorem dayOfYear_le (date : Date) :
    daysBeforeMonth date.year date.month + date.day ≤
      daysBeforeMonth date.year (date.month + 1) := by
  rw [daysBeforeMonth_succ date.monthInRange.1]
  exact Nat.add_le_add_left date.dayInRange.2 _

theorem dayNumber_le_daysBeforeYear (date : Date) :
    date.dayNumber ≤ daysBeforeYear (date.year + 1) := by
  have inMonth := date.dayOfYear_le
  have inYear : daysBeforeMonth date.year (date.month + 1) ≤ daysBeforeMonth date.year 13 :=
    daysBeforeMonth_mono (Nat.succ_le_succ date.monthInRange.2)
  rw [daysBeforeMonth_thirteen] at inYear
  rw [daysBeforeYear_succ date.yearInRange.1, dayNumber]
  omega

theorem one_le_dayNumber (date : Date) : 1 ≤ date.dayNumber :=
  Nat.one_le_of_lt date.daysBeforeYear_lt_dayNumber

def last : Date := { year := 9999, month := 12, day := 31 }

theorem dayNumber_last : last.dayNumber = daysBeforeYear (lastYear + 1) := by
  decide

theorem dayNumber_le_last (date : Date) : date.dayNumber ≤ last.dayNumber := by
  rw [dayNumber_last]
  exact Nat.le_trans date.dayNumber_le_daysBeforeYear
    (daysBeforeYear_mono (Nat.succ_le_succ date.yearInRange.2))

/-- Different dates have different numbers. -/
theorem eq_of_dayNumber_eq {left right : Date} (same : left.dayNumber = right.dayNumber) :
    left = right := by
  have yearLe {left right : Date} (same : left.dayNumber = right.dayNumber) :
      left.year ≤ right.year := by
    refine Nat.le_of_not_lt fun before => ?_
    have past : daysBeforeYear (right.year + 1) ≤ daysBeforeYear left.year :=
      daysBeforeYear_mono before
    have lower := left.daysBeforeYear_lt_dayNumber
    have upper := right.dayNumber_le_daysBeforeYear
    omega
  have year : left.year = right.year := Nat.le_antisymm (yearLe same) (yearLe same.symm)
  have monthLe {left right : Date} (same : left.dayNumber = right.dayNumber)
      (year : left.year = right.year) : left.month ≤ right.month := by
    refine Nat.le_of_not_lt fun before => ?_
    have past : daysBeforeMonth right.year (right.month + 1) ≤
        daysBeforeMonth right.year left.month :=
      daysBeforeMonth_mono before
    have upper := right.dayOfYear_le
    have positive := left.dayInRange.1
    simp only [dayNumber, year] at same
    omega
  have month : left.month = right.month :=
    Nat.le_antisymm (monthLe same year) (monthLe same.symm year.symm)
  have day : left.day = right.day := by
    simp only [dayNumber, year, month] at same
    omega
  obtain ⟨leftYear, leftMonth, leftDay, _, _, _⟩ := left
  obtain ⟨rightYear, rightMonth, rightDay, _, _, _⟩ := right
  cases year
  cases month
  cases day
  rfl

/-! ## From numbers to dates -/

/-- The average length of a year gives the year up to one. -/
theorem yearAfter_spec (days : Nat) :
    1 ≤ yearAfter days ∧ daysBeforeYear (yearAfter days) ≤ days ∧
      days < daysBeforeYear (yearAfter days + 1) := by
  let past := days * 400 / 146097
  have below : daysBeforeYear (past + 1) ≤ days := by
    simp only [daysBeforeYear, past]
    omega
  have above : days < daysBeforeYear (past + 2 + 1) := by
    simp only [daysBeforeYear, past]
    omega
  simp only [yearAfter]
  rw [if_neg (Nat.not_lt_of_le below)]
  split
  · rename_i reached
    exact ⟨Nat.le_add_left 1 _, reached, above⟩
  · rename_i notReached
    exact ⟨Nat.le_add_left 1 _, below, Nat.lt_of_not_le notReached⟩

/-- Going on from month to month within a year finds the month and day with the given number of
days before it. -/
theorem monthAfter_spec {year month days months : Nat} (started : 1 ≤ month)
    (fits : daysBeforeMonth year month + days < daysBeforeMonth year (month + months + 1)) :
    ∃ found day, monthAfter year month days months = (found, day) ∧ month ≤ found ∧
      found ≤ month + months ∧ 1 ≤ day ∧ day ≤ daysInMonth year found ∧
      daysBeforeMonth year found + day = daysBeforeMonth year month + days + 1 := by
  induction months generalizing month days with
  | zero =>
    rw [Nat.add_zero, daysBeforeMonth_succ started] at fits
    exact ⟨month, days + 1, rfl, Nat.le_refl _, Nat.le_refl _, by omega, by omega, rfl⟩
  | succ months ih =>
    rw [monthAfter]
    split
    · rename_i inside
      exact ⟨month, days + 1, rfl, Nat.le_refl _, by omega, by omega, inside, rfl⟩
    · rename_i past
      have next := @daysBeforeMonth_succ year month started
      have rest : daysBeforeMonth year (month + 1) + (days - daysInMonth year month) <
          daysBeforeMonth year (month + 1 + months + 1) := by
        rw [next, show month + 1 + months + 1 = month + (months + 1) + 1 by omega]
        omega
      obtain ⟨found, day, shown, after, before, positive, inMonth, number⟩ :=
        ih (Nat.le_add_left 1 month) rest
      refine ⟨found, day, shown, by omega, by omega, positive, inMonth, ?_⟩
      rw [number, next]
      omega

/-- The day after a number of days is found, up to the last one. -/
theorem ofDayNumber?_succ (days : Nat) :
    (∃ date, ofDayNumber? (days + 1 : Nat) = some date ∧ date.dayNumber = days + 1) ∨
      ofDayNumber? (days + 1 : Nat) = none ∧ last.dayNumber < days + 1 := by
  obtain ⟨started, before, after⟩ := yearAfter_spec days
  have parts : partsAfter days = (yearAfter days,
      monthAfter (yearAfter days) 1 (days - daysBeforeYear (yearAfter days)) 11) := rfl
  generalize yearAfter days = year at started before after parts
  have newYear : daysBeforeMonth year 1 = 0 := rfl
  have fits : daysBeforeMonth year 1 + (days - daysBeforeYear year) <
      daysBeforeMonth year (1 + 11 + 1) := by
    have whole := daysBeforeYear_succ started
    rw [daysBeforeMonth_thirteen, newYear]
    omega
  obtain ⟨month, day, shown, monthStarted, monthKnown, dayStarted, dayKnown, count⟩ :=
    monthAfter_spec (Nat.le_refl 1) fits
  have positive : (1 : Int) ≤ (days + 1 : Nat) := Int.ofNat_le.mpr (Nat.le_add_left 1 days)
  rw [ofDayNumber?, if_pos positive, Int.toNat_natCast, Nat.add_sub_cancel, parts, shown]
  by_cases known : year ≤ lastYear
  · let date : Date := ⟨year, month, day, ⟨started, known⟩, ⟨monthStarted, by omega⟩,
      ⟨dayStarted, dayKnown⟩⟩
    have made : of? year month day = .ok date := by
      rw [of?, dif_pos date.yearInRange, dif_pos date.monthInRange, dif_pos date.dayInRange]
    refine .inl ⟨date, ?_, ?_⟩
    · simp only [made]
      rfl
    · show daysBeforeYear year + daysBeforeMonth year month + day = days + 1
      omega
  · have refused : of? year month day = .error (.year year) := by
      rw [of?, dif_neg fun inRange => known inRange.2]
    refine .inr ⟨?_, ?_⟩
    · simp only [refused]
      rfl
    · have past : daysBeforeYear (lastYear + 1) ≤ daysBeforeYear year :=
        daysBeforeYear_mono (Nat.lt_of_not_le known)
      rw [← dayNumber_last] at past
      omega

/-- A date is found by its own number and by no other. -/
theorem ofDayNumber?_eq_some_iff {number : Int} {date : Date} :
    ofDayNumber? number = some date ↔ number = date.dayNumber := by
  constructor
  · intro found
    by_cases positive : 1 ≤ number
    · obtain ⟨days, rfl⟩ : ∃ days : Nat, number = (days + 1 : Nat) :=
        ⟨(number - 1).toNat, by omega⟩
      rcases ofDayNumber?_succ days with ⟨other, shown, count⟩ | ⟨none, -⟩
      · rw [found, Option.some.injEq] at shown
        rw [shown, count]
      · rw [none] at found
        cases found
    · rw [ofDayNumber?, if_neg positive] at found
      cases found
  · rintro rfl
    obtain ⟨days, count⟩ := Nat.exists_eq_add_of_le' date.one_le_dayNumber
    rw [count]
    rcases ofDayNumber?_succ days with ⟨other, shown, same⟩ | ⟨-, beyond⟩
    · rw [shown, eq_of_dayNumber_eq (same.trans count.symm)]
    · have within := date.dayNumber_le_last
      omega

/-- A number is that of no date when it lies before the first day or after the last. -/
theorem ofDayNumber?_eq_none_iff {number : Int} :
    ofDayNumber? number = none ↔ number < first.dayNumber ∨ last.dayNumber < number := by
  have start : first.dayNumber = 1 := by decide
  constructor
  · intro missing
    by_cases positive : 1 ≤ number
    · obtain ⟨days, rfl⟩ : ∃ days : Nat, number = (days + 1 : Nat) :=
        ⟨(number - 1).toNat, by omega⟩
      rcases ofDayNumber?_succ days with ⟨other, shown, -⟩ | ⟨-, beyond⟩
      · rw [missing] at shown
        cases shown
      · exact .inr (Int.ofNat_lt.mpr beyond)
    · rw [start]
      exact .inl (Int.lt_of_not_ge positive)
  · intro outside
    cases found : ofDayNumber? number with
    | none => rfl
    | some date =>
      have count := ofDayNumber?_eq_some_iff.mp found
      have positive := date.one_le_dayNumber
      have within := date.dayNumber_le_last
      omega

end Date

end EventSourcing
