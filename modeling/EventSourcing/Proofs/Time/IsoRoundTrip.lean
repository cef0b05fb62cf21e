import EventSourcing.Proofs.Text.DecimalDigits
import EventSourcing.Time.IsoText

/-!
# ISO text of moments read back

`IsoText.readParts?` takes the extended form apart: a date, a separator, a time with or
without a fraction, and an offset or none. From that, a moment is read back from its own
text with the same date, time and offset, offsets of seconds and fractions included.
-/

set_option autoImplicit false

namespace EventSourcing

open DecimalText (padded)

private theorem padded_two {value : Nat} (small : value < 100) :
    ∃ tens ones, padded 2 value = [tens, ones] ∧ Text.isDigit tens = true ∧
      Text.isDigit ones = true := by
  have length : (padded 2 value).length = 2 := DecimalText.length_padded (by decide) small
  have digits : ∀ digit ∈ padded 2 value, Text.isDigit digit = true :=
    fun _ member => DecimalText.isDigit_of_mem_padded member
  match shape : padded 2 value, length with
  | [tens, ones], _ =>
      rw [shape] at digits
      exact ⟨tens, ones, rfl, digits tens (by simp), digits ones (by simp)⟩

private theorem padded_four {value : Nat} (small : value < 10000) :
    ∃ first second third fourth, padded 4 value = [first, second, third, fourth] := by
  have length : (padded 4 value).length = 4 := DecimalText.length_padded (by decide) small
  match shape : padded 4 value, length with
  | [first, second, third, fourth], _ => exact ⟨first, second, third, fourth, rfl⟩

def clockChars (hour minute second : Nat) : List Char :=
  padded 2 hour ++ ':' :: (padded 2 minute ++ ':' :: padded 2 second)

theorem TimeOfDay.isoChars_eq (time : TimeOfDay) :
    time.isoChars = clockChars time.hour time.minute time.second ++
      fractionChars time.microsecond := by
  rfl

def Offset.signChar (offset : Offset) : Char :=
  if offset.microseconds < 0 then '-' else '+'

def sizeChars (size : Nat) : List Char :=
  padded 2 (size / microsecondsPerSecond / 3600) ++
    ':' :: padded 2 (size / microsecondsPerSecond / 60 % 60) ++
    if size / microsecondsPerSecond % 60 = 0 ∧ size % microsecondsPerSecond = 0 then []
    else ':' :: padded 2 (size / microsecondsPerSecond % 60) ++
      fractionChars (size % microsecondsPerSecond)

theorem Offset.isoChars_eq (offset : Offset) :
    offset.isoChars = offset.signChar :: sizeChars offset.microseconds.natAbs := by
  rfl

theorem Offset.signChar_eq_or (offset : Offset) :
    offset.signChar = '+' ∨ offset.signChar = '-' := by
  rw [signChar]
  split
  · exact .inr rfl
  · exact .inl rfl

namespace IsoText

/-! ## Times of day -/

/-- Six digits after a point are read as they are. -/
theorem readFraction?_point {digits : List Char} (six : digits.length = 6)
    (all : ∀ digit ∈ digits, Text.isDigit digit = true) :
    readFraction? ('.' :: digits) = some (Text.digitsValue digits) := by
  have nonempty : digits ≠ [] := by
    rintro rfl
    cases six
  have taken : (digits ++ List.replicate 6 '0').take 6 = digits := List.take_left' six
  rw [readFraction?, if_pos ⟨.inl rfl, nonempty, List.all_eq_true.mpr all⟩, taken]

theorem readFraction?_fractionChars {microsecond : Nat}
    (small : microsecond < microsecondsPerSecond) :
    readFraction? (fractionChars microsecond) = some microsecond := by
  by_cases zero : microsecond = 0
  · subst zero
    rfl
  · have length : (padded 6 microsecond).length = 6 :=
      DecimalText.length_padded (by decide) small
    rw [fractionChars, if_neg zero,
      readFraction?_point length fun _ member => DecimalText.isDigit_of_mem_padded member,
      DecimalText.digitsValue_padded]

theorem readTime?_clockChars {hour minute second : Nat} (hourSmall : hour < 100)
    (minuteSmall : minute < 100) (secondSmall : second < 100) {fraction : List Char}
    {microsecond : Nat} (fractionRead : readFraction? fraction = some microsecond) :
    readTime? (clockChars hour minute second ++ fraction) =
      some (hour, minute, second, microsecond) := by
  have hourValue := DecimalText.digitsValue?_padded 2 hour
  have minuteValue := DecimalText.digitsValue?_padded 2 minute
  have secondValue := DecimalText.digitsValue?_padded 2 second
  obtain ⟨h1, h2, hourShape, -⟩ := padded_two hourSmall
  obtain ⟨m1, m2, minuteShape, -⟩ := padded_two minuteSmall
  obtain ⟨s1, s2, secondShape, -⟩ := padded_two secondSmall
  rw [hourShape] at hourValue
  rw [minuteShape] at minuteValue
  rw [secondShape] at secondValue
  simp only [clockChars, hourShape, minuteShape, secondShape, List.cons_append, List.nil_append,
    readTime?, readTime?.parts?, hourValue, minuteValue, secondValue, fractionRead,
    Option.bind_eq_bind, Option.bind_some]
  rfl

theorem readTime?_hourMinute {hour minute : Nat} (hourSmall : hour < 100)
    (minuteSmall : minute < 100) :
    readTime? (padded 2 hour ++ ':' :: padded 2 minute) = some (hour, minute, 0, 0) := by
  have hourValue := DecimalText.digitsValue?_padded 2 hour
  have minuteValue := DecimalText.digitsValue?_padded 2 minute
  obtain ⟨h1, h2, hourShape, -⟩ := padded_two hourSmall
  obtain ⟨m1, m2, minuteShape, -⟩ := padded_two minuteSmall
  rw [hourShape] at hourValue
  rw [minuteShape] at minuteValue
  simp only [hourShape, minuteShape, List.cons_append, List.nil_append, readTime?,
    readTime?.parts?, hourValue, minuteValue, Option.bind_eq_bind, Option.bind_some]
  rfl

/-! ## Offsets -/

theorem readOffset?_signed {sign : Char} {text : List Char}
    (signed : sign = '+' ∨ sign = '-') :
    readOffset? (sign :: text) = (readTime? text).bind fun (hour, minute, second, microsecond) =>
      let size := ((hour * 60 + minute) * 60 + second) * microsecondsPerSecond + microsecond
      some (some (if sign = '-' then -(size : Int) else size)) := by
  rcases signed with rfl | rfl <;> rfl

private theorem readTime?_sizeChars {size : Nat} (small : size < microsecondsPerDay) :
    readTime? (sizeChars size) =
      some (size / microsecondsPerSecond / 3600, size / microsecondsPerSecond / 60 % 60,
        size / microsecondsPerSecond % 60, size % microsecondsPerSecond) := by
  have hourSmall : size / microsecondsPerSecond / 3600 < 100 := by
    simp only [microsecondsPerDay, secondsPerDay, microsecondsPerSecond] at small ⊢
    omega
  rw [sizeChars]
  split
  · rename_i whole
    rw [List.append_nil, readTime?_hourMinute hourSmall (by omega), whole.1, whole.2]
  · have minuteSmall : size / microsecondsPerSecond / 60 % 60 < 100 := by omega
    have secondSmall : size / microsecondsPerSecond % 60 < 100 := by omega
    have fraction : size % microsecondsPerSecond < microsecondsPerSecond :=
      Nat.mod_lt _ (by decide)
    have read := readTime?_clockChars hourSmall minuteSmall secondSmall
      (readFraction?_fractionChars fraction)
    simpa only [clockChars, List.append_assoc, List.cons_append] using read

theorem readOffset?_isoChars (offset : Offset) :
    readOffset? offset.isoChars = some (some offset.microseconds) := by
  have whole (size : Nat) : ((size / microsecondsPerSecond / 3600 * 60 +
      size / microsecondsPerSecond / 60 % 60) * 60 + size / microsecondsPerSecond % 60) *
      microsecondsPerSecond + size % microsecondsPerSecond = size := by
    simp only [microsecondsPerSecond]
    omega
  rw [offset.isoChars_eq, readOffset?_signed offset.signChar_eq_or,
    readTime?_sizeChars offset.inRange]
  simp only [Option.bind_some, whole, Option.some.injEq, Offset.signChar]
  by_cases negative : offset.microseconds < 0
  · simp only [negative, if_true]
    omega
  · simp only [negative, if_false, show ¬ '+' = '-' by decide]
    omega

theorem stops_offset (offset : Option Offset) :
    Text.Stops (! startsOffset ·) ((offset.map Offset.isoChars).getD []) := by
  cases offset with
  | none => exact Text.stops_nil _
  | some offset =>
      rw [Option.map_some, Option.getD_some, offset.isoChars_eq, Text.stops_cons_iff]
      rcases offset.signChar_eq_or with plus | minus
      · rw [plus]; decide
      · rw [minus]; decide

theorem readOffset?_offset (offset : Option Offset) :
    readOffset? ((offset.map Offset.isoChars).getD []) =
      some (offset.map Offset.microseconds) := by
  cases offset with
  | none => rfl
  | some offset => exact readOffset?_isoChars offset

/-! ## Whole texts -/

theorem not_startsOffset_of_isDigit {character : Char}
    (digit : Text.isDigit character = true) : (! startsOffset character) = true := by
  have apart (other : Char) (noDigit : Text.isDigit other = false) : character ≠ other := by
    rintro rfl
    rw [digit] at noDigit
    cases noDigit
  simp only [startsOffset, apart '+' (by decide), apart '-' (by decide), apart 'Z' (by decide),
    decide_false, Bool.or_self, Bool.not_false]

private theorem not_startsOffset_clockChars {hour minute second : Nat} {character : Char}
    (member : character ∈ clockChars hour minute second) : (! startsOffset character) = true := by
  simp only [clockChars, List.mem_append, List.mem_cons] at member
  rcases member with digit | rfl | digit | rfl | digit
  · exact not_startsOffset_of_isDigit (DecimalText.isDigit_of_mem_padded digit)
  · decide
  · exact not_startsOffset_of_isDigit (DecimalText.isDigit_of_mem_padded digit)
  · decide
  · exact not_startsOffset_of_isDigit (DecimalText.isDigit_of_mem_padded digit)

theorem not_startsOffset_fractionChars {microsecond : Nat} {character : Char}
    (member : character ∈ fractionChars microsecond) : (! startsOffset character) = true := by
  rw [fractionChars] at member
  split at member
  · cases member
  · rcases List.mem_cons.mp member with rfl | digit
    · decide
    · exact not_startsOffset_of_isDigit (DecimalText.isDigit_of_mem_padded digit)

private theorem date_isoChars (date : Date) :
    ∃ y1 y2 y3 y4 m1 m2 d1 d2,
      date.isoChars = [y1, y2, y3, y4, '-', m1, m2, '-', d1, d2] ∧ m1 ≠ 'W' ∧
        readDate? date.isoChars = some (date.year, date.month, date.day) := by
  have yearValue := DecimalText.digitsValue?_padded 4 date.year
  have monthValue := DecimalText.digitsValue?_padded 2 date.month
  have dayValue := DecimalText.digitsValue?_padded 2 date.day
  have monthSmall := date.monthInRange.2
  have daySmall : date.day < 100 := by
    have inMonth := date.dayInRange.2
    unfold daysInMonth at inMonth
    split at inMonth <;> (try split at inMonth) <;> omega
  obtain ⟨y1, y2, y3, y4, yearShape⟩ := padded_four (Nat.lt_succ_of_le date.yearInRange.2)
  obtain ⟨m1, m2, monthShape, monthDigit, -⟩ :=
    padded_two (show date.month < 100 by omega)
  obtain ⟨d1, d2, dayShape, -⟩ := padded_two daySmall
  have notWeek : m1 ≠ 'W' := by
    rintro rfl
    exact absurd monthDigit (by decide)
  have shape : date.isoChars = [y1, y2, y3, y4, '-', m1, m2, '-', d1, d2] := by
    simp only [Date.isoChars, yearShape, monthShape, dayShape, List.cons_append, List.nil_append]
  refine ⟨y1, y2, y3, y4, m1, m2, d1, d2, shape, notWeek, ?_⟩
  rw [yearShape] at yearValue
  rw [monthShape] at monthValue
  rw [dayShape] at dayValue
  have asMonth : readDate? [y1, y2, y3, y4, '-', m1, m2, '-', d1, d2] =
      readDate?.month? [y1, y2, y3, y4] [m1, m2] [d1, d2] := by
    rw [readDate?]
    exact fun week _ => notWeek week
  rw [shape, asMonth, readDate?.month?, yearValue, monthValue, dayValue]
  rfl

/-- A date, a time with a fraction and an offset, each in its own text, are the parts of
the whole. -/
theorem readParts?_extended (date : Date) {hour minute second microsecond : Nat}
    (hourSmall : hour < 100) (minuteSmall : minute < 100) (secondSmall : second < 100)
    {fraction offsetText : List Char} {offset : Option Int}
    (fractionRead : readFraction? fraction = some microsecond)
    (fractionInside : ∀ character ∈ fraction, (! startsOffset character) = true)
    (offsetStarts : Text.Stops (! startsOffset ·) offsetText)
    (offsetRead : readOffset? offsetText = some offset) :
    readParts? (date.isoChars ++
        'T' :: (clockChars hour minute second ++ fraction ++ offsetText)) =
      some { date := (date.year, date.month, date.day),
             time := (hour, minute, second, microsecond), offset } := by
  have inside : ∀ character ∈ clockChars hour minute second ++ fraction,
      (! startsOffset character) = true := by
    intro character member
    rcases List.mem_append.mp member with clock | fractional
    · exact not_startsOffset_clockChars clock
    · exact fractionInside character fractional
  have timeTaken := Text.takeWhile_append_stop inside offsetStarts
  have offsetLeft := Text.dropWhile_append_stop inside offsetStarts
  have timeRead := readTime?_clockChars hourSmall minuteSmall secondSmall fractionRead
  obtain ⟨y1, y2, y3, y4, m1, m2, d1, d2, shape, notWeek, dateRead⟩ := date_isoChars date
  have rest : clockChars hour minute second ++ fraction ++ offsetText ≠ [] := by
    simp [clockChars]
  generalize clockChars hour minute second ++ fraction ++ offsetText = behind at *
  rw [shape] at dateRead
  have dateEnd : dateEnd? (y1 :: y2 :: y3 :: y4 :: '-' :: m1 :: m2 :: '-' :: d1 :: d2 ::
      'T' :: behind) = some 10 := by
    simp [dateEnd?, notWeek]
  simp only [shape, List.cons_append, List.nil_append, readParts?, dateEnd, List.length_cons,
    show ¬ behind.length + 1 + 1 + 1 + 1 + 1 + 1 + 1 + 1 + 1 + 1 + 1 < 7 by omega, if_false,
    List.take_succ_cons, List.take_zero, List.drop_succ_cons, List.drop_zero, dateRead, timeTaken,
    offsetLeft, timeRead, offsetRead, Option.bind_eq_bind, Option.bind_some]
  rfl

theorem Parts.toMoment?_of_moment (moment : Moment) :
    Parts.toMoment? {
      date := (moment.date.year, moment.date.month, moment.date.day)
      time := (moment.time.hour, moment.time.minute, moment.time.second, moment.time.microsecond)
      offset := moment.offset.map Offset.microseconds } = .ok moment := by
  obtain ⟨date, time, offset⟩ := moment
  have dateMade : Date.of? date.year date.month date.day = .ok date := by
    rw [Date.of?, dif_pos date.yearInRange, dif_pos date.monthInRange, dif_pos date.dayInRange]
  have timeMade :
      TimeOfDay.of? time.hour time.minute time.second time.microsecond = .ok time := by
    rw [TimeOfDay.of?, dif_pos time.hourInRange, dif_pos time.minuteInRange,
      dif_pos time.secondInRange, dif_pos time.microsecondInRange]
  cases offset with
  | none =>
      simp only [Parts.toMoment?, Option.map_none, dateMade, timeMade]
      rfl
  | some offset =>
      have offsetMade : Offset.of? offset.microseconds = some offset := by
        rw [Offset.of?, dif_pos offset.inRange]
      simp only [Parts.toMoment?, Option.map_some, offsetMade, dateMade, timeMade]
      rfl

end IsoText

/-- A moment is read back from its text. -/
theorem Moment.ofIsoText?_isoChars (moment : Moment) :
    Moment.ofIsoText? (moment.isoChars 'T') = .ok moment := by
  have hourSmall : moment.time.hour < 100 :=
    Nat.lt_trans moment.time.hourInRange (by decide)
  have minuteSmall : moment.time.minute < 100 :=
    Nat.lt_trans moment.time.minuteInRange (by decide)
  have secondSmall : moment.time.second < 100 :=
    Nat.lt_trans moment.time.secondInRange (by decide)
  have parts := IsoText.readParts?_extended moment.date hourSmall minuteSmall secondSmall
    (IsoText.readFraction?_fractionChars moment.time.microsecondInRange)
    (fun _ member => IsoText.not_startsOffset_fractionChars member)
    (IsoText.stops_offset moment.offset) (IsoText.readOffset?_offset moment.offset)
  rw [Moment.ofIsoText?, Moment.isoChars, TimeOfDay.isoChars_eq, List.append_assoc,
    List.cons_append, parts]
  exact IsoText.Parts.toMoment?_of_moment moment

end EventSourcing
