import EventSourcing.Parameter
import EventSourcing.Proofs.Time.DayNumbers
import EventSourcing.Proofs.Time.TimestampRoundTrip

/-!
# Timestamps of other writers

`TimestampText` is a timestamp as others write it: a fraction of any length or none, and an offset
in hours and minutes, a `Z` of either case, or none. Each step of the reading changes one part of
the text: blanks go, the `Z` is spelled out, and the fraction is brought to six digits, which
cuts it off and never rounds it. So the moment that is read has exactly the parts that are written.
-/

set_option autoImplicit false

namespace EventSourcing

open DecimalText (padded)

namespace Text

/-- The blanks around a text go, and nothing else does. -/
theorem stripChars_surrounded {before text after : List Char}
    (blankBefore : ∀ character ∈ before, isBlank character = true)
    (blankAfter : ∀ character ∈ after, isBlank character = true) (written : text ≠ [])
    (starts : Stops isBlank text) (ends : Stops isBlank text.reverse) :
    stripChars (before ++ text ++ after) = text := by
  have startsStill : Stops isBlank (text ++ after) := by
    obtain ⟨first, rest, rfl⟩ := List.exists_cons_of_ne_nil written
    rw [stops_cons_iff] at starts
    rwa [List.cons_append, stops_cons_iff]
  have blankBehind : ∀ character ∈ after.reverse, isBlank character = true :=
    fun character member => blankAfter character (List.mem_reverse.mp member)
  rw [stripChars, List.append_assoc, dropWhile_append_stop blankBefore startsStill,
    stripRightChars, List.reverse_append, dropWhile_append_stop blankBehind ends,
    List.reverse_reverse]

end Text

/-- How the offset of a timestamp is written. -/
inductive OffsetText where
  | absent
  | zulu (small : Bool)
  | signed (negative : Bool) (hour minute : Nat) (hourInRange : hour < 24)
      (minuteInRange : minute < 60)

namespace OffsetText

def signedChars (negative : Bool) (hour minute : Nat) : List Char :=
  (if negative then '-' else '+') :: (padded 2 hour ++ ':' :: padded 2 minute)

def chars : OffsetText → List Char
  | .absent => []
  | .zulu small => [if small then 'z' else 'Z']
  | .signed negative hour minute _ _ => signedChars negative hour minute

def signedMicroseconds (negative : Bool) (hour minute : Nat) : Int :=
  let size := (hour * 60 + minute) * 60 * microsecondsPerSecond
  if negative then -(size : Int) else size

theorem signedMicroseconds_inRange (negative : Bool) {hour minute : Nat} (hourInRange : hour < 24)
    (minuteInRange : minute < 60) :
    (signedMicroseconds negative hour minute).natAbs < microsecondsPerDay := by
  simp only [signedMicroseconds, microsecondsPerDay, secondsPerDay, microsecondsPerSecond]
  split <;> omega

def offset : OffsetText → Option Offset
  | .absent => none
  | .zulu _ => some .universal
  | .signed negative hour minute hourInRange minuteInRange => some
    { microseconds := signedMicroseconds negative hour minute
      inRange := signedMicroseconds_inRange negative hourInRange minuteInRange }

end OffsetText

/-- A timestamp as it is written; without digits it has no fraction. -/
structure TimestampText where
  date : Date
  hour : Nat
  minute : Nat
  second : Nat
  fraction : List Char
  offsetText : OffsetText
  hourInRange : hour < 24 := by decide
  minuteInRange : minute < 60 := by decide
  secondInRange : second < 60 := by decide
  digits : ∀ digit ∈ fraction, Text.isDigit digit = true

namespace TimestampText

def fractionPart (fraction : List Char) : List Char :=
  if fraction = [] then [] else '.' :: fraction

def chars (text : TimestampText) : List Char :=
  text.date.isoChars ++ 'T' :: (clockChars text.hour text.minute text.second ++
    fractionPart text.fraction ++ text.offsetText.chars)

/-- The whole microseconds of the fraction; what is finer is left out. -/
def microsecond (text : TimestampText) : Nat :=
  Text.digitsValue text.fraction * microsecondsPerSecond / Nat.pow 10 text.fraction.length

theorem microsecond_lt (text : TimestampText) : text.microsecond < microsecondsPerSecond := by
  have small := Text.digitsValue_lt text.digits
  exact Nat.div_lt_of_lt_mul (Nat.mul_lt_mul_of_pos_right small (by decide))

def moment (text : TimestampText) : Moment where
  date := text.date
  time :=
    { hour := text.hour, minute := text.minute, second := text.second
      microsecond := text.microsecond, hourInRange := text.hourInRange
      minuteInRange := text.minuteInRange, secondInRange := text.secondInRange
      microsecondInRange := text.microsecond_lt }
  offset := text.offsetText.offset

end TimestampText

/-! ## Offsets -/

namespace OffsetText

/-- An offset as it is read: a `Z` is the offset zero. -/
def spelled : OffsetText → List Char
  | .zulu _ => signedChars false 0 0
  | other => other.chars

theorem sign_eq_or (negative : Bool) :
    (if negative then '-' else '+') = '+' ∨ (if negative then '-' else '+') = '-' := by
  cases negative
  · exact .inl rfl
  · exact .inr rfl

theorem spelled_eq (offsetText : OffsetText) :
    offsetText.spelled = [] ∨
      ∃ negative hour minute, offsetText.spelled = signedChars negative hour minute := by
  cases offsetText with
  | absent => exact .inl rfl
  | zulu _ => exact .inr ⟨_, _, _, rfl⟩
  | signed negative hour minute _ _ => exact .inr ⟨_, _, _, rfl⟩

/-- What continues a date, a time or a fraction ends where the offset starts. -/
theorem stops_spelled {continues : Char → Bool} (plus : continues '+' = false)
    (minus : continues '-' = false) (offsetText : OffsetText) :
    Text.Stops continues offsetText.spelled := by
  rcases offsetText.spelled_eq with empty | ⟨negative, hour, minute, shape⟩
  · rw [empty]
    exact Text.stops_nil _
  · rw [shape, signedChars, Text.stops_cons_iff]
    rcases sign_eq_or negative with sign | sign
    · rwa [sign]
    · rwa [sign]

theorem readOffset?_signedChars (negative : Bool) {hour minute : Nat} (hourSmall : hour < 100)
    (minuteSmall : minute < 100) :
    IsoText.readOffset? (signedChars negative hour minute) =
      some (some (signedMicroseconds negative hour minute)) := by
  rw [signedChars, IsoText.readOffset?_signed (sign_eq_or negative),
    IsoText.readTime?_hourMinute hourSmall minuteSmall]
  cases negative <;> simp [signedMicroseconds]

theorem readOffset?_spelled (offsetText : OffsetText) :
    IsoText.readOffset? offsetText.spelled =
      some (offsetText.offset.map Offset.microseconds) := by
  cases offsetText with
  | absent => rfl
  | zulu _ => rfl
  | signed negative hour minute hourInRange minuteInRange =>
    exact readOffset?_signedChars negative (Nat.lt_trans hourInRange (by decide))
      (Nat.lt_trans minuteInRange (by decide))

theorem fixFraction_spelled (offsetText : OffsetText) :
    Timestamp.fixFraction offsetText.spelled = offsetText.spelled := by
  have noPoint : '.' ∉ offsetText.spelled := by
    rcases offsetText.spelled_eq with empty | ⟨negative, hour, minute, shape⟩
    · rw [empty]
      exact List.not_mem_nil
    · rw [shape, signedChars]
      cases negative <;> simp [Timestamp.noPoint_padded]
  have fixed := Timestamp.fixFraction_append noPoint []
  rwa [Timestamp.fixFraction, List.append_nil] at fixed

theorem endsInDigit_signedChars (negative : Bool) (hour minute : Nat) :
    EndsInDigit (signedChars negative hour minute) :=
  (((endsInDigit_padded 2 minute).cons ':').append (padded 2 hour)).cons _

/-- A final `Z` is spelled out, and any other end is left. -/
theorem expandZulu_chars {body : List Char} (ends : EndsInDigit body) (offsetText : OffsetText) :
    Timestamp.expandZulu (body ++ offsetText.chars) = body ++ offsetText.spelled := by
  cases offsetText with
  | absent =>
    rw [chars, show spelled .absent = [] from rfl, List.append_nil]
    exact Timestamp.expandZulu_of_endsInDigit ends
  | zulu small =>
    have isLast : (body ++ chars (.zulu small)).getLast? = some (if small then 'z' else 'Z') :=
      List.getLast?_concat
    have zulu : (body ++ chars (.zulu small)).getLast? = some 'Z' ∨
        (body ++ chars (.zulu small)).getLast? = some 'z' := by
      rw [isLast]
      cases small
      · exact .inl rfl
      · exact .inr rfl
    rw [Timestamp.expandZulu, if_pos zulu, chars, List.dropLast_concat]
    rfl
  | signed negative hour minute _ _ =>
    exact Timestamp.expandZulu_of_endsInDigit ((endsInDigit_signedChars _ _ _).append body)

end OffsetText

/-! ## Fractions -/

namespace TimestampText

/-- The first six digits of a fraction, zeros added where there are too few. -/
def sixDigits (fraction : List Char) : List Char :=
  (fraction ++ List.replicate 6 '0').take 6

theorem length_sixDigits (fraction : List Char) : (sixDigits fraction).length = 6 := by
  simp only [sixDigits, List.length_take, List.length_append, List.length_replicate]
  omega

theorem isDigit_of_mem_sixDigits {fraction : List Char}
    (digits : ∀ digit ∈ fraction, Text.isDigit digit = true) {character : Char}
    (member : character ∈ sixDigits fraction) : Text.isDigit character = true := by
  rcases List.mem_append.mp (List.mem_of_mem_take member) with written | added
  · exact digits character written
  · rw [List.eq_of_mem_replicate added]
    decide

/-- The fraction as it is read. -/
def fixedPart (fraction : List Char) : List Char :=
  if fraction = [] then [] else '.' :: sixDigits fraction

theorem fixFraction_fractionPart {fraction behind : List Char}
    (digits : ∀ digit ∈ fraction, Text.isDigit digit = true)
    (stop : Text.Stops Text.isAnyDigit behind) (fixed : Timestamp.fixFraction behind = behind) :
    Timestamp.fixFraction (fractionPart fraction ++ behind) = fixedPart fraction ++ behind := by
  rw [fractionPart, fixedPart]
  split
  · exact fixed
  · rename_i written
    exact Timestamp.fixFraction_point written
      (fun digit member => Text.isAnyDigit_of_isDigit (digits digit member)) stop

theorem readFraction?_fixedPart {fraction : List Char}
    (digits : ∀ digit ∈ fraction, Text.isDigit digit = true) :
    IsoText.readFraction? (fixedPart fraction) =
      some (Text.digitsValue fraction * microsecondsPerSecond / Nat.pow 10 fraction.length) := by
  rw [fixedPart]
  split
  · rename_i empty
    subst empty
    rfl
  · rw [IsoText.readFraction?_point (length_sixDigits fraction)
      fun _ member => isDigit_of_mem_sixDigits digits member, sixDigits,
      Text.digitsValue_take digits]
    rfl

theorem not_startsOffset_fixedPart {fraction : List Char}
    (digits : ∀ digit ∈ fraction, Text.isDigit digit = true) {character : Char}
    (member : character ∈ fixedPart fraction) : (! IsoText.startsOffset character) = true := by
  rw [fixedPart] at member
  split at member
  · cases member
  · rcases List.mem_cons.mp member with rfl | written
    · decide
    · exact IsoText.not_startsOffset_of_isDigit (isDigit_of_mem_sixDigits digits written)

/-! ## Whole texts -/

/-- A timestamp without its offset. -/
def body (text : TimestampText) : List Char :=
  text.date.isoChars ++ 'T' :: clockChars text.hour text.minute text.second ++
    fractionPart text.fraction

theorem chars_eq (text : TimestampText) : text.chars = text.body ++ text.offsetText.chars := by
  simp only [chars, body, List.append_assoc, List.cons_append]

theorem endsInDigit_body (text : TimestampText) : EndsInDigit text.body := by
  rw [body, fractionPart]
  split
  · rw [List.append_nil]
    exact ((((endsInDigit_padded 2 text.second).cons ':').append _).cons ':' |>.append _).cons 'T'
      |>.append _
  · rename_i written
    have last := List.getLast?_eq_some_getLast written
    have ends : EndsInDigit text.fraction := ⟨_, last, text.digits _ (List.getLast_mem written)⟩
    exact (ends.cons '.').append _

theorem stops_isBlank_reverse (text : TimestampText) :
    Text.Stops Text.isBlank text.chars.reverse := by
  rw [chars_eq]
  cases text.offsetText with
  | absent =>
    rw [OffsetText.chars, List.append_nil]
    exact text.endsInDigit_body.stops_isBlank
  | zulu small =>
    rw [OffsetText.chars, List.reverse_append, List.reverse_singleton, List.singleton_append,
      Text.stops_cons_iff]
    cases small <;> decide
  | signed negative hour minute _ _ =>
    exact ((OffsetText.endsInDigit_signedChars _ _ _).append _).stops_isBlank

theorem chars_ne_nil (text : TimestampText) : text.chars ≠ [] := by
  simp [chars]

section Reading

variable (text : TimestampText) {before after : List Char}
  (blankBefore : ∀ character ∈ before, Text.isBlank character = true)
  (blankAfter : ∀ character ∈ after, Text.isBlank character = true)

include blankBefore blankAfter

theorem stripChars_chars : Text.stripChars (before ++ text.chars ++ after) = text.chars :=
  Text.stripChars_surrounded blankBefore blankAfter text.chars_ne_nil
    (Timestamp.stops_isBlank_date text.date _) text.stops_isBlank_reverse

/-- What normalizing makes of a timestamp with blanks around it. -/
theorem normalize_chars :
    Timestamp.normalize (before ++ text.chars ++ after) =
      text.date.isoChars ++ 'T' :: (clockChars text.hour text.minute text.second ++
        fixedPart text.fraction ++ text.offsetText.spelled) := by
  rw [Timestamp.normalize, text.stripChars_chars blankBefore blankAfter, chars_eq,
    OffsetText.expandZulu_chars text.endsInDigit_body, body, List.append_assoc,
    Timestamp.fixFraction_append (Timestamp.noPoint_dateTime _ _ _ _),
    fixFraction_fractionPart text.digits
      (text.offsetText.stops_spelled (by decide) (by decide)) text.offsetText.fixFraction_spelled]
  simp only [List.append_assoc, List.cons_append]

theorem ofIsoText?_normalize :
    Moment.ofIsoText? (Timestamp.normalize (before ++ text.chars ++ after)) = .ok text.moment := by
  have parts := IsoText.readParts?_extended text.date
    (Nat.lt_trans text.hourInRange (by decide)) (Nat.lt_trans text.minuteInRange (by decide))
    (Nat.lt_trans text.secondInRange (by decide)) (readFraction?_fixedPart text.digits)
    (fun _ member => not_startsOffset_fixedPart text.digits member)
    (text.offsetText.stops_spelled (by decide) (by decide)) text.offsetText.readOffset?_spelled
  rw [Moment.ofIsoText?, text.normalize_chars blankBefore blankAfter, parts]
  exact IsoText.Parts.toMoment?_of_moment text.moment

theorem parse?_chars :
    Timestamp.parse? (String.ofList (before ++ text.chars ++ after)) = .ok (some text.moment) := by
  have written : ¬ (String.ofList (before ++ text.chars ++ after)).isEmpty = true := by
    rw [String.isEmpty_iff, String.ofList_eq_empty_iff]
    simp [text.chars_ne_nil]
  rw [Timestamp.parse?, if_neg written, String.toList_ofList]
  simp only [text.ofIsoText?_normalize blankBefore blankAfter]

end Reading

end TimestampText

/-- A timestamp of another writer is read with exactly the date, the time and the offset that are
written, its fraction cut off behind six digits, also as the text of a parameter. -/
theorem TimestampText.read_exactly (text : TimestampText) {before after : List Char}
    (blankBefore : ∀ character ∈ before, Text.isBlank character = true)
    (blankAfter : ∀ character ∈ after, Text.isBlank character = true) :
    Timestamp.parse? (String.ofList (before ++ text.chars ++ after)) = .ok (some text.moment) ∧
      ∀ known, (Parameter.time known).parse (String.ofList (before ++ text.chars ++ after)) =
        (.time (some text.moment), none) := by
  have parsed := text.parse?_chars blankBefore blankAfter
  refine ⟨parsed, fun known => ?_⟩
  have shown : ¬ (Text.strip (String.ofList (before ++ text.chars ++ after))).isEmpty = true := by
    rw [Text.strip, String.toList_ofList, text.stripChars_chars blankBefore blankAfter,
      String.isEmpty_iff, String.ofList_eq_empty_iff]
    exact text.chars_ne_nil
  simp only [Parameter.parse, if_neg shown, parsed]

/-- On the last day of the calendar, in the last tenth of a microsecond. -/
def lastEvening : TimestampText :=
  { date := .last
    hour := 21
    minute := 58
    second := 57
    fraction := List.replicate 7 '9'
    offsetText := .signed true 5 30 (by decide) (by decide)
    digits := fun _ member => List.eq_of_mem_replicate member ▸ rfl }

theorem lastEvening_read :
    lastEvening.chars = "9999-12-31T21:58:57.9999999-05:30".toList ∧
      lastEvening.moment.time.microsecond = 999999 ∧
      lastEvening.moment.offset.map Offset.microseconds = some (-19800000000) ∧
      (∀ character ∈ [' ', '\n'], Text.isBlank character = true) ∧
      Timestamp.parse? (String.ofList ([' ', '\n'] ++ lastEvening.chars ++ [' ', '\n'])) =
        .ok (some lastEvening.moment) ∧
      ∀ known, (Parameter.time known).parse
          (String.ofList ([' ', '\n'] ++ lastEvening.chars ++ [' ', '\n'])) =
        (.time (some lastEvening.moment), none) := by
  have blanks : ∀ character ∈ [' ', '\n'], Text.isBlank character = true := by
    simp only [List.mem_cons, List.not_mem_nil, or_false]
    rintro character (rfl | rfl)
    · decide
    · decide
  exact ⟨by decide, by decide, by decide, blanks, lastEvening.read_exactly blanks blanks⟩

end EventSourcing
