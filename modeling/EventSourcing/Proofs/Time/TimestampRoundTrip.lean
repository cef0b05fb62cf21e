import EventSourcing.Proofs.Time.IsoRoundTrip
import EventSourcing.Time.Timestamp

/-!
# Timestamps read back

The generous reading of timestamps leaves the text of a moment as it is: nothing is
stripped, no final `Z` is there to expand, and a fraction has six digits already. So a
moment is read back from its timestamp. `fixFraction_append` says what happens to a
fraction of any length.
-/

set_option autoImplicit false

namespace EventSourcing.Text

private theorem dropWhile_eq_self {continues : Char → Bool} {text : List Char}
    (stop : Stops continues text) : text.dropWhile continues = text := by
  have none : ∀ character ∈ ([] : List Char), continues character = true := by simp
  exact dropWhile_append_stop none stop

theorem stripChars_eq_self {text : List Char} (starts : Stops isBlank text)
    (ends : Stops isBlank text.reverse) : stripChars text = text := by
  rw [stripChars, dropWhile_eq_self starts, stripRightChars, dropWhile_eq_self ends,
    List.reverse_reverse]

theorem not_isBlank_of_isDigit {character : Char} (digit : isDigit character = true) :
    isBlank character = false := by
  simp only [isDigit, Bool.and_eq_true, decide_eq_true_eq] at digit
  have lower : 48 ≤ character.toNat := digit.1
  have upper : character.toNat ≤ 57 := digit.2
  simp only [isBlank, blankRanges, List.any_cons, List.any_nil, Bool.or_eq_false_iff,
    Bool.and_eq_false_iff, decide_eq_false_iff_not, and_true]
  omega

end EventSourcing.Text

namespace EventSourcing

open DecimalText (padded)

/-! ## How the text of a moment ends -/

def EndsInDigit (text : List Char) : Prop :=
  ∃ digit, text.getLast? = some digit ∧ Text.isDigit digit = true

theorem EndsInDigit.append {text : List Char} (ends : EndsInDigit text)
    (before : List Char) : EndsInDigit (before ++ text) := by
  obtain ⟨digit, last, isDigit⟩ := ends
  exact ⟨digit, by rw [List.getLast?_append, last, Option.some_or], isDigit⟩

theorem EndsInDigit.cons {text : List Char} (ends : EndsInDigit text)
    (first : Char) : EndsInDigit (first :: text) :=
  ends.append [first]

theorem EndsInDigit.stops_isBlank {text : List Char} (ends : EndsInDigit text) :
    Text.Stops Text.isBlank text.reverse := by
  obtain ⟨digit, last, isDigit⟩ := ends
  intro character member
  rw [List.head?_reverse, last] at member
  cases member
  exact Text.not_isBlank_of_isDigit isDigit

theorem endsInDigit_padded (width value : Nat) : EndsInDigit (padded width value) := by
  have written : EndsInDigit (DecimalText.ofNat value) := by
    have last := List.getLast?_eq_some_getLast (DecimalText.ofNat_ne_nil value)
    exact ⟨_, last, DecimalText.isDigit_of_mem_ofNat (List.getLast_mem _)⟩
  exact written.append _

private theorem EndsInDigit.append_fraction {text : List Char} (ends : EndsInDigit text)
    (microsecond : Nat) : EndsInDigit (text ++ fractionChars microsecond) := by
  rw [fractionChars]
  split
  · rwa [List.append_nil]
  · exact ((endsInDigit_padded _ _).cons _).append _

private theorem endsInDigit_sizeChars (size : Nat) : EndsInDigit (sizeChars size) := by
  rw [sizeChars]
  split
  · rw [List.append_nil]
    exact ((endsInDigit_padded _ _).cons _).append _
  · exact (((endsInDigit_padded _ _).cons _).append_fraction _).append _

private theorem endsInDigit_isoChars (moment : Moment) : EndsInDigit (moment.isoChars 'T') := by
  have time : EndsInDigit moment.time.isoChars :=
    EndsInDigit.append_fraction
      ((((endsInDigit_padded _ _).cons _).append _).cons _ |>.append _) _
  rw [Moment.isoChars]
  cases moment.offset with
  | none => simpa only [Option.map_none, Option.getD_none, List.append_nil] using
      (time.cons _).append _
  | some offset =>
      rw [Option.map_some, Option.getD_some, offset.isoChars_eq]
      exact ((endsInDigit_sizeChars _).cons _).append _

namespace Timestamp

/-! ## What normalizing leaves alone -/

theorem expandZulu_of_endsInDigit {text : List Char} (ends : EndsInDigit text) :
    expandZulu text = text := by
  obtain ⟨digit, last, isDigit⟩ := ends
  have notLast (letter : Char) (noDigit : Text.isDigit letter = false) :
      text.getLast? ≠ some letter := by
    rw [last]
    rintro ⟨⟩
    rw [isDigit] at noDigit
    cases noDigit
  rw [expandZulu,
    if_neg (not_or.mpr ⟨notLast 'Z' (by decide), notLast 'z' (by decide)⟩)]

theorem fixFraction_append {before : List Char} (noPoint : '.' ∉ before) (rest : List Char) :
    fixFraction (before ++ rest) = before ++ fixFraction rest := by
  induction before with
  | nil => rfl
  | cons character before ih =>
      simp only [List.mem_cons, not_or] at noPoint
      rw [List.cons_append, fixFraction, if_neg fun fraction => noPoint.1 fraction.1.symm,
        ih noPoint.2, List.cons_append]

/-- The digits after a point are cut or filled up to six; what follows them stays. -/
theorem fixFraction_point {digits behind : List Char} (some : digits ≠ [])
    (all : ∀ digit ∈ digits, Text.isAnyDigit digit = true)
    (stop : Text.Stops Text.isAnyDigit behind) :
    fixFraction ('.' :: (digits ++ behind)) =
      '.' :: ((digits ++ List.replicate 6 '0').take 6 ++ behind) := by
  have taken := Text.takeWhile_append_stop all stop
  have dropped := Text.dropWhile_append_stop all stop
  simp only [fixFraction, taken, dropped]
  rw [if_pos ⟨trivial, some⟩]

theorem fixFraction_fractionChars {behind : List Char} {microsecond : Nat}
    (small : microsecond < microsecondsPerSecond) (stop : Text.Stops Text.isAnyDigit behind)
    (fixed : fixFraction behind = behind) :
    fixFraction (fractionChars microsecond ++ behind) = fractionChars microsecond ++ behind := by
  rw [fractionChars]
  split
  · exact fixed
  · have length : (padded 6 microsecond).length = 6 :=
      DecimalText.length_padded (by decide) small
    rw [List.cons_append, fixFraction_point (DecimalText.padded_ne_nil _ _) _ stop,
      List.take_left' length]
    exact fun digit member =>
      Text.isAnyDigit_of_isDigit (DecimalText.isDigit_of_mem_padded member)

/-! ## Moments -/

theorem noPoint_padded (width value : Nat) : '.' ∉ padded width value := by
  intro member
  exact absurd (DecimalText.isDigit_of_mem_padded member) (by decide)

private theorem stops_offset (offset : Option Offset) :
    Text.Stops Text.isAnyDigit ((offset.map Offset.isoChars).getD []) := by
  cases offset with
  | none => exact Text.stops_nil _
  | some offset =>
      rw [Option.map_some, Option.getD_some, offset.isoChars_eq, Text.stops_cons_iff]
      rcases offset.signChar_eq_or with plus | minus
      · rw [plus]; decide
      · rw [minus]; decide

private theorem fixFraction_sizeChars (size : Nat) :
    fixFraction (sizeChars size) = sizeChars size := by
  rw [sizeChars, fixFraction_append (by simp [noPoint_padded])]
  split
  · rfl
  · have small : size % microsecondsPerSecond < microsecondsPerSecond :=
      Nat.mod_lt _ (by decide)
    have fixed := fixFraction_fractionChars small (Text.stops_nil Text.isAnyDigit) rfl
    rw [List.append_nil] at fixed
    rw [fixFraction_append (by simp [noPoint_padded]), fixed]

private theorem fixFraction_offset (offset : Option Offset) :
    fixFraction ((offset.map Offset.isoChars).getD []) =
      (offset.map Offset.isoChars).getD [] := by
  cases offset with
  | none => rfl
  | some offset =>
      have noPoint : '.' ∉ [offset.signChar] := by
        rcases offset.signChar_eq_or with plus | minus
        · rw [plus]; decide
        · rw [minus]; decide
      rw [Option.map_some, Option.getD_some, offset.isoChars_eq]
      have fixed := fixFraction_append noPoint (sizeChars offset.microseconds.natAbs)
      rw [fixFraction_sizeChars] at fixed
      exact fixed

/-- A date and a time without its fraction have no point. -/
theorem noPoint_dateTime (date : Date) (hour minute second : Nat) :
    '.' ∉ date.isoChars ++ 'T' :: clockChars hour minute second := by
  simp [Date.isoChars, clockChars, noPoint_padded]

theorem isoChars_head (date : Date) :
    ∃ first more, date.isoChars = first :: more ∧ Text.isDigit first = true := by
  obtain ⟨first, more, shape⟩ :=
    List.exists_cons_of_ne_nil (DecimalText.padded_ne_nil 4 date.year)
  have digit : Text.isDigit first = true :=
    DecimalText.isDigit_of_mem_padded (show first ∈ padded 4 date.year by simp [shape])
  simp only [Date.isoChars, shape, List.cons_append]
  exact ⟨first, _, rfl, digit⟩

/-- What starts with a date starts with no blank. -/
theorem stops_isBlank_date (date : Date) (rest : List Char) :
    Text.Stops Text.isBlank (date.isoChars ++ rest) := by
  obtain ⟨first, more, shape, digit⟩ := isoChars_head date
  rw [shape, List.cons_append, Text.stops_cons_iff]
  exact Text.not_isBlank_of_isDigit digit

/-- Normalizing leaves the text of a moment as it is. -/
theorem normalize_isoChars (moment : Moment) :
    normalize (moment.isoChars 'T') = moment.isoChars 'T' := by
  have starts : Text.Stops Text.isBlank (moment.isoChars 'T') := by
    rw [Moment.isoChars, List.append_assoc]
    exact stops_isBlank_date moment.date _
  have ends := endsInDigit_isoChars moment
  rw [normalize, Text.stripChars_eq_self starts ends.stops_isBlank,
    expandZulu_of_endsInDigit ends]
  have fixed := fixFraction_fractionChars moment.time.microsecondInRange
    (stops_offset moment.offset) (fixFraction_offset moment.offset)
  have shape : moment.isoChars 'T' = (moment.date.isoChars ++
      'T' :: clockChars moment.time.hour moment.time.minute moment.time.second) ++
      (fractionChars moment.time.microsecond ++
        (moment.offset.map Offset.isoChars).getD []) := by
    simp only [Moment.isoChars, TimeOfDay.isoChars_eq, List.append_assoc, List.cons_append]
  rw [shape, fixFraction_append (noPoint_dateTime _ _ _ _), fixed]

/-- A moment is read back from its timestamp. -/
theorem parse?_isoText (moment : Moment) : parse? moment.isoText = .ok (some moment) := by
  have written : ¬ moment.isoText.isEmpty = true := by
    rw [Moment.isoText, String.isEmpty_iff, String.ofList_eq_empty_iff]
    simp [Moment.isoChars]
  rw [parse?, if_neg written, Moment.isoText, String.toList_ofList, normalize_isoChars]
  simp only [Moment.ofIsoText?_isoChars]

end Timestamp

end EventSourcing
