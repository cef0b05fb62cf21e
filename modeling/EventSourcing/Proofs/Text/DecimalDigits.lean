import EventSourcing.Number.DecimalText
import EventSourcing.Text.Digit

/-!
# Decimal digits and the numbers they denote

The digits that `DecimalText` writes are ASCII digits, they denote the number that
was written, and a reader that collects digits takes all of them and nothing behind.
-/

set_option autoImplicit false

namespace EventSourcing.Text

/-- What follows a run of characters does not carry it on. -/
def Stops (continues : Char → Bool) (rest : List Char) : Prop :=
  ∀ character ∈ rest.head?, continues character = false

theorem stops_nil (continues : Char → Bool) : Stops continues [] := by
  simp [Stops]

@[simp] theorem stops_cons_iff {continues : Char → Bool} {character : Char} {rest : List Char} :
    Stops continues (character :: rest) ↔ continues character = false := by
  simp [Stops]

theorem takeWhile_append_stop {continues : Char → Bool} {run rest : List Char}
    (all : ∀ character ∈ run, continues character = true) (stop : Stops continues rest) :
    (run ++ rest).takeWhile continues = run := by
  rw [List.takeWhile_append_of_pos all]
  cases rest with
  | nil => simp
  | cons next rest =>
      have stopped : continues next = false := stops_cons_iff.mp stop
      simp [stopped]

theorem dropWhile_append_stop {continues : Char → Bool} {run rest : List Char}
    (all : ∀ character ∈ run, continues character = true) (stop : Stops continues rest) :
    (run ++ rest).dropWhile continues = rest := by
  rw [List.dropWhile_append_of_pos all]
  cases rest with
  | nil => simp
  | cons next rest =>
      have stopped : continues next = false := stops_cons_iff.mp stop
      simp [stopped]

theorem isDigit_eq (character : Char) : isDigit character = character.isDigit := by
  rw [Bool.eq_iff_iff]
  simp only [isDigit, Char.isDigit, Bool.and_eq_true, decide_eq_true_eq, UInt32.le_iff_toNat_le]
  exact Iff.rfl

theorem isAnyDigit_of_isDigit {character : Char} (digit : isDigit character = true) :
    isAnyDigit character = true := by
  simp only [isDigit, Bool.and_eq_true, decide_eq_true_eq] at digit
  simp only [isAnyDigit, zeroDigits, List.any_cons, Bool.or_eq_true, Bool.and_eq_true,
    decide_eq_true_eq]
  refine .inl ⟨digit.1, ?_⟩
  have upper : character.toNat ≤ 57 := digit.2
  omega

theorem digitsValue_eq (digits : List Char) :
    digitsValue digits = Nat.ofDigitChars 10 digits 0 := rfl

theorem digitsValue?_of_all {digits : List Char}
    (all : ∀ digit ∈ digits, isDigit digit = true) :
    digitsValue? digits = some (digitsValue digits) := by
  rw [digitsValue?, if_pos (List.all_eq_true.mpr all)]

theorem digitsValue_append (first rest : List Char) :
    digitsValue (first ++ rest) =
      Nat.pow 10 rest.length * digitsValue first + digitsValue rest := by
  rw [digitsValue_eq, Nat.ofDigitChars_append, Nat.ofDigitChars_eq_ofDigitChars_zero]
  rfl

theorem digitsValue_zeros (width : Nat) : digitsValue (List.replicate width '0') = 0 := by
  rw [digitsValue_eq, Nat.ofDigitChars_replicate_zero, Nat.mul_zero]

theorem digitsValue_lt {digits : List Char} (all : ∀ digit ∈ digits, isDigit digit = true) :
    digitsValue digits < Nat.pow 10 digits.length := by
  induction digits with
  | nil => decide
  | cons digit digits ih =>
      have rest := ih fun other member => all other (.tail _ member)
      have head : digitsValue [digit] ≤ 9 := by
        have range := all digit List.mem_cons_self
        simp only [isDigit, Bool.and_eq_true, decide_eq_true_eq] at range
        have upper : digit.toNat ≤ 57 := range.2
        have zero : '0'.toNat = 48 := rfl
        simp only [digitsValue, digitValue, List.foldl_cons, List.foldl_nil, zero]
        omega
      calc digitsValue (digit :: digits)
          = Nat.pow 10 digits.length * digitsValue [digit] + digitsValue digits :=
            digitsValue_append [digit] digits
        _ < Nat.pow 10 digits.length * digitsValue [digit] + Nat.pow 10 digits.length :=
            Nat.add_lt_add_left rest _
        _ = Nat.pow 10 digits.length * (digitsValue [digit] + 1) := (Nat.mul_succ _ _).symm
        _ ≤ Nat.pow 10 digits.length * 10 := Nat.mul_le_mul_left _ (Nat.succ_le_succ head)

/-- The first digits of a fraction, zeros added where there are too few, are the fraction cut off
behind them. -/
theorem digitsValue_take {digits : List Char} (all : ∀ digit ∈ digits, isDigit digit = true)
    (width : Nat) :
    digitsValue ((digits ++ List.replicate width '0').take width) =
      digitsValue digits * Nat.pow 10 width / Nat.pow 10 digits.length := by
  let filled := digits ++ List.replicate width '0'
  have whole : digitsValue filled = digitsValue digits * Nat.pow 10 width := by
    rw [digitsValue_append, digitsValue_zeros, List.length_replicate, Nat.add_zero, Nat.mul_comm]
  have behind : (filled.drop width).length = digits.length := by
    simp only [filled, List.length_drop, List.length_append, List.length_replicate]
    omega
  have small : digitsValue (filled.drop width) < Nat.pow 10 digits.length := by
    rw [← behind]
    refine digitsValue_lt fun digit member => ?_
    rcases List.mem_append.mp (List.mem_of_mem_drop member) with written | added
    · exact all digit written
    · rw [List.eq_of_mem_replicate added]
      decide
  have parts : digitsValue filled = Nat.pow 10 digits.length * digitsValue (filled.take width) +
      digitsValue (filled.drop width) := by
    rw [← behind, ← digitsValue_append, List.take_append_drop]
  have positive : 0 < Nat.pow 10 digits.length := Nat.pow_pos (by decide)
  rw [← whole, parts, Nat.mul_add_div positive, Nat.div_eq_of_lt small, Nat.add_zero]

end EventSourcing.Text

namespace EventSourcing.DecimalText

theorem isDigit_of_mem_ofNat {value : Nat} {digit : Char} (member : digit ∈ ofNat value) :
    Text.isDigit digit = true := by
  rw [Text.isDigit_eq]
  exact Nat.isDigit_of_mem_toDigits (by decide) (by decide) member

@[simp] theorem digitsValue_ofNat (value : Nat) : Text.digitsValue (ofNat value) = value := by
  rw [Text.digitsValue_eq, ofNat, Nat.ofDigitChars_ten_toDigits]

theorem ofNat_ne_nil (value : Nat) : ofNat value ≠ [] :=
  Nat.toDigits_ne_nil

/-- Different numbers have different texts; the sign is no digit. -/
theorem ofInt_injective : Function.Injective ofInt := by
  have positive (value : Nat) (digits : List Char) : ofNat value ≠ '-' :: digits := by
    intro same
    have digit := isDigit_of_mem_ofNat (same ▸ List.mem_cons_self)
    exact absurd digit (by decide)
  intro left right same
  cases left with
  | ofNat left =>
      cases right with
      | ofNat right =>
          have same : ofNat left = ofNat right := same
          rw [← digitsValue_ofNat left, same, digitsValue_ofNat]
      | negSucc right => exact absurd same (positive left _)
  | negSucc left =>
      cases right with
      | ofNat right => exact absurd same.symm (positive right _)
      | negSucc right =>
          have same : ofNat (left + 1) = ofNat (right + 1) := (List.cons.inj same).2
          have values : left + 1 = right + 1 := by
            rw [← digitsValue_ofNat (left + 1), same, digitsValue_ofNat]
          rw [Nat.succ.inj values]

theorem head?_ofNat_ne_zero (value : Nat) (positive : 0 < value) :
    (ofNat value).head? ≠ some '0' := by
  induction value using Nat.strongRecOn with
  | ind value ih =>
      rw [ofNat, Nat.toDigits_eq_if (by decide)]
      split
      · rename_i small
        intro zero
        have code := Nat.toNat_digitChar_of_lt_ten small
        rw [Option.some.inj zero] at code
        have : '0'.toNat = 48 := rfl
        omega
      · have shorter := ih (value / 10) (by omega) (by omega)
        cases shown : ofNat (value / 10) with
        | nil => exact absurd shown (ofNat_ne_nil _)
        | cons first rest =>
            rw [shown] at shorter
            rw [show Nat.toDigits 10 (value / 10) = first :: rest from shown]
            exact shorter

theorem padded_ne_nil (width value : Nat) : padded width value ≠ [] :=
  List.append_ne_nil_of_right_ne_nil _ (ofNat_ne_nil value)

theorem isDigit_of_mem_padded {width value : Nat} {digit : Char}
    (member : digit ∈ padded width value) : Text.isDigit digit = true := by
  rcases List.mem_append.mp member with filled | written
  · rw [List.eq_of_mem_replicate filled]
    decide
  · exact isDigit_of_mem_ofNat written

@[simp] theorem digitsValue_padded (width value : Nat) :
    Text.digitsValue (padded width value) = value := by
  rw [Text.digitsValue_eq, padded, Nat.ofDigitChars_append, Nat.ofDigitChars_replicate_zero,
    Nat.mul_zero]
  exact digitsValue_ofNat value

/-- A number that needs no more digits is written with exactly the width asked for. -/
theorem length_padded {width value : Nat} (positive : 0 < width) (fits : value < Nat.pow 10 width) :
    (padded width value).length = width := by
  have short : (ofNat value).length ≤ width :=
    (Nat.length_toDigits_le_iff (by decide) positive).mpr fits
  simp only [padded, List.length_append, List.length_replicate]
  omega

theorem digitsValue?_padded (width value : Nat) :
    Text.digitsValue? (padded width value) = some value := by
  rw [Text.digitsValue?_of_all fun _ member => isDigit_of_mem_padded member, digitsValue_padded]

end EventSourcing.DecimalText
