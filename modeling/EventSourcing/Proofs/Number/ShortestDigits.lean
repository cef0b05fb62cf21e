import EventSourcing.Number.Shortest

/-!
# Digits of binary numbers

The decimal that stands for a positive binary number has a digit that is not zero. The search for
it starts on a grid whose step is at most the number, and finer grids only have smaller steps, so
that the number of steps next to the number is never zero; taking zeros away from the right end
changes nothing about that.
-/

set_option autoImplicit false

namespace EventSourcing

namespace Decimal

theorem length_pos (value : Nat) : 0 < length value :=
  List.length_pos_iff.mpr Nat.toDigits_ne_nil

theorem lt_pow_length (value : Nat) : value < Nat.pow 10 (length value) :=
  (Nat.length_toDigits_le_iff (by decide) (length_pos value)).mp (Nat.le_refl _)

theorem pow_length_le {value : Nat} (positive : 0 < value) :
    Nat.pow 10 (length value - 1) ≤ value := by
  by_cases single : length value - 1 = 0
  · rw [single]
    exact positive
  · have longer : ¬length value ≤ length value - 1 := by omega
    exact Nat.le_of_not_lt fun small => longer
      ((Nat.length_toDigits_le_iff (by decide) (Nat.pos_of_ne_zero single)).mpr small)

theorem trimmed_digits_ne_zero {decimal : Decimal} (shown : decimal.digits ≠ 0) (fuel : Nat) :
    (decimal.trimmed fuel).digits ≠ 0 := by
  induction fuel generalizing decimal with
  | zero => exact shown
  | succ fuel ih =>
    unfold trimmed
    split
    · apply ih
      dsimp only
      omega
    · exact shown

end Decimal

namespace Binary64

theorem Rounding.value_inSteps (rounding : Rounding) (exponent : Int) :
    (rounding.inSteps exponent).value = rounding.value * Nat.pow 10 (-exponent).toNat ∧
      (rounding.inSteps exponent).denominator =
        rounding.denominator * Nat.pow 10 exponent.toNat := by
  unfold inSteps
  split
  · rw [show (-exponent).toNat = 0 by omega]
    simp
  · rw [show exponent.toNat = 0 by omega]
    simp

/-- The number is at least one step of the grid. -/
def Rounding.Reaches (rounding : Rounding) (exponent : Int) : Prop :=
  (rounding.inSteps exponent).denominator ≤ (rounding.inSteps exponent).value

theorem Rounding.reaches_iff {rounding : Rounding} {exponent : Int} :
    rounding.Reaches exponent ↔ rounding.denominator * Nat.pow 10 exponent.toNat ≤
      rounding.value * Nat.pow 10 (-exponent).toNat := by
  obtain ⟨value, denominator⟩ := rounding.value_inSteps exponent
  rw [Reaches, value, denominator]

theorem Rounding.reaches_of_whole {rounding : Rounding} {count : Nat}
    (reached : rounding.denominator * Nat.pow 10 count ≤ rounding.value) :
    rounding.Reaches count := by
  rw [reaches_iff, Int.toNat_natCast, Int.toNat_neg_natCast]
  simpa using reached

theorem Rounding.reaches_of_fraction {rounding : Rounding} {count : Nat}
    (reached : rounding.denominator ≤ rounding.value * Nat.pow 10 count) :
    rounding.Reaches (-count) := by
  rw [reaches_iff, Int.toNat_neg_natCast, Int.neg_neg, Int.toNat_natCast]
  simpa using reached

theorem Rounding.Reaches.finer {rounding : Rounding} {exponent : Int}
    (reaches : rounding.Reaches exponent) : rounding.Reaches (exponent - 1) := by
  rw [reaches_iff] at reaches ⊢
  have coarser : Nat.pow 10 (exponent - 1).toNat ≤ Nat.pow 10 exponent.toNat :=
    Nat.pow_le_pow_right (by decide) (by omega)
  have finer : Nat.pow 10 (-exponent).toNat ≤ Nat.pow 10 (-(exponent - 1)).toNat :=
    Nat.pow_le_pow_right (by decide) (by omega)
  exact Nat.le_trans (Nat.mul_le_mul_left _ coarser)
    (Nat.le_trans reaches (Nat.mul_le_mul_left _ finer))

theorem roundHalfEven_ne_zero {numerator denominator : Nat} (positive : 0 < denominator)
    (reached : denominator ≤ numerator) : roundHalfEven numerator denominator ≠ 0 := by
  have whole : 0 < numerator / denominator := Nat.div_pos reached positive
  unfold roundHalfEven
  dsimp only
  split
  · omega
  · split <;> omega

theorem Rounding.nearest?_ne_zero {rounding : Rounding} (positive : 0 < rounding.denominator)
    (reached : rounding.denominator ≤ rounding.value) {digits : Nat}
    (found : rounding.nearest? = some digits) : digits ≠ 0 := by
  have whole : 0 < rounding.value / rounding.denominator := Nat.div_pos reached positive
  unfold nearest? at found
  dsimp only at found
  split at found
  · cases found
  · cases found
    omega
  · cases found
    omega
  · cases found
    exact roundHalfEven_ne_zero positive reached

theorem shortestFrom_digits_ne_zero {rounding : Rounding} {exponent : Int}
    (positive : 0 < rounding.denominator) (reaches : rounding.Reaches exponent) (fuel : Nat) :
    (shortestFrom rounding exponent fuel).digits ≠ 0 := by
  have step (exponent : Int) : 0 < (rounding.inSteps exponent).denominator := by
    rw [(rounding.value_inSteps exponent).2]
    exact Nat.mul_pos positive (Nat.pow_pos (by decide))
  induction fuel generalizing exponent with
  | zero => exact roundHalfEven_ne_zero (step exponent) reaches
  | succ fuel ih =>
    unfold shortestFrom
    split
    · rename_i digits found
      exact Rounding.nearest?_ne_zero (step exponent) reaches found
    · exact ih reaches.finer

/-- The size of a quotient is the place in front of its first digit. -/
theorem Rounding.reaches_size {rounding : Rounding} (value : 0 < rounding.value)
    (denominator : 0 < rounding.denominator) :
    rounding.Reaches (Decimal.sizeOfRatio rounding.value rounding.denominator - 1) := by
  unfold Decimal.sizeOfRatio
  split
  case isTrue whole =>
    have quotient := Decimal.pow_length_le (Nat.div_pos whole denominator)
    have length := Decimal.length_pos (rounding.value / rounding.denominator)
    have reached := reaches_of_whole
      (Nat.le_trans (Nat.mul_le_mul_left _ quotient) (Nat.mul_div_le _ _))
    rwa [Int.natCast_sub length] at reached
  case isFalse =>
    generalize places : Decimal.length rounding.denominator - Decimal.length rounding.value = count
    dsimp only
    split
    case isTrue enough =>
      have reached := reaches_of_fraction enough
      rwa [show -(count : Int) = 1 - count - 1 by omega] at reached
    case isFalse =>
      have length := Decimal.length_pos rounding.value
      have reached : rounding.Reaches (-(count + 1 : Nat)) := by
        apply reaches_of_fraction
        calc rounding.denominator
            ≤ Nat.pow 10 (Decimal.length rounding.denominator) :=
            Nat.le_of_lt (Decimal.lt_pow_length _)
          _ ≤ Nat.pow 10 (Decimal.length rounding.value - 1 + (count + 1)) :=
            Nat.pow_le_pow_right (by decide) (by omega)
          _ = Nat.pow 10 (Decimal.length rounding.value - 1) * Nat.pow 10 (count + 1) :=
            Nat.pow_add _ _ _
          _ ≤ rounding.value * Nat.pow 10 (count + 1) :=
            Nat.mul_le_mul_right _ (Decimal.pow_length_le value)
      rwa [show -((count + 1 : Nat) : Int) = -count - 1 by omega] at reached

theorem shortest_digits_ne_zero {mantissa : Nat} (positive : mantissa ≠ 0) (exponent : Int) :
    (shortest mantissa exponent).digits ≠ 0 := by
  have unit : 0 < (ratio 1 (exponent - 2)).1 ∧ 0 < (ratio 1 (exponent - 2)).2 := by
    unfold ratio
    split
    · exact ⟨Nat.mul_pos Nat.one_pos (Nat.pow_pos (by decide)), Nat.one_pos⟩
    · exact ⟨Nat.one_pos, Nat.pow_pos (by decide)⟩
  have value : 0 < (rounding mantissa exponent).value :=
    Nat.mul_pos (by omega) unit.1
  have denominator : 0 < (rounding mantissa exponent).denominator := unit.2
  rw [shortest, if_neg positive]
  apply Decimal.trimmed_digits_ne_zero
  exact shortestFrom_digits_ne_zero denominator (Rounding.reaches_size value denominator) 16

end Binary64

end EventSourcing
