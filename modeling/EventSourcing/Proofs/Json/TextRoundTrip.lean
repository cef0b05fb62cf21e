import EventSourcing.Json.Reader
import EventSourcing.Json.Writer

/-!
# Texts in JSON read back

A text that `Json.renderText` writes, in either style, is what `Json.readText` reads up
to the closing quote. The proof goes character by character: a character that stands for
itself, an escape with a letter, an escaped unit, and a pair of escaped units. Texts with
halves are left out: two escaped ones in a row may be read as a pair.
-/

set_option autoImplicit false

namespace EventSourcing.Text

theorem hexValue?_hexDigit {value : Nat} (small : value < 16) :
    hexValue? (hexDigit value) = some value := by
  have all : ∀ digit : Fin 16, hexValue? (hexDigit digit.val) = some digit.val := by decide
  exact all ⟨value, small⟩

end EventSourcing.Text

namespace EventSourcing.Json

theorem unitEscape_eq {unit : Nat} (small : unit < 0x10000) :
    ∃ first second third fourth : Char,
      unitEscape unit = ['\\', 'u', first, second, third, fourth] ∧
        unit? (.char first) (.char second) (.char third) (.char fourth) = some unit := by
  refine ⟨Text.hexDigit (unit / 16 / 16 / 16 % 16), Text.hexDigit (unit / 16 / 16 % 16),
    Text.hexDigit (unit / 16 % 16), Text.hexDigit (unit % 16), ?_, ?_⟩
  · simp [unitEscape, Text.hexDigits]
  · have below (value : Nat) : value % 16 < 16 := Nat.mod_lt _ (by decide)
    simp only [unit?, hexValue?, Point.char?_char, Text.hexValue?_hexDigit (below _),
      Option.bind_eq_bind, Option.bind_some, Option.pure_def, Option.some.injEq]
    omega

section Reading

variable {opening : Nat} {tail read rest : List Point}

private theorem readText_self {character : Char} (notQuote : character ≠ '"')
    (notBackslash : character ≠ '\\') (notControl : ¬ character.toNat < 0x20)
    (tailRead : readText opening tail = .ok (read, rest)) :
    readText opening (.char character :: tail) = .ok (.char character :: read, rest) := by
  rw [readText.eq_def]
  split
  · contradiction
  · exact absurd (Point.char.inj (List.cons.inj ‹_›).1) notQuote
  · exact absurd (Point.char.inj (List.cons.inj ‹_›).1) notBackslash
  · exact absurd (Point.char.inj (List.cons.inj ‹_›).1) notBackslash
  · exact absurd (Point.char.inj (List.cons.inj ‹_›).1) notBackslash
  · obtain ⟨rfl, rfl⟩ := List.cons.inj ‹_›
    simp only [Point.char?_char, Option.any_some, notControl, decide_false, Bool.false_eq_true,
      if_false, tailRead]
    rfl

private theorem readText_letter {letter character : Char} (notUnit : letter ≠ 'u')
    (means : escaped? letter = some character)
    (tailRead : readText opening tail = .ok (read, rest)) :
    readText opening (['\\', letter].map .char ++ tail) = .ok (.char character :: read, rest) := by
  have other : Point.char letter ≠ .char 'u' := fun same => notUnit (Point.char.inj same)
  show readText opening (.char '\\' :: .char letter :: tail) = _
  rw [readText.eq_def]
  split
  · contradiction
  · exact absurd (Point.char.inj (List.cons.inj ‹_›).1) (by decide)
  · exact absurd (List.cons.inj ‹_›).2 (List.cons_ne_nil _ _)
  · exact absurd (List.cons.inj (List.cons.inj ‹_›).2).1 other
  · obtain ⟨rfl, rfl⟩ := List.cons.inj (List.cons.inj ‹_›).2
    simp only [if_neg other, Point.char?_char, Option.bind_some, means, tailRead]
    rfl
  · rename_i noEscape shape
    obtain ⟨rfl, rfl⟩ := List.cons.inj shape
    exact absurd rfl (noEscape _ tail rfl)

private theorem readText_unit {unit : Nat} (small : unit < 0x10000)
    (single : isHighUnit unit = false) (more : tail ≠ [])
    (tailRead : readText opening tail = .ok (read, rest)) :
    readText opening ((unitEscape unit).map .char ++ tail) =
      .ok (unitPoint unit :: read, rest) := by
  obtain ⟨first, second, third, fourth, shape, value⟩ := unitEscape_eq small
  obtain ⟨next, tail, rfl⟩ := List.exists_cons_of_ne_nil more
  simp only [shape, List.map_cons, List.map_nil, List.cons_append, List.nil_append]
  rw [readText.eq_def]
  simp only [value, single, Bool.not_false, if_true, tailRead]
  rfl

private theorem readText_pair {high low : Nat} (highSmall : high < 0x10000)
    (lowSmall : low < 0x10000) (isHigh : isHighUnit high = true) (isLow : isLowUnit low = true)
    (more : tail ≠ []) (tailRead : readText opening tail = .ok (read, rest)) :
    readText opening ((unitEscape high).map .char ++ ((unitEscape low).map .char ++ tail)) =
      .ok (.char (pairChar high low) :: read, rest) := by
  obtain ⟨first, second, third, fourth, highShape, highValue⟩ := unitEscape_eq highSmall
  obtain ⟨fifth, sixth, seventh, eighth, lowShape, lowValue⟩ := unitEscape_eq lowSmall
  obtain ⟨next, tail, rfl⟩ := List.exists_cons_of_ne_nil more
  simp only [highShape, lowShape, List.map_cons, List.map_nil, List.cons_append, List.nil_append]
  rw [readText.eq_def]
  simp only [highValue, isHigh, Bool.not_true, Bool.false_eq_true, if_false, lowValue, isLow,
    if_true, tailRead]
  rfl

private theorem toNat_valid (character : Char) :
    character.toNat < 0xD800 ∨ 0xDFFF < character.toNat ∧ character.toNat < 0x110000 :=
  character.valid

private theorem not_isHighUnit_toNat (character : Char) :
    isHighUnit character.toNat = false := by
  have valid := toNat_valid character
  simp only [isHighUnit, Bool.and_eq_false_iff, decide_eq_false_iff_not]
  omega

private theorem unitPoint_toNat (character : Char) :
    unitPoint character.toNat = .char character := by
  have valid := toNat_valid character
  have notHalf : ¬ (halfBase ≤ character.toNat ∧ character.toNat < halfBase + 0x800) := by
    simp only [halfBase]
    omega
  rw [unitPoint, dif_neg notHalf, Char.ofNat_toNat]

/-- The escape of a code point is read as the character, as one unit or as a pair. -/
private theorem readText_codeEscape {character : Char} (more : tail ≠ [])
    (tailRead : readText opening tail = .ok (read, rest)) :
    readText opening ((codeEscape character.toNat).map .char ++ tail) =
      .ok (.char character :: read, rest) := by
  by_cases firstPlane : character.toNat < 0x10000
  · have single := readText_unit firstPlane (not_isHighUnit_toNat character) more tailRead
    rw [codeEscape, if_pos firstPlane, single, unitPoint_toNat]
  · have last : character.toNat < 0x110000 := by
      have valid := toNat_valid character
      omega
    rw [codeEscape, if_neg firstPlane, List.map_append, List.append_assoc,
      readText_pair (by omega) (by omega) _ _ more tailRead]
    · have whole : 0x10000 + (0xD800 + (character.toNat - 0x10000) / 0x400 - 0xD800) * 0x400 +
          (0xDC00 + (character.toNat - 0x10000) % 0x400 - 0xDC00) = character.toNat := by
        omega
      rw [pairChar, whole, Char.ofNat_toNat]
    · simp only [isHighUnit, Bool.and_eq_true, decide_eq_true_eq]
      omega
    · simp only [isLowUnit, Bool.and_eq_true, decide_eq_true_eq]
      omega

private theorem readText_renderChar {style : Style} {character : Char} (more : tail ≠ [])
    (tailRead : readText opening tail = .ok (read, rest)) :
    readText opening ((renderChar style character).map .char ++ tail) =
      .ok (.char character :: read, rest) := by
  unfold renderChar
  split
  · subst character
    exact readText_letter (by decide) rfl tailRead
  split
  · subst character
    exact readText_letter (by decide) rfl tailRead
  split
  · rename_i notQuote notBackslash kept
    simp only [Style.keeps, Bool.and_eq_true, decide_eq_true_eq] at kept
    exact readText_self notQuote notBackslash (by omega) tailRead
  split
  · subst character
    exact readText_letter (by decide) rfl tailRead
  split
  · subst character
    exact readText_letter (by decide) rfl tailRead
  split
  · subst character
    exact readText_letter (by decide) rfl tailRead
  split
  · have same : character = Char.ofNat 0x08 := Char.toNat_inj.mp ‹_›
    subst character
    exact readText_letter (by decide) rfl tailRead
  split
  · have same : character = Char.ofNat 0x0C := Char.toNat_inj.mp ‹_›
    subst character
    exact readText_letter (by decide) rfl tailRead
  · exact readText_codeEscape more tailRead

end Reading

/-- A written text without halves is read back up to its closing quote, whatever follows. -/
theorem readText_render (style : Style) (opening : Nat) (text : List Char) (rest : List Point) :
    readText opening ((text.map .char).flatMap (renderPoint style) ++ .char '"' :: rest) =
      .ok (text.map .char, rest) := by
  induction text with
  | nil => rfl
  | cons character text ih =>
    rw [List.map_cons, List.flatMap_cons, List.append_assoc]
    exact readText_renderChar (by simp) ih

end EventSourcing.Json
