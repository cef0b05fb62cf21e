import EventSourcing.Text.Utf8

/-!
# UTF-8 read back

The octets of a text are read as that text, wherever they stand. The octets of a
character other than those of ASCII are all `0x80` or more, so the octet of a line's end
occurs in a text's octets only where the text has the character.
-/

set_option autoImplicit false

namespace EventSourcing.Utf8

private theorem code_valid (character : Char) :
    character.toNat < 0xD800 ∨ 0xDFFF < character.toNat ∧ character.toNat < 0x110000 :=
  character.valid

private theorem toNat_ofNat {octet : Nat} (small : octet < 0x100) :
    (UInt8.ofNat octet).toNat = octet := by
  rw [UInt8.toNat_ofNat']
  omega

private theorem isContinuation_ofNat {bits : Nat} (small : bits < 0x40) :
    isContinuation (UInt8.ofNat (0x80 + bits)) = true := by
  rw [isContinuation, toNat_ofNat (by omega)]
  simp only [Bool.and_eq_true, decide_eq_true_eq]
  omega

private theorem payload_ofNat {bits : Nat} (small : bits < 0x40) :
    payload (UInt8.ofNat (0x80 + bits)) = bits := by
  have value : (UInt8.ofNat (0x80 + bits)).toNat = 0x80 + bits := toNat_ofNat (by omega)
  unfold payload
  omega

private theorem isSecond_ofNat_iff {first second : Nat} (firstSmall : first < 0x100)
    (secondSmall : second < 0x100) :
    isSecond (UInt8.ofNat first) (UInt8.ofNat second) = true ↔
      0x80 ≤ second ∧ second ≤ 0xBF ∧ (first = 0xE0 → 0xA0 ≤ second) ∧
        (first = 0xF0 → 0x90 ≤ second) ∧ (first = 0xED → second ≤ 0x9F) ∧
        (first = 0xF4 → second ≤ 0x8F) := by
  have known (octet : UInt8) : UInt8.ofNat first = octet ↔ first = octet.toNat := by
    rw [← UInt8.toNat_inj, toNat_ofNat firstSmall]
  simp only [isSecond, known, toNat_ofNat secondSmall, UInt8.reduceToNat, Bool.and_eq_true,
    decide_eq_true_eq]
  repeat' split
  all_goals omega

/-! ## One character -/

private theorem decodeFrom_one {code : Nat} (small : code < 0x80) (position : Nat)
    (rest : List UInt8) :
    decodeFrom position (UInt8.ofNat code :: rest) = (do
      return Char.ofNat code :: (← decodeFrom (position + 1) rest)) := by
  have lead : (UInt8.ofNat code).toNat = code := toNat_ofNat (by omega)
  rw [decodeFrom.eq_def]
  simp only [lead, if_pos small]

private theorem decodeFrom_two {first second : Nat} (starts : 0xC2 ≤ first ∧ first < 0xE0)
    (secondSmall : second < 0x40) (position : Nat) (rest : List UInt8) :
    decodeFrom position (UInt8.ofNat first :: UInt8.ofNat (0x80 + second) :: rest) = (do
      return Char.ofNat ((first - 0xC0) * 0x40 + second) ::
        (← decodeFrom (position + 2) rest)) := by
  have lead : (UInt8.ofNat first).toNat = first := toNat_ofNat (by omega)
  have known : ¬ (first < 0xC2 || 0xF4 < first) = true := by
    simp only [Bool.or_eq_true, decide_eq_true_eq]
    omega
  have follows : isSecond (UInt8.ofNat first) (UInt8.ofNat (0x80 + second)) = true :=
    (isSecond_ofNat_iff (by omega) (by omega)).mpr (by omega)
  rw [decodeFrom.eq_def]
  simp only [lead, if_neg (show ¬ first < 0x80 by omega), if_neg known, follows,
    if_pos starts.2, payload_ofNat secondSmall, Bool.not_true, Bool.false_eq_true, if_false]

private theorem decodeFrom_three {first second third : Nat}
    (starts : 0xE0 ≤ first ∧ first < 0xF0)
    (follows : isSecond (UInt8.ofNat first) (UInt8.ofNat (0x80 + second)) = true)
    (secondSmall : second < 0x40) (thirdSmall : third < 0x40) (position : Nat)
    (rest : List UInt8) :
    decodeFrom position
        (UInt8.ofNat first :: UInt8.ofNat (0x80 + second) :: UInt8.ofNat (0x80 + third) :: rest) =
      (do
        return Char.ofNat ((first - 0xE0) * 0x1000 + second * 0x40 + third) ::
          (← decodeFrom (position + 3) rest)) := by
  have lead : (UInt8.ofNat first).toNat = first := toNat_ofNat (by omega)
  have known : ¬ (first < 0xC2 || 0xF4 < first) = true := by
    simp only [Bool.or_eq_true, decide_eq_true_eq]
    omega
  rw [decodeFrom.eq_def]
  simp only [lead, if_neg (show ¬ first < 0x80 by omega), if_neg known, follows,
    if_neg (show ¬ first < 0xE0 by omega), isContinuation_ofNat thirdSmall, if_pos starts.2,
    payload_ofNat secondSmall, payload_ofNat thirdSmall, Bool.not_true, Bool.false_eq_true,
    if_false]

private theorem decodeFrom_four {first second third fourth : Nat}
    (starts : 0xF0 ≤ first ∧ first < 0xF5)
    (follows : isSecond (UInt8.ofNat first) (UInt8.ofNat (0x80 + second)) = true)
    (secondSmall : second < 0x40) (thirdSmall : third < 0x40) (fourthSmall : fourth < 0x40)
    (position : Nat) (rest : List UInt8) :
    decodeFrom position
        (UInt8.ofNat first :: UInt8.ofNat (0x80 + second) :: UInt8.ofNat (0x80 + third) ::
          UInt8.ofNat (0x80 + fourth) :: rest) =
      (do
        return Char.ofNat ((first - 0xF0) * 0x40000 + second * 0x1000 + third * 0x40 +
          fourth) :: (← decodeFrom (position + 4) rest)) := by
  have lead : (UInt8.ofNat first).toNat = first := toNat_ofNat (by omega)
  have known : ¬ (first < 0xC2 || 0xF4 < first) = true := by
    simp only [Bool.or_eq_true, decide_eq_true_eq]
    omega
  rw [decodeFrom.eq_def]
  simp only [lead, if_neg (show ¬ first < 0x80 by omega), if_neg known, follows,
    if_neg (show ¬ first < 0xE0 by omega), isContinuation_ofNat thirdSmall,
    if_neg (show ¬ first < 0xF0 by omega), isContinuation_ofNat fourthSmall,
    payload_ofNat secondSmall, payload_ofNat thirdSmall, payload_ofNat fourthSmall,
    Bool.not_true, Bool.false_eq_true, if_false]

private theorem decodeFrom_encodeChar (character : Char) (position : Nat) (rest : List UInt8) :
    ∃ next, decodeFrom position (encodeChar character ++ rest) = (do
      return character :: (← decodeFrom next rest)) := by
  have valid := code_valid character
  have back : Char.ofNat character.toNat = character := Char.ofNat_toNat character
  unfold encodeChar
  generalize character.toNat = code at valid back
  by_cases one : code < 0x80
  · refine ⟨position + 1, ?_⟩
    rw [if_pos one, List.cons_append, List.nil_append, decodeFrom_one one, back]
  by_cases two : code < 0x800
  · have value : (0xC0 + code / 0x40 - 0xC0) * 0x40 + code % 0x40 = code := by omega
    refine ⟨position + 2, ?_⟩
    rw [if_neg one, if_pos two]
    simp only [List.cons_append, List.nil_append]
    rw [decodeFrom_two (by omega) (by omega), value, back]
  by_cases three : code < 0x10000
  · have value : (0xE0 + code / 0x1000 - 0xE0) * 0x1000 + code / 0x40 % 0x40 * 0x40 +
        code % 0x40 = code := by omega
    refine ⟨position + 3, ?_⟩
    rw [if_neg one, if_neg two, if_pos three]
    simp only [List.cons_append, List.nil_append]
    rw [decodeFrom_three (by omega)
      ((isSecond_ofNat_iff (by omega) (by omega)).mpr (by omega)) (by omega) (by omega), value,
      back]
  · have value : (0xF0 + code / 0x40000 - 0xF0) * 0x40000 + code / 0x1000 % 0x40 * 0x1000 +
        code / 0x40 % 0x40 * 0x40 + code % 0x40 = code := by omega
    refine ⟨position + 4, ?_⟩
    rw [if_neg one, if_neg two, if_neg three]
    simp only [List.cons_append, List.nil_append]
    rw [decodeFrom_four (by omega)
      ((isSecond_ofNat_iff (by omega) (by omega)).mpr (by omega)) (by omega) (by omega)
      (by omega), value, back]

/-! ## Texts -/

private theorem decodeFrom_encode (text : List Char) (position : Nat) :
    decodeFrom position (encode text) = .ok text := by
  induction text generalizing position with
  | nil => rfl
  | cons character text ih =>
      obtain ⟨next, read⟩ := decodeFrom_encodeChar character position (encode text)
      rw [encode, List.flatMap_cons, ← encode, read, ih]
      rfl

/-- A text is read back from its octets. -/
theorem decode_encode_text (text : List Char) : decode (encode text) = .ok text :=
  decodeFrom_encode text 0

theorem encode_append (left right : List Char) :
    encode (left ++ right) = encode left ++ encode right :=
  List.flatMap_append

theorem mem_encodeChar_ascii {character : Char} {octet : UInt8} (small : octet.toNat < 0x80)
    (member : octet ∈ encodeChar character) : character.toNat = octet.toNat := by
  have valid := code_valid character
  unfold encodeChar at member
  generalize character.toNat = code at valid member
  have large {other : Nat} (above : 0x80 ≤ other) (below : other < 0x100) :
      octet ≠ UInt8.ofNat other := by
    rintro rfl
    rw [toNat_ofNat below] at small
    omega
  dsimp only at member
  split at member
  · rw [List.mem_singleton] at member
    rw [member, toNat_ofNat (by omega)]
  split at member
  · simp only [List.mem_cons, List.not_mem_nil, or_false] at member
    rcases member with same | same <;> exact absurd same (large (by omega) (by omega))
  split at member
  · simp only [List.mem_cons, List.not_mem_nil, or_false] at member
    rcases member with same | same | same <;> exact absurd same (large (by omega) (by omega))
  · simp only [List.mem_cons, List.not_mem_nil, or_false] at member
    rcases member with same | same | same | same <;>
      exact absurd same (large (by omega) (by omega))

/-- A text with characters of at least some code has no octets below that code, if it is
one of ASCII. -/
theorem le_toNat_of_mem_encode {least : Nat} (ascii : least ≤ 0x80) {text : List Char}
    (above : ∀ character ∈ text, least ≤ character.toNat) {octet : UInt8}
    (member : octet ∈ encode text) : least ≤ octet.toNat := by
  rw [encode, List.mem_flatMap] at member
  obtain ⟨character, inside, member⟩ := member
  by_cases small : octet.toNat < 0x80
  · rw [← mem_encodeChar_ascii small member]
    exact above character inside
  · omega

end EventSourcing.Utf8
