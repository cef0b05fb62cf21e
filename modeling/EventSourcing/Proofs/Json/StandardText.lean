import EventSourcing.Json.Writer
import EventSourcing.Proofs.Json.Grammar
import EventSourcing.Proofs.Json.TextRoundTrip
import EventSourcing.Proofs.Number.ShortestDigits
import EventSourcing.Proofs.Text.DecimalDigits

/-!
# Values with a text of the standard

The writer's text of a value is a JSON text exactly if the value is built without the numbers that
the standard has no text for. One direction goes rule by rule: digits without zeros in front, a
number in positional form or with a power of ten, the escapes of a text. For the other one, the
words that stand for the other numbers show a letter that no JSON text shows outside of quotes.
-/

set_option autoImplicit false

namespace EventSourcing

open Json.Grammar

/-! ## Numbers -/

namespace DecimalText

theorem digits_of_append {left right : List Char} (first : Digits left)
    (all : ∀ character ∈ right, Text.isDigit character = true) : Digits (left ++ right) :=
  ⟨List.append_ne_nil_of_left_ne_nil first.some _,
    List.forall_mem_append.mpr ⟨first.all, all⟩⟩

theorem digits_ofNat (value : Nat) : Digits (ofNat value) :=
  ⟨ofNat_ne_nil value, fun _ => isDigit_of_mem_ofNat⟩

theorem digits_padded (width value : Nat) : Digits (padded width value) :=
  ⟨padded_ne_nil width value, fun _ => isDigit_of_mem_padded⟩

private theorem digits_zero : Digits ['0'] :=
  ⟨by simp, List.forall_mem_singleton.mpr rfl⟩

private theorem isDigit_of_mem_zeros {count : Nat} {character : Char}
    (member : character ∈ List.replicate count '0') : Text.isDigit character = true := by
  rw [List.eq_of_mem_replicate member]
  rfl

theorem whole_ofNat (value : Nat) : Whole (ofNat value) := by
  cases value with
  | zero => exact .zero
  | succ value =>
    have digits := digits_ofNat (value + 1)
    have notZero := head?_ofNat_ne_zero (value + 1) (Nat.succ_pos value)
    cases shown : ofNat (value + 1) with
    | nil => exact absurd shown (ofNat_ne_nil _)
    | cons first rest =>
      rw [shown] at digits notZero
      exact .digits digits fun zero => notZero (congrArg some zero)

theorem number_ofInt (value : Int) : Number (ofInt value) := by
  have digits (value : Nat) : ofNat value ++ ([] ++ []) = ofNat value := List.append_nil _
  cases value with
  | ofNat value =>
    have number : Number ([] ++ (ofNat value ++ ([] ++ []))) :=
      .parts (by simp) (whole_ofNat value) .none .none
    rwa [digits] at number
  | negSucc value =>
    have number : Number (['-'] ++ (ofNat (value + 1) ++ ([] ++ []))) :=
      .parts (by simp) (whole_ofNat (value + 1)) .none .none
    rwa [digits] at number

/-- A whole part, a fraction and a power of ten, the sign apart. -/
def Unsigned (text : List Char) : Prop :=
  ∃ whole fraction power, Whole whole ∧ Fraction fraction ∧ Power power ∧
    text = whole ++ (fraction ++ power)

private theorem unsigned_positional {first : Char} {rest : List Char}
    (digits : Digits (first :: rest)) (notZero : first ≠ '0') (point : Int) :
    Unsigned (positional (first :: rest) point) := by
  unfold positional
  split
  case isTrue =>
    refine ⟨['0'], '.' :: (List.replicate (-point).toNat '0' ++ first :: rest), [], .zero,
      .point ⟨by simp, ?_⟩, .none, by simp⟩
    exact List.forall_mem_append.mpr ⟨fun _ => isDigit_of_mem_zeros, digits.all⟩
  case isFalse positive =>
    dsimp only
    split
    case isTrue =>
      have whole : Whole (first :: (rest ++
          List.replicate (point.toNat - (first :: rest).length) '0')) :=
        .digits (digits_of_append digits fun _ => isDigit_of_mem_zeros) notZero
      exact ⟨_, ['.', '0'], [], whole, .point digits_zero, .none, by simp⟩
    case isFalse longer =>
      obtain ⟨count, places⟩ := Nat.exists_eq_succ_of_ne_zero (show point.toNat ≠ 0 by omega)
      have taken : Digits ((first :: rest).take point.toNat) := by
        refine ⟨?_, fun _ member => digits.all _ (List.mem_of_mem_take member)⟩
        simp [places]
      have dropped : Digits ((first :: rest).drop point.toNat) := by
        refine ⟨?_, fun _ member => digits.all _ (List.mem_of_mem_drop member)⟩
        rw [ne_eq, List.drop_eq_nil_iff]
        exact longer
      rw [places] at taken dropped ⊢
      exact ⟨_, _, [], .digits taken notZero, .point dropped, .none, by simp⟩

private theorem unsigned_scientific {first : Char} {rest : List Char}
    (digits : Digits (first :: rest)) (notZero : first ≠ '0') (point : Int) :
    Unsigned (scientific (first :: rest) point) := by
  obtain ⟨here, later⟩ := List.forall_mem_cons.mp digits.all
  have single : Whole [first] :=
    .digits ⟨by simp, List.forall_mem_singleton.mpr here⟩ notZero
  have sign : (if point - 1 < 0 then '-' else '+') ∈ ['+', '-'] := by
    split <;> simp
  have power : Power ('e' :: (if point - 1 < 0 then '-' else '+') ::
      padded 2 (point - 1).natAbs) :=
    .signed (by simp) sign (digits_padded _ _)
  cases rest with
  | nil => exact ⟨[first], [], _, single, .none, power, by simp [scientific]⟩
  | cons second rest =>
    exact ⟨[first], '.' :: second :: rest, _, single, .point ⟨by simp, later⟩, power,
      by simp [scientific]⟩

private theorem unsigned_ofDecimal {decimal : Decimal} (shown : decimal.digits ≠ 0) :
    Unsigned (ofDecimal decimal) := by
  have digits := digits_ofNat decimal.digits
  have notZero := head?_ofNat_ne_zero decimal.digits (Nat.pos_of_ne_zero shown)
  unfold ofDecimal
  cases written : ofNat decimal.digits with
  | nil => exact absurd written (ofNat_ne_nil _)
  | cons first rest =>
    rw [written] at digits notZero
    have other : first ≠ '0' := fun zero => notZero (congrArg some zero)
    dsimp only
    split
    · exact unsigned_positional digits other _
    · exact unsigned_scientific digits other _

theorem number_ofFinite (negative : Bool) (mantissa : Nat) (exponent : Int) :
    Number (ofFinite negative mantissa exponent) := by
  have unsigned : Unsigned (ofDecimal (Binary64.shortest mantissa exponent)) := by
    by_cases zero : mantissa = 0
    · subst zero
      have shown : Binary64.shortest 0 exponent = ⟨0, 0⟩ := if_pos rfl
      rw [shown]
      exact ⟨['0'], ['.', '0'], [], .zero, .point digits_zero, .none, rfl⟩
    · exact unsigned_ofDecimal (Binary64.shortest_digits_ne_zero zero exponent)
  obtain ⟨whole, fraction, power, isWhole, isFraction, isPower, shown⟩ := unsigned
  rw [ofFinite, shown]
  exact .parts (by cases negative <;> simp) isWhole isFraction isPower

end DecimalText

namespace Json

/-! ## Texts -/

private theorem pieces_append {left right : List Point} (first : Pieces left)
    (second : Pieces right) : Pieces (left ++ right) := by
  induction first with
  | nil => exact second
  | cons piece _ ih =>
    rw [List.append_assoc]
    exact .cons piece ih

private theorem pieces_of_piece {piece : List Point} (wellFormed : Piece piece) :
    Pieces piece := by
  have single := Pieces.cons wellFormed .nil
  rwa [List.append_nil] at single

private theorem piece_unitEscape (unit : Nat) : Piece ((unitEscape unit).map .char) := by
  have hex (value : Nat) : (Text.hexValue? (Text.hexDigit (value % 16))).isSome := by
    rw [Text.hexValue?_hexDigit (Nat.mod_lt _ (by decide))]
    rfl
  apply Piece.unit
  simp [hex]

private theorem pieces_renderChar (style : Style) (character : Char) :
    Pieces ((renderChar style character).map .char) := by
  unfold renderChar
  split
  · exact pieces_of_piece (.letter (by simp))
  split
  · exact pieces_of_piece (.letter (by simp))
  split
  · rename_i noQuote noBackslash kept
    simp only [Style.keeps, Bool.and_eq_true, decide_eq_true_eq] at kept
    exact pieces_of_piece (.itself kept.1 (fun same => noQuote (Point.char.inj same))
      fun same => noBackslash (Point.char.inj same))
  iterate 5
    split
    · exact pieces_of_piece (.letter (by simp))
  unfold codeEscape
  split
  · exact pieces_of_piece (piece_unitEscape _)
  · rw [List.map_append]
    exact pieces_append (pieces_of_piece (piece_unitEscape _))
      (pieces_of_piece (piece_unitEscape _))

private theorem pieces_renderPoint (style : Style) (point : Point) :
    Pieces (renderPoint style point) := by
  cases point with
  | char character => exact pieces_renderChar style character
  | half half =>
    cases style with
    | unicode =>
      have above : 0x20 ≤ (Point.half half).code :=
        Nat.le_trans (by decide) (Nat.le_add_right halfBase half)
      exact pieces_of_piece (.itself above (by simp) (by simp))
    | ascii => exact pieces_of_piece (piece_unitEscape _)

theorem quoted_renderText (style : Style) (text : AnyText) : Quoted (renderText style text) := by
  have inside (points : List Point) : Pieces (points.flatMap (renderPoint style)) := by
    induction points with
    | nil => exact .nil
    | cons point points ih =>
      rw [List.flatMap_cons]
      exact pieces_append (pieces_renderPoint style point) ih
  exact .between (inside text.points)

/-! ## Values -/

/-- A value all of whose numbers the standard has a text for. -/
inductive Standard : Json → Prop where
  | null : Standard .null
  | bool {value : Bool} : Standard (.bool value)
  | int {value : Int} : Standard (.int value)
  | float {negative : Bool} {mantissa : Nat} {exponent : Int} :
      Standard (.float (.finite negative mantissa exponent))
  | text {value : AnyText} : Standard (.text value)
  | array {items : List Json} : (∀ item ∈ items, Standard item) → Standard (.array items)
  | object {members : List (AnyText × Json)} :
      (∀ member ∈ members, Standard member.2) → Standard (.object members)

private theorem mark_alone (symbol : Char) : Mark symbol [.char symbol] := by
  have mark : Mark symbol ([] ++ .char symbol :: []) := .around blank_nil blank_nil
  exact mark

private theorem mark_spaced (symbol : Char) : Mark symbol [.char symbol, .char ' '] := by
  have mark : Mark symbol ([] ++ .char symbol :: [.char ' ']) :=
    .around blank_nil (by simp [Blank])
  exact mark

theorem separated_renderItems (style : Style) (item : Json) (items : List Json) :
    Separated ((item :: items).map (renderPoints style))
      (renderPoints style item ++ renderItems style items) := by
  induction items generalizing item with
  | nil =>
    rw [renderItems, List.append_nil]
    exact .single
  | cons next items ih =>
    have row : Separated _ (renderPoints style item ++ _) :=
      .more (by simp) (mark_spaced ',') (ih next)
    exact row

/-- A member as it is written. -/
def memberText (style : Style) (member : AnyText × Json) : Member :=
  ⟨renderText style member.1, [.char ':', .char ' '], renderPoints style member.2⟩

theorem separated_renderMembers (style : Style) (member : AnyText × Json)
    (members : List (AnyText × Json)) :
    Separated (((member :: members).map (memberText style)).map Member.text)
      ((memberText style member).text ++ renderMembers style members) := by
  induction members generalizing member with
  | nil =>
    rw [renderMembers, List.append_nil]
    exact .single
  | cons next members ih =>
    have row : Separated _ ((memberText style member).text ++ _) :=
      .more (by simp) (mark_spaced ',') (ih next)
    simpa [renderMembers, memberText, Member.text] using row

theorem enclosed_array (style : Style) (items : List Json) :
    Enclosed '[' ']' (items.map (renderPoints style)) (renderPoints style (.array items)) := by
  have between {inside : List Point}
      (separated : Separated (items.map (renderPoints style)) inside) :=
    Enclosed.between (mark_alone '[') separated (mark_alone ']')
  cases items with
  | nil => exact between .none
  | cons item items => simpa [renderPoints] using between (separated_renderItems style item items)

theorem enclosed_object (style : Style) (members : List (AnyText × Json)) :
    Enclosed '\x7b' '\x7d' ((members.map (memberText style)).map Member.text)
      (renderPoints style (.object members)) := by
  have between {inside : List Point}
      (separated : Separated ((members.map (memberText style)).map Member.text) inside) :=
    Enclosed.between (mark_alone '\x7b') separated (mark_alone '\x7d')
  cases members with
  | nil => exact between .none
  | cons member members =>
    simpa [renderPoints, memberText, Member.text] using
      between (separated_renderMembers style member members)

/-- The text of a standard value follows the rule for values. -/
theorem Standard.value {json : Json} (standard : Standard json) (style : Style) :
    Value (renderPoints style json) := by
  induction standard with
  | null => exact .word (by simp)
  | @bool value => cases value <;> exact .word (by simp)
  | int => exact .number (DecimalText.number_ofInt _)
  | float => exact .number (DecimalText.number_ofFinite _ _ _)
  | text => exact .quoted (quoted_renderText style _)
  | array _ ih => exact .array (List.forall_mem_map.mpr ih) (enclosed_array style _)
  | object _ ih =>
    refine .object (List.forall_mem_map.mpr fun member _ => quoted_renderText style member.1)
      (List.forall_mem_map.mpr fun _ _ => mark_spaced ':') (List.forall_mem_map.mpr ih)
      (enclosed_object style _)

/-- The text of an object of standard values whose names need no escapes. -/
theorem isObject_renderPoints {style : Style} {members : List (AnyText × Json)}
    (standard : ∀ member ∈ members, Standard member.2) {names : List String}
    (shown : members.map (fun member => renderText style member.1) =
      names.map fun name => ('"' :: (name.toList ++ ['"'])).map Point.char) :
    IsObject names (renderPoints style (.object members)) := by
  refine .members ?_ (List.forall_mem_map.mpr fun member _ => quoted_renderText style member.1)
    (List.forall_mem_map.mpr fun _ _ => mark_spaced ':')
    (List.forall_mem_map.mpr fun member known => (standard member known).value style)
    (enclosed_object style members)
  rw [List.map_map]
  exact shown

/-! ## Other values -/

/-- What a text shows outside of quotes has one of the two letters, unless the condition holds. -/
def Reveals (text : List Point) (condition : Prop) : Prop :=
  ∃ shown, Passes text shown ∧ (.char 'N' ∉ shown → .char 'I' ∉ shown → condition)

section Reveals

variable {left right text : List Point} {first second condition : Prop}

private theorem Reveals.append (front : Reveals left first) (back : Reveals right second) :
    Reveals (left ++ right) (first ∧ second) := by
  obtain ⟨leftShown, leftPasses, leftReveals⟩ := front
  obtain ⟨rightShown, rightPasses, rightReveals⟩ := back
  refine ⟨leftShown ++ rightShown, leftPasses.append rightPasses, ?_⟩
  intro noN noI
  simp only [List.mem_append, not_or] at noN noI
  exact ⟨leftReveals noN.1 noI.1, rightReveals noN.2 noI.2⟩

private theorem Reveals.imp (reveals : Reveals text first) (weaker : first → second) :
    Reveals text second := by
  obtain ⟨shown, passes, reveals⟩ := reveals
  exact ⟨shown, passes, fun noN noI => weaker (reveals noN noI)⟩

private theorem reveals_of_sober (sober : Sober text) (holds : condition) :
    Reveals text condition := by
  obtain ⟨shown, passes, -⟩ := sober
  exact ⟨shown, passes, fun _ _ => holds⟩

private theorem Reveals.behind (reveals : Reveals right condition) (sober : Sober left) :
    Reveals (left ++ right) condition :=
  ((reveals_of_sober sober trivial).append reveals).imp And.right

private theorem Reveals.before (reveals : Reveals left condition) (sober : Sober right) :
    Reveals (left ++ right) condition :=
  (reveals.append (reveals_of_sober sober trivial)).imp And.left

private theorem reveals_of_letter (noQuote : .char '"' ∉ text)
    (letter : .char 'N' ∈ text ∨ .char 'I' ∈ text) : Reveals text condition := by
  refine ⟨text, passes_of_forall_ne ?_, fun noN noI => ?_⟩
  · rintro point member rfl
    exact noQuote member
  · rcases letter with letter | letter
    · exact absurd letter noN
    · exact absurd letter noI

theorem Reveals.of_sober (reveals : Reveals text condition) (sober : Sober text) : condition := by
  obtain ⟨shown, passes, reveals⟩ := reveals
  obtain ⟨other, otherPasses, noN, noI⟩ := sober
  have same : shown = other := passes.shown_eq.symm.trans otherPasses.shown_eq
  subst same
  exact reveals noN noI

end Reveals

private theorem sober_comma : Sober [.char ',', .char ' '] :=
  sober_mark (by decide) (mark_spaced ',')

private theorem reveals_member {style : Style} {member : AnyText × Json}
    (value : Reveals (renderPoints style member.2) (Standard member.2)) :
    Reveals (memberText style member).text (Standard member.2) :=
  (value.behind (sober_mark (by decide) (mark_spaced ':'))).behind
    (sober_quoted (quoted_renderText style member.1))

mutual

private theorem reveals_renderPoints (style : Style) : ∀ json : Json,
    Reveals (renderPoints style json) (Standard json)
  | .null => reveals_of_sober (sober_value (Standard.null.value style)) .null
  | .bool _ => reveals_of_sober (sober_value (Standard.bool.value style)) .bool
  | .int _ => reveals_of_sober (sober_value (Standard.int.value style)) .int
  | .float (.finite _ _ _) => reveals_of_sober (sober_value (Standard.float.value style)) .float
  | .float (.infinite true) | .float (.infinite false) | .nan =>
    reveals_of_letter (by rw [renderPoints]; decide) (by rw [renderPoints]; decide)
  | .text _ => reveals_of_sober (sober_value (Standard.text.value style)) .text
  | .array [] => by
    have empty : Standard (.array []) := .array (by simp)
    exact reveals_of_sober (sober_value (empty.value style)) empty
  | .array (item :: items) => by
    have row := (reveals_renderPoints style item).append (reveals_renderItems style items)
    have opening : Sober [.char '['] := sober_char (by decide)
    have closing : Sober [.char ']'] := sober_char (by decide)
    have whole := (row.before closing).behind opening
    rw [renderPoints]
    exact whole.imp fun standard => .array (List.forall_mem_cons.mpr standard)
  | .object [] => by
    have empty : Standard (.object []) := .object (by simp)
    exact reveals_of_sober (sober_value (empty.value style)) empty
  | .object ((name, value) :: members) => by
    have first : Reveals (memberText style (name, value)).text (Standard value) :=
      reveals_member (reveals_renderPoints style value)
    have row := first.append (reveals_renderMembers style members)
    have opening : Sober [.char '\x7b'] := sober_char (by decide)
    have closing : Sober [.char '\x7d'] := sober_char (by decide)
    have whole := (row.before closing).behind opening
    have shape : renderPoints style (.object ((name, value) :: members)) =
        [.char '\x7b'] ++ ((memberText style (name, value)).text ++ renderMembers style members ++
          [.char '\x7d']) := by
      simp [renderPoints, memberText, Member.text]
    rw [shape]
    exact whole.imp fun standard => .object (List.forall_mem_cons.mpr standard)

private theorem reveals_renderItems (style : Style) : ∀ items : List Json,
    Reveals (renderItems style items) (∀ item ∈ items, Standard item)
  | [] => reveals_of_sober (sober_blank blank_nil) (by simp)
  | item :: items => by
    have row := (reveals_renderPoints style item).append (reveals_renderItems style items)
    rw [renderItems]
    exact (row.behind sober_comma).imp List.forall_mem_cons.mpr

private theorem reveals_renderMembers (style : Style) : ∀ members : List (AnyText × Json),
    Reveals (renderMembers style members) (∀ member ∈ members, Standard member.2)
  | [] => reveals_of_sober (sober_blank blank_nil) (by simp)
  | (name, value) :: members => by
    have first : Reveals (memberText style (name, value)).text (Standard value) :=
      reveals_member (reveals_renderPoints style value)
    have row := first.append (reveals_renderMembers style members)
    have shape : renderMembers style ((name, value) :: members) =
        [.char ',', .char ' '] ++
          ((memberText style (name, value)).text ++ renderMembers style members) := by
      simp [renderMembers, memberText, Member.text]
    rw [shape]
    exact (row.behind sober_comma).imp fun standard => List.forall_mem_cons.mpr standard

end

/-- The writer's text is a JSON text exactly for the standard values. -/
theorem isText_renderPoints_iff {style : Style} {json : Json} :
    IsText (renderPoints style json) ↔ Standard json := by
  constructor
  · exact fun isText => (reveals_renderPoints style json).of_sober isText.sober
  · exact fun standard => (standard.value style).isText

end Json

end EventSourcing
