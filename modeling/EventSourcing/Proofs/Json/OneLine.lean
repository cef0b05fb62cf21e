import EventSourcing.Json.Writer
import EventSourcing.Proofs.Text.DecimalDigits

/-!
# Characters of JSON text

The text of a value consists of points that the style keeps, whatever its texts and names contain:
all other points are escaped, and everything else that the writer adds is visible ASCII. Hence no
text of a value holds a line's end, and in the style of ASCII it holds nothing but visible
characters and blanks.
-/

set_option autoImplicit false

namespace EventSourcing.Text

def OneLine (text : List Point) : Prop :=
  ∀ point ∈ text, 0x20 ≤ point.code

instance (text : List Point) : Decidable (OneLine text) :=
  List.decidableBAll (fun point : Point => 0x20 ≤ point.code) text

theorem oneLine_map_char_iff {characters : List Char} :
    OneLine (characters.map .char) ↔ ∀ character ∈ characters, 0x20 ≤ character.toNat :=
  List.forall_mem_map

/-- Every character is visible ASCII or a blank. -/
def Visible (text : List Char) : Prop :=
  ∀ character ∈ text, 0x20 ≤ character.toNat ∧ character.toNat < 0x7F

instance (text : List Char) : Decidable (Visible text) :=
  List.decidableBAll
    (fun character : Char => 0x20 ≤ character.toNat ∧ character.toNat < 0x7F) text

@[simp] theorem visible_nil : Visible [] := by
  simp [Visible]

@[simp] theorem visible_cons_iff {character : Char} {text : List Char} :
    Visible (character :: text) ↔
      (0x20 ≤ character.toNat ∧ character.toNat < 0x7F) ∧ Visible text :=
  List.forall_mem_cons

@[simp] theorem visible_append_iff {left right : List Char} :
    Visible (left ++ right) ↔ Visible left ∧ Visible right :=
  List.forall_mem_append

theorem visible_of_isDigit {digits : List Char}
    (all : ∀ digit ∈ digits, isDigit digit = true) : Visible digits := by
  intro digit member
  have known := all digit member
  simp only [isDigit, Bool.and_eq_true, decide_eq_true_eq] at known
  have first : '0'.toNat = 0x30 := rfl
  have last : '9'.toNat = 0x39 := rfl
  omega

private theorem visible_hexDigit : ∀ value < 16, Visible [hexDigit value] := by
  decide

private theorem visible_hexDigits (width value : Nat) : Visible (hexDigits width value) := by
  induction width generalizing value with
  | zero => exact visible_nil
  | succ width ih =>
    unfold hexDigits
    exact visible_append_iff.mpr ⟨ih _, visible_hexDigit _ (Nat.mod_lt _ (by decide))⟩

end EventSourcing.Text

namespace EventSourcing.DecimalText

open Text

theorem visible_ofNat (value : Nat) : Visible (ofNat value) :=
  visible_of_isDigit fun _ => isDigit_of_mem_ofNat

theorem visible_ofInt (value : Int) : Visible (ofInt value) := by
  cases value with
  | ofNat value => exact visible_ofNat value
  | negSucc value => exact visible_cons_iff.mpr ⟨by decide, visible_ofNat _⟩

private theorem visible_zeros (count : Nat) : Visible (List.replicate count '0') := by
  intro zero member
  rw [List.eq_of_mem_replicate member]
  decide

private theorem visible_positional {digits : List Char} (shown : Visible digits) (point : Int) :
    Visible (positional digits point) := by
  unfold positional
  split
  · simp only [visible_cons_iff, visible_append_iff]
    exact ⟨by decide, by decide, visible_zeros _, shown⟩
  dsimp only
  split
  · simp only [visible_append_iff]
    exact ⟨⟨shown, visible_zeros _⟩, by decide⟩
  · simp only [visible_append_iff, visible_cons_iff]
    exact ⟨fun _ member => shown _ (List.mem_of_mem_take member), by decide,
      fun _ member => shown _ (List.mem_of_mem_drop member)⟩

private theorem visible_scientific {digits : List Char} (shown : Visible digits) (point : Int) :
    Visible (scientific digits point) := by
  have rest : Visible (digits.drop 1) := fun _ member => shown _ (List.mem_of_mem_drop member)
  have fraction : Visible (if (digits.drop 1).isEmpty then [] else '.' :: digits.drop 1) := by
    split
    · exact visible_nil
    · exact visible_cons_iff.mpr ⟨by decide, rest⟩
  have sign : Visible ['e', if point - 1 < 0 then '-' else '+'] := by
    split <;> simp
  simp only [scientific, visible_append_iff]
  exact ⟨⟨⟨fun _ member => shown _ (List.mem_of_mem_take member), fraction⟩, sign⟩,
    visible_of_isDigit fun _ => isDigit_of_mem_padded⟩

theorem visible_ofBinary {infinity : List Char} (shown : Visible infinity) (value : Binary64) :
    Visible (ofBinary infinity value) := by
  have sign (negative : Bool) : Visible (if negative then ['-'] else []) := by
    cases negative <;> simp
  cases value with
  | finite negative mantissa exponent =>
    simp only [ofBinary, ofFinite, visible_append_iff, ofDecimal]
    refine ⟨sign negative, ?_⟩
    split
    · exact visible_positional (visible_ofNat _) _
    · exact visible_scientific (visible_ofNat _) _
  | infinite negative => exact visible_append_iff.mpr ⟨sign negative, shown⟩

end EventSourcing.DecimalText

namespace EventSourcing.Json

open Text

/-- The points that a style writes as themselves. -/
def Style.keepsPoint (style : Style) : Point → Bool
  | .char character => style.keeps character
  | .half _ => style = .unicode

/-- The text consists of points that stand for themselves. -/
def Style.Keeps (style : Style) (text : List Point) : Prop :=
  ∀ point ∈ text, style.keepsPoint point = true

section Keeps

variable {style : Style} {text left right : List Point} {characters : List Char}

private theorem keeps_append_iff :
    style.Keeps (left ++ right) ↔ style.Keeps left ∧ style.Keeps right :=
  List.forall_mem_append

private theorem keeps_map_char_iff :
    style.Keeps (characters.map .char) ↔
      ∀ character ∈ characters, style.keeps character = true :=
  List.forall_mem_map

/-- Every style keeps visible ASCII. -/
private theorem keeps_of_visible (visible : Visible characters) :
    style.Keeps (characters.map .char) := by
  rw [keeps_map_char_iff]
  intro character member
  obtain ⟨lower, upper⟩ := visible character member
  simp [Style.keeps, lower, upper]

private theorem keeps_char {character : Char} (visible : Visible [character]) :
    style.Keeps [.char character] :=
  keeps_of_visible visible

private theorem keeps_cons_iff {character : Char} (visible : Visible [character]) :
    style.Keeps (.char character :: text) ↔ style.Keeps text := by
  have here : style.keepsPoint (.char character) = true := keeps_char visible _ (by simp)
  exact List.forall_mem_cons.trans (and_iff_right here)

private theorem visible_unitEscape (unit : Nat) : Visible (unitEscape unit) := by
  unfold unitEscape
  simp only [visible_cons_iff]
  exact ⟨by decide, by decide, visible_hexDigits _ _⟩

private theorem keeps_renderChar (style : Style) (character : Char) :
    style.Keeps ((renderChar style character).map .char) := by
  unfold renderChar
  split
  · exact keeps_of_visible (by decide)
  split
  · exact keeps_of_visible (by decide)
  split
  · rename_i kept
    exact keeps_map_char_iff.mpr (List.forall_mem_singleton.mpr kept)
  iterate 5
    split
    · exact keeps_of_visible (by decide)
  unfold codeEscape
  split
  · exact keeps_of_visible (visible_unitEscape _)
  · exact keeps_of_visible (visible_append_iff.mpr ⟨visible_unitEscape _, visible_unitEscape _⟩)

private theorem keeps_renderPoint (style : Style) (point : Point) :
    style.Keeps (renderPoint style point) := by
  cases point with
  | char character => exact keeps_renderChar style character
  | half half =>
    cases style with
    | unicode => exact List.forall_mem_singleton.mpr rfl
    | ascii => exact keeps_of_visible (visible_unitEscape _)

theorem keeps_renderText (style : Style) (text : AnyText) :
    style.Keeps (renderText style text) := by
  have inside : style.Keeps (text.points.flatMap (renderPoint style)) := by
    intro point member
    obtain ⟨written, -, member⟩ := List.mem_flatMap.mp member
    exact keeps_renderPoint style written point member
  unfold renderText
  exact keeps_append_iff.mpr ⟨(keeps_cons_iff (by decide)).mpr inside, keeps_char (by decide)⟩

mutual

/-- Only kept points stand in the text of a value. -/
theorem keeps_renderPoints (style : Style) : ∀ json : Json, style.Keeps (renderPoints style json)
  | .null => by rw [renderPoints]; exact keeps_of_visible (by decide)
  | .bool true => by rw [renderPoints]; exact keeps_of_visible (by decide)
  | .bool false => by rw [renderPoints]; exact keeps_of_visible (by decide)
  | .int value => by rw [renderPoints]; exact keeps_of_visible (DecimalText.visible_ofInt value)
  | .float value => by
    rw [renderPoints]
    exact keeps_of_visible (DecimalText.visible_ofBinary (by decide) value)
  | .nan => by rw [renderPoints]; exact keeps_of_visible (by decide)
  | .text value => by rw [renderPoints]; exact keeps_renderText style value
  | .array [] => by
    rw [renderPoints, keeps_cons_iff (by decide)]
    exact keeps_char (by decide)
  | .array (item :: items) => by
    rw [renderPoints, keeps_append_iff, keeps_append_iff, keeps_cons_iff (by decide)]
    exact ⟨⟨keeps_renderPoints style item, keeps_renderItems style items⟩, keeps_char (by decide)⟩
  | .object [] => by
    rw [renderPoints, keeps_cons_iff (by decide)]
    exact keeps_char (by decide)
  | .object ((name, value) :: members) => by
    rw [renderPoints, keeps_append_iff, keeps_append_iff, keeps_append_iff,
      keeps_cons_iff (by decide), keeps_cons_iff (by decide), keeps_cons_iff (by decide)]
    exact ⟨⟨⟨keeps_renderText style name, keeps_renderPoints style value⟩,
      keeps_renderMembers style members⟩, keeps_char (by decide)⟩

private theorem keeps_renderItems (style : Style) : ∀ items : List Json,
    style.Keeps (renderItems style items)
  | [] => by rw [renderItems]; exact List.forall_mem_nil _
  | item :: items => by
    rw [renderItems, keeps_append_iff, keeps_cons_iff (by decide), keeps_cons_iff (by decide)]
    exact ⟨keeps_renderPoints style item, keeps_renderItems style items⟩

private theorem keeps_renderMembers (style : Style) : ∀ members : List (AnyText × Json),
    style.Keeps (renderMembers style members)
  | [] => by rw [renderMembers]; exact List.forall_mem_nil _
  | (name, value) :: members => by
    rw [renderMembers, keeps_append_iff, keeps_append_iff, keeps_cons_iff (by decide),
      keeps_cons_iff (by decide), keeps_cons_iff (by decide), keeps_cons_iff (by decide)]
    exact ⟨⟨keeps_renderText style name, keeps_renderPoints style value⟩,
      keeps_renderMembers style members⟩

end

end Keeps

/-- The text of a value is on one line, in either style. -/
theorem oneLine_renderPoints (style : Style) (json : Json) : OneLine (renderPoints style json) := by
  intro point member
  have kept := keeps_renderPoints style json point member
  cases point with
  | char character =>
    simp only [Style.keepsPoint, Style.keeps, Bool.and_eq_true, decide_eq_true_eq] at kept
    exact kept.1
  | half half => exact Nat.le_trans (by decide) (Nat.le_add_right halfBase half)

/-- The text of a value in the style of ASCII, which is whole whatever the value's texts are. -/
def asciiText (json : Json) : String :=
  String.ofList ((renderPoints .ascii json).filterMap Point.char?)

private theorem map_char_filterMap_ascii (json : Json) :
    ((renderPoints .ascii json).filterMap Point.char?).map .char = renderPoints .ascii json := by
  have whole : ∀ point ∈ renderPoints .ascii json, point.char?.isSome := by
    intro point member
    have kept := keeps_renderPoints .ascii json point member
    cases point with
    | char character => rfl
    | half half => cases kept
  obtain ⟨characters, shown⟩ := Point.exists_map_char whole
  rw [shown, List.filterMap_map, Function.comp_def]
  simp only [Point.char?_char, List.filterMap_some]

theorem render_ascii (json : Json) : json.render .ascii = json.asciiText := by
  rw [render, ← map_char_filterMap_ascii, AnyText.ofPoints_map_char, asciiText]

/-- In the style of ASCII a value is written with characters that can be seen. -/
theorem visible_asciiText (json : Json) : Visible json.asciiText.toList := by
  have kept := keeps_renderPoints .ascii json
  rw [← map_char_filterMap_ascii, keeps_map_char_iff] at kept
  rw [asciiText, String.toList_ofList]
  intro character member
  simpa [Style.keeps] using kept character member

end EventSourcing.Json
