import EventSourcing.Text.Quoted

/-!
# Texts with halves of pairs

Characters beyond the first plane are pairs where text is written in units of sixteen
bits. An escape may name one unit of a pair without the other; it is no character, and
no octets encode it, but it stands in a text that was read like a character of its
own. `AnyText` is a text of either kind: whole, which is a string, or broken, which
is a sequence of points with at least one such half.
-/

set_option autoImplicit false

namespace EventSourcing

/-- One of the units that stand for a character only in pairs. -/
abbrev Half := Fin 0x800

def halfBase : Nat := 0xD800

inductive Point where
  | char (value : Char)
  | half (value : Half)
deriving DecidableEq, Repr

namespace Point

/-- The number that is escaped when a point is. -/
def code : Point → Nat
  | .char value => value.toNat
  | .half value => halfBase + value

def char? : Point → Option Char
  | .char value => some value
  | .half _ => none

@[simp] theorem char?_char (value : Char) : (char value).char? = some value :=
  rfl

/-- The characters of points without a half. -/
def chars? : List Point → Option (List Char)
  | [] => some []
  | .char value :: points => (chars? points).map (value :: ·)
  | .half _ :: _ => none

/-- The characters in front of the first half, and the points from it on. -/
def splitChars : List Point → List Char × List Point
  | .char value :: points =>
    let (characters, beyond) := splitChars points
    (value :: characters, beyond)
  | points => ([], points)

theorem splitChars_map_char_append (characters : List Char) (points : List Point) :
    splitChars (characters.map char ++ points) =
      (characters ++ (splitChars points).1, (splitChars points).2) := by
  induction characters with
  | nil => rfl
  | cons character characters ih => rw [List.map_cons, List.cons_append, splitChars, ih]; rfl

@[simp] theorem map_char_splitChars (points : List Point) :
    (splitChars points).1.map char ++ (splitChars points).2 = points := by
  induction points with
  | nil => rfl
  | cons point points ih =>
    cases point with
    | half value => rfl
    | char value => rw [splitChars, List.map_cons, List.cons_append, ih]

@[simp] theorem chars?_map_char (characters : List Char) :
    chars? (characters.map char) = some characters := by
  induction characters with
  | nil => rfl
  | cons character characters ih => rw [List.map_cons, chars?, ih, Option.map_some]

theorem eq_map_char_of_chars? {points : List Point} {characters : List Char}
    (shown : chars? points = some characters) : points = characters.map char := by
  induction points generalizing characters with
  | nil => cases shown; rfl
  | cons point points ih =>
    cases point with
    | half value => cases shown
    | char value =>
      obtain ⟨rest, shownRest, rfl⟩ := Option.map_eq_some_iff.mp shown
      rw [ih shownRest, List.map_cons]

theorem exists_map_char {points : List Point} (whole : ∀ point ∈ points, point.char?.isSome) :
    ∃ characters : List Char, points = characters.map char := by
  induction points with
  | nil => exact ⟨[], rfl⟩
  | cons point points ih =>
    obtain ⟨here, later⟩ := List.forall_mem_cons.mp whole
    obtain ⟨characters, rfl⟩ := ih later
    cases point with
    | char value => exact ⟨value :: characters, rfl⟩
    | half value => cases here

end Point

structure BrokenText where
  points : List Point
  broken : Point.chars? points = none
deriving DecidableEq, Repr

inductive AnyText where
  | whole (text : String)
  | broken (text : BrokenText)
deriving DecidableEq, Repr

instance : Coe String AnyText := ⟨.whole⟩

instance : Inhabited AnyText := ⟨.whole ""⟩

namespace AnyText

@[simp] theorem whole_beq_whole (left right : String) :
    (AnyText.whole left == AnyText.whole right) = (left == right) := by
  rw [Bool.eq_iff_iff, beq_iff_eq, beq_iff_eq, AnyText.whole.injEq]

def ofPoints (points : List Point) : AnyText :=
  match shown : Point.chars? points with
  | some characters => .whole (String.ofList characters)
  | none => .broken ⟨points, shown⟩

def points : AnyText → List Point
  | .whole text => text.toList.map .char
  | .broken text => text.points

@[simp] theorem ofPoints_map_char (characters : List Char) :
    ofPoints (characters.map .char) = .whole (String.ofList characters) := by
  unfold ofPoints
  split
  · rename_i shown
    rw [Point.chars?_map_char] at shown
    cases shown
    rfl
  · rename_i shown
    rw [Point.chars?_map_char] at shown
    cases shown

@[simp] theorem points_whole (text : String) :
    (AnyText.whole text).points = text.toList.map .char :=
  rfl

@[simp] theorem points_ofPoints (points : List Point) : (ofPoints points).points = points := by
  unfold ofPoints
  split
  · rename_i shown
    rw [AnyText.points, String.toList_ofList]
    exact (Point.eq_map_char_of_chars? shown).symm
  · rfl

/-- Every sequence of points is one text, and every text is one sequence of points. -/
@[simp] theorem ofPoints_points (text : AnyText) : ofPoints text.points = text := by
  cases text with
  | whole text => rw [points, ofPoints_map_char, String.ofList_toList]
  | broken text =>
    unfold ofPoints
    split
    · rename_i shown
      cases shown.symm.trans text.broken
    · rfl

def isEmpty : AnyText → Bool
  | .whole text => text.isEmpty
  | .broken _ => false

def halfEscape (half : Half) : List Char :=
  '\\' :: 'u' :: Text.hexDigits 4 (Point.half half).code

/-- The text between quotes; a half is written by its unit. -/
def quoted : AnyText → String
  | .whole text => Text.quoted text
  | .broken text =>
    let characters := text.points.filterMap Point.char?
    let quote := Text.quoteFor (characters.contains '\'') (characters.contains '"')
    let inside := text.points.flatMap fun point =>
      match point with
      | .char character => Text.quotedChar quote character
      | .half half => halfEscape half
    String.ofList ([quote] ++ inside ++ [quote])

/-- The text as a message shows it: a half, which no character stands for, by its
unit. -/
def shown : AnyText → String
  | .whole text => text
  | .broken text =>
    String.ofList (text.points.flatMap fun point =>
      match point with
      | .char character => [character]
      | .half half => halfEscape half)

end AnyText

end EventSourcing
