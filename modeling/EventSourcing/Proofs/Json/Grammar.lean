import EventSourcing.Text.AnyText

/-!
# The grammar of JSON text

The rules of the JSON standard, one constructor for each alternative. A rule says of the points of
a text that they have a certain form; it neither reads the text nor says what it denotes. Blanks may
stand around each mark of structure and around the whole value, and nowhere else outside of quotes.
Between quotes the standard admits every point from the blank on, halves among them.

The words for numbers that the standard leaves out begin with a capital `N` or `I`, which no rule
admits outside of quotes. `bare` is what a text shows there, and `Sober` carries the absence of the
two letters from the parts of a text to the whole.
-/

set_option autoImplicit false

namespace EventSourcing.Json.Grammar

def Blank (text : List Point) : Prop :=
  ∀ point ∈ text, point ∈ [' ', '\t', '\n', '\r'].map Point.char

inductive Mark (symbol : Char) : List Point → Prop where
  | around {front back : List Point} :
      Blank front → Blank back → Mark symbol (front ++ .char symbol :: back)

/-- Texts in a row, a comma between two of them. -/
inductive Separated : List (List Point) → List Point → Prop where
  | none : Separated [] []
  | single {item : List Point} : Separated [item] item
  | more {item comma rest : List Point} {items : List (List Point)} :
      items ≠ [] → Mark ',' comma → Separated items rest →
      Separated (item :: items) (item ++ (comma ++ rest))

inductive Enclosed (opening closing : Char) (items : List (List Point)) : List Point → Prop where
  | between {front inside back : List Point} :
      Mark opening front → Separated items inside → Mark closing back →
      Enclosed opening closing items (front ++ (inside ++ back))

/-! ## Numbers -/

structure Digits (text : List Char) : Prop where
  some : text ≠ []
  all : ∀ character ∈ text, Text.isDigit character = true

/-- A zero alone, or digits of which the first is another one. -/
inductive Whole : List Char → Prop where
  | zero : Whole ['0']
  | digits {first : Char} {rest : List Char} :
      Digits (first :: rest) → first ≠ '0' → Whole (first :: rest)

inductive Fraction : List Char → Prop where
  | none : Fraction []
  | point {digits : List Char} : Digits digits → Fraction ('.' :: digits)

inductive Power : List Char → Prop where
  | none : Power []
  | unsigned {mark : Char} {digits : List Char} :
      mark ∈ ['e', 'E'] → Digits digits → Power (mark :: digits)
  | signed {mark sign : Char} {digits : List Char} :
      mark ∈ ['e', 'E'] → sign ∈ ['+', '-'] → Digits digits → Power (mark :: sign :: digits)

inductive Number : List Char → Prop where
  | parts {sign whole fraction power : List Char} :
      sign ∈ [[], ['-']] → Whole whole → Fraction fraction → Power power →
      Number (sign ++ (whole ++ (fraction ++ power)))

/-! ## Quoted texts -/

/-- The text of one point between quotes. -/
inductive Piece : List Point → Prop where
  | itself {point : Point} :
      0x20 ≤ point.code → point ≠ .char '"' → point ≠ .char '\\' → Piece [point]
  | letter {letter : Char} :
      letter ∈ ['"', '\\', '/', 'b', 'f', 'n', 'r', 't'] →
      Piece (['\\', letter].map .char)
  | unit {first second third fourth : Char} :
      (∀ digit ∈ [first, second, third, fourth], (Text.hexValue? digit).isSome) →
      Piece (['\\', 'u', first, second, third, fourth].map .char)

inductive Pieces : List Point → Prop where
  | nil : Pieces []
  | cons {piece rest : List Point} : Piece piece → Pieces rest → Pieces (piece ++ rest)

inductive Quoted : List Point → Prop where
  | between {inside : List Point} :
      Pieces inside → Quoted (.char '"' :: (inside ++ [.char '"']))

/-! ## Values -/

structure Member where
  name : List Point
  colon : List Point
  value : List Point

def Member.text (member : Member) : List Point :=
  member.name ++ (member.colon ++ member.value)

inductive Value : List Point → Prop where
  | word {word : String} : word ∈ ["null", "true", "false"] → Value (word.toList.map .char)
  | number {text : List Char} : Number text → Value (text.map .char)
  | quoted {text : List Point} : Quoted text → Value text
  | array {items : List (List Point)} {text : List Point} :
      (∀ item ∈ items, Value item) → Enclosed '[' ']' items text → Value text
  | object {members : List Member} {text : List Point} :
      (∀ member ∈ members, Quoted member.name) → (∀ member ∈ members, Mark ':' member.colon) →
      (∀ member ∈ members, Value member.value) →
      Enclosed '\x7b' '\x7d' (members.map Member.text) text → Value text

inductive IsText : List Point → Prop where
  | value {front value back : List Point} :
      Blank front → Value value → Blank back → IsText (front ++ (value ++ back))

/-- The text of an object that has members of these names, in this order, the names without
escapes. -/
inductive IsObject (names : List String) : List Point → Prop where
  | members {members : List Member} {text : List Point} :
      members.map Member.name =
        names.map (fun name => ('"' :: (name.toList ++ ['"'])).map Point.char) →
      (∀ member ∈ members, Quoted member.name) → (∀ member ∈ members, Mark ':' member.colon) →
      (∀ member ∈ members, Value member.value) →
      Enclosed '\x7b' '\x7d' (members.map Member.text) text → IsObject names text

theorem blank_nil : Blank [] := by
  simp [Blank]

theorem Value.isText {text : List Point} (value : Value text) : IsText text := by
  have whole := IsText.value blank_nil value blank_nil
  rwa [List.append_nil, List.nil_append] at whole

theorem IsObject.isText {names : List String} {text : List Point} (object : IsObject names text) :
    IsText text := by
  cases object with
  | members _ quoted colons values enclosed =>
    exact (Value.object quoted colons values enclosed).isText

/-! ## Outside of quotes -/

inductive Place where
  | outside
  | inside
  | escaped

/-- Where reading a point leads to. -/
def Place.next : Place → Point → Place
  | .outside, point => if point = .char '"' then .inside else .outside
  | .inside, point =>
    if point = .char '"' then .outside else if point = .char '\\' then .escaped else .inside
  | .escaped, _ => .inside

/-- The points of a text that stand outside of quotes. -/
def bare : Place → List Point → List Point
  | _, [] => []
  | .outside, point :: rest =>
    if point = .char '"' then bare .inside rest else point :: bare .outside rest
  | place, point :: rest => bare (place.next point) rest

/-- A text without quotes left open, and what it shows outside of quotes. -/
def Passes (text shown : List Point) : Prop :=
  ∀ rest, bare .outside (text ++ rest) = shown ++ bare .outside rest

section Passes

variable {text left right shown leftShown rightShown : List Point}

theorem Passes.append (first : Passes left leftShown) (second : Passes right rightShown) :
    Passes (left ++ right) (leftShown ++ rightShown) := by
  intro rest
  rw [List.append_assoc, first, second, List.append_assoc]

theorem passes_of_forall_ne (noQuote : ∀ point ∈ text, point ≠ .char '"') :
    Passes text text := by
  intro rest
  induction text with
  | nil => rfl
  | cons point text ih =>
    obtain ⟨here, later⟩ := List.forall_mem_cons.mp noQuote
    rw [List.cons_append, bare, if_neg here, ih later, List.cons_append]

theorem Passes.shown_eq (passes : Passes text shown) : bare .outside text = shown := by
  have whole := passes []
  rwa [List.append_nil, bare, List.append_nil] at whole

private theorem bare_piece {piece : List Point} (wellFormed : Piece piece) (rest : List Point) :
    bare .inside (piece ++ rest) = bare .inside rest := by
  cases wellFormed with
  | itself _ noQuote noBackslash =>
    simp [bare, Place.next, noQuote, noBackslash]
  | letter _ => rfl
  | @unit first second third fourth hex =>
    have digit {character : Char} (member : character ∈ [first, second, third, fourth]) :
        character ≠ '"' ∧ character ≠ '\\' := by
      have known := hex character member
      constructor <;> rintro rfl <;> revert known <;> decide
    simp [bare, Place.next, digit]

theorem passes_quoted (quoted : Quoted text) : Passes text [] := by
  cases quoted with
  | @between inside pieces =>
    intro rest
    have closed : bare .inside (inside ++ .char '"' :: rest) = bare .outside rest := by
      induction pieces with
      | nil => rfl
      | cons piece _ ih => rw [List.append_assoc, bare_piece piece, ih]
    simpa [bare] using closed

end Passes

/-- A text that shows neither of the two letters outside of quotes. -/
def Sober (text : List Point) : Prop :=
  ∃ shown, Passes text shown ∧ .char 'N' ∉ shown ∧ .char 'I' ∉ shown

section Sober

variable {text left right : List Point} {characters : List Char}

theorem Sober.append (first : Sober left) (second : Sober right) : Sober (left ++ right) := by
  obtain ⟨leftShown, leftPasses, leftN, leftI⟩ := first
  obtain ⟨rightShown, rightPasses, rightN, rightI⟩ := second
  refine ⟨leftShown ++ rightShown, leftPasses.append rightPasses, ?_, ?_⟩
  · simp [leftN, rightN]
  · simp [leftI, rightI]

theorem sober_of_forall (plain : ∀ character ∈ characters, character ∉ ['"', 'N', 'I']) :
    Sober (characters.map .char) := by
  have other {letter : Char} (known : letter ∈ ['"', 'N', 'I']) :
      .char letter ∉ characters.map Point.char := by
    intro member
    obtain ⟨character, member, same⟩ := List.mem_map.mp member
    cases same
    exact plain letter member known
  refine ⟨_, passes_of_forall_ne ?_, other (by simp), other (by simp)⟩
  rintro point member rfl
  exact other (by simp) member

theorem sober_char {character : Char} (plain : character ∉ ['"', 'N', 'I']) :
    Sober [.char character] :=
  sober_of_forall (List.forall_mem_singleton.mpr plain)

theorem sober_quoted (quoted : Quoted text) : Sober text :=
  ⟨[], passes_quoted quoted, by simp, by simp⟩

theorem sober_blank (blank : Blank text) : Sober text := by
  have other {letter : Char} (known : letter ∈ ['"', 'N', 'I']) : .char letter ∉ text := by
    intro member
    have space := blank _ member
    simp only [List.mem_cons, List.not_mem_nil, or_false] at known
    rcases known with rfl | rfl | rfl <;> revert space <;> decide
  refine ⟨text, passes_of_forall_ne ?_, other (by simp), other (by simp)⟩
  rintro point member rfl
  exact other (by simp) member

theorem sober_mark {symbol : Char} (plain : symbol ∉ ['"', 'N', 'I']) (mark : Mark symbol text) :
    Sober text := by
  cases mark with
  | around front back =>
    exact (sober_blank front).append ((sober_char plain).append (sober_blank back))

theorem sober_separated {items : List (List Point)} (sober : ∀ item ∈ items, Sober item)
    (separated : Separated items text) : Sober text := by
  induction separated with
  | none => exact sober_blank blank_nil
  | single => exact sober _ (by simp)
  | more _ comma _ ih =>
    obtain ⟨here, later⟩ := List.forall_mem_cons.mp sober
    exact here.append ((sober_mark (by decide) comma).append (ih later))

theorem sober_enclosed {opening closing : Char} {items : List (List Point)}
    (openingPlain : opening ∉ ['"', 'N', 'I']) (closingPlain : closing ∉ ['"', 'N', 'I'])
    (sober : ∀ item ∈ items, Sober item) (enclosed : Enclosed opening closing items text) :
    Sober text := by
  cases enclosed with
  | between front inside back =>
    exact (sober_mark openingPlain front).append
      ((sober_separated sober inside).append (sober_mark closingPlain back))

private theorem sober_digits (digits : Digits characters) : Sober (characters.map .char) := by
  apply sober_of_forall
  intro character member excluded
  have digit := digits.all character member
  simp only [List.mem_cons, List.not_mem_nil, or_false] at excluded
  rcases excluded with rfl | rfl | rfl <;> revert digit <;> decide

private theorem sober_cons {character : Char} (plain : character ∉ ['"', 'N', 'I'])
    (sober : Sober text) : Sober (.char character :: text) :=
  (sober_char plain).append sober

theorem sober_number (number : Number characters) : Sober (characters.map .char) := by
  have nothing : Sober [] := sober_blank blank_nil
  have mark {letter : Char} (known : letter ∈ ['e', 'E']) : letter ∉ ['"', 'N', 'I'] := by
    simp only [List.mem_cons, List.not_mem_nil, or_false] at known
    rcases known with rfl | rfl <;> decide
  have sign {letter : Char} (known : letter ∈ ['+', '-']) : letter ∉ ['"', 'N', 'I'] := by
    simp only [List.mem_cons, List.not_mem_nil, or_false] at known
    rcases known with rfl | rfl <;> decide
  cases number with
  | parts minus whole fraction power =>
    rw [List.map_append, List.map_append, List.map_append]
    refine Sober.append ?_ (Sober.append ?_ (Sober.append ?_ ?_))
    · simp only [List.mem_cons, List.not_mem_nil, or_false] at minus
      rcases minus with rfl | rfl
      · exact nothing
      · exact sober_char (by decide)
    · cases whole with
      | zero => exact sober_char (by decide)
      | digits digits _ => exact sober_digits digits
    · cases fraction with
      | none => exact nothing
      | point digits => exact sober_cons (by decide) (sober_digits digits)
    · cases power with
      | none => exact nothing
      | unsigned letter digits => exact sober_cons (mark letter) (sober_digits digits)
      | signed letter known digits =>
        exact sober_cons (mark letter) (sober_cons (sign known) (sober_digits digits))

theorem sober_value (value : Value text) : Sober text := by
  induction value with
  | word known =>
    simp only [List.mem_cons, List.not_mem_nil, or_false] at known
    rcases known with rfl | rfl | rfl <;> exact sober_of_forall (by simp)
  | number number => exact sober_number number
  | quoted quoted => exact sober_quoted quoted
  | array _ enclosed ih => exact sober_enclosed (by decide) (by decide) ih enclosed
  | object names colons _ enclosed ih =>
    refine sober_enclosed (by decide) (by decide) (List.forall_mem_map.mpr ?_) enclosed
    intro member known
    exact (sober_quoted (names member known)).append
      ((sober_mark (by decide) (colons member known)).append (ih member known))

/-- No text of a value shows one of the two letters outside of quotes. -/
theorem IsText.sober (isText : IsText text) : Sober text := by
  cases isText with
  | value front value back =>
    exact (sober_blank front).append ((sober_value value).append (sober_blank back))

end Sober

end EventSourcing.Json.Grammar
