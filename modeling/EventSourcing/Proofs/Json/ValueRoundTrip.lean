import EventSourcing.Proofs.Json.TextRoundTrip
import EventSourcing.Proofs.Text.DecimalDigits

/-!
# JSON values read back

`Legible` says which values the reader takes back from the text that the writer gives
them: whole numbers within the reader's reach, no binary numbers, whole texts, every name
of an object once, and arrays and objects at most so many levels deep.
`parseWithin?_render` is the round trip for them, in either style.
-/

set_option autoImplicit false

namespace EventSourcing.Json

/-- A value of at most `room` levels that its text determines for the reader. -/
inductive Legible : Nat → Json → Prop where
  | null {room : Nat} : Legible room .null
  | bool {room : Nat} {value : Bool} : Legible room (.bool value)
  | int {room : Nat} {value : Int} :
      Decimal.length value.natAbs ≤ maxDigits → Legible room (.int value)
  | text {room : Nat} {value : String} : Legible room (.text value)
  | array {room : Nat} {items : List Json} :
      (∀ item ∈ items, Legible room item) → Legible (room + 1) (.array items)
  | object {room : Nat} {members : List (AnyText × Json)} :
      (members.map Prod.fst).Nodup → (∀ member ∈ members, ∃ name : String, member.1 = name) →
      (∀ member ∈ members, Legible room member.2) →
      Legible (room + 1) (.object members)

/-! ## Texts without halves -/

/-- The points are characters. -/
private def Whole (points : List Point) : Prop :=
  ∀ point ∈ points, point.char?.isSome = true

private theorem whole_append_iff {left right : List Point} :
    Whole (left ++ right) ↔ Whole left ∧ Whole right :=
  List.forall_mem_append

private theorem whole_cons_iff {character : Char} {points : List Point} :
    Whole (.char character :: points) ↔ Whole points :=
  List.forall_mem_cons.trans (and_iff_right rfl)

private theorem whole_map_char (characters : List Char) : Whole (characters.map .char) :=
  List.forall_mem_map.mpr fun _ _ => rfl

private theorem whole_renderText (style : Style) (text : String) :
    Whole (renderText style text) := by
  have inside : Whole ((text.toList.map .char).flatMap (renderPoint style)) := by
    intro point member
    obtain ⟨written, known, member⟩ := List.mem_flatMap.mp member
    obtain ⟨character, -, rfl⟩ := List.mem_map.mp known
    exact whole_map_char _ point member
  rw [renderText, List.cons_append, whole_cons_iff, whole_append_iff]
  exact ⟨inside, whole_map_char ['"']⟩

private theorem whole_renderItems {style : Style} {items : List Json}
    (whole : ∀ item ∈ items, Whole (renderPoints style item)) :
    Whole (renderItems style items) := by
  induction items with
  | nil => exact List.forall_mem_nil _
  | cons item items ih =>
    obtain ⟨here, later⟩ := List.forall_mem_cons.mp whole
    rw [renderItems, List.cons_append, List.cons_append, whole_cons_iff, whole_cons_iff,
      whole_append_iff]
    exact ⟨here, ih later⟩

private theorem whole_renderMembers {style : Style} {members : List (AnyText × Json)}
    (names : ∀ member ∈ members, ∃ name : String, member.1 = name)
    (whole : ∀ member ∈ members, Whole (renderPoints style member.2)) :
    Whole (renderMembers style members) := by
  induction members with
  | nil => exact List.forall_mem_nil _
  | cons member members ih =>
    obtain ⟨⟨name, named⟩, namesLater⟩ := List.forall_mem_cons.mp names
    obtain ⟨here, later⟩ := List.forall_mem_cons.mp whole
    simp only [renderMembers, List.cons_append, List.append_assoc, whole_cons_iff,
      whole_append_iff, named]
    exact ⟨whole_renderText style name, here, ih namesLater later⟩

private theorem Legible.whole {room : Nat} {json : Json} (legible : Legible room json)
    (style : Style) : Whole (renderPoints style json) := by
  induction legible with
  | null | bool | int _ => exact whole_map_char _
  | text => exact whole_renderText style _
  | @array _ items _ ih =>
    cases items with
    | nil => exact whole_map_char ['[', ']']
    | cons item items =>
      obtain ⟨here, later⟩ := List.forall_mem_cons.mp ih
      simp only [renderPoints, List.cons_append, whole_cons_iff, whole_append_iff]
      exact ⟨⟨here, whole_renderItems later⟩, whole_map_char []⟩
  | @object _ members _ names _ ih =>
    cases members with
    | nil => exact whole_map_char ['\x7b', '\x7d']
    | cons member members =>
      obtain ⟨⟨name, named⟩, namesLater⟩ := List.forall_mem_cons.mp names
      obtain ⟨here, later⟩ := List.forall_mem_cons.mp ih
      obtain ⟨_, value⟩ := member
      subst named
      simp only [renderPoints, List.cons_append, List.append_assoc, whole_cons_iff,
        whole_append_iff]
      exact ⟨whole_renderText style name, here, whole_renderMembers namesLater later,
        whole_map_char []⟩

/-- The text of a legible value is whole. -/
theorem Legible.render_whole {room : Nat} {json : Json} (legible : Legible room json)
    (style : Style) : ∃ text : String, json.render style = text := by
  obtain ⟨characters, shown⟩ := Point.exists_map_char (legible.whole style)
  exact ⟨String.ofList characters, by rw [render, shown, AnyText.ofPoints_map_char]⟩

/-! ## Where a value ends -/

def delimiters : List Char :=
  [' ', '\t', '\n', '\r', ',', ']', '\x7d']

/-- What may follow a value inside a text: nothing, or what starts with a delimiter. -/
def Delimited (rest : List Point) : Prop :=
  ∀ point ∈ rest.head?, point ∈ delimiters.map .char

theorem delimited_cons_iff {character : Char} {rest : List Point} :
    Delimited (.char character :: rest) ↔ character ∈ delimiters := by
  simp [Delimited]

theorem delimited_of_isSpace {blanks : List Char}
    (blank : ∀ character ∈ blanks, isSpace character = true) :
    Delimited (blanks.map .char) := by
  cases blanks with
  | nil => simp [Delimited]
  | cons character blanks =>
    rw [List.map_cons, delimited_cons_iff]
    have space := blank character (by simp)
    simp only [isSpace, Bool.or_eq_true, decide_eq_true_eq] at space
    rcases space with ((rfl | rfl) | rfl) | rfl <;> decide

/-- What may follow the characters of a number. -/
private def Ends (rest : List Char) : Prop :=
  ∀ character ∈ rest.head?, character ∈ delimiters

private theorem ends_cons_iff {character : Char} {rest : List Char} :
    Ends (character :: rest) ↔ character ∈ delimiters := by
  simp [Ends]

private theorem Delimited.ends {rest : List Point} (delimited : Delimited rest) :
    Ends (Point.splitChars rest).1 := by
  cases rest with
  | nil => simp [Ends, Point.splitChars]
  | cons point rest =>
    cases point with
    | char character => exact ends_cons_iff.mpr (delimited_cons_iff.mp delimited)
    | half half => simp [Ends, Point.splitChars]

private theorem Ends.stops {rest : List Char} (ends : Ends rest) {continues : Char → Bool}
    (other : delimiters.any continues = false) : Text.Stops continues rest := by
  intro character member
  exact Bool.eq_false_iff.mpr (List.any_eq_false.mp other character (ends character member))

private theorem Ends.splitFraction {rest : List Char} (ends : Ends rest) :
    splitFraction rest = ([], rest) := by
  unfold Json.splitFraction
  split
  · exact absurd (ends_cons_iff.mp ends) (by decide)
  · rfl

private theorem Ends.splitPower {rest : List Char} (ends : Ends rest) :
    splitPower rest = (none, rest) := by
  cases rest with
  | nil => rfl
  | cons mark rest =>
      have noMark : ¬ (mark = 'e' || mark = 'E') = true := by
        have known := ends_cons_iff.mp ends
        rw [Bool.or_eq_true, decide_eq_true_eq, decide_eq_true_eq]
        rintro (rfl | rfl) <;> exact absurd known (by decide)
      unfold Json.splitPower
      exact if_neg noMark

/-! ## Whole numbers -/

private theorem splitWhole?_ofNat {value : Nat} {rest : List Char} (ends : Ends rest) :
    splitWhole? (DecimalText.ofNat value ++ rest) = some (DecimalText.ofNat value, rest) := by
  have stop : Text.Stops Text.isDigit rest := ends.stops (by decide)
  have digits : ∀ digit ∈ DecimalText.ofNat value, Text.isDigit digit = true :=
    fun _ member => DecimalText.isDigit_of_mem_ofNat member
  by_cases zero : value = 0
  · subst zero
    rfl
  · have notZero := DecimalText.head?_ofNat_ne_zero value (Nat.pos_of_ne_zero zero)
    have taken := Text.takeWhile_append_stop digits stop
    have dropped := Text.dropWhile_append_stop digits stop
    cases shown : DecimalText.ofNat value with
    | nil => exact absurd shown (DecimalText.ofNat_ne_nil value)
    | cons first more =>
        rw [shown] at notZero taken dropped
        rw [List.cons_append] at taken dropped ⊢
        unfold splitWhole?
        split
        · rename_i shape
          exact absurd (congrArg some (List.cons.inj shape).1) notZero
        · rw [taken, dropped]

private theorem readNumber_ofNat (negative : Bool) (start : Nat) {value : Nat}
    {rest : List Char} (short : Decimal.length value ≤ maxDigits) (ends : Ends rest) :
    readNumber negative start (DecimalText.ofNat value ++ rest) =
      .ok (.int (if negative then -(value : Int) else value), rest) := by
  have fits : ¬ maxDigits < (DecimalText.ofNat value).length := Nat.not_lt.mpr short
  simp only [readNumber, splitWhole?_ofNat ends, ends.splitFraction, ends.splitPower,
    List.isEmpty_nil, Option.isNone_none, Bool.and_self, if_true, if_neg fits,
    DecimalText.digitsValue_ofNat]

private theorem isDigit_ne {character other : Char} (digit : Text.isDigit character = true)
    (noDigit : Text.isDigit other = false) : character ≠ other := by
  rintro rfl
  rw [digit] at noDigit
  cases noDigit

private theorem readWord_ofNat (start : Nat) {value : Nat} {rest : List Char}
    (short : Decimal.length value ≤ maxDigits) (ends : Ends rest) :
    readWord start (DecimalText.ofNat value ++ rest) = .ok (.int value, rest) := by
  have number := readNumber_ofNat false start short ends
  cases shown : DecimalText.ofNat value with
  | nil => exact absurd shown (DecimalText.ofNat_ne_nil value)
  | cons first more =>
      have digit : Text.isDigit first = true :=
        DecimalText.isDigit_of_mem_ofNat (show first ∈ DecimalText.ofNat value by simp [shown])
      rw [shown, List.cons_append] at number
      rw [List.cons_append]
      unfold readWord
      split
      all_goals first
        | exact number
        | exact absurd (List.cons.inj ‹_›).1 (isDigit_ne digit (by decide))

private theorem readWord_negative (start : Nat) {value : Nat} {rest : List Char}
    (short : Decimal.length value ≤ maxDigits) (ends : Ends rest) :
    readWord start ('-' :: (DecimalText.ofNat value ++ rest)) = .ok (.int (-value), rest) := by
  have number := readNumber_ofNat true start short ends
  cases shown : DecimalText.ofNat value with
  | nil => exact absurd shown (DecimalText.ofNat_ne_nil value)
  | cons first more =>
      have digit : Text.isDigit first = true :=
        DecimalText.isDigit_of_mem_ofNat (show first ∈ DecimalText.ofNat value by simp [shown])
      rw [shown, List.cons_append] at number
      rw [List.cons_append]
      unfold readWord
      split
      case h_6 =>
        exact absurd (List.cons.inj (List.cons.inj ‹_›).2).1 (isDigit_ne digit (by decide))
      case h_7 =>
        obtain ⟨-, rfl⟩ := List.cons.inj ‹_›
        exact number
      case h_8 => rename_i noSign; exact absurd rfl (noSign _)
      all_goals exact absurd (List.cons.inj ‹_›).1 (by decide)

/-- What is read of the characters is read of the points. -/
private theorem readScalar_of_readWord {characters : List Char} {json : Json} {rest : List Point}
    (read : ∀ start, readWord start (characters ++ (Point.splitChars rest).1) =
      .ok (json, (Point.splitChars rest).1)) :
    readScalar (characters.map .char ++ rest) = .ok (json, rest) := by
  simp only [readScalar, Point.splitChars_map_char_append, read, bind, Except.bind]
  exact congrArg (fun rest => Except.ok (json, rest)) (Point.map_char_splitChars rest)

private theorem readScalar_ofInt {value : Int} {rest : List Point}
    (short : Decimal.length value.natAbs ≤ maxDigits) (delimited : Delimited rest) :
    readScalar ((DecimalText.ofInt value).map .char ++ rest) = .ok (.int value, rest) := by
  refine readScalar_of_readWord fun start => ?_
  cases value with
  | ofNat value => exact readWord_ofNat start short delimited.ends
  | negSucc value => exact readWord_negative start short delimited.ends

/-! ## Whole values -/

section Values

variable {style : Style} {room : Nat} {json : Json}

private theorem Legible.head (legible : Legible room json) (style : Style) :
    ∃ first more, renderPoints style json = .char first :: more ∧ isSpace first = false ∧
      first ≠ ']' ∧ first ≠ Char.ofNat 0xFEFF := by
  cases legible with
  | null => exact ⟨_, _, rfl, by decide, by decide, by decide⟩
  | @bool _ value => cases value <;> exact ⟨_, _, rfl, by decide, by decide, by decide⟩
  | @int _ value short =>
      cases value with
      | ofNat value =>
          obtain ⟨first, more, shown⟩ :=
            List.exists_cons_of_ne_nil (DecimalText.ofNat_ne_nil value)
          have digit : Text.isDigit first = true :=
            DecimalText.isDigit_of_mem_ofNat (show first ∈ DecimalText.ofNat value by simp [shown])
          refine ⟨first, more.map .char, congrArg (List.map Point.char) shown, ?_,
            isDigit_ne digit (by decide), isDigit_ne digit (by decide)⟩
          simp only [isSpace, Bool.or_eq_false_iff, decide_eq_false_iff_not]
          exact ⟨⟨⟨isDigit_ne digit (by decide), isDigit_ne digit (by decide)⟩,
            isDigit_ne digit (by decide)⟩, isDigit_ne digit (by decide)⟩
      | negSucc value => exact ⟨_, _, rfl, by decide, by decide, by decide⟩
  | text => exact ⟨_, _, rfl, by decide, by decide, by decide⟩
  | @array _ items _ => cases items <;> exact ⟨_, _, rfl, by decide, by decide, by decide⟩
  | @object _ members _ _ _ =>
      cases members <;> exact ⟨_, _, rfl, by decide, by decide, by decide⟩

private theorem Legible.skipSpace (legible : Legible room json) (style : Style)
    (rest : List Point) :
    skipSpace (renderPoints style json ++ rest) = renderPoints style json ++ rest := by
  obtain ⟨first, more, shown, noSpace, -⟩ := legible.head style
  rw [shown, List.cons_append, Json.skipSpace, List.dropWhile_cons_of_neg (by simp [noSpace])]

private theorem skipSpace_renderText (style : Style) (name : AnyText) (rest : List Point) :
    skipSpace (renderText style name ++ rest) = renderText style name ++ rest := rfl

/-- The reader takes a value back from its text, given the fuel that its length asks for. -/
private def Reads (style : Style) (room : Nat) (json : Json) : Prop :=
  ∀ (fuel : Nat) (rest : List Point), 2 * (renderPoints style json).length ≤ fuel →
    Delimited rest → readValue fuel room (renderPoints style json ++ rest) = .ok (json, rest)

private theorem readItems_render {item : Json} {items : List Json}
    (legible : ∀ each ∈ item :: items, Legible room each)
    (reads : ∀ each ∈ item :: items, Reads style room each) (fuel : Nat) (rest : List Point)
    (enough : 2 * ((renderPoints style item).length + (renderItems style items).length + 1) ≤
      fuel) :
    readItems fuel room
        (renderPoints style item ++ (renderItems style items ++ .char ']' :: rest)) =
      .ok (item :: items, rest) := by
  induction items generalizing item fuel with
  | nil =>
      obtain ⟨fuel, rfl⟩ := Nat.exists_eq_succ_of_ne_zero (show fuel ≠ 0 by omega)
      have read := reads item (by simp) fuel (.char ']' :: rest) (by omega)
        (delimited_cons_iff.mpr (by decide))
      simp only [readItems, renderItems, List.nil_append, read, bind, Except.bind]
      rfl
  | cons next items ih =>
      obtain ⟨fuel, rfl⟩ := Nat.exists_eq_succ_of_ne_zero (show fuel ≠ 0 by omega)
      simp only [renderItems, List.length_cons, List.length_append] at enough
      let behind := renderPoints style next ++ (renderItems style items ++ .char ']' :: rest)
      have read := reads item (by simp) fuel (.char ',' :: .char ' ' :: behind) (by omega)
        (delimited_cons_iff.mpr (by decide))
      have readMore : readItems fuel room behind = .ok (next :: items, rest) :=
        ih (fun each member => legible each (.tail _ member))
          (fun each member => reads each (.tail _ member)) fuel (by omega)
      have skipped : skipSpace (.char ' ' :: behind) = behind :=
        (legible next (by simp)).skipSpace style _
      have shape : renderItems style (next :: items) ++ .char ']' :: rest =
          .char ',' :: .char ' ' :: behind := by
        simp only [renderItems, behind, List.cons_append, List.append_assoc]
      simp only [shape, readItems, read, bind, Except.bind]
      rw [show skipSpace (.char ',' :: .char ' ' :: behind) =
        .char ',' :: .char ' ' :: behind from rfl]
      simp only [skipped, readMore]
      rfl

private theorem readMembers_render {member : AnyText × Json} {members : List (AnyText × Json)}
    (names : ∀ each ∈ member :: members, ∃ name : String, each.1 = name)
    (legible : ∀ each ∈ member :: members, Legible room each.2)
    (reads : ∀ each ∈ member :: members, Reads style room each.2) (fuel : Nat)
    (rest : List Point)
    (enough : 2 * ((renderText style member.1).length + (renderPoints style member.2).length +
      (renderMembers style members).length + 1) ≤ fuel) :
    readMembers fuel room (renderText style member.1 ++ (.char ':' :: .char ' ' ::
        (renderPoints style member.2 ++ (renderMembers style members ++ .char '\x7d' :: rest)))) =
      .ok (member :: members, rest) := by
  induction members generalizing member fuel with
  | nil =>
      obtain ⟨name, named⟩ := names member (by simp)
      obtain ⟨fuel, rfl⟩ := Nat.exists_eq_succ_of_ne_zero (show fuel ≠ 0 by omega)
      let behind := Point.char '\x7d' :: rest
      have read := reads member (by simp) fuel behind (by omega)
        (delimited_cons_iff.mpr (by decide))
      have skipped : skipSpace (.char ' ' :: (renderPoints style member.2 ++ behind)) =
          renderPoints style member.2 ++ behind :=
        (legible member (by simp)).skipSpace style behind
      simp only [named, renderText, AnyText.points_whole, renderMembers, List.nil_append,
        List.cons_append, List.append_assoc, readMembers, readText_render, bind, Except.bind]
      rw [show skipSpace (.char ':' :: .char ' ' :: (renderPoints style member.2 ++ behind)) =
        .char ':' :: .char ' ' :: (renderPoints style member.2 ++ behind) from rfl]
      simp only [skipped, read, AnyText.ofPoints_map_char, String.ofList_toList, ← named]
      rfl
  | cons next members ih =>
      obtain ⟨name, named⟩ := names member (by simp)
      obtain ⟨fuel, rfl⟩ := Nat.exists_eq_succ_of_ne_zero (show fuel ≠ 0 by omega)
      simp only [renderMembers, List.length_cons, List.length_append] at enough
      let behind := renderText style next.1 ++ (.char ':' :: .char ' ' ::
        (renderPoints style next.2 ++ (renderMembers style members ++ .char '\x7d' :: rest)))
      have read := reads member (by simp) fuel (.char ',' :: .char ' ' :: behind) (by omega)
        (delimited_cons_iff.mpr (by decide))
      have readMore : readMembers fuel room behind = .ok (next :: members, rest) :=
        ih (fun each member => names each (.tail _ member))
          (fun each member => legible each (.tail _ member))
          (fun each member => reads each (.tail _ member)) fuel (by omega)
      have skipped : skipSpace (.char ' ' ::
          (renderPoints style member.2 ++ .char ',' :: .char ' ' :: behind)) =
          renderPoints style member.2 ++ .char ',' :: .char ' ' :: behind :=
        (legible member (by simp)).skipSpace style _
      have shape : renderMembers style (next :: members) ++ .char '\x7d' :: rest =
          .char ',' :: .char ' ' :: behind := by
        simp only [renderMembers, behind, List.cons_append, List.append_assoc]
      simp only [shape, named, renderText, AnyText.points_whole, List.cons_append,
        List.nil_append, List.append_assoc, readMembers, readText_render, bind, Except.bind]
      rw [show skipSpace (.char ':' :: .char ' ' ::
          (renderPoints style member.2 ++ .char ',' :: .char ' ' :: behind)) =
        .char ':' :: .char ' ' ::
          (renderPoints style member.2 ++ .char ',' :: .char ' ' :: behind) from rfl]
      simp only [skipped, read, AnyText.ofPoints_map_char, String.ofList_toList, ← named]
      rw [show skipSpace (.char ',' :: .char ' ' :: behind) =
        .char ',' :: .char ' ' :: behind from rfl]
      simp only [show skipSpace (.char ' ' :: behind) = behind from rfl, readMore]
      rfl

private theorem putMember_new {name : AnyText} {value : Json} {members : List (AnyText × Json)}
    (fresh : name ∉ members.map Prod.fst) :
    putMember name value members = members ++ [(name, value)] := by
  induction members with
  | nil => rfl
  | cons member members ih =>
      simp only [List.map_cons, List.mem_cons, not_or] at fresh
      rw [putMember, if_neg (Ne.symm fresh.1), ih fresh.2, List.cons_append]

private theorem foldl_putMember (members known : List (AnyText × Json))
    (distinct : ((known ++ members).map Prod.fst).Nodup) :
    members.foldl (fun known member => putMember member.1 member.2 known) known =
      known ++ members := by
  induction members generalizing known with
  | nil => simp
  | cons member members ih =>
      have fresh : member.1 ∉ known.map Prod.fst := by
        simp only [List.map_append, List.map_cons] at distinct
        intro known
        exact (List.nodup_append.mp distinct).2.2 _ known _ (.head _) rfl
      rw [List.foldl_cons, putMember_new fresh,
        ih (known ++ [(member.1, member.2)]) (by simpa using distinct)]
      simp

private theorem readValue_scalar {fuel room : Nat} {first : Char} {rest : List Point}
    (notText : first ≠ '"') (notArray : first ≠ '[') (notObject : first ≠ '\x7b') :
    readValue (fuel + 1) room (.char first :: rest) = readScalar (.char first :: rest) := by
  simp only [readValue]
  split
  · exact absurd (Point.char.inj (List.cons.inj ‹_›).1) notText
  · exact absurd (Point.char.inj (List.cons.inj ‹_›).1) notArray
  · exact absurd (Point.char.inj (List.cons.inj ‹_›).1) notArray
  · exact absurd (Point.char.inj (List.cons.inj ‹_›).1) notObject
  · exact absurd (Point.char.inj (List.cons.inj ‹_›).1) notObject
  · rfl

private theorem readValue_int {fuel room : Nat} {value : Int} {rest : List Point}
    (short : Decimal.length value.natAbs ≤ maxDigits) (delimited : Delimited rest) :
    readValue (fuel + 1) room ((DecimalText.ofInt value).map .char ++ rest) =
      .ok (.int value, rest) := by
  have read := readScalar_ofInt short delimited
  cases value with
  | ofNat value =>
      obtain ⟨first, more, shown⟩ := List.exists_cons_of_ne_nil (DecimalText.ofNat_ne_nil value)
      have digit : Text.isDigit first = true :=
        DecimalText.isDigit_of_mem_ofNat (show first ∈ DecimalText.ofNat value by simp [shown])
      rw [DecimalText.ofInt, shown, List.map_cons, List.cons_append] at read ⊢
      rw [readValue_scalar (isDigit_ne digit (by decide)) (isDigit_ne digit (by decide))
        (isDigit_ne digit (by decide)), read]
  | negSucc value =>
      rw [DecimalText.ofInt, List.map_cons, List.cons_append] at read ⊢
      rw [readValue_scalar (by decide) (by decide) (by decide), read]

/-- Reading a value is never asked for without fuel. -/
private theorem Legible.reads_of_succ (legible : Legible room json)
    (reads : ∀ (fuel : Nat) (rest : List Point), 2 * (renderPoints style json).length ≤ fuel + 1 →
      Delimited rest →
      readValue (fuel + 1) room (renderPoints style json ++ rest) = .ok (json, rest)) :
    Reads style room json := by
  intro fuel rest enough delimited
  obtain ⟨first, more, shown, -⟩ := legible.head style
  obtain ⟨fuel, rfl⟩ := Nat.exists_eq_succ_of_ne_zero
    (show fuel ≠ 0 by rw [shown, List.length_cons] at enough; omega)
  exact reads fuel rest enough delimited

/-- A legible value is read back from its text. -/
private theorem Legible.reads (legible : Legible room json) (style : Style) :
    Reads style room json := by
  induction legible with
  | null =>
      refine Legible.null.reads_of_succ fun _ rest _ _ => ?_
      have read : readScalar ("null".toList.map .char ++ rest) = .ok (.null, rest) :=
        readScalar_of_readWord fun _ => rfl
      exact read
  | @bool _ value =>
      refine Legible.bool.reads_of_succ fun _ rest _ _ => ?_
      cases value with
      | false =>
          have read : readScalar ("false".toList.map .char ++ rest) = .ok (.bool false, rest) :=
            readScalar_of_readWord fun _ => rfl
          exact read
      | true =>
          have read : readScalar ("true".toList.map .char ++ rest) = .ok (.bool true, rest) :=
            readScalar_of_readWord fun _ => rfl
          exact read
  | int short =>
      exact (Legible.int short).reads_of_succ fun _ _ _ delimited => readValue_int short delimited
  | text =>
      refine Legible.text.reads_of_succ fun _ _ _ _ => ?_
      simp only [renderPoints, renderText, AnyText.points_whole, List.cons_append,
        List.append_assoc, List.nil_append, readValue, readText_render, bind, Except.bind,
        AnyText.ofPoints_map_char, String.ofList_toList]
      rfl
  | @array room items legible reads =>
      refine (Legible.array legible).reads_of_succ fun fuel rest enough _ => ?_
      cases items with
      | nil => rfl
      | cons item items =>
          simp only [renderPoints, List.length_cons, List.length_append, List.length_nil] at enough
          have read := readItems_render legible reads fuel rest (by omega)
          obtain ⟨first, more, shown, noSpace, noEnd, -⟩ := (legible item (by simp)).head style
          have body := (legible item (by simp)).skipSpace style
            (renderItems style items ++ .char ']' :: rest)
          simp only [renderPoints, List.cons_append, List.append_assoc, List.nil_append, readValue,
            body]
          simp only [shown, List.cons_append] at read ⊢
          -- No item starts like the end of an array, so the reader goes on to the items.
          split
          · exact absurd (Point.char.inj (List.cons.inj ‹_›).1) noEnd
          · rw [read]
            rfl
  | @object room members distinct names legible reads =>
      refine (Legible.object distinct names legible).reads_of_succ fun fuel rest enough _ => ?_
      cases members with
      | nil => rfl
      | cons member members =>
          obtain ⟨name, value⟩ := member
          simp only [renderPoints, List.length_cons, List.length_append, List.length_nil] at enough
          have read := readMembers_render names legible reads fuel rest (by
            dsimp only
            omega)
          have kept := foldl_putMember ((name, value) :: members) [] distinct
          simp only [renderPoints, List.cons_append, List.append_assoc, List.nil_append, readValue,
            skipSpace_renderText]
          simp only [renderText, List.cons_append] at read ⊢
          split
          · exact absurd (Point.char.inj (List.cons.inj ‹_›).1) (by decide)
          · rw [read]
            simp only [bind, Except.bind, kept, List.nil_append]
            rfl

end Values

/-- Reading a text that consists of a legible value's text, blanks around it or not, gives the
value back. -/
theorem parseWithin?_render {room : Nat} {json : Json} (legible : Legible room json)
    (style : Style) {text : AnyText} {front blanks : List Char}
    (frontBlank : ∀ character ∈ front, isSpace character = true)
    (blank : ∀ character ∈ blanks, isSpace character = true)
    (shape : text.points =
      front.map .char ++ (renderPoints style json ++ blanks.map .char)) :
    parseWithin? room text = .ok json := by
  have noMark : ¬ text.points.head? = some (.char (Char.ofNat 0xFEFF)) := by
    rw [shape]
    cases front with
    | nil =>
        obtain ⟨first, more, shown, -, -, noMark⟩ := legible.head style
        rw [List.map_nil, List.nil_append, shown]
        exact fun mark => noMark (Point.char.inj (Option.some.inj mark))
    | cons character front =>
        have space := frontBlank character (by simp)
        intro mark
        rw [Point.char.inj (Option.some.inj mark)] at space
        exact absurd space (by decide)
  have passed {points : List Char} (blank : ∀ character ∈ points, isSpace character = true) :
      ∀ point ∈ points.map Point.char, (point.char?.any isSpace) = true :=
    List.forall_mem_map.mpr blank
  have skipped : skipSpace text.points = renderPoints style json ++ blanks.map .char := by
    rw [shape, Json.skipSpace, List.dropWhile_append_of_pos (passed frontBlank)]
    exact legible.skipSpace style _
  have read := legible.reads style (fuelFor text.points) (blanks.map .char)
    (by rw [shape, fuelFor, List.length_append, List.length_append]; omega)
    (delimited_of_isSpace blank)
  have ended : skipSpace (blanks.map .char) = [] := by
    have dropped : skipSpace (blanks.map .char ++ []) = skipSpace [] :=
      List.dropWhile_append_of_pos (passed blank)
    rwa [List.append_nil] at dropped
  simp only [parseWithin?, if_neg noMark, readAll, skipped, read, bind, Except.bind, ended]
  rfl

theorem parse?_render {json : Json} (legible : Legible maxNesting json) (style : Style) :
    parse? (json.render style) = .ok json := by
  have blank : ∀ character ∈ ([] : List Char), isSpace character = true := by simp
  refine parseWithin?_render legible style blank blank ?_
  rw [render, AnyText.points_ofPoints, List.map_nil, List.append_nil, List.nil_append]

end EventSourcing.Json
