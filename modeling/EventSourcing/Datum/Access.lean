import EventSourcing.Datum.Literal

/-!
# Parts of open data

Reading and replacing the parts of a value by keys and positions. Mappings and
lists can be written to; tuples, texts and mappings that can only be read cannot,
but what is inside them may be a value that can. `Datum.assignAt` follows a path
of keys and replaces what the last one names.
-/

set_option autoImplicit false

namespace EventSourcing

inductive AccessFault where
  | missingKey (key : Datum)
  | unhashable (kind : String)
  | outOfRange (subject : String)
  | tooLarge
  | noPosition (words kind : String)
  | noParts (kind : String)
  | readOnly (kind : String)
deriving Repr

namespace AccessFault

def message : AccessFault → String
  | .missingKey key => key.literal
  | .unhashable kind => s!"unhashable type: '{kind}'"
  | .outOfRange subject => s!"{subject} out of range"
  | .tooLarge => "cannot fit 'int' into an index-sized integer"
  | .noPosition words kind => s!"{words}, not {kind}"
  | .noParts kind => s!"'{kind}' object is not subscriptable"
  | .readOnly kind => s!"'{kind}' object does not support item assignment"

end AccessFault

namespace Datum

mutual

/-- The kind of the first part of a value that can change, for values that are no
keys because of it. -/
def unhashableKind? : Datum → Option String
  | .list _ => some "list"
  | .set _ => some "set"
  | .mapping _ => some "dict"
  | .frozen _ => some "mappingproxy"
  | .tuple items => unhashableItem? items
  | _ => none

def unhashableItem? : List Datum → Option String
  | [] => none
  | item :: items => (unhashableKind? item).orElse fun _ => unhashableItem? items

end

def asKey (value : Datum) : Except AccessFault Datum :=
  match value.unhashableKind? with
  | some kind => .error (.unhashable kind)
  | none => .ok value

def wholeNumber? : Datum → Option Int
  | .int value => some value
  | .bool value => some (if value then 1 else 0)
  | _ => none

/-- The numbers that count what is in memory are those of 64 bits. -/
def canCount (number : Int) : Bool :=
  -9223372036854775808 ≤ number && number ≤ 9223372036854775807

/-- A position in a sequence of some size; negative numbers count from the end. -/
def position? (size : Nat) (wanted : Int) : Option Nat :=
  let index := if wanted < 0 then wanted + size else wanted
  if 0 ≤ index ∧ index < size then some index.toNat else none

/-- How faults speak of a sequence: of what its positions must be, of a position
that it does not have, and whether the kind of a wrong position is quoted. -/
structure SequenceWords where
  positions : String
  range : String
  quotes : Bool := false

def position (words : SequenceWords) (size : Nat) (key : Datum) : Except AccessFault Nat :=
  match key.wholeNumber? with
  | none =>
    let kind := key.qualifiedKindName
    .error (.noPosition words.positions (if words.quotes then "'" ++ kind ++ "'" else kind))
  | some wanted =>
    if !canCount wanted then .error .tooLarge
    else
      match position? size wanted with
      | some index => .ok index
      | none => .error (.outOfRange words.range)

def listReading : SequenceWords :=
  { positions := "list indices must be integers or slices", range := "list index" }

def listWriting : SequenceWords :=
  { listReading with range := "list assignment index" }

def tupleReading : SequenceWords :=
  { positions := "tuple indices must be integers or slices", range := "tuple index" }

def textReading : SequenceWords :=
  { positions := "string indices must be integers", range := "string index", quotes := true }

def octetsReading : SequenceWords :=
  { positions := "byte indices must be integers or slices", range := "index" }

def entry (entries : Entries) (key : Datum) : Except AccessFault Datum := do
  match entries.get? (← asKey key) with
  | some found => return found
  | none => throw (.missingKey key)

def part (value key : Datum) : Except AccessFault Datum := do
  match value with
  | .mapping entries => entry entries key
  | .frozen entries => entry entries key
  | .list items => return items.getD (← position listReading items.length key) .null
  | .tuple items => return items.getD (← position tupleReading items.length key) .null
  | .text value =>
    let index ← position textReading value.points.length key
    return .text (.ofPoints ((value.points.drop index).take 1))
  | .bytes octets =>
    return .int (octets.getD (← position octetsReading octets.length key) 0).toNat
  | other => throw (.noParts other.qualifiedKindName)

def withItem (items : List Datum) (key new : Datum) : List Datum :=
  match key.wholeNumber?.bind (position? items.length) with
  | some index => items.set index new
  | none => items

def withPart (value key new : Datum) : Datum :=
  match value with
  | .mapping entries => .mapping (Entries.put entries key new)
  | .frozen entries => .frozen (Entries.put entries key new)
  | .list items => .list (withItem items key new)
  | .tuple items => .tuple (withItem items key new)
  | other => other

def items? : Datum → Option (List Datum)
  | .list items | .tuple items | .set items => some items
  | .text value => some (value.points.map fun point => .text (.ofPoints [point]))
  | .bytes octets => some (octets.map fun octet => .int octet.toNat)
  | .mapping entries | .frozen entries => some (entries.map Prod.fst)
  | _ => none

/-- The value after an assignment to one of its parts. A mapping that can only be read
refuses every key; other values with items ask for a position first, and some numbers
are none. -/
def assign (value key new : Datum) : Except AccessFault Datum := do
  match value with
  | .mapping entries => return .mapping (Entries.put entries (← asKey key) new)
  | .list items =>
    let index ← position listWriting items.length key
    return .list (items.set index new)
  | .frozen entries => throw (.readOnly (Datum.frozen entries).qualifiedKindName)
  | other =>
    if other.items?.isSome && key.wholeNumber?.any (!canCount ·) then throw .tooLarge
    else throw (.readOnly other.qualifiedKindName)

def assignAt (value : Datum) (key new : Datum) : List Datum → Except AccessFault Datum
  | [] => value.assign key new
  | step :: path => do
    let inner ← (← value.part step).assignAt key new path
    return value.withPart step inner

end Datum

end EventSourcing
