import EventSourcing.Number.Binary64
import EventSourcing.Text.AnyText
import EventSourcing.Time.Moment

/-!
# Open data

The values that events carry and that callers hand in: scalars, text, octets,
sequences, sets and mappings, nested to any depth. Mappings keep their insertion
order. `Datum.same` is equality of contents: numbers are compared by value, truth
values count as one and zero, and mappings are compared without their order.
-/

set_option autoImplicit false

namespace EventSourcing

/-- A value of open data. A not-a-number and an opaque object carry a mark that
tells one from another; everything else is known by its contents. `frozen` is a
mapping that can only be read. -/
inductive Datum where
  | null
  | bool (value : Bool)
  | int (value : Int)
  | float (value : Binary64)
  | nan (mark : Nat)
  | text (value : AnyText)
  | bytes (octets : List UInt8)
  | list (items : List Datum)
  | tuple (items : List Datum)
  | set (items : List Datum)
  | mapping (entries : List (Datum × Datum))
  | frozen (entries : List (Datum × Datum))
  | moment (value : Moment)
  | object (mark : Nat)
deriving Repr, Inhabited

abbrev Entries := List (Datum × Datum)

namespace Datum

/-- A number as a whole number or as a binary number that is not whole; every
number has one form, so equal numbers have the same form. -/
def number? : Datum → Option (Int ⊕ Binary64)
  | .bool value => some (.inl (if value then 1 else 0))
  | .int value => some (.inl value)
  | .float value =>
    match value.toInt? with
    | some whole => some (.inl whole)
    | none => some (.inr value)
  | _ => none

def sameScalar : Datum → Datum → Bool
  | .null, .null => true
  | .nan left, .nan right => left == right
  | .text left, .text right => left == right
  | .bytes left, .bytes right => left == right
  | .moment left, .moment right => left.same right
  | .object left, .object right => left == right
  | left, right =>
    match left.number?, right.number? with
    | some left, some right => left == right
    | _, _ => false

mutual

def same : Datum → Datum → Bool
  | .list left, .list right => sameItems left right
  | .tuple left, .tuple right => sameItems left right
  | .set left, .set right => left.length == right.length && itemsWithin left right
  | .mapping left, .mapping right => left.length == right.length && entriesWithin left right
  | .mapping left, .frozen right => left.length == right.length && entriesWithin left right
  | .frozen left, .mapping right => left.length == right.length && entriesWithin left right
  | .frozen left, .frozen right => left.length == right.length && entriesWithin left right
  | left, right => sameScalar left right

def sameItems : List Datum → List Datum → Bool
  | [], [] => true
  | left :: lefts, right :: rights => same left right && sameItems lefts rights
  | _, _ => false

def itemsWithin : List Datum → List Datum → Bool
  | [], _ => true
  | left :: lefts, right => right.any (same left) && itemsWithin lefts right

def entriesWithin : List (Datum × Datum) → List (Datum × Datum) → Bool
  | [], _ => true
  | (key, value) :: lefts, right =>
    right.any (fun entry => same key entry.1 && same value entry.2) &&
      entriesWithin lefts right

end

/-- The values that count as nothing where a value is wanted: no value, false,
zero, and everything empty. -/
def isVoid : Datum → Bool
  | .null => true
  | .bool value => !value
  | .int value => value == 0
  | .float value => value.isZero
  | .text value => value.isEmpty
  | .bytes octets => octets.isEmpty
  | .list items => items.isEmpty
  | .tuple items => items.isEmpty
  | .set items => items.isEmpty
  | .mapping entries => entries.isEmpty
  | .frozen entries => entries.isEmpty
  | .nan _ | .moment _ | .object _ => false

def kindName : Datum → String
  | .null => "NoneType"
  | .bool _ => "bool"
  | .int _ => "int"
  | .float _ | .nan _ => "float"
  | .text _ => "str"
  | .bytes _ => "bytes"
  | .list _ => "list"
  | .tuple _ => "tuple"
  | .set _ => "set"
  | .mapping _ => "dict"
  | .frozen _ => "mappingproxy"
  | .moment _ => "datetime"
  | .object _ => "object"

def qualifiedKindName : Datum → String
  | .moment _ => "datetime.datetime"
  | datum => datum.kindName

def isNumber : Datum → Bool
  | .bool _ | .int _ | .float _ | .nan _ => true
  | _ => false

def text? : Datum → Option AnyText
  | .text value => some value
  | _ => none

end Datum

namespace Entries

def get? (entries : Entries) (key : Datum) : Option Datum :=
  (entries.find? (fun entry => key.same entry.1)).map Prod.snd

/-- The entries with a value under a key: a key that is there keeps its place, a
new one goes to the end. -/
def put (entries : Entries) (key value : Datum) : Entries :=
  match entries with
  | [] => [(key, value)]
  | entry :: rest =>
    if key.same entry.1 then (entry.1, value) :: rest else entry :: put rest key value

def ofPairs (pairs : List (Datum × Datum)) : Entries :=
  pairs.foldl (fun entries pair => entries.put pair.1 pair.2) []

end Entries

end EventSourcing
