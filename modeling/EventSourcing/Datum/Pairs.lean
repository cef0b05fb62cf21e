import EventSourcing.Datum.Access

/-!
# Mappings from pairs

Any value read as a mapping. A mapping, also one that can only be read, gives its
entries. Any other value that has items must consist of pairs: each item has two
items of its own, a key and a value. `Datum.toEntries?` answers the entries, or why
there are none; the pairs count one after another, as in `Entries.ofPairs`.
-/

set_option autoImplicit false

namespace EventSourcing

inductive PairsFault where
  | noItems (kind : String)
  | noPair (index : Nat)
  | wrongLength (index length : Nat)
  | noKey (fault : AccessFault)
deriving Repr

namespace PairsFault

def message : PairsFault → String
  | .noItems kind => s!"'{kind}' object is not iterable"
  | .noPair index => s!"cannot convert dictionary update sequence element #{index} to a sequence"
  | .wrongLength index length =>
    s!"dictionary update sequence element #{index} has length {length}; 2 is required"
  | .noKey fault => fault.message

end PairsFault

namespace Datum

def pair? (index : Nat) (item : Datum) : Except PairsFault (Datum × Datum) :=
  match item.items? with
  | none => .error (.noPair index)
  | some [key, value] => do return (← key.asKey.mapError .noKey, value)
  | some parts => .error (.wrongLength index parts.length)

def pairs? (index : Nat) : List Datum → Except PairsFault (List (Datum × Datum))
  | [] => .ok []
  | item :: items => do return (← item.pair? index) :: (← pairs? (index + 1) items)

def toEntries? (value : Datum) : Except PairsFault Entries :=
  match value with
  | .mapping entries | .frozen entries => .ok entries
  | other =>
    match other.items? with
    | none => .error (.noItems other.qualifiedKindName)
    | some items => do return Entries.ofPairs (← pairs? 0 items)

end Datum

end EventSourcing
